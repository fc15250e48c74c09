import Mathlib.Data.Finset.Range
import Mathlib.Data.Finset.Card
import FireEvacuation.Core.Transition
import FireEvacuation.Platform.StackResult

/-!
# The open files of the speaker

`GetValue` opens the file of the probe, reads two lines of it, and never closes it.  A
process has a limit on its open files; the descriptors in use are part of the state here.
Each reading which succeeds takes one of them away for good, and when none is left every
reading throws.

A call of `getPostValue` reads the probe in `getAlertStatus`, unless the alert was raised
before or Redis is not connected, and again in `getDeviceValue`, unless `getAlertStatus` has
thrown.  The lock of the readings is not in the state.
-/

namespace FireEvacuation
namespace Speaker
namespace Probe

open FireEvacuation.Core FireEvacuation.Core.Effect Platform

/-! ## Text -/

/-- `fgets` with room for `size` characters and the final NUL: the line and what is left. -/
def fgets : Nat → List Char → List Char × List Char
  | 0, content => ([], content)
  | _ + 1, [] => ([], [])
  | size + 1, c :: rest =>
      if c = '\n' then ([c], rest)
      else
        let line := fgets size rest
        (c :: line.1, line.2)

/-- The delimiters `"t="`. -/
def isDelimiter (c : Char) : Bool := c = 't' || c = '='

/-- `strtok`: the next token and what is behind its delimiter. -/
def strtok (text : List Char) : Option (List Char × List Char) :=
  match text.dropWhile isDelimiter with
  | [] => none
  | start =>
      some (start.takeWhile fun c => !isDelimiter c,
        (start.dropWhile fun c => !isDelimiter c).drop 1)

/-- The string in the buffer after the second `fgets`. -/
def secondLine (content : List Char) : List Char :=
  (fgets 254 (fgets 254 content).2).1.takeWhile fun c => c ≠ Char.ofNat 0

/-- The second token; `none` is the null pointer. -/
def temperatureText (content : List Char) : Option (List Char) :=
  (strtok (secondLine content)).bind fun first => (strtok first.2).map Prod.fst

/-! ## Files -/

/-- The file of the probe: the reason why it cannot be opened, or its content. -/
abbrev ProbeFile := Except String (List Char)

/-- The descriptors in use, and `m_value`. -/
structure ProbeProcess (T : Type) where
  files : Finset Nat
  value : T

/-- The descriptor an open file gets: the lowest one which is free. -/
def firstFree (limit : Nat) (files : Finset Nat) : Option Nat :=
  (List.range limit).find? fun fd => decide (fd ∉ files)

/-- How many are left. -/
def free (limit : Nat) (files : Finset Nat) : Nat := (Finset.range limit \ files).card

/-- The limit on open files, `probe_path`, and what is made of a token: `atof`, the division
by 1000 and the conversions. -/
structure ProbeConfig (T : Type) where
  limit : Nat
  probePath : String
  temperature : List Char → T

section Code

variable {T : Type} (cfg : ProbeConfig T)

/-- `fopen`: the content, or the text of the error. -/
def fopen (file : ProbeFile) : Cpp (ProbeProcess T) (Except String (List Char)) := fun s =>
  match firstFree cfg.limit s.files, file with
  | none, _ => .ok (.error "Too many open files") s
  | some _, .error reason => .ok (.error reason) s
  | some fd, .ok content => .ok (.ok content) { s with files := insert fd s.files }

/-- `GenericControl<T>::GetValue`; `atof` of a null pointer is undefined. -/
def getValue (file : ProbeFile) : Cpp (ProbeProcess T) T := do
  match ← fopen cfg file with
  | .error reason =>
      throwException (.runtimeError ("Unable to open '" ++ cfg.probePath ++ "': " ++ reason))
  | .ok content =>
      -- there is no `fclose` on any way out from here
      match temperatureText content with
      | none => undefinedBehaviour
      | some token =>
          modify fun s => { s with value := cfg.temperature token }
          pure (cfg.temperature token)

/-- What a call of `getPostValue` meets: the probe in `getAlertStatus`, unless it is not read
there, an exception in `getAlertStatus` behind the reading, and the probe in
`getDeviceValue`. -/
structure PostReads where
  status : Option ProbeFile
  thrown : Option CppException
  device : ProbeFile

/-- `getAlertStatus`, as far as the probe is concerned. -/
def getAlertStatus (call : PostReads) : Cpp (ProbeProcess T) Unit := do
  match call.status with
  -- the alert was raised before, or there is no connection to Redis
  | none => pure ()
  | some file =>
      let _ ← getValue cfg file
      pure ()
  match call.thrown with
  | none => pure ()
  | some e => throwException e

/-- `getPostValue`, as far as the probe is concerned. -/
def getPostValue (call : PostReads) : Cpp (ProbeProcess T) T := do
  getAlertStatus cfg call
  getValue cfg call.device

/-- One call, whose exceptions `onObserve` catches. -/
def postStep (s : ProbeProcess T) (call : PostReads) : Option (ProbeProcess T) :=
  match getPostValue cfg call s with
  | .ok _ t => some t
  | .error (.exception _) t => some t
  | .error .undefined _ => none
  | .error .blocked _ => none

/-! ## What is promised -/

/-- A reading returns or throws, and leaves the open files as it found them. -/
def FilesKept (s : ProbeProcess T) (file : ProbeFile) : Prop :=
  match getValue cfg file s with
  | .ok _ t => t.files = s.files
  | .error (.exception _) t => t.files = s.files
  | .error .undefined _ => False
  | .error .blocked _ => False

/-- So do all readings of a call. -/
def PostKept (s : ProbeProcess T) (call : PostReads) : Prop :=
  (∀ file, call.status = some file → FilesKept cfg s file) ∧
    ∀ t, getAlertStatus cfg call s = .ok () t →
      FilesKept cfg t call.device

/-- The file is opened. -/
def Opens (s : ProbeProcess T) (file : ProbeFile) : Prop :=
  (firstFree cfg.limit s.files).isSome = true ∧ ∃ content, file = .ok content

/-- All readings of a run keep the open files, and a probe which could be read before the
run can be read after it. -/
structure HandlesKept (s : ProbeProcess T) (calls : List PostReads) : Prop where
  kept : Guarded (postStep cfg) (PostKept cfg) s calls
  later : ∀ t, run (postStep cfg) s calls = some t →
    ∀ content, Opens cfg s (.ok content) → ∀ e u,
      getValue cfg (.ok content) t ≠ .error (.exception e) u

/-- The condition on a call: the probe cannot be opened where it is read first. -/
def OpensNothing (s : ProbeProcess T) (call : PostReads) : Prop :=
  match call.status, call.thrown with
  | some file, _ => ¬Opens cfg s file
  | none, some _ => True
  | none, none => ¬Opens cfg s call.device

end Code

/-! ## One reading -/

section Reading

variable {T : Type} {cfg : ProbeConfig T} {s t : ProbeProcess T} {file : ProbeFile}
  {limit : Nat} {files : Finset Nat}

theorem firstFree_eq_some {fd : Nat} (h : firstFree limit files = some fd) :
    fd < limit ∧ fd ∉ files := by
  have hfree := List.find?_some h
  have hmem := List.mem_of_find?_eq_some h
  exact ⟨List.mem_range.mp hmem, of_decide_eq_true hfree⟩

theorem firstFree_isSome_iff : (firstFree limit files).isSome = true ↔ 0 < free limit files := by
  unfold firstFree free
  rw [List.find?_isSome, Finset.card_pos]
  constructor
  · rintro ⟨fd, hlt, hfree⟩
    refine ⟨fd, ?_⟩
    simp at hlt hfree ⊢
    exact ⟨hlt, hfree⟩
  · rintro ⟨fd, hfd⟩
    refine ⟨fd, ?_⟩
    simp at hfd ⊢
    exact hfd

/-- One descriptor less. -/
theorem free_insert {fd : Nat} (h : firstFree limit files = some fd) :
    free limit (insert fd files) = free limit files - 1 := by
  rcases firstFree_eq_some h with ⟨hlt, hfree⟩
  unfold free
  rw [Finset.sdiff_insert, Finset.card_erase_of_mem]
  simp [hlt, hfree]

/-- A probe which cannot be opened is reported, and nothing has happened. -/
theorem getValue_of_not_opens (h : ¬Opens cfg s file) :
    ∃ what, getValue cfg file s = .error (.exception (.runtimeError what)) s := by
  have hopen : ∃ reason, fopen cfg file s = .ok (.error reason) s := by
    unfold fopen
    cases hfree : firstFree cfg.limit s.files with
    | none => exact ⟨_, rfl⟩
    | some fd =>
        cases file with
        | error reason => exact ⟨reason, rfl⟩
        | ok content => exact absurd ⟨by rw [hfree]; rfl, content, rfl⟩ h
  rcases hopen with ⟨reason, hopen⟩
  unfold getValue
  rw [bind_of_ok hopen]
  exact ⟨_, rfl⟩

/-- An opened file stays open, whatever is in it. -/
theorem getValue_of_opens {content : List Char} {fd : Nat}
    (h : firstFree cfg.limit s.files = some fd) :
    getValue cfg (.ok content) s =
      match temperatureText content with
      | none => .error .undefined { s with files := insert fd s.files }
      | some token => .ok (cfg.temperature token) ⟨insert fd s.files, cfg.temperature token⟩ := by
  have hopen : fopen cfg (.ok content) s =
      .ok (.ok content) { s with files := insert fd s.files } := by
    unfold fopen
    rw [h]
  unfold getValue
  rw [bind_of_ok hopen]
  dsimp only
  cases temperatureText content with
  | none => rfl
  | some token => rfl

/-- A reading keeps the open files when it cannot open the file, and only then. -/
theorem filesKept_iff : FilesKept cfg s file ↔ ¬Opens cfg s file := by
  constructor
  · -- the descriptor which was free is in use afterwards, whatever the file says
    rintro hkept ⟨hfree, content, rfl⟩
    rcases Option.isSome_iff_exists.mp hfree with ⟨fd, hfd⟩
    unfold FilesKept at hkept
    rw [getValue_of_opens hfd] at hkept
    cases htext : temperatureText content with
    | none =>
        rw [htext] at hkept
        exact hkept
    | some token =>
        rw [htext] at hkept
        have hsame : insert fd s.files = s.files := hkept
        exact (firstFree_eq_some hfd).2 (hsame ▸ Finset.mem_insert_self fd s.files)
  · intro hclosed
    rcases getValue_of_not_opens hclosed with ⟨what, hvalue⟩
    unfold FilesKept
    rw [hvalue]

theorem getAlertStatus_of_skipped {call : PostReads} (hstatus : call.status = none)
    (hthrown : call.thrown = none) : getAlertStatus cfg call s = .ok () s := by
  unfold getAlertStatus
  rw [hstatus, hthrown]
  rfl

theorem getAlertStatus_of_thrown {call : PostReads} {e : CppException}
    (hstatus : call.status = none) (hthrown : call.thrown = some e) :
    getAlertStatus cfg call s = .error (.exception e) s := by
  unfold getAlertStatus
  rw [hstatus, hthrown]
  rfl

theorem getAlertStatus_of_not_opens {call : PostReads} (hstatus : call.status = some file)
    (h : ¬Opens cfg s file) :
    ∃ what, getAlertStatus cfg call s = .error (.exception (.runtimeError what)) s := by
  rcases getValue_of_not_opens h with ⟨what, hvalue⟩
  unfold getAlertStatus
  rw [hstatus]
  exact ⟨what, bind_of_error hvalue⟩

/-- And so does a call. -/
theorem postKept_iff {call : PostReads} : PostKept cfg s call ↔ OpensNothing cfg s call := by
  unfold PostKept OpensNothing
  cases hstatus : call.status with
  | some file =>
      dsimp only
      constructor
      · exact fun h => filesKept_iff.mp (h.1 file rfl)
      · intro hclosed
        refine ⟨fun other hother => ?_, fun t ht => ?_⟩
        · cases hother
          exact filesKept_iff.mpr hclosed
        · rcases getAlertStatus_of_not_opens hstatus hclosed with ⟨what, hthrows⟩
          rw [hthrows] at ht
          cases ht
  | none =>
      cases hthrown : call.thrown with
      | some e =>
          refine iff_of_true ⟨fun other hother => (nomatch hother), fun t ht => ?_⟩ trivial
          rw [getAlertStatus_of_thrown hstatus hthrown] at ht
          cases ht
      | none =>
          have hskipped : getAlertStatus cfg call s = .ok () s :=
            getAlertStatus_of_skipped hstatus hthrown
          constructor
          · exact fun h => filesKept_iff.mp (h.2 s hskipped)
          · intro hclosed
            refine ⟨fun other hother => (nomatch hother), fun t ht => ?_⟩
            rw [hskipped] at ht
            cases ht
            exact filesKept_iff.mpr hclosed

/-- A call which opens nothing changes nothing. -/
theorem postStep_of_opensNothing {call : PostReads} (h : OpensNothing cfg s call)
    (hstep : postStep cfg s call = some t) : t = s := by
  have hsame : ∃ e, getPostValue cfg call s = .error (.exception e) s := by
    unfold OpensNothing at h
    unfold getPostValue
    cases hstatus : call.status with
    | some file =>
        rw [hstatus] at h
        rcases getAlertStatus_of_not_opens hstatus h with ⟨what, hthrows⟩
        exact ⟨_, bind_of_error hthrows⟩
    | none =>
        cases hthrown : call.thrown with
        | some e => exact ⟨e, bind_of_error (getAlertStatus_of_thrown hstatus hthrown)⟩
        | none =>
            rw [hstatus, hthrown] at h
            rcases getValue_of_not_opens h with ⟨what, hvalue⟩
            rw [bind_of_ok (getAlertStatus_of_skipped hstatus hthrown)]
            exact ⟨_, hvalue⟩
  rcases hsame with ⟨e, hcall⟩
  unfold postStep at hstep
  rw [hcall] at hstep
  cases hstep
  rfl

end Reading

/-! ## Runs -/

section Runs

variable {T : Type} {cfg : ProbeConfig T} {s t : ProbeProcess T}

theorem eq_of_run_opensNothing {calls : List PostReads}
    (hguard : Guarded (postStep cfg) (OpensNothing cfg) s calls)
    (hrun : run (postStep cfg) s calls = some t) : t = s :=
  hguard.invariant
    (fun _ _ _ hsame hnothing hstep => (postStep_of_opensNothing hnothing hstep).trans hsame)
    hrun rfl

/-- **The open files.**  The readings of a run keep the open files exactly when none of them
gets to open the probe; and then the run has used up nothing. -/
theorem handlesKept_iff (cfg : ProbeConfig T) (s : ProbeProcess T) (calls : List PostReads) :
    HandlesKept cfg s calls ↔ Guarded (postStep cfg) (OpensNothing cfg) s calls := by
  have hguard : PostKept cfg = OpensNothing cfg := by
    funext u call
    exact propext postKept_iff
  constructor
  · exact fun h => hguard ▸ h.kept
  · intro hnothing
    refine ⟨hguard ▸ hnothing, fun t hrun content hopens e u hthrows => ?_⟩
    have hsame : t = s := eq_of_run_opensNothing hnothing hrun
    subst hsame
    rcases Option.isSome_iff_exists.mp hopens.1 with ⟨fd, hfd⟩
    rw [getValue_of_opens hfd] at hthrows
    cases htext : temperatureText content with
    | none =>
        rw [htext] at hthrows
        cases hthrows
    | some token =>
        rw [htext] at hthrows
        cases hthrows

/-! ## A readable probe -/

/-- The content has a second token on its second line. -/
def Readable (content : List Char) : Prop := ∃ token, temperatureText content = some token

/-- A call which reads the probe twice. -/
structure ReadsTwice (call : PostReads) : Prop where
  status : ∃ content, call.status = some (.ok content) ∧ Readable content
  thrown : call.thrown = none
  device : ∃ content, call.device = .ok content ∧ Readable content

/-- A reading takes a descriptor, or throws when there is none. -/
theorem getValue_of_readable (cfg : ProbeConfig T) (s : ProbeProcess T) {content : List Char}
    (h : Readable content) :
    (free cfg.limit s.files = 0 ∧ ∃ what,
      getValue cfg (.ok content) s = .error (.exception (.runtimeError what)) s) ∨
    (0 < free cfg.limit s.files ∧ ∃ value u, getValue cfg (.ok content) s = .ok value u ∧
      free cfg.limit u.files = free cfg.limit s.files - 1) := by
  rcases h with ⟨token, htoken⟩
  rcases Nat.eq_zero_or_pos (free cfg.limit s.files) with hzero | hpos
  · left
    refine ⟨hzero, getValue_of_not_opens fun hopens => ?_⟩
    have hfree := firstFree_isSome_iff.mp hopens.1
    omega
  · right
    rcases Option.isSome_iff_exists.mp (firstFree_isSome_iff.mpr hpos) with ⟨fd, hfd⟩
    refine ⟨hpos, cfg.temperature token, ⟨insert fd s.files, cfg.temperature token⟩, ?_,
      free_insert hfd⟩
    rw [getValue_of_opens hfd, htoken]

theorem postStep_of_readsTwice {call : PostReads} (h : ReadsTwice call)
    (hstep : postStep cfg s call = some t) :
    free cfg.limit t.files = free cfg.limit s.files - 2 := by
  rcases h.status with ⟨content, hstatus, hreadable⟩
  rcases h.device with ⟨content', hdevice, hreadable'⟩
  have halert : getAlertStatus cfg call s =
      (getValue cfg (.ok content) >>= fun _ => pure ()) s := by
    unfold getAlertStatus
    rw [hstatus, h.thrown]
  unfold postStep getPostValue at hstep
  rcases getValue_of_readable cfg s hreadable with
    ⟨hzero, what, hthrows⟩ | ⟨hpos, value, u, hvalue, hfree⟩
  · -- the first reading throws, so there is no second one
    rw [bind_of_error (halert.trans (bind_of_error hthrows))] at hstep
    cases hstep
    omega
  · rw [bind_of_ok (halert.trans (bind_of_ok hvalue)), hdevice] at hstep
    rcases getValue_of_readable cfg u hreadable' with
      ⟨hzero, what, hthrows⟩ | ⟨hpos', value', u', hvalue', hfree'⟩
    · rw [hthrows] at hstep
      cases hstep
      omega
    · rw [hvalue'] at hstep
      cases hstep
      omega

/-- Every call takes two descriptors, as long as there are any. -/
theorem free_of_run {calls : List PostReads} (hcalls : ∀ call ∈ calls, ReadsTwice call)
    (hrun : run (postStep cfg) s calls = some t) :
    free cfg.limit t.files = free cfg.limit s.files - 2 * calls.length := by
  induction calls generalizing s with
  | nil =>
      cases hrun
      simp
  | cons call calls ih =>
      rcases run_cons_eq_some hrun with ⟨u, hstep, hrest⟩
      have hfirst := postStep_of_readsTwice (hcalls call List.mem_cons_self) hstep
      have hothers := ih (fun other hother => hcalls other (List.mem_cons_of_mem _ hother)) hrest
      rw [List.length_cons]
      omega

/-- **Exhaustion.**  With a readable probe a reading fails exactly when the calls before it
have used up the descriptors there were. -/
theorem throws_after_run_iff {calls : List PostReads} {content : List Char}
    (hcalls : ∀ call ∈ calls, ReadsTwice call)
    (hrun : run (postStep cfg) s calls = some t) (hreadable : Readable content) :
    (∃ e u, getValue cfg (.ok content) t = .error (.exception e) u) ↔
      free cfg.limit s.files ≤ 2 * calls.length := by
  have hfree := free_of_run hcalls hrun
  rcases getValue_of_readable cfg t hreadable with
    ⟨hzero, what, hthrows⟩ | ⟨hpos, value, u, hvalue, -⟩
  · exact iff_of_true ⟨_, _, hthrows⟩ (by omega)
  · refine iff_of_false ?_ (by omega)
    rintro ⟨e, u', hthrows⟩
    rw [hvalue] at hthrows
    cases hthrows

end Runs

/-- What the probe of the thermometer says at 23.125 degrees. -/
def sampleContent : List Char :=
  "72 01 4b 46 7f ff 0e 10 57 : crc=57 YES\n72 01 4b 46 7f ff 0e 10 57 t=23125\n".toList

example : temperatureText sampleContent = some "23125\n".toList := by decide

/-- A process with its three standard files and room for one more; the token is kept as the
value. -/
def sampleConfig : ProbeConfig (List Char) :=
  ⟨4, "/sys/bus/w1/devices/28-000005e2fdc3/w1_slave", id⟩

/-- The first reading succeeds, and its file stays open. -/
theorem first_reading_stays_open :
    ¬∀ (cfg : ProbeConfig (List Char)) s calls, HandlesKept cfg s calls := by
  intro h
  have hkept := (h sampleConfig ⟨{0, 1, 2}, []⟩
    [⟨some (.ok sampleContent), none, .ok sampleContent⟩]).kept.1.1 _ rfl
  exact filesKept_iff.mp hkept ⟨by decide, sampleContent, rfl⟩

end Probe
end Speaker
end FireEvacuation
