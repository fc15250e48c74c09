import Mathlib.Data.List.TakeDrop
import FireEvacuation.Compress.Zlib
import FireEvacuation.Platform.StackResult

/-!
# `Compress::execute`

The function hands the whole string to zlib and calls `deflate` or `inflate` until the
answer is no longer `Z_OK`, each time with the same empty buffer.  How much of the buffer
belongs to the output it finds from `total_out` and the length of the string so far.

`avail_in` has 32 bits, so a string of 2^32 bytes or more is not handed over as a whole.
`total_out` counts without a bound here, and a byte of the buffer which was not written is
`none`.  The result of `flateEnd` is not looked at, and the call is left out.  The loop is
given a number of turns, and there is no result when they do not suffice.
-/

namespace FireEvacuation
namespace Compress

open FireEvacuation.Core Platform

/-- `COMPRESS_OPTION`. -/
inductive CompressOption where
  | compress
  | decompress
  deriving DecidableEq, Repr

/-- `out_buf_size`. -/
def outBufSize : Nat := 32768

theorem outBufSize_pos : 0 < outBufSize := by decide

/-- `z_stream`, without the members for the output buffer: they are set before every call. -/
structure ZStream (State : Type) where
  nextIn : List UInt8
  availIn : UInt32
  totalOut : Nat
  msg : Option String
  state : State

/-- The stream, `out_buffer` and `out_string`. -/
structure FlateVars (State : Type) where
  stream : ZStream State
  outBuffer : List (Option UInt8)
  outString : List UInt8

/-- `out_string.append(out_buffer, length)` reads so many bytes of the buffer, which have to
be there and to be written. -/
def readBuffer (buffer : List (Option UInt8)) (length : Nat) : Option (List UInt8) :=
  if length ≤ buffer.length then (buffer.take length).mapM id else none

/-- `flate(&stream, flush)`: the input is what `avail_in` says, and the output goes to the
beginning of the buffer. -/
def callFlate {State : Type} (flate : Flate State) (v : FlateVars State) :
    Int × FlateVars State :=
  let answer := flate v.stream.state (v.stream.nextIn.take v.stream.availIn.toNat) outBufSize
  (answer.ret,
    { v with
      stream := {
        nextIn := v.stream.nextIn.drop answer.consumed
        availIn := v.stream.availIn - UInt32.ofNat answer.consumed
        totalOut := v.stream.totalOut + answer.written.length
        msg := answer.msg
        state := answer.state }
      outBuffer := answer.written.map some ++ v.outBuffer.drop answer.written.length })

/-- The rest of the body of the loop. -/
def collect {State : Type} (v : FlateVars State) :
    Except (Fault CppException) (FlateVars State) :=
  if v.outString.length < v.stream.totalOut then
    match readBuffer v.outBuffer (v.stream.totalOut - v.outString.length) with
    | none => .error .undefined
    | some bytes => .ok { v with outString := v.outString ++ bytes }
  else .ok v

/-- The loop: the last result, and the variables behind it. -/
def flateLoop {State : Type} (flate : Flate State) :
    (turns : Nat) → FlateVars State → Option (Except (Fault CppException) (Int × FlateVars State))
  | 0, _ => none
  | turns + 1, v =>
      match collect (callFlate flate v).2 with
      | .error e => some (.error e)
      | .ok w =>
          if (callFlate flate v).1 = zOk then flateLoop flate turns w
          else some (.ok ((callFlate flate v).1, w))

/-- What follows the loop. -/
def finish {State : Type} (ret : Int) (v : FlateVars State) :
    Except (Fault CppException) (List UInt8) :=
  if ret ≠ zStreamEnd then
    match v.stream.msg with
    -- a null pointer is put into the stream of the message
    | none => .error .undefined
    | some msg => .error (.exception (.runtimeError
        ("Exception during zlib compression: (" ++ toString ret ++ ") " ++ msg)))
  else .ok v.outString

namespace Zlib

variable (z : Zlib)

/-- `deflateInit` or `inflateInit`. -/
def flateInit (option : CompressOption) (compLv : Int32) : Option z.State :=
  match option with
  | .compress => z.deflateInit compLv
  | .decompress => z.inflateInit

/-- The function `flate` points to, with the value of `flush`. -/
def flate : CompressOption → Flate z.State
  | .compress => z.deflate zFinish
  | .decompress => z.inflate zNoFlush

end Zlib

/-- The variables before the loop. -/
def FlateVars.start {State : Type} (state : State) (str : List UInt8) : FlateVars State where
  stream := {
    nextIn := str
    availIn := UInt32.ofNat str.length
    totalOut := 0
    msg := none
    state := state }
  outBuffer := List.replicate outBufSize none
  outString := []

/-- `Compress::execute`. -/
def execute (z : Zlib) (turns : Nat) (str : List UInt8) (option : CompressOption)
    (compLv : Int32) : Option (Except (Fault CppException) (List UInt8)) :=
  match z.flateInit option compLv with
  | none =>
      some (.error (.exception (.runtimeError "flateInit failed while compressing....")))
  | some state =>
      (flateLoop (z.flate option) turns (.start state str)).map fun ended =>
        ended.bind fun last => finish last.1 last.2

/-- The call returns this string: it does so with every number of turns which suffices. -/
def Returns (z : Zlib) (str : List UInt8) (option : CompressOption) (compLv : Int32)
    (result : List UInt8) : Prop :=
  ∃ enough, ∀ turns, enough ≤ turns → execute z turns str option compLv = some (.ok result)

/-- What `avail_in` says of a string. -/
def handedOver (str : List UInt8) : List UInt8 := str.take (UInt32.ofNat str.length).toNat

/-! ## The loop draws the chunks of the stream -/

section Loop

variable {State : Type} {flate : Flate State}

/-- The variables and the drawing agree: the input that is left, and the output so far, whose
length is `total_out`. -/
structure Tracks (v : FlateVars State) (s : Drawing State UInt8 UInt8) : Prop where
  state : v.stream.state = s.state
  rest : v.stream.nextIn.take v.stream.availIn.toNat = s.rest
  availIn : v.stream.availIn.toNat ≤ v.stream.nextIn.length
  collected : v.outString = s.chunks.flatten
  totalOut : v.stream.totalOut = v.outString.length
  buffer : v.outBuffer.length = outBufSize

theorem tracks_start (state : State) (str : List UInt8) :
    Tracks (.start state str) (.start state (handedOver str)) where
  state := rfl
  rest := rfl
  availIn := by
    show (UInt32.ofNat str.length).toNat ≤ str.length
    rw [UInt32.toNat_ofNat']
    exact Nat.mod_le _ _
  collected := rfl
  totalOut := rfl
  buffer := List.length_replicate

theorem mapM_some (bytes : List UInt8) : (bytes.map some).mapM id = some bytes := by
  induction bytes with
  | nil => rfl
  | cons byte bytes ih =>
      rw [List.map_cons, List.mapM_cons, ih]
      rfl

/-- What was written is read. -/
theorem readBuffer_written (written : List UInt8) (buffer : List (Option UInt8)) :
    readBuffer (written.map some ++ buffer) written.length = some written := by
  have htake : (written.map some ++ buffer).take written.length = written.map some :=
    List.take_left' (List.length_map some)
  have hle : written.length ≤ (written.map some ++ buffer).length := by simp
  rw [readBuffer, if_pos hle, htake, mapM_some]

/-- What is left of `avail_in`. -/
theorem toNat_availIn {availIn : UInt32} {consumed : Nat} (h : consumed ≤ availIn.toNat) :
    (availIn - UInt32.ofNat consumed).toNat = availIn.toNat - consumed := by
  have hlt : consumed < 4294967296 := Nat.lt_of_le_of_lt h availIn.toNat_lt
  have hconsumed : (UInt32.ofNat consumed).toNat = consumed := by
    rw [UInt32.toNat_ofNat']
    exact Nat.mod_eq_of_lt hlt
  have hle : UInt32.ofNat consumed ≤ availIn := by
    rw [UInt32.le_iff_toNat_le, hconsumed]
    exact h
  rw [UInt32.toNat_sub_of_le _ _ hle, hconsumed]

/-- The chunk is appended to the string, whether it is empty or fills the buffer. -/
theorem collect_written {v : FlateVars State} {written : List UInt8}
    {buffer : List (Option UInt8)} (hbuffer : v.outBuffer = written.map some ++ buffer)
    (htotal : v.stream.totalOut = v.outString.length + written.length) :
    collect v = .ok { v with outString := v.outString ++ written } := by
  unfold collect
  split
  · have hlength : v.stream.totalOut - v.outString.length = written.length := by omega
    rw [hlength, hbuffer, readBuffer_written]
  · rename_i hnone
    have hempty : written = [] := List.eq_nil_of_length_eq_zero (by omega)
    rw [hempty, List.append_nil]

/-- More turns change nothing. -/
theorem flateLoop_mono {turns turns' : Nat} (hle : turns ≤ turns') :
    ∀ {v : FlateVars State} {ended : Except (Fault CppException) (Int × FlateVars State)},
      flateLoop flate turns v = some ended → flateLoop flate turns' v = some ended := by
  induction turns generalizing turns' with
  | zero =>
      intro v ended h
      cases h
  | succ turns ih =>
      intro v ended h
      obtain ⟨more, rfl⟩ : ∃ more, turns' = more + 1 := ⟨turns' - 1, by omega⟩
      rw [flateLoop] at h ⊢
      cases hcollect : collect (callFlate flate v).2 with
      | error e =>
          rw [hcollect] at h
          exact h
      | ok w =>
          rw [hcollect] at h
          dsimp only at h ⊢
          split at h
          · rename_i hok
            rw [if_pos hok]
            exact ih (by omega) h
          · rename_i hend
            rw [if_neg hend]
            exact h

/-- **One turn.**  The call and what follows it draw the next chunk. -/
theorem Tracks.turn {v : FlateVars State} {s : Drawing State UInt8 UInt8} (h : Tracks v s)
    (hcareful : flate.Careful) :
    statusOf (callFlate flate v).1 = (s.next (flate.portions outBufSize)).status ∧
      ∃ w, collect (callFlate flate v).2 = .ok w ∧
        Tracks w (s.after (flate.portions outBufSize)) := by
  obtain ⟨state, rest, chunks⟩ := s
  obtain ⟨hstate, hrest, havail, hcollected, htotal, hbuffer⟩ := h
  dsimp only at hstate hrest hcollected
  subst hstate hrest
  have hconsumed := hcareful.consumed v.stream.state
    (v.stream.nextIn.take v.stream.availIn.toNat) outBufSize
  have hwritten := hcareful.written v.stream.state
    (v.stream.nextIn.take v.stream.availIn.toNat) outBufSize
  rw [List.length_take_of_le havail] at hconsumed
  refine ⟨rfl, _, collect_written rfl (congrArg (· + _) htotal), ?_⟩
  refine ⟨rfl, ?_, ?_, ?_, ?_, ?_⟩
  · show (v.stream.nextIn.drop _).take (v.stream.availIn - UInt32.ofNat _).toNat =
      (v.stream.nextIn.take v.stream.availIn.toNat).drop _
    rw [toNat_availIn hconsumed, List.drop_take]
    rfl
  · show (v.stream.availIn - UInt32.ofNat _).toNat ≤ (v.stream.nextIn.drop _).length
    rw [toNat_availIn hconsumed, List.length_drop]
    omega
  · rw [flatten_after, ← hcollected]
    rfl
  · show v.stream.totalOut + _ = (v.outString ++ _).length
    rw [htotal, List.length_append]
  · show (_ ++ v.outBuffer.drop _).length = outBufSize
    rw [List.length_append, List.length_map, List.length_drop, hbuffer]
    omega

/-- **A whole run.**  The turns of the loop are the calls of the drawing, down to the last
chunk. -/
theorem Tracks.flateLoop_of_run (hcareful : flate.Careful) {turns : List Unit} :
    ∀ {v : FlateVars State} {s t : Drawing State UInt8 UInt8}, Tracks v s →
      run (draw (flate.portions outBufSize)) s turns = some t →
      (t.next (flate.portions outBufSize)).status = .last →
      ∃ w, flateLoop flate (turns.length + 1) v = some (.ok (zStreamEnd, w)) ∧
        Tracks w (t.after (flate.portions outBufSize)) := by
  induction turns with
  | nil =>
      intro v s t h hrun hlast
      cases hrun
      obtain ⟨hstatus, w, hcollect, hw⟩ := h.turn hcareful
      have hend : (callFlate flate v).1 = zStreamEnd :=
        statusOf_eq_last_iff.mp (hstatus.trans hlast)
      have hnotOk : ¬zStreamEnd = zOk := by decide
      refine ⟨w, ?_, hw⟩
      simp only [List.length_nil, flateLoop, hcollect, hend]
      rw [if_neg hnotOk]
  | cons turn turns ih =>
      intro v s t h hrun hlast
      obtain ⟨u, hdraw, hrest⟩ := run_cons_eq_some hrun
      obtain ⟨hmore, rfl⟩ := draw_eq_some_iff.mp hdraw
      obtain ⟨hstatus, w, hcollect, hw⟩ := h.turn hcareful
      have hok : (callFlate flate v).1 = zOk :=
        statusOf_eq_more_iff.mp (hstatus.trans hmore)
      obtain ⟨x, hloop, hx⟩ := ih hw hrest hlast
      refine ⟨x, ?_, hx⟩
      rw [List.length_cons, flateLoop, hcollect]
      show (if (callFlate flate v).1 = zOk then _ else _) = _
      rw [if_pos hok, hloop]

/-- When the loop ends, the drawing has come to a chunk behind which no more is to come. -/
theorem Tracks.of_flateLoop (hcareful : flate.Careful) {turns : Nat} :
    ∀ {v w : FlateVars State} {s : Drawing State UInt8 UInt8} {ret : Int}, Tracks v s →
      flateLoop flate turns v = some (.ok (ret, w)) →
      ∃ t, Reaches (draw (flate.portions outBufSize)) s t ∧
        statusOf ret = (t.next (flate.portions outBufSize)).status ∧
        Tracks w (t.after (flate.portions outBufSize)) := by
  induction turns with
  | zero =>
      intro v w s ret _ hloop
      cases hloop
  | succ turns ih =>
      intro v w s ret h hloop
      obtain ⟨hstatus, x, hcollect, hx⟩ := h.turn hcareful
      rw [flateLoop, hcollect] at hloop
      dsimp only at hloop
      split at hloop
      · rename_i hok
        have hmore := hstatus.symm.trans (statusOf_eq_more_iff.mpr hok)
        have hdraw := draw_eq_some_iff.mpr ⟨hmore, rfl⟩
        obtain ⟨t, hreaches, hlast⟩ := ih hx hloop
        have hfirst : Reaches (draw (flate.portions outBufSize)) s
            (s.after (flate.portions outBufSize)) := by
          use [()]
          rw [run_cons_of_step hdraw, run_nil]
        exact ⟨t, hfirst.trans hreaches, hlast⟩
      · cases hloop
        exact ⟨s, Reaches.refl s, hstatus, hx⟩

end Loop

/-! ## What the call returns -/

theorem finish_eq_ok_iff {State : Type} {ret : Int} {v : FlateVars State}
    {result : List UInt8} :
    finish ret v = .ok result ↔ ret = zStreamEnd ∧ v.outString = result := by
  unfold finish
  by_cases hend : ret = zStreamEnd
  · simp [hend]
  · cases hmsg : v.stream.msg <;> simp [hend]

section Returns

variable {z : Zlib} {str result : List UInt8} {compLv : Int32}

/-- **The call returns what the stream writes.**  The stream is fed what `avail_in` says of
the string. -/
theorem returns_iff (option : CompressOption) (hcareful : (z.flate option).Careful) :
    Returns z str option compLv result ↔
      ∃ state chunks, z.flateInit option compLv = some state ∧
        Drawn ((z.flate option).portions outBufSize) state (handedOver str) chunks ∧
        result = chunks.flatten := by
  constructor
  · rintro ⟨turns, henough⟩
    have hexecute := henough turns (Nat.le_refl turns)
    unfold execute at hexecute
    cases hinit : z.flateInit option compLv with
    | none =>
        rw [hinit] at hexecute
        cases hexecute
    | some state =>
        rw [hinit] at hexecute
        obtain ⟨ended, hloop, hended⟩ := Option.map_eq_some_iff.mp hexecute
        obtain _ | ⟨ret, v⟩ := ended
        · cases hended
        obtain ⟨hret, hout⟩ := finish_eq_ok_iff.mp hended
        obtain ⟨t, hreaches, hstatus, hv⟩ :=
          Tracks.of_flateLoop hcareful (tracks_start state str) hloop
        have hlast := hstatus.symm.trans (statusOf_eq_last_iff.mpr hret)
        exact ⟨state, _, rfl, ⟨t, hreaches, hlast, rfl⟩, hout.symm.trans hv.collected⟩
  · rintro ⟨state, chunks, hinit, ⟨t, ⟨turns, hrun⟩, hlast, rfl⟩, rfl⟩
    obtain ⟨v, hloop, hv⟩ :=
      (tracks_start state str).flateLoop_of_run hcareful hrun hlast
    have hfinish : finish zStreamEnd v = .ok _ := finish_eq_ok_iff.mpr ⟨rfl, hv.collected⟩
    use turns.length + 1
    intro more hmore
    rw [execute, hinit]
    show (flateLoop (z.flate option) more (.start state str)).map _ = _
    rw [flateLoop_mono hmore hloop]
    exact congrArg some hfinish

/-- A shorter string than `avail_in` can count is handed over as a whole, and only that. -/
theorem handedOver_eq_iff : handedOver str = str ↔ str.length < 4294967296 := by
  unfold handedOver
  rw [List.take_eq_self_iff, UInt32.toNat_ofNat']
  show str.length ≤ str.length % 4294967296 ↔ _
  constructor
  · intro h
    exact Nat.lt_of_le_of_lt h (Nat.mod_lt _ (by decide))
  · intro h
    exact Nat.le_of_eq (Nat.mod_eq_of_lt h).symm

theorem handedOver_isPrefixOf (str : List UInt8) : handedOver str <+: str :=
  List.take_prefix _ str

end Returns

end Compress
end FireEvacuation
