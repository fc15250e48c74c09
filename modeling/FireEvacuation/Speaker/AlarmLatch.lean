import FireEvacuation.Core.Transition
import FireEvacuation.Speaker.Client

/-!
# The alarm latch under interleaved callbacks

Every observation callback runs on a thread of its own and calls `getPostValue`, which
tests and assigns the static `device_alert_state` without a lock.  Here the callbacks take
turns: a step is one lock or unlock, one reading of the probe, one Redis command, or one
read or write of a shared variable.

The context is live, `GET alert` is answered with a text, `SET` succeeds and the probe can
be read.  Readings and answers come with the step.  `audio->stop()` touches nothing shared
and is left out.
-/

namespace FireEvacuation
namespace Speaker

open FireEvacuation.Core

/-- Where a call of `getPostValue` stands: before the step of this name. -/
inductive SpeakerPc where
  | testLatch
  | lock
  | readTemper
  | getAlert
  | unlock
  | testSong
  | writeSong
  | setAlert
  | writeLatch
  | lockValue
  | readValue
  | unlockValue
  | readLatch
  | done
  deriving DecidableEq, Repr

/-- The call is inside `getAlertStatus`, or has not assigned its answer yet. -/
def SpeakerPc.asking : SpeakerPc → Bool
  | .lock | .readTemper | .getAlert | .unlock | .testSong | .writeSong | .setAlert
  | .writeLatch => true
  | .testLatch | .lockValue | .readValue | .unlockValue | .readLatch | .done => false

/-- The call has answered: it has found the latch set, or is past `getAlertStatus`. -/
def SpeakerPc.answered : SpeakerPc → Bool
  | .writeLatch | .lockValue | .readValue | .unlockValue | .readLatch | .done => true
  | .testLatch | .lock | .readTemper | .getAlert | .unlock | .testSong | .writeSong
  | .setAlert => false

/-- `current_song`, `device_alert_state` and `_temper_lock`. -/
structure SpeakerShared where
  currentSong : String
  deviceAlertState : Bool
  temperLocked : Bool
  deriving DecidableEq, Repr

/-- One call of `getPostValue` with its variables.  The last three only record what
happened: that it looked at the song before any call had changed it, that it changed the
song, and that it began after a call which had done so was over. -/
structure Callback where
  pc : SpeakerPc
  temperature : Int
  alertValue : String
  ret : Bool
  sensorValue : Int
  post : Option SpeakerPost
  lookedFirst : Bool
  switched : Bool
  late : Bool
  deriving DecidableEq, Repr

/-- All callbacks so far; `switchedFinished` records that one of them changed the song and
is over. -/
structure SpeakerState where
  shared : SpeakerShared
  callbacks : List Callback
  switchedFinished : Bool
  deriving DecidableEq, Repr

def SpeakerState.initial : SpeakerState := ⟨⟨normalSong, false, false⟩, [], false⟩

/-- Some call has changed the song. -/
def SpeakerState.songChanged (s : SpeakerState) : Bool := s.callbacks.any fun c => c.switched

/-- A call which begins. -/
def Callback.begin (late : Bool) : Callback :=
  ⟨.testLatch, 0, "0", false, 0, none, false, false, late⟩

/-- One step of a call, given what the probe and Redis answer.  `songChanged` is for the
record only. -/
def advance (shared : SpeakerShared) (songChanged : Bool) (callback : Callback)
    (reading : Int) (reply : String) : Option (SpeakerShared × Callback) :=
  match callback.pc with
  | .testLatch =>
      some (shared, { callback with pc := if shared.deviceAlertState then .lockValue else .lock })
  | .lock =>
      if shared.temperLocked then none
      else some ({ shared with temperLocked := true }, { callback with pc := .readTemper })
  | .readTemper => some (shared, { callback with temperature := reading, pc := .getAlert })
  | .getAlert => some (shared, { callback with alertValue := reply, pc := .unlock })
  -- from here to the assignment of the latch the call is not under the lock
  | .unlock => some ({ shared with temperLocked := false }, { callback with pc := .testSong })
  | .testSong =>
      some (shared, { callback with
        lookedFirst := !songChanged
        pc :=
          if switchesSong shared.currentSong callback.temperature callback.alertValue then
            .writeSong
          else .writeLatch })
  | .writeSong =>
      some ({ shared with currentSong := emergencySong },
        { callback with switched := true, pc := .setAlert })
  | .setAlert => some (shared, { callback with ret := true, pc := .writeLatch })
  | .writeLatch =>
      some ({ shared with deviceAlertState := callback.ret }, { callback with pc := .lockValue })
  | .lockValue =>
      if shared.temperLocked then none
      else some ({ shared with temperLocked := true }, { callback with pc := .readValue })
  | .readValue => some (shared, { callback with sensorValue := reading, pc := .unlockValue })
  | .unlockValue =>
      some ({ shared with temperLocked := false }, { callback with pc := .readLatch })
  | .readLatch =>
      some (shared, { callback with
        post := some ⟨callback.sensorValue, shared.deviceAlertState⟩
        pc := .done })
  | .done => none

/-- A callback begins, or the one at a position takes its next step. -/
inductive SpeakerEvent where
  | begin
  | advance (index : Nat) (reading : Int) (reply : String)
  deriving DecidableEq, Repr

/-- One step. -/
def speakerStep (s : SpeakerState) : SpeakerEvent → Option SpeakerState
  | .begin => some { s with callbacks := s.callbacks ++ [.begin s.switchedFinished] }
  | .advance index reading reply =>
      match s.callbacks[index]? with
      | none => none
      | some callback =>
          match advance s.shared s.songChanged callback reading reply with
          | none => none
          | some (shared, next) =>
              some {
                shared := shared
                callbacks := s.callbacks.set index next
                switchedFinished :=
                  s.switchedFinished || (next.pc = .done && next.switched) }

/-! ## What should hold, and when it does -/

/-- The latch is not reset. -/
def LatchKept (s t : SpeakerState) : Prop :=
  s.shared.deviceAlertState = true → t.shared.deviceAlertState = true

/-- What should hold of a step. -/
def KeepsLatch (s : SpeakerState) (event : SpeakerEvent) : Prop :=
  ∀ t, speakerStep s event = some t → LatchKept s t

/-- A call which began after the alarm was raised and reported posts an alert. -/
def AlarmReported (s : SpeakerState) : Prop :=
  ∀ callback ∈ s.callbacks, callback.late = true →
    ∀ post, callback.post = some post → post.alertState = true

/-- It was warm, or the key was `1`, and the call looked at the song before any call had
changed it. -/
def Callback.raises (callback : Callback) : Bool :=
  callback.lookedFirst &&
    (temperWarning < callback.temperature || callback.alertValue = "1")

/-- The call raised the alarm and has assigned the latch. -/
def Callback.raised (callback : Callback) : Bool :=
  callback.raises && !callback.pc.asking

/-- The condition on a step: nobody for whom it was neither warm nor `1`, or who came too
late to change the song, assigns the latch after a call which raised the alarm. -/
def LatchCondition (s : SpeakerState) : SpeakerEvent → Prop
  | .begin => True
  | .advance index _ _ =>
      ∀ callback ∈ s.callbacks[index]?, callback.pc = .writeLatch →
        callback.raises = true ∨ ∀ other ∈ s.callbacks, other.raised = false

instance (s : SpeakerState) : (event : SpeakerEvent) → Decidable (LatchCondition s event)
  | .begin => isTrue trivial
  | .advance index _ _ =>
      inferInstanceAs (Decidable (∀ callback ∈ s.callbacks[index]?,
        callback.pc = .writeLatch →
          callback.raises = true ∨ ∀ other ∈ s.callbacks, other.raised = false))

/-! ## One call -/

/-- What holds of a call in every run: its answer and its record. -/
structure CallbackInv (callback : Callback) : Prop where
  /-- Only who has looked can have looked first. -/
  looked : callback.lookedFirst = true → callback.pc = .writeSong ∨ callback.pc = .setAlert ∨
    callback.pc.answered = true
  raising : callback.pc = .writeSong ∨ callback.pc = .setAlert → callback.raises = true
  switched : callback.switched = (callback.raises && callback.pc ≠ .writeSong)
  ret : callback.ret = (callback.raises && callback.pc.answered)

theorem callbackInv_begin (late : Bool) : CallbackInv (.begin late) where
  looked := fun hlooked => nomatch hlooked
  raising := fun hpc => by simp [Callback.begin] at hpc
  switched := rfl
  ret := rfl

/-- Before the look at the song nothing has happened. -/
theorem callbackInv_of_asking {callback : Callback} (hlooked : callback.lookedFirst = false)
    (hpc : callback.pc ≠ .writeSong ∧ callback.pc ≠ .setAlert)
    (hswitched : callback.switched = false) (hret : callback.ret = false) :
    CallbackInv callback where
  looked := fun hset => by rw [hlooked] at hset; cases hset
  raising := fun hset => hset.elim (fun h => absurd h hpc.1) fun h => absurd h hpc.2
  switched := by simp [Callback.raises, hlooked, hswitched]
  ret := by simp [Callback.raises, hlooked, hret]

/-- After the answer all three records agree. -/
theorem callbackInv_of_answered {callback : Callback} (hpc : callback.pc.answered = true)
    (hswitched : callback.switched = callback.raises) (hret : callback.ret = callback.raises) :
    CallbackInv callback where
  looked := fun _ => .inr (.inr hpc)
  raising := fun hset => by
    obtain h | h := hset
    · rw [h] at hpc
      cases hpc
    · rw [h] at hpc
      cases hpc
  switched := by
    rw [hswitched]
    cases hwrite : callback.pc
    case writeSong => rw [hwrite] at hpc; cases hpc
    all_goals simp
  ret := by rw [hret, hpc, Bool.and_true]

theorem CallbackInv.before_look {callback : Callback} (h : CallbackInv callback)
    (hpc : callback.pc ≠ .writeSong ∧ callback.pc ≠ .setAlert)
    (hanswered : callback.pc.answered = false) :
    callback.lookedFirst = false ∧ callback.switched = false ∧ callback.ret = false := by
  have hlooked : callback.lookedFirst = false := by
    rw [← Bool.not_eq_true]
    intro hset
    obtain hwrite | halert | hbefore := h.looked hset
    · exact hpc.1 hwrite
    · exact hpc.2 halert
    · rw [hanswered] at hbefore
      cases hbefore
  have hswitched := h.switched
  have hret := h.ret
  simp only [Callback.raises, hlooked, Bool.false_and] at hswitched hret
  exact ⟨hlooked, hswitched, hret⟩

theorem CallbackInv.after_answer {callback : Callback} (h : CallbackInv callback)
    (hanswered : callback.pc.answered = true) :
    callback.switched = callback.raises ∧ callback.ret = callback.raises := by
  have hswitched := h.switched
  have hret := h.ret
  rw [hanswered, Bool.and_true] at hret
  refine ⟨?_, hret⟩
  cases hwrite : callback.pc
  case writeSong => rw [hwrite] at hanswered; cases hanswered
  all_goals simpa [hwrite] using hswitched

/-- What a step of a call does to what others see of it, and to the shared variables. -/
structure Advanced (shared : SpeakerShared) (callback : Callback) (shared' : SpeakerShared)
    (next : Callback) : Prop where
  latch : shared'.deviceAlertState =
    if callback.pc = .writeLatch then callback.ret else shared.deviceAlertState
  song : shared'.currentSong =
    if callback.pc = .writeSong then emergencySong else shared.currentSong
  switched : next.switched = (callback.switched || callback.pc = .writeSong)
  late : next.late = callback.late
  /-- A call begins to ask only when it has found the latch not set. -/
  asking : next.pc.asking = true →
    callback.pc.asking = true ∨ shared.deviceAlertState = false
  post : next.post =
    if callback.pc = .readLatch then some ⟨callback.sensorValue, shared.deviceAlertState⟩
    else callback.post

section OneStep

variable {shared shared' : SpeakerShared} {songChanged : Bool} {callback next : Callback}
  {reading : Int} {reply : String}

theorem advance_advanced
    (h : advance shared songChanged callback reading reply = some (shared', next)) :
    Advanced shared callback shared' next := by
  cases hpc : callback.pc
  all_goals simp only [advance, hpc] at h
  case testLatch =>
      cases h
      refine ⟨by simp [hpc], by simp [hpc], by simp [hpc], rfl, fun hasking => ?_, by simp [hpc]⟩
      cases hlatch : shared.deviceAlertState with
      | true => simp [hlatch, SpeakerPc.asking] at hasking
      | false => exact Or.inr rfl
  case lock | lockValue =>
      split at h
      · cases h
      · cases h
        exact ⟨by simp [hpc], by simp [hpc], by simp [hpc], rfl, by simp [hpc, SpeakerPc.asking],
          by simp [hpc]⟩
  case done => cases h
  all_goals
    cases h
    exact ⟨by simp [hpc], by simp [hpc], by simp [hpc], rfl, by simp [hpc, SpeakerPc.asking],
      by simp [hpc]⟩

/-- Who finds the song not changed yet, and it warm or the key `1`, goes on to change it. -/
theorem switchesSong_of_songChanged
    (hsong : shared.currentSong = if songChanged then emergencySong else normalSong)
    (temperature : Int) (alertValue : String) :
    switchesSong shared.currentSong temperature alertValue =
      (!songChanged && (temperWarning < temperature || alertValue = "1")) := by
  rw [hsong]
  cases songChanged with
  | true => simp [switchesSong]
  | false => simp [switchesSong, normalSong, emergencySong]

/-- Every step of a call keeps what holds of it. -/
theorem CallbackInv.advance (h : CallbackInv callback)
    (hsong : shared.currentSong = if songChanged then emergencySong else normalSong)
    (hstep : advance shared songChanged callback reading reply = some (shared', next)) :
    CallbackInv next := by
  cases hpc : callback.pc
  all_goals simp only [Speaker.advance, hpc] at hstep
  case testLatch | readTemper | getAlert | unlock =>
      obtain ⟨hlooked, hswitched, hret⟩ := h.before_look (by simp [hpc]) (by rw [hpc]; rfl)
      cases hstep
      refine callbackInv_of_asking hlooked ?_ hswitched hret
      cases shared.deviceAlertState <;> simp
  case lock =>
      obtain ⟨hlooked, hswitched, hret⟩ := h.before_look (by simp [hpc]) (by rw [hpc]; rfl)
      split at hstep
      · cases hstep
      · cases hstep
        exact callbackInv_of_asking hlooked (by simp) hswitched hret
  case testSong =>
      obtain ⟨-, hswitched, hret⟩ := h.before_look (by simp [hpc]) (by rw [hpc]; rfl)
      cases hstep
      rw [switchesSong_of_songChanged hsong]
      split
      · rename_i hraises
        exact ⟨fun _ => .inl rfl, fun _ => hraises, by simp [hswitched],
          by simp [hret, SpeakerPc.answered]⟩
      · rename_i hraises
        rw [Bool.not_eq_true] at hraises
        refine callbackInv_of_answered rfl ?_ ?_
        · exact hswitched.trans hraises.symm
        · exact hret.trans hraises.symm
  case writeSong =>
      have hraises := h.raising (.inl hpc)
      have hret := h.ret
      rw [hpc, show SpeakerPc.answered .writeSong = false from rfl, Bool.and_false] at hret
      cases hstep
      exact ⟨fun _ => .inr (.inl rfl), fun _ => hraises,
        by simpa [Callback.raises] using hraises, by simp [hret, SpeakerPc.answered]⟩
  case setAlert =>
      have hraises := h.raising (.inr hpc)
      have hswitched := h.switched
      rw [hpc, hraises] at hswitched
      cases hstep
      exact callbackInv_of_answered rfl (hswitched.trans hraises.symm) hraises.symm
  case writeLatch | readValue | unlockValue | readLatch =>
      obtain ⟨hswitched, hret⟩ := h.after_answer (by rw [hpc]; rfl)
      cases hstep
      exact callbackInv_of_answered rfl hswitched hret
  case lockValue =>
      obtain ⟨hswitched, hret⟩ := h.after_answer (by rw [hpc]; rfl)
      split at hstep
      · cases hstep
      · cases hstep
        exact callbackInv_of_answered rfl hswitched hret
  case done => cases hstep

/-- A call becomes one which raised the alarm when it assigns the latch. -/
theorem CallbackInv.raised_advance (h : CallbackInv callback)
    (hstep : Speaker.advance shared songChanged callback reading reply = some (shared', next)) :
    next.raised = if callback.pc = .writeLatch then callback.raises else callback.raised := by
  cases hpc : callback.pc
  all_goals simp only [Speaker.advance, hpc] at hstep
  case testLatch =>
      obtain ⟨hlooked, -, -⟩ := h.before_look (by simp [hpc]) (by rw [hpc]; rfl)
      cases hstep
      simp [Callback.raised, Callback.raises, hlooked]
  case lock | lockValue =>
      split at hstep
      · cases hstep
      · cases hstep
        simp [Callback.raised, Callback.raises, hpc, SpeakerPc.asking]
  case testSong =>
      cases hstep
      split <;> simp [Callback.raised, hpc, SpeakerPc.asking]
  case done => cases hstep
  all_goals
    cases hstep
    simp [Callback.raised, Callback.raises, hpc, SpeakerPc.asking]

end OneStep

/-! ## All calls -/

/-- What the next step of the call at a position does. -/
theorem speakerStep_advance {s t : SpeakerState} {index : Nat} {reading : Int} {reply : String}
    (h : speakerStep s (.advance index reading reply) = some t) :
    ∃ callback shared next, s.callbacks[index]? = some callback ∧
      advance s.shared s.songChanged callback reading reply = some (shared, next) ∧
      t = {
        shared := shared
        callbacks := s.callbacks.set index next
        switchedFinished := s.switchedFinished || (next.pc = .done && next.switched) } := by
  rw [speakerStep] at h
  cases hcallback : s.callbacks[index]? with
  | none =>
      rw [hcallback] at h
      cases h
  | some callback =>
      rw [hcallback] at h
      dsimp only at h
      cases hadvance : advance s.shared s.songChanged callback reading reply with
      | none =>
          rw [hadvance] at h
          cases h
      | some result =>
          rw [hadvance] at h
          cases h
          exact ⟨callback, result.1, result.2, rfl, hadvance, rfl⟩

/-- Whether some call of a list has a property, after one of them took a step. -/
theorem any_set {callbacks : List Callback} {index : Nat} {callback next : Callback}
    (hcallback : callbacks[index]? = some callback) (test : Callback → Bool) (now : Bool)
    (hnext : test next = (test callback || now)) :
    (callbacks.set index next).any test = (callbacks.any test || now) := by
  induction callbacks generalizing index with
  | nil => cases hcallback
  | cons first rest ih =>
      cases index with
      | zero =>
          cases hcallback
          simp only [List.set_cons_zero, List.any_cons, hnext]
          ac_rfl
      | succ index =>
          simp only [List.set_cons_succ, List.any_cons, ih hcallback]
          ac_rfl

/-- What holds in every run: the song says whether a call has changed it. -/
structure AnswerInv (s : SpeakerState) : Prop where
  callbacks : ∀ callback ∈ s.callbacks, CallbackInv callback
  song : s.shared.currentSong = if s.songChanged then emergencySong else normalSong

/-- What holds in every guarded run: the latch says whether a call has raised the alarm. -/
structure LatchInv (s : SpeakerState) : Prop extends AnswerInv s where
  latch : s.shared.deviceAlertState = s.callbacks.any Callback.raised
  finished : s.switchedFinished = true → s.shared.deviceAlertState = true
  /-- A late call finds the latch set and does not ask again. -/
  late : ∀ callback ∈ s.callbacks, callback.late = true →
    s.shared.deviceAlertState = true ∧ callback.pc.asking = false
  reported : AlarmReported s

theorem latchInv_initial : LatchInv .initial where
  callbacks := fun _ hmem => absurd hmem List.not_mem_nil
  song := rfl
  latch := rfl
  finished := fun hfinished => nomatch hfinished
  late := fun _ hmem => absurd hmem List.not_mem_nil
  reported := fun _ hmem => absurd hmem List.not_mem_nil

theorem AnswerInv.step {s t : SpeakerState} {event : SpeakerEvent} (h : AnswerInv s)
    (hstep : speakerStep s event = some t) : AnswerInv t := by
  cases event with
  | begin =>
      cases hstep
      refine ⟨fun callback hmem => ?_, ?_⟩
      · obtain hold | hnew := List.mem_append.mp hmem
        · exact h.callbacks callback hold
        · rw [List.mem_singleton.mp hnew]
          exact callbackInv_begin _
      · simpa [SpeakerState.songChanged, Callback.begin] using h.song
  | advance index reading reply =>
      obtain ⟨callback, shared, next, hcallback, hadvance, rfl⟩ := speakerStep_advance hstep
      have hself := h.callbacks callback (List.mem_of_getElem? hcallback)
      have hadvanced := advance_advanced hadvance
      refine ⟨fun other hmem => ?_, ?_⟩
      · obtain hold | rfl := List.mem_or_eq_of_mem_set hmem
        · exact h.callbacks other hold
        · exact hself.advance h.song hadvance
      · rw [hadvanced.song, SpeakerState.songChanged,
          any_set hcallback _ _ hadvanced.switched, h.song, SpeakerState.songChanged]
        by_cases hpc : callback.pc = .writeSong
        · simp [hpc]
        · simp [hpc]

/-- A step keeps the latch exactly under its condition. -/
theorem LatchInv.keepsLatch_iff {s : SpeakerState} (h : LatchInv s) (event : SpeakerEvent) :
    KeepsLatch s event ↔ LatchCondition s event := by
  have hnone : s.shared.deviceAlertState = false ↔ ∀ other ∈ s.callbacks, other.raised = false := by
    rw [h.latch, List.any_eq_false]
    simp only [Bool.not_eq_true]
  cases event with
  | begin =>
      refine iff_of_true (fun t hstep hset => ?_) trivial
      cases hstep
      exact hset
  | advance index reading reply =>
      constructor
      · intro hkeeps callback hcallback hpc
        have hstep : speakerStep s (.advance index reading reply) = some {
            shared := { s.shared with deviceAlertState := callback.ret }
            callbacks := s.callbacks.set index { callback with pc := .lockValue }
            switchedFinished := s.switchedFinished || false } := by
          simp [speakerStep, Option.mem_def.mp hcallback, advance, hpc]
        have hret := (h.callbacks callback
          (List.mem_of_getElem? (Option.mem_def.mp hcallback))).after_answer (by rw [hpc]; rfl)
        cases hlatch : s.shared.deviceAlertState with
        | true => exact .inl (hret.2.symm.trans (hkeeps _ hstep hlatch))
        | false => exact .inr (hnone.mp hlatch)
      · intro hcondition t hstep hset
        obtain ⟨callback, shared, next, hcallback, hadvance, rfl⟩ := speakerStep_advance hstep
        have hself := h.callbacks callback (List.mem_of_getElem? hcallback)
        dsimp only
        rw [(advance_advanced hadvance).latch]
        split
        · rename_i hpc
          obtain hraises | hunraised := hcondition callback hcallback hpc
          · exact (hself.after_answer (by rw [hpc]; rfl)).2.trans hraises
          · rw [hnone.mpr hunraised] at hset
            cases hset
        · exact hset

/-- Every step which keeps the latch preserves the invariant. -/
theorem LatchInv.step {s t : SpeakerState} {event : SpeakerEvent} (h : LatchInv s)
    (hkeeps : KeepsLatch s event) (hstep : speakerStep s event = some t) : LatchInv t := by
  have hanswers := h.toAnswerInv.step hstep
  have hcondition := (h.keepsLatch_iff event).mp hkeeps
  have hkept := hkeeps t hstep
  cases event with
  | begin =>
      cases hstep
      refine ⟨hanswers, ?_, h.finished, fun callback hmem hlate => ?_, fun callback hmem => ?_⟩
      · simpa [Callback.begin, Callback.raised, Callback.raises] using h.latch
      · obtain hold | hnew := List.mem_append.mp hmem
        · exact h.late callback hold hlate
        · rw [List.mem_singleton.mp hnew] at hlate ⊢
          exact ⟨h.finished hlate, rfl⟩
      · obtain hold | hnew := List.mem_append.mp hmem
        · exact h.reported callback hold
        · rw [List.mem_singleton.mp hnew]
          intro _ post hpost
          cases hpost
  | advance index reading reply =>
      obtain ⟨callback, shared, next, hcallback, hadvance, rfl⟩ := speakerStep_advance hstep
      have hmem := List.mem_of_getElem? hcallback
      have hself := h.callbacks callback hmem
      have hmemNext : next ∈ s.callbacks.set index next :=
        List.mem_set (List.getElem?_eq_some_iff.mp hcallback).1 next
      have hnext := hanswers.callbacks next hmemNext
      have hadvanced := advance_advanced hadvance
      have hlatch : shared.deviceAlertState = (s.callbacks.set index next).any Callback.raised := by
        have hraised : next.raised =
            (callback.raised || (callback.pc = .writeLatch && callback.raises)) := by
          rw [hself.raised_advance hadvance]
          by_cases hpc : callback.pc = .writeLatch
          · simp [hpc, Callback.raised, SpeakerPc.asking]
          · simp [hpc]
        rw [any_set hcallback _ _ hraised, hadvanced.latch]
        by_cases hpc : callback.pc = .writeLatch
        · -- the answer of the call is what it should be, and the latch says nothing else
          rw [if_pos hpc, (hself.after_answer (by rw [hpc]; rfl)).2]
          obtain hraises | hunraised := hcondition callback hcallback hpc
          · simp [hpc, hraises]
          · have hnone : s.callbacks.any Callback.raised = false :=
              List.any_eq_false.mpr fun other hother => by simp [hunraised other hother]
            simp [hpc, hnone]
        · simp [hpc, h.latch]
      refine ⟨hanswers, hlatch, fun hfinished => ?_, fun other hother hlate => ?_,
        fun other hother hlate post hpost => ?_⟩
      · dsimp only at hfinished
        rw [Bool.or_eq_true, Bool.and_eq_true, decide_eq_true_eq] at hfinished
        obtain hbefore | ⟨hdone, hswitched⟩ := hfinished
        · exact hkept (h.finished hbefore)
        · -- a call which is over and changed the song raised the alarm
          have hraises := (hnext.after_answer (by rw [hdone]; rfl)).1.symm.trans hswitched
          have hraised : next.raised = true := by
            simp [Callback.raised, hraises, hdone, SpeakerPc.asking]
          exact hlatch.trans (List.any_eq_true.mpr ⟨next, hmemNext, hraised⟩)
      · obtain hold | rfl := List.mem_or_eq_of_mem_set hother
        · exact ⟨hkept (h.late other hold hlate).1, (h.late other hold hlate).2⟩
        · obtain ⟨hset, hnot⟩ := h.late callback hmem (hadvanced.late ▸ hlate)
          refine ⟨hkept hset, Bool.eq_false_iff.mpr fun hasking => ?_⟩
          obtain hbefore | hunset := hadvanced.asking hasking
          · rw [hnot] at hbefore
            cases hbefore
          · rw [hset] at hunset
            cases hunset
      · obtain hold | rfl := List.mem_or_eq_of_mem_set hother
        · exact h.reported other hold hlate post hpost
        · have hlateBefore : callback.late = true := hadvanced.late ▸ hlate
          rw [hadvanced.post] at hpost
          split at hpost
          · cases hpost
            exact (h.late callback hmem hlateBefore).1
          · exact h.reported callback hmem hlateBefore post hpost

/-- In a run which keeps the latch at every step the alarm is reported throughout. -/
theorem reported_of_keepsLatch {events : List SpeakerEvent}
    (h : Guarded speakerStep KeepsLatch .initial events) :
    Throughout speakerStep AlarmReported .initial events := by
  intro before hbefore s hrun
  have hinv := h.throughout (fun _ _ _ hs hkeeps hstep => LatchInv.step hs hkeeps hstep)
    latchInv_initial before hbefore s hrun
  exact hinv.reported

/-- **The alarm latch.**  Over any sequence of steps the latch is never reset and whoever
begins after a call which raised the alarm posts an alert, if and only if every step meets
the condition. -/
theorem latch_run_iff (events : List SpeakerEvent) :
    (Guarded speakerStep KeepsLatch .initial events ∧
        Throughout speakerStep AlarmReported .initial events) ↔
      Guarded speakerStep LatchCondition .initial events := by
  have hguards := Guarded.congr (fun _ _ _ hs hkeeps hstep => LatchInv.step hs hkeeps hstep)
    (fun _ event hs => LatchInv.keepsLatch_iff hs event) latchInv_initial events
  exact ⟨fun h => hguards.mp h.1,
    fun h => ⟨hguards.mpr h, reported_of_keepsLatch (hguards.mpr h)⟩⟩

/-! ## Two callbacks -/

/-- The next steps of one call, while it is warm. -/
def steps (index count : Nat) : List SpeakerEvent :=
  List.replicate count (.advance index 30000 "0")

/-- One callback raises the alarm, another one which asked at the same time was through
before it, and a third one reports it. -/
example : Guarded speakerStep LatchCondition .initial
    (.begin :: .begin :: steps 0 7 ++ steps 1 10 ++ steps 0 6 ++ .begin :: steps 2 5) := by
  decide

/-- The callback which finds it warm, when it is over. -/
def alarmCallback : Callback :=
  ⟨.done, 30000, "0", true, 30000, some ⟨30000, true⟩, true, true, false⟩

/-- A callback which came too late to change the song, when it is over. -/
def lateCallback (late : Bool) : Callback :=
  ⟨.done, 30000, "0", false, 30000, some ⟨30000, false⟩, false, false, late⟩

/-- A second callback asks before the first one has assigned its answer, and assigns after
it; a third one begins when both are over. -/
def raceEvents : List SpeakerEvent :=
  .begin :: .begin :: steps 0 5 ++ steps 1 5 ++ steps 0 8 ++ steps 1 6 ++ .begin :: steps 2 11

/-- The second callback resets the latch.  The song is the emergency announcement, so no
callback ever sets it again. -/
theorem race_resets_latch :
    ¬∀ events, Guarded speakerStep KeepsLatch .initial events ∧
      Throughout speakerStep AlarmReported .initial events := by
  intro h
  have hreaches : run speakerStep .initial raceEvents =
      some ⟨⟨emergencySong, false, false⟩,
        [alarmCallback, lateCallback false, lateCallback true], true⟩ := by decide
  have hreported := (h raceEvents).2 raceEvents (List.prefix_refl _) _ hreaches
    (lateCallback true) (by decide) rfl _ rfl
  cases hreported

end Speaker
end FireEvacuation
