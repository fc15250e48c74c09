import FireEvacuation.Clients.LockDiscipline

/-!
# The callbacks of the two clients

One call of `getPostValue`, step by step: a thread stands before the step of the name and
carries the local variables which are read later on.  The connection is one step, since no
part of it touches the lock.

Three steps break the discipline: an exception between lock and unlock, the text of a reply
without one, and `SET alert 1` of the speaker, which comes after the unlock.
-/

namespace FireEvacuation
namespace Clients

open FireEvacuation.Core Redis Speaker

/-- What the outside answers to a step: how a connection is made, what the probe reads and
the reply to a command.  A step uses the answer it asks for. -/
structure Answer where
  connect : Connection
  reading : Except String Int
  reply : Option Reply

/-- `m_context` after the branches on the result of `redisConnectWithTimeout`. -/
def connectedContext : Connection → Context
  | .null => .null
  | .err => .freed
  | .connected => .live

/-! ## The speaker -/

structure SpeakerVars where
  context : Context
  currentSong : String
  deviceAlertState : Bool
  deriving DecidableEq

def SpeakerVars.initial : SpeakerVars := ⟨.null, normalSong, false⟩

inductive SpeakerThread where
  | testLatch (host : String)
  | testContext (host : String)
  | connect (host : String)
  | lock
  | readTemper
  | getAlert (temperature : Int)
  | readText (temperature : Int) (reply : Reply)
  | unlock (temperature : Int) (alertValue : String)
  | testSong (temperature : Int) (alertValue : String)
  | writeSong
  | setAlert
  | writeLatch (ret : Bool)
  | lockValue
  | readValue
  | unlockValue (value : Int)
  | readLatch (value : Int)
  | done (post : SpeakerPost)
  | thrown
  | crashed
  deriving DecidableEq

/-- Between `_temper_lock.lock()` and `_temper_lock.unlock()`. -/
def SpeakerThread.holding : SpeakerThread → Bool
  | .readTemper | .getAlert _ | .readText _ _ | .unlock _ _ | .readValue | .unlockValue _ => true
  | _ => false

/-- One step of `getPostValue`. -/
def speakerAdvance (self : Nat) (s : Watched SpeakerVars) (thread : SpeakerThread)
    (answer : Answer) : Option (Watched SpeakerVars × SpeakerThread) :=
  match thread with
  | .testLatch host =>
      some (s, if s.vars.deviceAlertState then .lockValue else .testContext host)
  | .testContext host => some (s, if s.vars.context = .null then .connect host else .lock)
  | .connect host =>
      match hostAddress host with
      | none => some (s, .writeLatch false)
      -- only a null pointer goes on to the commands
      | some _ =>
          some (s.setVars { s.vars with context := connectedContext answer.connect },
            if answer.connect = .null then .lock else .writeLatch false)
  | .lock => (s.lock self).map fun t => (t, .readTemper)
  | .readTemper =>
      match answer.reading with
      | .ok temperature => some (s, .getAlert temperature)
      -- the exception leaves the lock as it is
      | .error _ => some (s, .thrown)
  | .getAlert temperature =>
      match answer.reply with
      | some reply => some (s.send self, .readText temperature reply)
      | none => some (s.send self, .thrown)
  | .readText temperature reply =>
      match reply.str with
      | some alertValue => some (s.readText reply, .unlock temperature alertValue)
      | none => some (s.readText reply, .crashed)
  | .unlock temperature alertValue => some (s.unlock, .testSong temperature alertValue)
  | .testSong temperature alertValue =>
      some (s, if switchesSong s.vars.currentSong temperature alertValue then .writeSong
        else .writeLatch false)
  | .writeSong => some (s.setVars { s.vars with currentSong := emergencySong }, .setAlert)
  | .setAlert =>
      match answer.reply with
      | some _ => some (s.send self, .writeLatch true)
      | none => some (s.send self, .thrown)
  | .writeLatch ret => some (s.setVars { s.vars with deviceAlertState := ret }, .lockValue)
  | .lockValue => (s.lock self).map fun t => (t, .readValue)
  | .readValue =>
      match answer.reading with
      | .ok value => some (s, .unlockValue value)
      | .error _ => some (s, .thrown)
  | .unlockValue value => some (s.unlock, .readLatch value)
  | .readLatch value => some (s, .done ⟨value, s.vars.deviceAlertState⟩)
  | .done _ | .thrown | .crashed => none

/-- The callbacks of the speaker, each of which starts with the host of the resource. -/
def speakerSystem : ThreadSystem (Watched SpeakerVars) SpeakerThread String Answer Empty where
  start := fun s host => some (s, .testLatch host)
  advance := speakerAdvance
  environment := fun _ event => nomatch event

/-- The answers which do not break the discipline. -/
def SpeakerThread.keepsLock (thread : SpeakerThread) (answer : Answer) : Bool :=
  match thread with
  | .readTemper | .readValue => answer.reading.toOption.isSome
  | .getAlert _ => answer.reply.isSome
  | .readText _ reply => reply.str.isSome
  -- whatever the answer is, the command is sent after the unlock
  | .setAlert => false
  | _ => true

/-! ## The LED -/

structure LedVars where
  context : Context
  /-- `m_value` of the `GenericControl`. -/
  value : Int
  deriving DecidableEq

inductive LedThread where
  | testContext (host : String)
  | connect (host : String)
  | lock
  | getAlert
  | readText (reply : Reply)
  | unlock (alertValue : String)
  | setValue (alertValue : String)
  | build (ret : Bool)
  | done (alertState : Bool)
  | thrown
  | crashed
  deriving DecidableEq

/-- Between `_led_lock.lock()` and `_led_lock.unlock()`. -/
def LedThread.holding : LedThread → Bool
  | .getAlert | .readText _ | .unlock _ => true
  | _ => false

/-- What `getAlertStatus` sets the LED to. -/
def ledValue (alertValue : String) : Int := if alertValue = "1" then 2 else 3

/-- One step of `getPostValue`. -/
def ledAdvance (self : Nat) (s : Watched LedVars) (thread : LedThread) (answer : Answer) :
    Option (Watched LedVars × LedThread) :=
  match thread with
  | .testContext host => some (s, if s.vars.context = .null then .connect host else .lock)
  | .connect host =>
      match hostAddress host with
      | none => some (s, .build false)
      | some _ =>
          some (s.setVars { s.vars with context := connectedContext answer.connect },
            if answer.connect = .null then .lock else .build false)
  | .lock => (s.lock self).map fun t => (t, .getAlert)
  | .getAlert =>
      match answer.reply with
      | some reply => some (s.send self, .readText reply)
      | none => some (s.send self, .thrown)
  | .readText reply =>
      match reply.str with
      | some alertValue => some (s.readText reply, .unlock alertValue)
      | none => some (s.readText reply, .crashed)
  -- the value is acted on after the unlock
  | .unlock alertValue => some (s.unlock, .setValue alertValue)
  | .setValue alertValue =>
      some (s.setVars { s.vars with value := ledValue alertValue }, .build (alertValue = "1"))
  | .build ret => some (s, .done ret)
  | .done _ | .thrown | .crashed => none

/-- The callbacks of the LED. -/
def ledSystem : ThreadSystem (Watched LedVars) LedThread String Answer Empty where
  start := fun s host => some (s, .testContext host)
  advance := ledAdvance
  environment := fun _ event => nomatch event

/-- The answers which do not break the discipline. -/
def LedThread.keepsLock (thread : LedThread) (answer : Answer) : Bool :=
  match thread with
  | .getAlert => answer.reply.isSome
  | .readText reply => reply.str.isSome
  | _ => true

/-! ## Every step is a move or a fault -/

section Steps

variable {self : Nat} {answer : Answer}

theorem speakerAdvance_move {s t : Watched SpeakerVars} {thread next : SpeakerThread}
    (h : speakerAdvance self s thread answer = some (t, next))
    (hkeeps : thread.keepsLock answer = true) :
    LockMove SpeakerThread.holding self s thread t next := by
  cases thread with
  | testLatch host | testContext host | testSong temperature alertValue =>
      unfold speakerAdvance at h
      cases h
      refine .quiet rfl rfl rfl ?_
      split
      · rfl
      · rfl
  | connect host =>
      unfold speakerAdvance at h
      dsimp only at h
      split at h
      · cases h
        exact .quiet rfl rfl rfl rfl
      · cases h
        refine .quiet rfl rfl rfl ?_
        split
        · rfl
        · rfl
  | lock | lockValue =>
      rcases Option.map_eq_some_iff.mp h with ⟨locked, hlock, hnext⟩
      cases hnext
      exact .of_lock hlock rfl
  | readTemper | readValue =>
      unfold speakerAdvance at h
      dsimp only at h
      split at h
      · cases h
        exact .quiet rfl rfl rfl rfl
      · -- the exception is ruled out
        rename_i herror
        simp [SpeakerThread.keepsLock, herror, Except.toOption] at hkeeps
  | getAlert temperature =>
      unfold speakerAdvance at h
      dsimp only at h
      split at h
      · cases h
        exact .inside rfl rfl (.inr ⟨rfl, rfl⟩) (.inl rfl)
      · rename_i hnone
        simp [SpeakerThread.keepsLock, hnone] at hkeeps
  | readText temperature reply =>
      unfold speakerAdvance at h
      dsimp only at h
      split at h
      · rename_i text htext
        cases h
        exact .inside rfl rfl (.inl rfl) (.inr ⟨reply, by simp [htext], rfl⟩)
      · rename_i hnone
        simp [SpeakerThread.keepsLock, hnone] at hkeeps
  | unlock temperature alertValue =>
      cases h
      exact .leave rfl rfl rfl rfl rfl
  | unlockValue value =>
      cases h
      exact .leave rfl rfl rfl rfl rfl
  | writeSong | writeLatch ret | readLatch value =>
      cases h
      exact .quiet rfl rfl rfl rfl
  | setAlert => cases hkeeps
  | done post | thrown | crashed => cases h

theorem speakerAdvance_fault {s t : Watched SpeakerVars} {thread next : SpeakerThread}
    (h : speakerAdvance self s thread answer = some (t, next))
    (hkeeps : thread.keepsLock answer = false) :
    LockFault SpeakerThread.holding self s thread t next := by
  cases thread with
  | readTemper | readValue =>
      unfold speakerAdvance at h
      dsimp only at h
      split at h
      · rename_i hok
        simp [SpeakerThread.keepsLock, hok, Except.toOption] at hkeeps
      · cases h
        exact .keeps rfl rfl rfl
  | getAlert temperature =>
      unfold speakerAdvance at h
      dsimp only at h
      split at h
      · rename_i hsome
        simp [SpeakerThread.keepsLock, hsome] at hkeeps
      · cases h
        exact .keeps rfl rfl rfl
  | readText temperature reply =>
      have hnone : reply.str = none := by
        simpa [SpeakerThread.keepsLock] using hkeeps
      unfold speakerAdvance at h
      dsimp only at h
      rw [hnone] at h
      cases h
      exact .noText reply hnone (by simp [Watched.readText])
  | setAlert =>
      -- with and without a reply
      unfold speakerAdvance at h
      dsimp only at h
      split at h
      · cases h
        exact .unguarded rfl rfl
      · cases h
        exact .unguarded rfl rfl
  | testLatch host | testContext host | connect host | lock | unlock temperature alertValue
  | testSong temperature alertValue | writeSong | writeLatch ret | lockValue
  | unlockValue value | readLatch value | done post | thrown | crashed => cases hkeeps

theorem speaker_lockSteps :
    LockSteps speakerSystem SpeakerThread.holding SpeakerThread.keepsLock where
  start := fun s host t thread h => by
    cases h
    exact ⟨rfl, rfl⟩
  move := fun index s thread answer t next h hkeeps => speakerAdvance_move h hkeeps
  fault := fun index s thread answer t next h hkeeps => speakerAdvance_fault h hkeeps

theorem ledAdvance_move {s t : Watched LedVars} {thread next : LedThread}
    (h : ledAdvance self s thread answer = some (t, next))
    (hkeeps : thread.keepsLock answer = true) :
    LockMove LedThread.holding self s thread t next := by
  cases thread with
  | testContext host =>
      unfold ledAdvance at h
      cases h
      refine .quiet rfl rfl rfl ?_
      split
      · rfl
      · rfl
  | connect host =>
      unfold ledAdvance at h
      dsimp only at h
      split at h
      · cases h
        exact .quiet rfl rfl rfl rfl
      · cases h
        refine .quiet rfl rfl rfl ?_
        split
        · rfl
        · rfl
  | lock =>
      rcases Option.map_eq_some_iff.mp h with ⟨locked, hlock, hnext⟩
      cases hnext
      exact .of_lock hlock rfl
  | getAlert =>
      unfold ledAdvance at h
      dsimp only at h
      split at h
      · cases h
        exact .inside rfl rfl (.inr ⟨rfl, rfl⟩) (.inl rfl)
      · rename_i hnone
        simp [LedThread.keepsLock, hnone] at hkeeps
  | readText reply =>
      unfold ledAdvance at h
      dsimp only at h
      split at h
      · rename_i text htext
        cases h
        exact .inside rfl rfl (.inl rfl) (.inr ⟨reply, by simp [htext], rfl⟩)
      · rename_i hnone
        simp [LedThread.keepsLock, hnone] at hkeeps
  | unlock alertValue =>
      cases h
      exact .leave rfl rfl rfl rfl rfl
  | setValue alertValue | build ret =>
      cases h
      exact .quiet rfl rfl rfl rfl
  | done alertState | thrown | crashed => cases h

theorem ledAdvance_fault {s t : Watched LedVars} {thread next : LedThread}
    (h : ledAdvance self s thread answer = some (t, next))
    (hkeeps : thread.keepsLock answer = false) :
    LockFault LedThread.holding self s thread t next := by
  cases thread with
  | getAlert =>
      unfold ledAdvance at h
      dsimp only at h
      split at h
      · rename_i hsome
        simp [LedThread.keepsLock, hsome] at hkeeps
      · cases h
        exact .keeps rfl rfl rfl
  | readText reply =>
      have hnone : reply.str = none := by
        simpa [LedThread.keepsLock] using hkeeps
      unfold ledAdvance at h
      dsimp only at h
      rw [hnone] at h
      cases h
      exact .noText reply hnone (by simp [Watched.readText])
  | testContext host | connect host | lock | unlock alertValue | setValue alertValue
  | build ret | done alertState | thrown | crashed => cases hkeeps

theorem led_lockSteps : LockSteps ledSystem LedThread.holding LedThread.keepsLock where
  start := fun s host t thread h => by
    cases h
    exact ⟨rfl, rfl⟩
  move := fun index s thread answer t next h hkeeps => ledAdvance_move h hkeeps
  fault := fun index s thread answer t next h hkeeps => ledAdvance_fault h hkeeps

end Steps

/-! ## The result -/

/-- Both clients are disciplined as long as the probe can be read, every `GET alert` is
answered with a text and the speaker does not send its `SET`; the first step which does
otherwise breaks the discipline. -/
theorem disciplined_of_guardedReaches {value : Int}
    {p : Pool (Watched SpeakerVars) SpeakerThread} {q : Pool (Watched LedVars) LedThread}
    (hspeaker : GuardedReaches speakerSystem.step (LockCondition SpeakerThread.keepsLock)
      ⟨.initial .initial, []⟩ p)
    (hled : GuardedReaches ledSystem.step (LockCondition LedThread.keepsLock)
      ⟨.initial ⟨.null, value⟩, []⟩ q) :
    (Disciplined SpeakerThread.holding p ∧ ∀ event p', speakerSystem.step p event = some p' →
      (Disciplined SpeakerThread.holding p' ↔
        LockCondition SpeakerThread.keepsLock p event)) ∧
    (Disciplined LedThread.holding q ∧ ∀ event q', ledSystem.step q event = some q' →
      (Disciplined LedThread.holding q' ↔ LockCondition LedThread.keepsLock q event)) :=
  ⟨speaker_lockSteps.disciplined hspeaker, led_lockSteps.disciplined hled⟩

/-- Nothing fails: the connection is made, it is cold and Redis knows no alert. -/
def calmAnswer : Answer := ⟨.connected, .ok 20000, some (.string "0")⟩

/-- The probe is gone. -/
def noProbeAnswer : Answer := { calmAnswer with reading := .error "cannot open" }

/-- The next steps of one callback. -/
def calmSteps (index count : Nat) : List (PoolEvent String Answer Empty) :=
  List.replicate count (.advance index calmAnswer)

/-- Two callbacks, the first of which connected. -/
def calmSpeaker : Pool (Watched SpeakerVars) SpeakerThread where
  shared := ⟨none, [(1, some 1)], [.string "0"], ⟨.live, normalSong, false⟩⟩
  threads := [.done ⟨20000, false⟩, .done ⟨20000, false⟩]

def calmLed : Pool (Watched LedVars) LedThread where
  shared := ⟨none, [(1, some 1)], [.string "0"], ⟨.live, 3⟩⟩
  threads := [.done false, .done false]

theorem calmSpeaker_reached :
    GuardedReaches speakerSystem.step (LockCondition SpeakerThread.keepsLock)
      ⟨.initial .initial, []⟩ calmSpeaker :=
  ⟨.start "coap://192.168.0.10:5683" :: calmSteps 0 8 ++
    .start "coap://192.168.0.10:5683" :: calmSteps 1 13, by decide, by decide⟩

theorem calmLed_reached :
    GuardedReaches ledSystem.step (LockCondition LedThread.keepsLock)
      ⟨.initial ⟨.null, 0⟩, []⟩ calmLed :=
  ⟨.start "coap://192.168.0.10:5683" :: calmSteps 0 3 ++
    .start "coap://192.168.0.10:5683" :: calmSteps 1 7, by decide, by decide⟩

theorem disciplined_of_guardedReaches_calm :
    (Disciplined SpeakerThread.holding calmSpeaker ∧
      ∀ event p', speakerSystem.step calmSpeaker event = some p' →
        (Disciplined SpeakerThread.holding p' ↔
          LockCondition SpeakerThread.keepsLock calmSpeaker event)) ∧
    (Disciplined LedThread.holding calmLed ∧
      ∀ event q', ledSystem.step calmLed event = some q' →
        (Disciplined LedThread.holding q' ↔ LockCondition LedThread.keepsLock calmLed event)) :=
  disciplined_of_guardedReaches calmSpeaker_reached calmLed_reached

/-- The probe cannot be read by `getDeviceValue`, and the callback is left with the lock. -/
theorem probe_exception_keeps_lock :
    ¬∀ p, Reaches speakerSystem.step ⟨.initial .initial, []⟩ p →
      Disciplined SpeakerThread.holding p := by
  intro h
  have hreaches : Reaches speakerSystem.step ⟨.initial .initial, []⟩
      ⟨⟨some 0, [], [], ⟨.live, normalSong, false⟩⟩, [.thrown]⟩ :=
    ⟨.start "coap://192.168.0.10:5683" :: calmSteps 0 5 ++ [.advance 0 noProbeAnswer],
      by decide⟩
  have hreleased := (h _ hreaches).released 0 .thrown rfl rfl
  cases hreleased

end Clients
end FireEvacuation
