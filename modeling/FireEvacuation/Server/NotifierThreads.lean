import FireEvacuation.Core.Transition
import FireEvacuation.Server.NotifierRound
import FireEvacuation.Server.ObserverAgreement

/-!
# The notifier threads and the flag they share with `Observe`

`m_isStartedThread` tells `Observe` that a notifier thread exists, and tells the thread
to go on.  Nothing protects it.  Here every read and write of the flag, every change of
the list, every notification and every start of a thread is a step of its own, and the
steps of any number of `Observe` calls and threads come in any order.

A notification which throws ends the process, so it has no next state.
-/

namespace FireEvacuation
namespace Server

open FireEvacuation.Core FireEvacuation.Core.Effect Platform Stack

/-- Where a call of `Observe` stands after it changed the list. -/
inductive CallPc where
  /-- before `if(!m_isStartedThread)` -/
  | testing
  /-- before `m_isStartedThread = true;` -/
  | setting
  /-- before `pthread_create` -/
  | starting
  | returned
  deriving DecidableEq, Repr

/-- Where a notifier thread stands. -/
inductive ThreadPc where
  /-- in `sleep`, before the test of the flag -/
  | testing
  | notifying
  /-- before `m_isStartedThread = false;` -/
  | clearing
  | exited
  deriving DecidableEq, Repr

/-- The shared variables, the calls of `Observe` and the threads. -/
structure ThreadsState where
  isStartedThread : Bool
  interestedObservers : List UInt8
  attempts : List UInt8
  calls : List CallPc
  threads : List ThreadPc
  deriving DecidableEq, Repr

/-- Nothing has happened. -/
def ThreadsState.initial : ThreadsState := ⟨false, [], [], [], []⟩

/-- The steps.  Calls and threads are named by their position. -/
inductive ThreadsEvent where
  | observe (observationInfo : ObservationInfo)
  | testFlag (call : Nat)
  | setFlag (call : Nat)
  | startThread (call : Nat)
  | wakeUp (thread : Nat)
  | notify (thread : Nat) (env : RoundEnv)
  | clearFlag (thread : Nat)

/-- The step of a thread which notifies. -/
def notifyStep (s : ThreadsState) (thread : Nat) (env : RoundEnv) : Option ThreadsState :=
  match notifyListOfObservers env s.interestedObservers s.attempts with
  | .ok result attempts =>
      some { s with
        attempts := attempts
        threads := s.threads.set thread
          (if result = .noObservers then .clearing else .testing) }
  | .error _ _ => none

/-- One step. -/
def threadsStep (s : ThreadsState) : ThreadsEvent → Option ThreadsState
  | .observe observationInfo =>
      some { s with
        interestedObservers := observedList observationInfo s.interestedObservers
        calls := s.calls ++ [.testing] }
  | .testFlag call =>
      if s.calls[call]? = some .testing then
        some { s with
          calls := s.calls.set call (if s.isStartedThread then .returned else .setting) }
      else none
  | .setFlag call =>
      if s.calls[call]? = some .setting then
        some { s with isStartedThread := true, calls := s.calls.set call .starting }
      else none
  | .startThread call =>
      if s.calls[call]? = some .starting then
        some { s with calls := s.calls.set call .returned, threads := s.threads ++ [.testing] }
      else none
  | .wakeUp thread =>
      if s.threads[thread]? = some .testing then
        some { s with
          threads := s.threads.set thread (if s.isStartedThread then .notifying else .exited) }
      else none
  | .notify thread env =>
      if s.threads[thread]? = some .notifying then notifyStep s thread env else none
  -- the thread does not exit: it tests the flag again
  | .clearFlag thread =>
      if s.threads[thread]? = some .clearing then
        some { s with isStartedThread := false, threads := s.threads.set thread .testing }
      else none

/-! ## What the threads promise -/

/-- The thread will still send a notification. -/
def willSend (isStartedThread : Bool) : ThreadPc → Bool
  | .testing => isStartedThread
  | .notifying => true
  | .clearing | .exited => false

/-- The call is about to start a thread. -/
def aboutToStart (isStartedThread : Bool) : CallPc → Bool
  | .testing => !isStartedThread
  | .setting | .starting => true
  | .returned => false

/-- At most one thread will still send a notification. -/
def OneSender (s : ThreadsState) : Prop :=
  s.threads.countP (willSend s.isStartedThread) ≤ 1

/-- Whoever is registered is served by such a thread, or one is about to be started. -/
def ObserversServed (s : ThreadsState) : Prop :=
  s.interestedObservers ≠ [] →
    (∃ pc ∈ s.threads, willSend s.isStartedThread pc = true) ∨
      ∃ pc ∈ s.calls, aboutToStart s.isStartedThread pc = true

/-- A round for nobody ends with clearing the flag. -/
def ClearsWhenEmpty (s t : ThreadsState) (thread : Nat) : Prop :=
  s.interestedObservers = [] → t.threads[thread]? = some .clearing

/-- A round is made for somebody, and somebody is notified. -/
def SomeoneNotified (s : ThreadsState) (env : RoundEnv) : Prop :=
  s.interestedObservers ≠ [] ∧ (roundAnswer env s.interestedObservers).1 ≠ .noObservers

/-- The condition on a step: no round for nobody or without a notification, and no two
calls of `Observe` between their test of the flag and their `pthread_create`. -/
def ThreadsCondition (s : ThreadsState) : ThreadsEvent → Prop
  | .testFlag _ => s.isStartedThread = false → ∀ pc ∈ s.calls, pc = .testing ∨ pc = .returned
  | .notify _ env => SomeoneNotified s env
  | _ => True

/-! ## The invariant -/

/-- The threads which have not exited. -/
def alive (threads : List ThreadPc) : Nat := threads.countP (· ≠ .exited)

/-- What holds in every guarded run: the flag is set exactly while one thread exists or is
being started, and whoever is registered has it set or will have it tested. -/
structure ThreadsInv (s : ThreadsState) : Prop where
  noClearing : s.threads.count .clearing = 0
  started : s.isStartedThread = true →
    s.calls.count .setting = 0 ∧ s.calls.count .starting + alive s.threads = 1
  stopped : s.isStartedThread = false →
    s.calls.count .setting ≤ 1 ∧ s.calls.count .starting + alive s.threads = 0
  tested : s.interestedObservers ≠ [] → s.isStartedThread = false →
    0 < s.calls.count .testing + s.calls.count .setting

theorem threadsInv_initial : ThreadsInv .initial := by
  constructor <;> simp [ThreadsState.initial, alive]

section Counting

variable {α : Type} {l : List α} {i : Nat} {a : α}

/-- Replacing one element moves it from one count to another. -/
theorem countP_set_of_getElem? (h : l[i]? = some a) (p : α → Bool) (b : α) :
    (l.set i b).countP p + (if p a then 1 else 0) = l.countP p + (if p b then 1 else 0) := by
  obtain ⟨hi, rfl⟩ := List.getElem?_eq_some_iff.mp h
  rw [List.countP_set hi]
  have hle : (if p l[i] = true then 1 else 0) ≤ l.countP p := by
    split
    · rename_i hp
      exact List.countP_pos_iff.mpr ⟨l[i], List.getElem_mem hi, hp⟩
    · exact Nat.zero_le _
  omega

theorem count_set_of_getElem? [DecidableEq α] (h : l[i]? = some a) (x b : α) :
    (l.set i b).count x + (if a = x then 1 else 0) = l.count x + (if b = x then 1 else 0) := by
  have hcount := countP_set_of_getElem? h (· == x) b
  simpa only [List.count, beq_iff_eq] using hcount

end Counting

section Steps

variable {s : ThreadsState}

theorem ThreadsInv.observe (h : ThreadsInv s) (observationInfo : ObservationInfo) :
    ThreadsInv { s with
      interestedObservers := observedList observationInfo s.interestedObservers
      calls := s.calls ++ [.testing] } := by
  refine ⟨h.noClearing, fun hflag => ?_, fun hflag => ?_, fun _ _ => ?_⟩
  · simpa using h.started hflag
  · simpa using h.stopped hflag
  · simp only [List.count_append, List.count_singleton_self]
    omega

/-- The condition keeps a second call from testing while one is about to start a thread. -/
theorem ThreadsInv.testFlag (h : ThreadsInv s) {call : Nat}
    (hcall : s.calls[call]? = some .testing)
    (hcondition : s.isStartedThread = false → ∀ pc ∈ s.calls, pc = .testing ∨ pc = .returned) :
    ThreadsInv { s with
      calls := s.calls.set call (if s.isStartedThread then .returned else .setting) } := by
  cases hflag : s.isStartedThread with
  | true =>
      have hsetting := count_set_of_getElem? hcall .setting .returned
      have hstarting := count_set_of_getElem? hcall .starting .returned
      have hstarted := h.started hflag
      simp only [reduceCtorEq, if_false, Nat.add_zero] at hsetting hstarting
      refine ⟨h.noClearing, fun _ => ?_, fun hno => ?_, fun _ hno => ?_⟩
      · simp only [if_true, hsetting, hstarting]
        exact hstarted
      · cases hno
      · cases hno
  | false =>
      have hnone : s.calls.count .setting = 0 := by
        rw [List.count_eq_zero]
        intro hmem
        obtain hpc | hpc := hcondition hflag _ hmem <;> cases hpc
      have hsetting := count_set_of_getElem? hcall .setting .setting
      have hstarting := count_set_of_getElem? hcall .starting .setting
      have hstopped := h.stopped hflag
      simp only [reduceCtorEq, if_true, if_false, Nat.add_zero] at hsetting hstarting
      refine ⟨h.noClearing, fun hno => ?_, fun _ => ?_, fun _ _ => ?_⟩
      · cases hno
      · simp only [Bool.false_eq_true, if_false, hsetting, hstarting]
        omega
      · simp only [Bool.false_eq_true, if_false, hsetting]
        omega

theorem ThreadsInv.setFlag (h : ThreadsInv s) {call : Nat}
    (hcall : s.calls[call]? = some .setting) :
    ThreadsInv { s with isStartedThread := true, calls := s.calls.set call .starting } := by
  have hpos : 0 < s.calls.count .setting :=
    List.count_pos_iff.mpr (List.mem_of_getElem? hcall)
  have hflag : s.isStartedThread = false := by
    cases hflag : s.isStartedThread with
    | false => rfl
    | true =>
        have hstarted := h.started hflag
        omega
  have hsetting := count_set_of_getElem? hcall .setting .starting
  have hstarting := count_set_of_getElem? hcall .starting .starting
  have hstopped := h.stopped hflag
  simp only [reduceCtorEq, if_true, if_false, Nat.add_zero] at hsetting hstarting
  refine ⟨h.noClearing, fun _ => ?_, fun hno => ?_, fun _ hno => ?_⟩
  · dsimp only
    omega
  · cases hno
  · cases hno

theorem ThreadsInv.startThread (h : ThreadsInv s) {call : Nat}
    (hcall : s.calls[call]? = some .starting) :
    ThreadsInv { s with
      calls := s.calls.set call .returned, threads := s.threads ++ [.testing] } := by
  have hpos : 0 < s.calls.count .starting :=
    List.count_pos_iff.mpr (List.mem_of_getElem? hcall)
  have hsetting := count_set_of_getElem? hcall .setting .returned
  have hstarting := count_set_of_getElem? hcall .starting .returned
  have halive : alive (s.threads ++ [.testing]) = alive s.threads + 1 := by
    simp [alive]
  simp only [reduceCtorEq, if_true, if_false, Nat.add_zero] at hsetting hstarting
  refine ⟨by simpa using h.noClearing, fun hflag => ?_, fun hflag => ?_, fun _ hflag => ?_⟩
  · have hstarted := h.started hflag
    rw [halive]
    dsimp only
    omega
  · have hstopped := h.stopped hflag
    omega
  · have hstopped := h.stopped hflag
    omega

/-- A thread which is awake, and goes on. -/
theorem ThreadsInv.moveThread (h : ThreadsInv s) {thread : Nat} {pc next : ThreadPc}
    (hthread : s.threads[thread]? = some pc) (hpc : pc ≠ .exited)
    (hnext : next ≠ .exited) (hclear : next ≠ .clearing) (attempts : List UInt8) :
    ThreadsInv { s with attempts := attempts, threads := s.threads.set thread next } := by
  have hclearing := count_set_of_getElem? hthread .clearing next
  have halive : alive (s.threads.set thread next) = alive s.threads := by
    have hcount := countP_set_of_getElem? hthread (fun x => decide (x ≠ .exited)) next
    simp only [hpc, hnext, ne_eq, not_false_eq_true, decide_true, if_true] at hcount
    exact Nat.add_right_cancel hcount
  have hnone := h.noClearing
  refine ⟨?_, fun hflag => ?_, fun hflag => ?_, h.tested⟩
  · simp only [hclear, if_false] at hclearing
    change (s.threads.set thread next).count .clearing = 0
    omega
  · change s.calls.count .setting = 0 ∧
      s.calls.count .starting + alive (s.threads.set thread next) = 1
    rw [halive]
    exact h.started hflag
  · change s.calls.count .setting ≤ 1 ∧
      s.calls.count .starting + alive (s.threads.set thread next) = 0
    rw [halive]
    exact h.stopped hflag

/-- While a thread lives the flag is set, and no other thread lives or is started. -/
theorem ThreadsInv.of_alive (h : ThreadsInv s) {thread : Nat} {pc : ThreadPc}
    (hthread : s.threads[thread]? = some pc) (hpc : pc ≠ .exited) :
    s.isStartedThread = true ∧ alive s.threads = 1 ∧ s.calls.count .setting = 0 ∧
      s.calls.count .starting = 0 := by
  have hpos : 0 < alive s.threads :=
    List.countP_pos_iff.mpr ⟨pc, List.mem_of_getElem? hthread, by simp [hpc]⟩
  cases hflag : s.isStartedThread with
  | true =>
      have hstarted := h.started hflag
      refine ⟨rfl, ?_⟩
      omega
  | false =>
      have hstopped := h.stopped hflag
      omega

/-- What a notification does, when it returns. -/
theorem notifyStep_eq_some {t : ThreadsState} {thread : Nat} {env : RoundEnv}
    (h : notifyStep s thread env = some t) :
    ∃ attempts, t = { s with
      attempts := attempts
      threads := s.threads.set thread
        (if (roundAnswer env s.interestedObservers).1 = .noObservers then .clearing
          else .testing) } := by
  rw [notifyStep] at h
  by_cases hgiven : s.interestedObservers.length ≤ 255 ∧
      (s.interestedObservers = [] → env.buffer = true)
  · rw [notifyListOfObservers_fits hgiven.1 hgiven.2] at h
    cases hpasses : (roundAnswer env s.interestedObservers).1.passesGuard with
    | true =>
        rw [resultGuard_of_passes hpasses, runExcept_ok] at h
        cases h
        exact ⟨_, rfl⟩
    | false =>
        rw [resultGuard_of_not_passes hpasses, runExcept_error] at h
        cases h
  · obtain ⟨e, u, hthrow⟩ := notifyListOfObservers_throws hgiven s.attempts
    rw [hthrow] at h
    cases h

/-- Every step which meets its condition preserves the invariant. -/
theorem ThreadsInv.step (h : ThreadsInv s) {event : ThreadsEvent} {t : ThreadsState}
    (hcondition : ThreadsCondition s event) (hstep : threadsStep s event = some t) :
    ThreadsInv t := by
  cases event with
  | observe observationInfo =>
      cases hstep
      exact h.observe observationInfo
  | testFlag call =>
      obtain ⟨hcall, hstep⟩ := Option.ite_none_right_eq_some.mp hstep
      cases hstep
      exact h.testFlag hcall hcondition
  | setFlag call =>
      obtain ⟨hcall, hstep⟩ := Option.ite_none_right_eq_some.mp hstep
      cases hstep
      exact h.setFlag hcall
  | startThread call =>
      obtain ⟨hcall, hstep⟩ := Option.ite_none_right_eq_some.mp hstep
      cases hstep
      exact h.startThread hcall
  | wakeUp thread =>
      obtain ⟨hthread, hstep⟩ := Option.ite_none_right_eq_some.mp hstep
      cases hstep
      rw [if_pos (h.of_alive hthread (by decide)).1]
      exact h.moveThread hthread (by decide) (by decide) (by decide) s.attempts
  | notify thread env =>
      obtain ⟨hthread, hstep⟩ := Option.ite_none_right_eq_some.mp hstep
      obtain ⟨attempts, rfl⟩ := notifyStep_eq_some hstep
      rw [if_neg hcondition.2]
      exact h.moveThread hthread (by decide) (by decide) (by decide) attempts
  | clearFlag thread =>
      obtain ⟨hthread, hstep⟩ := Option.ite_none_right_eq_some.mp hstep
      have hpos : 0 < s.threads.count .clearing :=
        List.count_pos_iff.mpr (List.mem_of_getElem? hthread)
      have hnone := h.noClearing
      omega

/-! ## What the invariant gives -/

theorem countP_willSend_le (isStartedThread : Bool) (threads : List ThreadPc) :
    threads.countP (willSend isStartedThread) ≤ alive threads := by
  apply List.countP_mono_left
  intro pc _ hsend
  cases pc with
  | exited => cases hsend
  | testing | notifying | clearing => rfl

theorem ThreadsInv.oneSender (h : ThreadsInv s) : OneSender s := by
  refine (countP_willSend_le _ _).trans ?_
  cases hflag : s.isStartedThread with
  | true =>
      have hstarted := h.started hflag
      omega
  | false =>
      have hstopped := h.stopped hflag
      omega

theorem ThreadsInv.served (h : ThreadsInv s) : ObserversServed s := by
  intro hids
  cases hflag : s.isStartedThread with
  | true =>
      have hstarted := h.started hflag
      by_cases hstarting : 0 < s.calls.count .starting
      · exact Or.inr ⟨.starting, List.count_pos_iff.mp hstarting, rfl⟩
      · have hpos : 0 < alive s.threads := by omega
        obtain ⟨pc, hmem, hpc⟩ := List.countP_pos_iff.mp hpos
        refine Or.inl ⟨pc, hmem, ?_⟩
        cases pc with
        | testing | notifying => rfl
        | clearing => exact absurd hmem (List.count_eq_zero.mp h.noClearing)
        | exited => cases hpc
  | false =>
      have htested := h.tested hids hflag
      by_cases htesting : 0 < s.calls.count .testing
      · exact Or.inr ⟨.testing, List.count_pos_iff.mp htesting, rfl⟩
      · have hsetting : 0 < s.calls.count .setting := by omega
        exact Or.inr ⟨.setting, List.count_pos_iff.mp hsetting, rfl⟩

/-- The stack answers an empty list of ids with OK. -/
theorem roundAnswer_nil (env : RoundEnv) : (roundAnswer env []).1 ≠ .noObservers := by
  rw [roundAnswer]
  split
  · rw [SendListObserverNotification_ok_iff _ |>.mpr (fun _ hid => absurd hid List.not_mem_nil)]
    decide
  · decide

/-- A notification keeps the promise exactly under its condition. -/
theorem ThreadsInv.notify_iff (h : ThreadsInv s) {thread : Nat} {env : RoundEnv}
    {t : ThreadsState} (hstep : threadsStep s (.notify thread env) = some t) :
    ObserversServed t ∧ ClearsWhenEmpty s t thread ↔ SomeoneNotified s env := by
  obtain ⟨hthread, hnotify⟩ := Option.ite_none_right_eq_some.mp hstep
  constructor
  · rintro ⟨hserved, hclears⟩
    obtain ⟨attempts, rfl⟩ := notifyStep_eq_some hnotify
    have hnot : (roundAnswer env s.interestedObservers).1 = .noObservers →
        s.interestedObservers = [] := by
      intro hanswer
      by_contra hids
      obtain ⟨hflag, halive, hsetting, hstarting⟩ := h.of_alive hthread (by decide)
      rw [if_pos hanswer] at hserved
      obtain ⟨pc, hmem, hsend⟩ | ⟨pc, hmem, hstart⟩ := hserved hids
      · -- the only living thread is the one which is about to clear the flag
        have hpos : 0 < (s.threads.set thread .clearing).countP (willSend s.isStartedThread) :=
          List.countP_pos_iff.mpr ⟨pc, hmem, hsend⟩
        have hcount := countP_set_of_getElem? hthread (willSend s.isStartedThread) .clearing
        have hle := countP_willSend_le s.isStartedThread s.threads
        simp only [willSend, if_true, Bool.false_eq_true, if_false] at hcount
        omega
      · dsimp only at hmem hstart
        rw [hflag] at hstart
        cases pc with
        | testing | returned => cases hstart
        | setting => exact List.count_eq_zero.mp hsetting hmem
        | starting => exact List.count_eq_zero.mp hstarting hmem
    have hids : s.interestedObservers ≠ [] := by
      intro hids
      have hclear := hclears hids
      have hlt := (List.getElem?_eq_some_iff.mp hthread).1
      dsimp only at hclear
      rw [List.getElem?_set_self hlt, hids, if_neg (roundAnswer_nil env)] at hclear
      cases hclear
    exact ⟨hids, fun hanswer => hids (hnot hanswer)⟩
  · intro hcondition
    have hcondition' : ThreadsCondition s (.notify thread env) := hcondition
    exact ⟨(h.step hcondition' hstep).served, fun hids => absurd hids hcondition.1⟩

end Steps

/-- **The notifier threads.**  In every run whose steps meet the condition at most one
thread will still send, and whoever is registered is served by it or has one about to be
started.  A next notification keeps this, and clears the flag when it is for nobody,
exactly under the condition. -/
theorem threads_of_guardedReaches {s : ThreadsState}
    (h : GuardedReaches threadsStep ThreadsCondition .initial s) :
    OneSender s ∧ ObserversServed s ∧
      ∀ thread env t, threadsStep s (.notify thread env) = some t →
        (ObserversServed t ∧ ClearsWhenEmpty s t thread ↔ SomeoneNotified s env) := by
  have hinv : ThreadsInv s :=
    h.invariant (fun _ _ _ hs hcondition hstep => hs.step hcondition hstep) threadsInv_initial
  exact ⟨hinv.oneSender, hinv.served, fun _ _ _ hstep => hinv.notify_iff hstep⟩

/-! ## An observer which cancels -/

/-- An observer registers, and the notifier is started for it. -/
def registerEvents : List ThreadsEvent :=
  [.observe ⟨.observeRegister, 1⟩, .testFlag 0, .setFlag 0, .startThread 0]

def registeredThreads : ThreadsState := ⟨true, [1], [], [.returned], [.testing]⟩

theorem registeredThreads_reached :
    GuardedReaches threadsStep ThreadsCondition .initial registeredThreads := by
  refine ⟨registerEvents, rfl, trivial, fun t₁ h₁ => ?_⟩
  cases h₁
  refine ⟨fun _ => by decide, fun t₂ h₂ => ?_⟩
  cases h₂
  refine ⟨trivial, fun t₃ h₃ => ?_⟩
  cases h₃
  exact ⟨trivial, fun _ _ => trivial⟩

theorem threads_of_guardedReaches_registered :
    OneSender registeredThreads ∧ ObserversServed registeredThreads ∧
      ∀ thread env t, threadsStep registeredThreads (.notify thread env) = some t →
        (ObserversServed t ∧ ClearsWhenEmpty registeredThreads t thread ↔
          SomeoneNotified registeredThreads env) :=
  threads_of_guardedReaches registeredThreads_reached

/-- It cancels, and the thread makes its next round. -/
def cancelEvents : List ThreadsEvent :=
  [.observe ⟨.observeUnregister, 1⟩, .testFlag 1, .wakeUp 0]

/-- Nobody is left, but the stack calls this a success, and the thread goes on. -/
theorem empty_list_not_cleared :
    ¬∀ s, Reaches threadsStep .initial s →
      OneSender s ∧ ObserversServed s ∧ ∀ thread env t,
        threadsStep s (.notify thread env) = some t → ClearsWhenEmpty s t thread := by
  intro h
  have hcancel : Reaches threadsStep registeredThreads
      ⟨true, [], [], [.returned, .returned], [.notifying]⟩ := ⟨cancelEvents, rfl⟩
  have hreaches := registeredThreads_reached.reaches.trans hcancel
  have hround : threadsStep ⟨true, [], [], [.returned, .returned], [.notifying]⟩
      (.notify 0 (pairEnv false)) =
        some ⟨true, [], [], [.returned, .returned], [.testing]⟩ := rfl
  have hclear := (h _ hreaches).2.2 0 (pairEnv false) _ hround rfl
  cases hclear

end Server
end FireEvacuation
