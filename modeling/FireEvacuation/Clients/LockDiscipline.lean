import FireEvacuation.Core.Threads
import FireEvacuation.Speaker.AlarmFailSafe

/-!
# The locks of the clients

Both clients guard their Redis context by hand: `_temper_lock` of the speaker, `_led_lock`
of the LED.  Every observation callback runs on a thread of its own, so here any number of
calls of `getPostValue` take turns, one read, write, lock, unlock, probe reading or Redis
command at a time.

A discipline has three parts.  Whoever leaves `getAlertStatus` or `getDeviceValue` has given
the lock back, every command on the context is sent by the holder of the lock, and the text
of a reply is read only when there is one.  The parts are stated once for any client whose
threads are either inside or outside a critical section; the two clients follow.

What `redisCommand` does with a context that is not live is no question of the lock, so here
every command may be answered with every reply.  `bluetooth_state_run` of the LED never gets
past its first loop, since `PING_PONG_START` is false, and sends nothing.
-/

namespace FireEvacuation
namespace Clients

open FireEvacuation.Core Redis Speaker

/-! ## A lock which is watched -/

/-- The lock of a client next to its other variables.  `commands` and `texts` only record
what happened: who sent a command while who held the lock, and whose text was read. -/
structure Watched (σ : Type) where
  holder : Option Nat
  commands : List (Nat × Option Nat)
  texts : List Reply
  vars : σ
  deriving DecidableEq

namespace Watched

variable {σ : Type}

def initial (vars : σ) : Watched σ := ⟨none, [], [], vars⟩

/-- `lock()`, which waits while somebody holds it. -/
def lock (s : Watched σ) (self : Nat) : Option (Watched σ) :=
  if s.holder = none then some { s with holder := some self } else none

/-- `unlock()`. -/
def unlock (s : Watched σ) : Watched σ := { s with holder := none }

/-- `redisCommand`. -/
def send (s : Watched σ) (self : Nat) : Watched σ :=
  { s with commands := s.commands ++ [(self, s.holder)] }

/-- `reply->str` is read. -/
def readText (s : Watched σ) (reply : Reply) : Watched σ :=
  { s with texts := s.texts ++ [reply] }

def setVars (s : Watched σ) (vars : σ) : Watched σ := { s with vars := vars }

end Watched

/-- What should hold of a client whose threads know whether they are inside the critical
section. -/
structure Disciplined {σ τ : Type} (holding : τ → Bool) (p : Pool (Watched σ) τ) : Prop where
  /-- Nobody outside the critical section holds the lock. -/
  released : ∀ index thread, p.threads[index]? = some thread →
    p.shared.holder = some index → holding thread = true
  guarded : ∀ command ∈ p.shared.commands, command.2 = some command.1
  carried : ∀ reply ∈ p.shared.texts, reply.str ≠ none

section Discipline

variable {σ τ : Type} {holding : τ → Bool}

/-- A step which keeps the discipline. -/
inductive LockMove (holding : τ → Bool) (self : Nat) (s : Watched σ) (thread : τ)
    (t : Watched σ) (next : τ) : Prop where
  | inside (hholder : t.holder = s.holder) (hholding : holding next = holding thread)
      (hcommands : t.commands = s.commands ∨
        holding thread = true ∧ t.commands = s.commands ++ [(self, s.holder)])
      (htexts : t.texts = s.texts ∨
        ∃ reply, reply.str ≠ none ∧ t.texts = s.texts ++ [reply])
  | enter (hfree : s.holder = none) (hholder : t.holder = some self)
      (hnext : holding next = true) (hcommands : t.commands = s.commands)
      (htexts : t.texts = s.texts)
  | leave (hthread : holding thread = true) (hholder : t.holder = none)
      (hnext : holding next = false) (hcommands : t.commands = s.commands)
      (htexts : t.texts = s.texts)

/-- A step which touches neither the lock nor Redis. -/
theorem LockMove.quiet {self : Nat} {s t : Watched σ} {thread next : τ}
    (hholder : t.holder = s.holder) (hcommands : t.commands = s.commands)
    (htexts : t.texts = s.texts) (hholding : holding next = holding thread) :
    LockMove holding self s thread t next :=
  .inside hholder hholding (.inl hcommands) (.inl htexts)

/-- The lock is taken. -/
theorem LockMove.of_lock {self : Nat} {s t : Watched σ} {thread next : τ}
    (h : s.lock self = some t) (hnext : holding next = true) :
    LockMove holding self s thread t next := by
  unfold Watched.lock at h
  split at h
  · rename_i hfree
    cases h
    exact .enter hfree rfl hnext rfl rfl
  · cases h

/-- A step which breaks it. -/
inductive LockFault (holding : τ → Bool) (self : Nat) (s : Watched σ) (thread : τ)
    (t : Watched σ) (next : τ) : Prop where
  /-- The critical section is left without an unlock. -/
  | keeps (hthread : holding thread = true) (hholder : t.holder = s.holder)
      (hnext : holding next = false)
  /-- A command is sent from outside. -/
  | unguarded (hthread : holding thread = false)
      (hcommands : t.commands = s.commands ++ [(self, s.holder)])
  /-- The text of a reply without one is read. -/
  | noText (reply : Reply) (hnone : reply.str = none) (htexts : reply ∈ t.texts)

/-- The shared part of the invariant: the holder is a thread, and all was well so far. -/
structure LockShared (count : Nat) (s : Watched σ) : Prop where
  holder : ∀ index, s.holder = some index → index < count
  guarded : ∀ command ∈ s.commands, command.2 = some command.1
  carried : ∀ reply ∈ s.texts, reply.str ≠ none

/-- A thread is inside exactly while it holds the lock. -/
def LockThread (holding : τ → Bool) (index : Nat) (s : Watched σ) (thread : τ) : Prop :=
  holding thread = true ↔ s.holder = some index

/-- The invariant of every disciplined run. -/
abbrev LockInv (holding : τ → Bool) (p : Pool (Watched σ) τ) : Prop :=
  PoolInv LockShared (LockThread holding) p

theorem LockInv.disciplined {p : Pool (Watched σ) τ} (h : LockInv holding p) :
    Disciplined holding p where
  released := fun index thread hthread hholder => (h.threads index thread hthread).mpr hholder
  guarded := h.shared.guarded
  carried := h.shared.carried

theorem lockInv_initial (vars : σ) : LockInv holding (⟨.initial vars, []⟩ : Pool _ τ) :=
  PoolInv.of_empty ⟨by simp [Watched.initial], by simp [Watched.initial],
    by simp [Watched.initial]⟩

/-- A thread starts outside. -/
theorem LockInv.start {p : Pool (Watched σ) τ} (h : LockInv holding p) {thread : τ}
    (houtside : holding thread = false) :
    LockInv holding ⟨p.shared, p.threads ++ [thread]⟩ := by
  refine PoolInv.start h ⟨fun index hholder => ?_, h.shared.guarded, h.shared.carried⟩ ?_
    fun _ _ _ hother => hother
  · exact Nat.lt_succ_of_lt (h.shared.holder index hholder)
  · -- the holder is one of the threads before
    refine iff_of_false (by simp [houtside]) fun hholder => ?_
    exact Nat.lt_irrefl _ (h.shared.holder _ hholder)

theorem LockInv.move {p : Pool (Watched σ) τ} (h : LockInv holding p) {index : Nat}
    {thread next : τ} {t : Watched σ} (hthread : p.threads[index]? = some thread)
    (hmove : LockMove holding index p.shared thread t next) :
    LockInv holding ⟨t, p.threads.set index next⟩ := by
  have hself := h.threads index thread hthread
  have hcount : index < p.threads.length := (List.getElem?_eq_some_iff.mp hthread).1
  cases hmove with
  | inside hholder hholding hcommands htexts =>
      refine PoolInv.advance h ⟨fun other hother => ?_, fun command hmem => ?_,
        fun reply hmem => ?_⟩ ?_ fun other thread' hne _ hinv => ?_
      · rw [hholder] at hother
        exact h.shared.holder other hother
      -- a new command is sent, and a new reply read, by the holder
      · rcases hcommands with hsame | ⟨hin, hnew⟩
        · rw [hsame] at hmem
          exact h.shared.guarded command hmem
        · rw [hnew, List.mem_append, List.mem_singleton] at hmem
          rcases hmem with hold | rfl
          · exact h.shared.guarded command hold
          · exact hself.mp hin
      · rcases htexts with hsame | ⟨read, hread, hnew⟩
        · rw [hsame] at hmem
          exact h.shared.carried reply hmem
        · rw [hnew, List.mem_append, List.mem_singleton] at hmem
          rcases hmem with hold | rfl
          · exact h.shared.carried reply hold
          · exact hread
      · unfold LockThread
        rw [hholding, hholder]
        exact hself
      · unfold LockThread
        rw [hholder]
        exact hinv
  | enter hfree hholder hnext hcommands htexts =>
      refine PoolInv.advance h ⟨fun other hother => ?_, ?_, ?_⟩ ?_
        fun other thread' hne _ hinv => ?_
      · rw [hholder] at hother
        cases hother
        exact hcount
      · rw [hcommands]
        exact h.shared.guarded
      · rw [htexts]
        exact h.shared.carried
      · exact iff_of_true hnext hholder
      · unfold LockThread at hinv ⊢
        rw [hfree] at hinv
        rw [hinv, hholder]
        simp [Ne.symm hne]
  | leave hin hholder hnext hcommands htexts =>
      refine PoolInv.advance h ⟨fun other hother => ?_, ?_, ?_⟩ ?_
        fun other thread' hne _ hinv => ?_
      · rw [hholder] at hother
        cases hother
      · rw [hcommands]
        exact h.shared.guarded
      · rw [htexts]
        exact h.shared.carried
      · exact iff_of_false (by simp [hnext]) (by simp [hholder])
      · unfold LockThread at hinv ⊢
        rw [hself.mp hin] at hinv
        rw [hinv, hholder]
        simp [Ne.symm hne]

/-- A fault is seen in the state it leads to. -/
theorem LockInv.fault {p : Pool (Watched σ) τ} (h : LockInv holding p) {index : Nat}
    {thread next : τ} {t : Watched σ} (hthread : p.threads[index]? = some thread)
    (hfault : LockFault holding index p.shared thread t next) :
    ¬Disciplined holding ⟨t, p.threads.set index next⟩ := by
  have hself := h.threads index thread hthread
  have hcount : index < p.threads.length := (List.getElem?_eq_some_iff.mp hthread).1
  intro hdisciplined
  cases hfault with
  | keeps hin hholder hnext =>
      have hnow : (p.threads.set index next)[index]? = some next := by
        rw [List.getElem?_set_self hcount]
      have hreleased := hdisciplined.released index next hnow (by rw [hholder, hself.mp hin])
      rw [hnext] at hreleased
      cases hreleased
  | unguarded hout hcommands =>
      have hsent : (index, p.shared.holder) ∈ t.commands := by
        rw [hcommands]
        simp
      have hholder := hdisciplined.guarded _ hsent
      rw [hself.mpr hholder] at hout
      cases hout
  | noText reply hnone hmem => exact hdisciplined.carried reply hmem hnone

end Discipline

/-! ## Threads whose steps are moves or faults -/

section Threads

variable {σ τ α ι : Type} {holding : τ → Bool} {keeps : τ → ι → Bool}
  {sys : ThreadSystem (Watched σ) τ α ι Empty}

/-- The condition on a step: a thread takes it from where it is with an answer which keeps
the discipline. -/
def LockCondition (keeps : τ → ι → Bool) (p : Pool (Watched σ) τ) :
    PoolEvent α ι Empty → Prop
  | .start _ => True
  | .advance index answer => ∀ thread ∈ p.threads[index]?, keeps thread answer = true
  | .environment event => nomatch event

instance (p : Pool (Watched σ) τ) :
    (event : PoolEvent α ι Empty) → Decidable (LockCondition keeps p event)
  | .start _ => isTrue trivial
  | .advance index answer =>
      inferInstanceAs (Decidable (∀ thread ∈ p.threads[index]?, keeps thread answer = true))
  | .environment event => nomatch event

/-- What the threads of a client do, as far as the lock is concerned. -/
structure LockSteps (sys : ThreadSystem (Watched σ) τ α ι Empty) (holding : τ → Bool)
    (keeps : τ → ι → Bool) : Prop where
  start : ∀ s arg t thread, sys.start s arg = some (t, thread) →
    t = s ∧ holding thread = false
  move : ∀ index s thread answer t next, sys.advance index s thread answer = some (t, next) →
    keeps thread answer = true → LockMove holding index s thread t next
  fault : ∀ index s thread answer t next, sys.advance index s thread answer = some (t, next) →
    keeps thread answer = false → LockFault holding index s thread t next

/-- A step under the condition keeps the invariant, any other ends the discipline. -/
theorem LockSteps.step (hsys : LockSteps sys holding keeps) {p q : Pool (Watched σ) τ}
    {event : PoolEvent α ι Empty} (h : LockInv holding p) (hstep : sys.step p event = some q) :
    (LockCondition keeps p event → LockInv holding q) ∧
      (¬LockCondition keeps p event → ¬Disciplined holding q) := by
  cases event with
  | start arg =>
      rcases ThreadSystem.step_start hstep with ⟨s, thread, hstart, rfl⟩
      rcases hsys.start _ _ _ _ hstart with ⟨rfl, houtside⟩
      exact ⟨fun _ => h.start houtside, fun hnot => absurd trivial hnot⟩
  | advance index answer =>
      rcases ThreadSystem.step_advance hstep with ⟨thread, s, next, hthread, hadvance, rfl⟩
      have hcondition : LockCondition (α := α) keeps p (.advance index answer) ↔
          keeps thread answer = true := by
        show (∀ thread ∈ p.threads[index]?, keeps thread answer = true) ↔ _
        simp [hthread]
      rw [hcondition]
      refine ⟨fun hkeeps => ?_, fun hnot => ?_⟩
      · exact h.move hthread (hsys.move _ _ _ _ _ _ hadvance hkeeps)
      · exact h.fault hthread (hsys.fault _ _ _ _ _ _ hadvance (by simpa using hnot))
  | environment event => nomatch event

/-- Under the condition the client is disciplined, and it stays so exactly while the
condition is met. -/
theorem LockSteps.disciplined (hsys : LockSteps sys holding keeps) {vars : σ}
    {p : Pool (Watched σ) τ}
    (hreach : GuardedReaches sys.step (LockCondition keeps) ⟨.initial vars, []⟩ p) :
    Disciplined holding p ∧ ∀ event q, sys.step p event = some q →
      (Disciplined holding q ↔ LockCondition keeps p event) := by
  have hinv : LockInv holding p := by
    refine hreach.invariant (fun s event t hs hguard hstep => ?_) (lockInv_initial vars)
    exact (hsys.step hs hstep).1 hguard
  refine ⟨hinv.disciplined, fun event q hstep => ⟨fun hq => ?_, fun hcondition => ?_⟩⟩
  · by_contra hnot
    exact (hsys.step hinv hstep).2 hnot hq
  · exact ((hsys.step hinv hstep).1 hcondition).disciplined

end Threads

end Clients
end FireEvacuation
