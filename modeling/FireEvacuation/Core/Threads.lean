import FireEvacuation.Core.Transition

/-!
# Threads over shared variables

A pool is the shared variables together with the local states of all threads which were
started so far, each at the position it was started at.  Threads take turns: one step of
the pool is the start of a thread, one step of one thread, or a step of the environment.
What a thread does is a function of its own position, the shared variables, its local state
and an input which stands for everything the outside answers.

The rule is that of interference freedom.  An invariant of a pool has a part about the
shared variables (and the number of threads) and a part about every single thread.  It is
kept by a step when the step keeps the shared part, establishes the part of the thread that
took it, and does not disturb the part of any other thread.
-/

namespace FireEvacuation
namespace Core

/-- The shared variables and the local states of the threads. -/
structure Pool (σ τ : Type*) where
  shared : σ
  threads : List τ
  deriving DecidableEq, Repr

/-- A step of a pool. -/
inductive PoolEvent (α ι ε : Type*) where
  | start (arg : α)
  | advance (index : Nat) (input : ι)
  | environment (event : ε)
  deriving DecidableEq, Repr

/-- What threads and environment do.  `none` is a step which cannot be taken. -/
structure ThreadSystem (σ τ α ι ε : Type*) where
  start : σ → α → Option (σ × τ)
  advance : Nat → σ → τ → ι → Option (σ × τ)
  environment : σ → ε → Option σ

namespace ThreadSystem

variable {σ τ α ι ε : Type*}

/-- One step of the pool. -/
def step (sys : ThreadSystem σ τ α ι ε) (p : Pool σ τ) :
    PoolEvent α ι ε → Option (Pool σ τ)
  | .start arg => (sys.start p.shared arg).map fun next => ⟨next.1, p.threads ++ [next.2]⟩
  | .advance index input =>
      match p.threads[index]? with
      | none => none
      | some thread =>
          (sys.advance index p.shared thread input).map fun next =>
            ⟨next.1, p.threads.set index next.2⟩
  | .environment event => (sys.environment p.shared event).map fun next => ⟨next, p.threads⟩

section Step

variable {sys : ThreadSystem σ τ α ι ε} {p q : Pool σ τ}

theorem step_start {arg : α} (h : sys.step p (.start arg) = some q) :
    ∃ s t, sys.start p.shared arg = some (s, t) ∧ q = ⟨s, p.threads ++ [t]⟩ := by
  rcases Option.map_eq_some_iff.mp h with ⟨⟨s, t⟩, hstart, rfl⟩
  exact ⟨s, t, hstart, rfl⟩

theorem step_advance {index : Nat} {input : ι}
    (h : sys.step p (.advance index input) = some q) :
    ∃ thread s t, p.threads[index]? = some thread ∧
      sys.advance index p.shared thread input = some (s, t) ∧
      q = ⟨s, p.threads.set index t⟩ := by
  unfold step at h
  dsimp only at h
  cases hthread : p.threads[index]? with
  | none => simp [hthread] at h
  | some thread =>
      rw [hthread] at h
      rcases Option.map_eq_some_iff.mp h with ⟨⟨s, t⟩, hadvance, rfl⟩
      exact ⟨thread, s, t, rfl, hadvance, rfl⟩

theorem step_environment {event : ε} (h : sys.step p (.environment event) = some q) :
    ∃ s, sys.environment p.shared event = some s ∧ q = ⟨s, p.threads⟩ := by
  rcases Option.map_eq_some_iff.mp h with ⟨s, henv, rfl⟩
  exact ⟨s, henv, rfl⟩

end Step

end ThreadSystem

/-! ## The rule -/

/-- An invariant of a pool: `I` of the number of threads and the shared variables, `T` of
every thread with its position. -/
structure PoolInv {σ τ : Type*} (I : Nat → σ → Prop) (T : Nat → σ → τ → Prop)
    (p : Pool σ τ) : Prop where
  shared : I p.threads.length p.shared
  threads : ∀ index thread, p.threads[index]? = some thread → T index p.shared thread

namespace PoolInv

variable {σ τ α ι ε : Type*} {I I' : Nat → σ → Prop} {T T' : Nat → σ → τ → Prop}
  {sys : ThreadSystem σ τ α ι ε} {p q : Pool σ τ}

/-- A pool without threads. -/
theorem of_empty {s : σ} (h : I 0 s) : PoolInv I T ⟨s, []⟩ where
  shared := h
  threads := by simp

/-- A thread starts.  The invariant may be another one from here on. -/
theorem start (h : PoolInv I T p) {s : σ} {t : τ} (hI : I' (p.threads.length + 1) s)
    (hT : T' p.threads.length s t)
    (hother : ∀ index thread, p.threads[index]? = some thread → T index p.shared thread →
      T' index s thread) : PoolInv I' T' ⟨s, p.threads ++ [t]⟩ := by
  refine ⟨by simpa using hI, fun index thread hthread => ?_⟩
  rcases Nat.lt_or_ge index p.threads.length with hlt | hge
  · rw [List.getElem?_append_left hlt] at hthread
    exact hother index thread hthread (h.threads index thread hthread)
  · rw [List.getElem?_append_right hge, List.getElem?_singleton] at hthread
    split at hthread
    · rename_i hzero
      cases hthread
      have hindex : index = p.threads.length := by omega
      rw [hindex]
      exact hT
    · cases hthread

/-- A thread takes a step. -/
theorem advance (h : PoolInv I T p) {index : Nat} {s : σ} {t : τ}
    (hI : I' p.threads.length s) (hT : T' index s t)
    (hother : ∀ other thread, other ≠ index → p.threads[other]? = some thread →
      T other p.shared thread → T' other s thread) :
    PoolInv I' T' ⟨s, p.threads.set index t⟩ := by
  refine ⟨by simpa using hI, fun other thread hthread => ?_⟩
  by_cases hsame : index = other
  · subst hsame
    rw [List.getElem?_set_self'] at hthread
    rcases Option.map_eq_some_iff.mp hthread with ⟨_, -, rfl⟩
    exact hT
  · rw [List.getElem?_set_ne hsame] at hthread
    exact hother other thread (Ne.symm hsame) hthread (h.threads other thread hthread)

/-- The environment takes a step. -/
theorem environment (h : PoolInv I T p) {s : σ} (hI : I' p.threads.length s)
    (hother : ∀ index thread, p.threads[index]? = some thread → T index p.shared thread →
      T' index s thread) : PoolInv I' T' ⟨s, p.threads⟩ :=
  ⟨hI, fun index thread hthread =>
    hother index thread hthread (h.threads index thread hthread)⟩

end PoolInv

end Core
end FireEvacuation
