/-!
# Imperative code with exceptions and undefined behaviour

A call of a C or C++ function starts in a state and ends in one of two ways: it
returns a value, or it stops with a fault.  Either way the writes made so far
stay in the state, so the state is part of a faulty result as well.  A fault is

* an exception, which an enclosing handler may catch;
* undefined behaviour (a null dereference, a missing variadic argument), which
  no handler sees and after which nothing is promised;
* a wait which never ends (a lock nobody will release).

The carrier is the standard `EStateM`; this file adds the fault type, the
handler which catches exceptions only, and the rules which evaluate a sequence
of calls one call at a time.
-/

namespace FireEvacuation
namespace Core

/-- The ways in which a call can stop without returning. -/
inductive Fault (ε : Type) where
  | exception (e : ε)
  | undefined
  | blocked
  deriving DecidableEq, Repr

/-- A call over the state `σ` which returns `α` or stops with a fault. -/
abbrev Effect (ε σ α : Type) := EStateM (Fault ε) σ α

namespace Effect

variable {ε σ τ α β : Type}

/-- `throw e;` -/
def throwException (e : ε) : Effect ε σ α := fun s => .error (.exception e) s

/-- An operation whose behaviour the language leaves undefined. -/
def undefinedBehaviour : Effect ε σ α := fun s => .error .undefined s

/-- An operation which waits for ever. -/
def waitForever : Effect ε σ α := fun s => .error .blocked s

/-- `try { body } catch (e) { handler(e) }`: the writes of the body before the
exception stay, and only exceptions are caught. -/
def catchException (body : Effect ε σ α) (handler : ε → Effect ε σ α) :
    Effect ε σ α := fun s =>
  match body s with
  | .error (.exception e) s' => handler e s'
  | .error .undefined s' => .error .undefined s'
  | .error .blocked s' => .error .blocked s'
  | .ok a s' => .ok a s'

/-- A pure computation which may fail. -/
def runExcept (x : Except (Fault ε) α) : Effect ε σ α := fun s =>
  match x with
  | .ok a => .ok a s
  | .error e => .error e s

/-- Run a call which owns one part of the state only. -/
def onPart (view : σ → τ) (put : σ → τ → σ) (body : Effect ε τ α) :
    Effect ε σ α := fun s =>
  match body (view s) with
  | .ok a t => .ok a (put s t)
  | .error e t => .error e (put s t)

/-- The state a call leaves, however it ends. -/
def leftIn : EStateM.Result (Fault ε) σ α → σ
  | .ok _ s => s
  | .error _ s => s

/-! ## Evaluation of a sequence of calls -/

@[simp] theorem pure_apply (a : α) (s : σ) :
    (pure a : Effect ε σ α) s = .ok a s := rfl

@[simp] theorem get_apply (s : σ) : (get : Effect ε σ σ) s = .ok s s := rfl

@[simp] theorem modify_apply (f : σ → σ) (s : σ) :
    (modify f : Effect ε σ PUnit) s = .ok ⟨⟩ (f s) := rfl

@[simp] theorem throwException_apply (e : ε) (s : σ) :
    (throwException e : Effect ε σ α) s = .error (.exception e) s := rfl

@[simp] theorem undefinedBehaviour_apply (s : σ) :
    (undefinedBehaviour : Effect ε σ α) s = .error .undefined s := rfl

@[simp] theorem waitForever_apply (s : σ) :
    (waitForever : Effect ε σ α) s = .error .blocked s := rfl

@[simp] theorem runExcept_ok (a : α) (s : σ) :
    (runExcept (.ok a) : Effect ε σ α) s = .ok a s := rfl

@[simp] theorem runExcept_error (e : Fault ε) (s : σ) :
    (runExcept (.error e) : Effect ε σ α) s = .error e s := rfl

/-- A sequence continues after a call which returned. -/
theorem bind_of_ok {x : Effect ε σ α} {f : α → Effect ε σ β} {s s' : σ} {a : α}
    (h : x s = .ok a s') : (x >>= f) s = f a s' := by
  change EStateM.bind x f s = f a s'
  simp only [EStateM.bind, h]

/-- A sequence stops with the fault of its first call. -/
theorem bind_of_error {x : Effect ε σ α} {f : α → Effect ε σ β} {s s' : σ}
    {e : Fault ε} (h : x s = .error e s') : (x >>= f) s = .error e s' := by
  change EStateM.bind x f s = .error e s'
  simp only [EStateM.bind, h]

/-- A sequence returned exactly when each of its two calls did. -/
theorem bind_eq_ok_iff {x : Effect ε σ α} {f : α → Effect ε σ β} {s t : σ} {b : β} :
    (x >>= f) s = .ok b t ↔ ∃ a s', x s = .ok a s' ∧ f a s' = .ok b t := by
  cases hx : x s with
  | ok a s' =>
      rw [bind_of_ok hx]
      constructor
      · intro h
        exact ⟨a, s', rfl, h⟩
      · rintro ⟨a', s'', heq, h⟩
        cases heq
        exact h
  | error e s' =>
      rw [bind_of_error hx]
      constructor
      · intro h
        cases h
      · rintro ⟨a, s'', heq, -⟩
        cases heq

/-- A call which returns is not changed by a handler around it. -/
theorem catch_of_ok {body : Effect ε σ α} {handler : ε → Effect ε σ α} {s s' : σ}
    {a : α} (h : body s = .ok a s') : catchException body handler s = .ok a s' := by
  simp only [catchException, h]

/-- An exception reaches the handler in the state it left behind. -/
theorem catch_of_exception {body : Effect ε σ α} {handler : ε → Effect ε σ α}
    {s s' : σ} {e : ε} (h : body s = .error (.exception e) s') :
    catchException body handler s = handler e s' := by
  simp only [catchException, h]

/-- No handler catches undefined behaviour. -/
theorem catch_of_undefined {body : Effect ε σ α} {handler : ε → Effect ε σ α}
    {s s' : σ} (h : body s = .error .undefined s') :
    catchException body handler s = .error .undefined s' := by
  simp only [catchException, h]

theorem onPart_of_ok {view : σ → τ} {put : σ → τ → σ} {body : Effect ε τ α}
    {s : σ} {t : τ} {a : α} (h : body (view s) = .ok a t) :
    onPart view put body s = .ok a (put s t) := by
  simp only [onPart, h]

theorem onPart_of_error {view : σ → τ} {put : σ → τ → σ} {body : Effect ε τ α}
    {s : σ} {t : τ} {e : Fault ε} (h : body (view s) = .error e t) :
    onPart view put body s = .error e (put s t) := by
  simp only [onPart, h]

/-- A call on a part returned exactly when its body did. -/
theorem onPart_eq_ok {view : σ → τ} {put : σ → τ → σ} {body : Effect ε τ α} {s t : σ} {a : α}
    (h : onPart view put body s = .ok a t) : ∃ u, body (view s) = .ok a u ∧ t = put s u := by
  cases hbody : body (view s) with
  | ok b u =>
      rw [onPart_of_ok hbody] at h
      cases h
      exact ⟨u, rfl, rfl⟩
  | error e u =>
      rw [onPart_of_error hbody] at h
      cases h

/-! ## Pre- and postconditions -/

/-- From a state with `pre` the call returns with `post` or stops in a state with
`faulty`. -/
def Triple (pre : σ → Prop) (x : Effect ε σ α) (post : α → σ → Prop)
    (faulty : σ → Prop) : Prop :=
  ∀ s, pre s → (∀ a t, x s = .ok a t → post a t) ∧ ∀ e t, x s = .error e t → faulty t

namespace Triple

variable {pre faulty : σ → Prop} {post : α → σ → Prop}

theorem ret {a : α} (h : ∀ s, pre s → post a s) :
    Triple pre (pure a : Effect ε σ α) post faulty := by
  intro s hs
  constructor
  · intro b t hok
    cases hok
    exact h s hs
  · intro e t herror
    cases herror

theorem modify {f : σ → σ} {post : PUnit → σ → Prop} (h : ∀ s, pre s → post ⟨⟩ (f s)) :
    Triple pre (modify f : Effect ε σ PUnit) post faulty := by
  intro s hs
  constructor
  · intro b t hok
    cases hok
    exact h s hs
  · intro e t herror
    cases herror

theorem throwException {e : ε} (h : ∀ s, pre s → faulty s) :
    Triple pre (throwException e : Effect ε σ α) post faulty := by
  intro s hs
  constructor
  · intro b t hok
    cases hok
  · intro e' t herror
    cases herror
    exact h s hs

theorem undefinedBehaviour (h : ∀ s, pre s → faulty s) :
    Triple pre (undefinedBehaviour : Effect ε σ α) post faulty := by
  intro s hs
  constructor
  · intro b t hok
    cases hok
  · intro e' t herror
    cases herror
    exact h s hs

theorem bind {m : α → σ → Prop} {post : β → σ → Prop} {x : Effect ε σ α}
    {f : α → Effect ε σ β} (hx : Triple pre x m faulty)
    (hf : ∀ a, Triple (m a) (f a) post faulty) : Triple pre (x >>= f) post faulty := by
  intro s hs
  cases hrun : x s with
  | ok a t =>
      rw [bind_of_ok hrun]
      exact hf a t ((hx s hs).1 a t hrun)
  | error e t =>
      rw [bind_of_error hrun]
      constructor
      · intro b u hok
        cases hok
      · intro e' u herror
        cases herror
        exact (hx s hs).2 e t hrun

/-- The rule of consequence. -/
theorem consequence {pre' : σ → Prop} {post' : α → σ → Prop} {x : Effect ε σ α}
    (h : Triple pre x post faulty) (hpre : ∀ s, pre' s → pre s)
    (hpost : ∀ a t, post a t → post' a t) : Triple pre' x post' faulty :=
  fun s hs => ⟨fun a t hok => hpost a t ((h s (hpre s hs)).1 a t hok),
    (h s (hpre s hs)).2⟩

/-- A sequence which begins by looking at the state. -/
theorem get_bind {f : σ → Effect ε σ α}
    (h : ∀ s, Triple (fun t => t = s ∧ pre t) (f s) post faulty) :
    Triple pre (get >>= f) post faulty :=
  fun s hs => h s s ⟨rfl, hs⟩

end Triple

end Effect

end Core
end FireEvacuation
