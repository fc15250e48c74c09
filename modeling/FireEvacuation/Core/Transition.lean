import Mathlib.Logic.Basic
import Mathlib.Tactic.Common

/-!
# Runs of a labelled transition system

A system is given by its step function: `step s e` is the state after the step
labelled `e`, or `none` when the step cannot be taken in `s`.  A run is a list of
labels.  Many systems keep their promises only while their environment stays
away from some steps, so next to the plain runs there are the guarded ones, in
which every step satisfies a condition on the state before it and on its label.

The rules here are the two inductions every later development needs: what one
step preserves holds after a whole run, and a run splits at any point.
-/

namespace FireEvacuation
namespace Core

variable {σ ε : Type*}

/-- The state after taking the steps in order. -/
def run (step : σ → ε → Option σ) : σ → List ε → Option σ
  | s, [] => some s
  | s, e :: es =>
      match step s e with
      | none => none
      | some t => run step t es

/-- Every step of the run satisfies the guard in the state it is taken in. -/
def Guarded (step : σ → ε → Option σ) (guard : σ → ε → Prop) : σ → List ε → Prop
  | _, [] => True
  | s, e :: es => guard s e ∧ ∀ t, step s e = some t → Guarded step guard t es

/-- Some run leads from the first state to the second. -/
def Reaches (step : σ → ε → Option σ) (s t : σ) : Prop :=
  ∃ es, run step s es = some t

/-- Some guarded run leads from the first state to the second. -/
def GuardedReaches (step : σ → ε → Option σ) (guard : σ → ε → Prop) (s t : σ) : Prop :=
  ∃ es, run step s es = some t ∧ Guarded step guard s es

/-- Every state on the way satisfies the property, the first one and the last one included. -/
def Throughout (step : σ → ε → Option σ) (Good : σ → Prop) (s : σ) (es : List ε) : Prop :=
  ∀ before, before <+: es → ∀ t, run step s before = some t → Good t

section Rules

variable {step : σ → ε → Option σ} {guard : σ → ε → Prop}

/-- Whether a run is guarded can be computed when the guard can. -/
instance decidableGuarded [∀ s e, Decidable (guard s e)] :
    (s : σ) → (es : List ε) → Decidable (Guarded step guard s es)
  | _, [] => isTrue trivial
  | s, e :: es =>
      match hstep : step s e with
      | none => decidable_of_iff (guard s e)
          ⟨fun h => ⟨h, fun t ht => by rw [hstep] at ht; cases ht⟩, fun h => h.1⟩
      | some t =>
          have := decidableGuarded t es
          decidable_of_iff (guard s e ∧ Guarded step guard t es)
            ⟨fun h => ⟨h.1, fun u hu => by rw [hstep] at hu; cases hu; exact h.2⟩,
              fun h => ⟨h.1, h.2 t hstep⟩⟩

@[simp] theorem run_nil (s : σ) : run step s [] = some s := rfl

theorem run_cons_of_step {s t : σ} {e : ε} (h : step s e = some t) (es : List ε) :
    run step s (e :: es) = run step t es := by
  simp only [run, h]

/-- A run which starts with `e` takes that step first. -/
theorem run_cons_eq_some {s u : σ} {e : ε} {es : List ε}
    (h : run step s (e :: es) = some u) :
    ∃ t, step s e = some t ∧ run step t es = some u := by
  cases hstep : step s e with
  | none =>
      simp only [run, hstep] at h
      cases h
  | some t =>
      rw [run_cons_of_step hstep] at h
      exact ⟨t, rfl, h⟩

theorem run_append {s t : σ} {es : List ε} (h : run step s es = some t) (fs : List ε) :
    run step s (es ++ fs) = run step t fs := by
  induction es generalizing s with
  | nil =>
      cases h
      rfl
  | cons e es ih =>
      obtain ⟨u, hstep, hrest⟩ := run_cons_eq_some h
      rw [List.cons_append, run_cons_of_step hstep]
      exact ih hrest

/-- **Invariant rule.**  What every guarded step preserves holds at the end of
every guarded run. -/
theorem Guarded.invariant {Inv : σ → Prop}
    (hpres : ∀ s e t, Inv s → guard s e → step s e = some t → Inv t)
    {s t : σ} {es : List ε} (hguard : Guarded step guard s es)
    (hrun : run step s es = some t) (hs : Inv s) : Inv t := by
  induction es generalizing s with
  | nil =>
      cases hrun
      exact hs
  | cons e es ih =>
      obtain ⟨u, hstep, hrest⟩ := run_cons_eq_some hrun
      exact ih (hguard.2 u hstep) hrest (hpres s e u hs hguard.1 hstep)

/-- The invariant rule for reachable states. -/
theorem GuardedReaches.invariant {Inv : σ → Prop}
    (hpres : ∀ s e t, Inv s → guard s e → step s e = some t → Inv t)
    {s t : σ} (h : GuardedReaches step guard s t) (hs : Inv s) : Inv t := by
  obtain ⟨es, hrun, hguard⟩ := h
  exact hguard.invariant hpres hrun hs

/-- The invariant rule for runs without a guard. -/
theorem Reaches.invariant {Inv : σ → Prop}
    (hpres : ∀ s e t, Inv s → step s e = some t → Inv t)
    {s t : σ} (h : Reaches step s t) (hs : Inv s) : Inv t := by
  obtain ⟨es, hrun⟩ := h
  induction es generalizing s with
  | nil =>
      cases hrun
      exact hs
  | cons e es ih =>
      obtain ⟨u, hstep, hrest⟩ := run_cons_eq_some hrun
      exact ih (hpres s e u hs hstep) hrest

/-- A guarded run followed by a guarded run is guarded. -/
theorem Guarded.append {s t : σ} {es fs : List ε} (hrun : run step s es = some t)
    (hes : Guarded step guard s es) (hfs : Guarded step guard t fs) :
    Guarded step guard s (es ++ fs) := by
  induction es generalizing s with
  | nil =>
      cases hrun
      exact hfs
  | cons e es ih =>
      obtain ⟨u, hstep, hrest⟩ := run_cons_eq_some hrun
      refine ⟨hes.1, fun t' ht' => ?_⟩
      have huv : u = t' := Option.some.inj (hstep.symm.trans ht')
      subst huv
      exact ih hrest (hes.2 u hstep)

/-- A guard which implies another one wherever an invariant holds guards fewer runs, when its
steps keep the invariant. -/
theorem Guarded.imp {Inv : σ → Prop} {guard' : σ → ε → Prop} {s : σ} {es : List ε}
    (h : Guarded step guard s es)
    (hpres : ∀ s e t, Inv s → guard s e → step s e = some t → Inv t)
    (himp : ∀ s e, Inv s → guard s e → guard' s e) (hs : Inv s) :
    Guarded step guard' s es := by
  induction es generalizing s with
  | nil => trivial
  | cons e es ih =>
      obtain ⟨hfirst, hrest⟩ := h
      refine ⟨himp s e hs hfirst, fun t hstep => ?_⟩
      exact ih (hrest t hstep) (hpres s e t hs hfirst hstep)

/-- Guards which agree wherever an invariant holds guard the same runs, when the steps
under one of them keep the invariant. -/
theorem Guarded.congr {Inv : σ → Prop} {guard' : σ → ε → Prop}
    (hpres : ∀ s e t, Inv s → guard s e → step s e = some t → Inv t)
    (hguard : ∀ s e, Inv s → (guard s e ↔ guard' s e)) {s : σ} (hs : Inv s) (es : List ε) :
    Guarded step guard s es ↔ Guarded step guard' s es := by
  constructor
  · intro h
    exact h.imp hpres (fun s e hs => (hguard s e hs).mp) hs
  · intro h
    have hpres' : ∀ s e t, Inv s → guard' s e → step s e = some t → Inv t := by
      intro s e t hs hfirst
      exact hpres s e t hs ((hguard s e hs).mpr hfirst)
    exact h.imp hpres' (fun s e hs => (hguard s e hs).mpr) hs

@[simp] theorem throughout_nil {Good : σ → Prop} {s : σ} :
    Throughout step Good s [] ↔ Good s := by
  constructor
  · intro h
    exact h [] List.nil_prefix s rfl
  · intro hs before hbefore t hrun
    rw [List.prefix_nil.mp hbefore] at hrun
    cases hrun
    exact hs

theorem throughout_cons {Good : σ → Prop} {s t : σ} {e : ε} (hstep : step s e = some t)
    (es : List ε) :
    Throughout step Good s (e :: es) ↔ Good s ∧ Throughout step Good t es := by
  constructor
  · intro h
    refine ⟨h [] List.nil_prefix s rfl, fun before hbefore u hrun => ?_⟩
    apply h (e :: before) ((List.prefix_cons_inj e).mpr hbefore) u
    rw [run_cons_of_step hstep]
    exact hrun
  · rintro ⟨hs, ht⟩ before hbefore u hrun
    rcases List.prefix_cons_iff.mp hbefore with rfl | ⟨before, rfl, hrest⟩
    · cases hrun
      exact hs
    · rw [run_cons_of_step hstep] at hrun
      exact ht before hrest u hrun

/-- The invariant of a guarded run holds on the whole way. -/
theorem Guarded.throughout {Inv : σ → Prop}
    (hpres : ∀ s e t, Inv s → guard s e → step s e = some t → Inv t) {s : σ} {es : List ε}
    (hguard : Guarded step guard s es) (hs : Inv s) : Throughout step Inv s es := by
  intro before hbefore t hrun
  induction before generalizing s es with
  | nil =>
      cases hrun
      exact hs
  | cons e before ih =>
      obtain ⟨rest, rfl⟩ := hbefore
      obtain ⟨u, hstep, hrest⟩ := run_cons_eq_some hrun
      exact ih (hguard.2 u hstep) (hpres s e u hs hguard.1 hstep) ⟨rest, rfl⟩ hrest

/-- **Exact guards.**  When a guard says of every step exactly whether the next state is
good, the guarded runs are the runs through good states only. -/
theorem guarded_iff_throughout {Inv Good : σ → Prop}
    (hpres : ∀ s e t, Inv s → guard s e → step s e = some t → Inv t)
    (hgood : ∀ s e t, Inv s → step s e = some t → (Good t ↔ guard s e)) {s t : σ}
    {es : List ε} (hrun : run step s es = some t) (hinv : Inv s) (hs : Good s) :
    Guarded step guard s es ↔ Throughout step Good s es := by
  induction es generalizing s with
  | nil => exact iff_of_true trivial (throughout_nil.mpr hs)
  | cons e es ih =>
      obtain ⟨u, hstep, hrest⟩ := run_cons_eq_some hrun
      rw [throughout_cons hstep]
      constructor
      · rintro ⟨hfirst, hall⟩
        have hu : Good u := (hgood s e u hinv hstep).mpr hfirst
        exact ⟨hs, (ih hrest (hpres s e u hinv hfirst hstep) hu).mp (hall u hstep)⟩
      · rintro ⟨-, hall⟩
        have hu : Good u := hall [] List.nil_prefix u rfl
        have hfirst : guard s e := (hgood s e u hinv hstep).mp hu
        refine ⟨hfirst, fun v hv => ?_⟩
        have huv : u = v := Option.some.inj (hstep.symm.trans hv)
        subst huv
        exact (ih hrest (hpres s e u hinv hfirst hstep) hu).mpr hall

/-- The same for any list of labels, when the guard asks nothing of a step which cannot be
taken. -/
theorem guarded_iff_throughout_of_enabled {Inv Good : σ → Prop}
    (hpres : ∀ s e t, Inv s → guard s e → step s e = some t → Inv t)
    (hgood : ∀ s e t, Inv s → step s e = some t → (Good t ↔ guard s e))
    (hnone : ∀ s e, Inv s → step s e = none → guard s e) {s : σ} (hinv : Inv s) (hs : Good s)
    (es : List ε) : Guarded step guard s es ↔ Throughout step Good s es := by
  induction es generalizing s with
  | nil => exact iff_of_true trivial (throughout_nil.mpr hs)
  | cons e es ih =>
      cases hstep : step s e with
      | none =>
          refine iff_of_true ⟨hnone s e hinv hstep, fun t ht => ?_⟩ fun before hbefore t hrun => ?_
          · rw [hstep] at ht
            cases ht
          · rcases List.prefix_cons_iff.mp hbefore with rfl | ⟨before, rfl, -⟩
            · cases hrun
              exact hs
            · obtain ⟨u, hu, -⟩ := run_cons_eq_some hrun
              rw [hstep] at hu
              cases hu
      | some u =>
          rw [throughout_cons hstep]
          have hfirst := hgood s e u hinv hstep
          constructor
          · rintro ⟨hguard, hall⟩
            have hu := hpres s e u hinv hguard hstep
            exact ⟨hs, (ih hu (hfirst.mpr hguard)).mp (hall u hstep)⟩
          · rintro ⟨-, hall⟩
            have hu : Good u := hall [] List.nil_prefix u rfl
            refine ⟨hfirst.mp hu, fun v hv => ?_⟩
            have huv : u = v := Option.some.inj (hstep.symm.trans hv)
            subst huv
            exact (ih (hpres s e u hinv (hfirst.mp hu) hstep) hu).mpr hall

theorem Reaches.refl (s : σ) : Reaches step s s := ⟨[], rfl⟩

theorem Reaches.of_step {e : ε} {s t : σ} (h : step s e = some t) : Reaches step s t :=
  ⟨[e], by rw [run_cons_of_step h, run_nil]⟩

theorem Reaches.trans {s t u : σ} (hst : Reaches step s t) (htu : Reaches step t u) :
    Reaches step s u := by
  obtain ⟨es, hes⟩ := hst
  obtain ⟨fs, hfs⟩ := htu
  exact ⟨es ++ fs, by rw [run_append hes, hfs]⟩

/-- **Measure rule.**  A system with a measure which a step always makes smaller comes to a
state in which the step cannot be taken. -/
theorem exists_reaches_stop {s : σ} (e : ε) (measure : σ → Nat)
    (hdecreases : ∀ u t, Reaches step s u → step u e = some t → measure t < measure u) :
    ∃ t, Reaches step s t ∧ step t e = none := by
  have hfrom : ∀ n u, measure u < n → Reaches step s u →
      ∃ t, Reaches step s t ∧ step t e = none := by
    intro n
    induction n with
    | zero => exact fun u hlt _ => absurd hlt (Nat.not_lt_zero _)
    | succ n ih =>
        intro u hlt hu
        cases hstep : step u e with
        | none => exact ⟨u, hu, hstep⟩
        | some t =>
            have hless := hdecreases u t hu hstep
            exact ih t (Nat.lt_of_lt_of_le hless (Nat.le_of_lt_succ hlt))
              (hu.trans (Reaches.of_step hstep))
  exact hfrom (measure s + 1) s (Nat.lt_succ_self _) (Reaches.refl s)

/-- With one label there is only one state in which a run can come to a stop. -/
theorem Reaches.eq_of_stop {step : σ → Unit → Option σ} {s t u : σ} (ht : Reaches step s t)
    (hu : Reaches step s u) (hstopt : step t () = none) (hstopu : step u () = none) :
    t = u := by
  obtain ⟨es, hes⟩ := ht
  obtain ⟨fs, hfs⟩ := hu
  induction es generalizing s fs with
  | nil =>
      cases hes
      cases fs with
      | nil => exact Option.some.inj hfs
      | cons f fs =>
          obtain ⟨v, hstep, -⟩ := run_cons_eq_some hfs
          rw [hstopt] at hstep
          cases hstep
  | cons e es ih =>
      obtain ⟨v, hstep, hrest⟩ := run_cons_eq_some hes
      cases fs with
      | nil =>
          cases hfs
          rw [hstopu] at hstep
          cases hstep
      | cons f fs =>
          obtain ⟨w, hstep', hrest'⟩ := run_cons_eq_some hfs
          have hvw : v = w := Option.some.inj (hstep.symm.trans hstep')
          subst hvw
          exact ih hrest fs hrest'

/-- **Simulation.**  When every guarded step is answered by a run of another system, and the
two are related again after it, so is every guarded run. -/
theorem Guarded.simulated {τ δ : Type*} {step' : τ → δ → Option τ} {R : σ → τ → Prop}
    (hstep : ∀ s e s' t, R s t → guard s e → step s e = some s' →
      ∃ t', Reaches step' t t' ∧ R s' t') {s s' : σ} {t : τ} {es : List ε}
    (hguard : Guarded step guard s es) (hrun : run step s es = some s') (hR : R s t) :
    ∃ t', Reaches step' t t' ∧ R s' t' := by
  induction es generalizing s t with
  | nil =>
      cases hrun
      exact ⟨t, Reaches.refl t, hR⟩
  | cons e es ih =>
      obtain ⟨u, hu, hrest⟩ := run_cons_eq_some hrun
      obtain ⟨hfirst, hlater⟩ := hguard
      obtain ⟨v, hv, hRv⟩ := hstep s e u t hR hfirst hu
      obtain ⟨t', ht', hR'⟩ := ih (hlater u hu) hrest hRv
      exact ⟨t', hv.trans ht', hR'⟩

theorem GuardedReaches.refl (s : σ) : GuardedReaches step guard s s :=
  ⟨[], rfl, trivial⟩

theorem GuardedReaches.trans {s t u : σ} (hst : GuardedReaches step guard s t)
    (htu : GuardedReaches step guard t u) : GuardedReaches step guard s u := by
  obtain ⟨es, hes, hgs⟩ := hst
  obtain ⟨fs, hfs, hgt⟩ := htu
  exact ⟨es ++ fs, by rw [run_append hes, hfs], Guarded.append hes hgs hgt⟩

theorem GuardedReaches.imp {guard' : σ → ε → Prop} {s t : σ}
    (h : GuardedReaches step guard s t) (himp : ∀ s e, guard s e → guard' s e) :
    GuardedReaches step guard' s t := by
  obtain ⟨es, hrun, hguard⟩ := h
  exact ⟨es, hrun, hguard.imp (fun _ _ _ _ _ _ => trivial) (fun s e _ => himp s e) trivial⟩

theorem GuardedReaches.reaches {s t : σ} (h : GuardedReaches step guard s t) :
    Reaches step s t := by
  obtain ⟨es, hrun, -⟩ := h
  exact ⟨es, hrun⟩

/-- A reachable state followed by one guarded step is reachable. -/
theorem GuardedReaches.tail {s t u : σ} {e : ε} (hst : GuardedReaches step guard s t)
    (hguard : guard t e) (hstep : step t e = some u) :
    GuardedReaches step guard s u := by
  refine hst.trans ⟨[e], ?_, hguard, fun _ _ => trivial⟩
  rw [run_cons_of_step hstep, run_nil]

end Rules

end Core
end FireEvacuation
