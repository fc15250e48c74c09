import FireEvacuation.Core.Effects
import FireEvacuation.Core.Transition

/-!
# A call carried out step by step

A call can be given as a whole, by the value and the state it leaves, or as a machine which
takes its steps one at a time.  The machine carries the call out when, from every state which
shows the state of the call, it comes to one which shows what the call leaves: at the exit
with the value, or where the fault is.

The rules follow the call.  A sequence is carried out part by part, a look at the state costs
nothing, and the machine may take steps which do not show.
-/

namespace FireEvacuation
namespace Core

open Effect

/-- A machine for calls over `σ`.  At a fault it stops. -/
structure Machine (μ σ ε : Type) where
  step : μ → Unit → Option μ
  Shows : μ → σ → Prop
  Faulted : Fault ε → μ → Prop
  stops : ∀ e n, Faulted e n → step n () = none

namespace Machine

variable {μ σ ε α β : Type} {m : Machine μ σ ε}

/-- The machine is where the call has ended. -/
def Ends (m : Machine μ σ ε) (exit : α → μ → Prop) :
    EStateM.Result (Fault ε) σ α → μ → Prop
  | .ok a s, t => exit a t ∧ m.Shows t s
  | .error e s, t => m.Faulted e t ∧ m.Shows t s

/-- From every entry the machine comes to the end of the call. -/
def CarriesOut (m : Machine μ σ ε) (entry : μ → Prop) (x : Effect ε σ α)
    (exit : α → μ → Prop) : Prop :=
  ∀ n s, entry n → m.Shows n s → ∃ t, Reaches m.step n t ∧ m.Ends exit (x s) t

namespace CarriesOut

variable {entry entry' : μ → Prop} {x : Effect ε σ α} {exit : α → μ → Prop}

/-- The call has ended where the machine is. -/
theorem here (h : ∀ n s, entry n → m.Shows n s → m.Ends exit (x s) n) :
    m.CarriesOut entry x exit :=
  fun n s hn hs => ⟨n, Reaches.refl n, h n s hn hs⟩

theorem ret {a : α} (h : ∀ n, entry n → exit a n) :
    m.CarriesOut entry (pure a) exit :=
  here fun n _ hn hs => ⟨h n hn, hs⟩

/-- The call is one step of the machine. -/
theorem single
    (h : ∀ n s, entry n → m.Shows n s → ∃ t, m.step n () = some t ∧ m.Ends exit (x s) t) :
    m.CarriesOut entry x exit := by
  intro n s hn hs
  obtain ⟨t, hstep, hends⟩ := h n s hn hs
  exact ⟨t, Reaches.of_step hstep, hends⟩

/-- The call stops at once in some states, and is one step in the others. -/
theorem single_or_here
    (h : ∀ n s, entry n → m.Shows n s →
      m.Ends exit (x s) n ∨ ∃ t, m.step n () = some t ∧ m.Ends exit (x s) t) :
    m.CarriesOut entry x exit := by
  intro n s hn hs
  rcases h n s hn hs with hends | ⟨t, hstep, hends⟩
  · exact ⟨n, Reaches.refl n, hends⟩
  · exact ⟨t, Reaches.of_step hstep, hends⟩

/-- A step which does not show. -/
theorem silent (h : m.CarriesOut entry' x exit)
    (hstep : ∀ n s, entry n → m.Shows n s → ∃ t, m.step n () = some t ∧ entry' t ∧ m.Shows t s) :
    m.CarriesOut entry x exit := by
  intro n s hn hs
  obtain ⟨u, hu, hentry, hshows⟩ := hstep n s hn hs
  obtain ⟨t, ht, hends⟩ := h u s hentry hshows
  exact ⟨t, (Reaches.of_step hu).trans ht, hends⟩

/-- A sequence. -/
theorem bind {middle : α → μ → Prop} {f : α → Effect ε σ β} {exit : β → μ → Prop}
    (hx : m.CarriesOut entry x middle) (hf : ∀ a, m.CarriesOut (middle a) (f a) exit) :
    m.CarriesOut entry (x >>= f) exit := by
  intro n s hn hs
  obtain ⟨u, hu, hends⟩ := hx n s hn hs
  cases hrun : x s with
  | ok a s' =>
      rw [hrun] at hends
      obtain ⟨t, ht, hends'⟩ := hf a u s' hends.1 hends.2
      rw [bind_of_ok hrun]
      exact ⟨t, hu.trans ht, hends'⟩
  | error e s' =>
      rw [hrun] at hends
      rw [bind_of_error hrun]
      exact ⟨u, hu, hends⟩

/-- A sequence which begins by looking at the state. -/
theorem get_bind {f : σ → Effect ε σ α}
    (h : ∀ s, m.CarriesOut (fun n => entry n ∧ m.Shows n s) (f s) exit) :
    m.CarriesOut entry (get >>= f) exit :=
  fun n s hn hs => h s n s ⟨hn, hs⟩ hs

/-- A look at the state which decides how to go on, where one step of the machine decides the
same. -/
theorem get_ite {c : σ → Prop} [DecidablePred c] {yes no : μ → Prop} {y : Effect ε σ α}
    (hstep : ∀ n s, entry n → m.Shows n s →
      ∃ t, m.step n () = some t ∧ m.Shows t s ∧ (c s → yes t) ∧ (¬c s → no t))
    (hx : m.CarriesOut yes x exit) (hy : m.CarriesOut no y exit) :
    m.CarriesOut entry (get >>= fun s => if c s then x else y) exit := by
  intro n s hn hs
  obtain ⟨u, hu, hshows, hyes, hno⟩ := hstep n s hn hs
  rw [bind_of_ok (get_apply s)]
  by_cases hc : c s
  · rw [if_pos hc]
    obtain ⟨t, ht, hends⟩ := hx u s (hyes hc) hshows
    exact ⟨t, (Reaches.of_step hu).trans ht, hends⟩
  · rw [if_neg hc]
    obtain ⟨t, ht, hends⟩ := hy u s (hno hc) hshows
    exact ⟨t, (Reaches.of_step hu).trans ht, hends⟩

/-- Wherever the machine stops, it is at the end of the call. -/
theorem ends_of_stop (h : m.CarriesOut entry x exit)
    (hexit : ∀ a t, exit a t → m.step t () = none) {n t : μ} {s : σ} (hn : entry n)
    (hs : m.Shows n s) (hreach : Reaches m.step n t) (hstop : m.step t () = none) :
    m.Ends exit (x s) t := by
  obtain ⟨u, hu, hends⟩ := h n s hn hs
  have hstop' : m.step u () = none := by
    cases hrun : x s with
    | ok a s' =>
        rw [hrun] at hends
        exact hexit a u hends.1
    | error e s' =>
        rw [hrun] at hends
        exact m.stops e u hends.1
  rw [hreach.eq_of_stop hu hstop hstop']
  exact hends

end CarriesOut

end Machine

end Core
end FireEvacuation
