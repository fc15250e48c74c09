import FireEvacuation.Core.Transition

/-!
# Output which comes in chunks

A machine is handed an input and is called again and again; each call takes some of the
input that is left and writes a chunk.  It says with each chunk whether more is to come,
whether this was the last one, or that it cannot go on.

The states a machine goes through are those of a transition system with one label, so the
rules for runs apply.  What a caller needs in the end is here: a machine which never fails,
makes progress and has a bound on what it writes comes to a last chunk, and the chunks it
writes are determined by the input.
-/

namespace FireEvacuation
namespace Core

/-- What a call says about the chunks to come. -/
inductive PortionStatus where
  | more
  | last
  | failed
  deriving DecidableEq, Repr

/-- What one call gives. -/
structure Portion (σ β : Type*) where
  state : σ
  consumed : Nat
  written : List β
  status : PortionStatus

/-- A machine with the input that is left and the chunks so far. -/
structure Drawing (σ α β : Type*) where
  state : σ
  rest : List α
  chunks : List (List β)

section Chunks

variable {σ α β : Type*} (call : σ → List α → Portion σ β)

/-- What the machine gives next. -/
def Drawing.next (s : Drawing σ α β) : Portion σ β := call s.state s.rest

/-- The drawing after a chunk. -/
def Drawing.after (s : Drawing σ α β) : Drawing σ α β :=
  ⟨(s.next call).state, s.rest.drop (s.next call).consumed, s.chunks ++ [(s.next call).written]⟩

/-- One call after which more is to come. -/
def draw (s : Drawing σ α β) (_ : Unit) : Option (Drawing σ α β) :=
  if (s.next call).status = .more then some (s.after call) else none

/-- The machine before its first call. -/
def Drawing.start (init : σ) (input : List α) : Drawing σ α β := ⟨init, input, []⟩

/-- All chunks of the machine for an input, the last one included. -/
def Drawn (init : σ) (input : List α) (chunks : List (List β)) : Prop :=
  ∃ s, Reaches (draw call) (.start init input) s ∧ (s.next call).status = .last ∧
    chunks = s.chunks ++ [(s.next call).written]

/-- The machine never fails on the input, and there is a bound on what it writes. -/
structure Delivers (init : σ) (input : List α) : Prop where
  answers : ∀ s : Drawing σ α β, Reaches (draw call) (.start init input) s →
    (s.next call).status ≠ .failed
  bounded : ∃ bound, ∀ s : Drawing σ α β, Reaches (draw call) (.start init input) s →
    s.chunks.flatten.length ≤ bound

variable {call} {init : σ} {input : List α}

theorem draw_eq_some_iff {s t : Drawing σ α β} :
    draw call s () = some t ↔ (s.next call).status = .more ∧ t = s.after call := by
  unfold draw
  split
  · rename_i hmore
    rw [Option.some_inj, eq_comm (a := t), and_iff_right hmore]
  · rename_i hmore
    exact iff_of_false (fun h => nomatch h) fun h => hmore h.1

theorem draw_eq_none_iff {s : Drawing σ α β} :
    draw call s () = none ↔ (s.next call).status ≠ .more := by
  unfold draw
  split
  · rename_i hmore
    exact iff_of_false (fun h => nomatch h) fun h => h hmore
  · rename_i hmore
    exact iff_of_true rfl hmore

theorem flatten_after (s : Drawing σ α β) :
    (s.after call).chunks.flatten = s.chunks.flatten ++ (s.next call).written := by
  simp [Drawing.after]

/-- **Termination.**  A machine which delivers, and consumes or writes something whenever more
is to come, writes a last chunk. -/
theorem Delivers.exists_drawn (h : Delivers call init input)
    (hconsumed : ∀ state rest, (call state rest).consumed ≤ rest.length)
    (hprogress : ∀ state rest, (call state rest).status = .more →
      0 < (call state rest).consumed ∨ 0 < (call state rest).written.length) :
    ∃ chunks, Drawn call init input chunks := by
  obtain ⟨bound, hbound⟩ := h.bounded
  have hdecreases : ∀ s t : Drawing σ α β, Reaches (draw call) (.start init input) s →
      draw call s () = some t →
        t.rest.length + (bound - t.chunks.flatten.length) <
          s.rest.length + (bound - s.chunks.flatten.length) := by
    intro s t hs hstep
    have ht : t.chunks.flatten.length ≤ bound := by
      refine hbound t (hs.trans ⟨[()], ?_⟩)
      rw [run_cons_of_step hstep, run_nil]
    obtain ⟨hmore, rfl⟩ := draw_eq_some_iff.mp hstep
    have hle : (s.next call).consumed ≤ s.rest.length := hconsumed s.state s.rest
    have hrest : (s.after call).rest.length = s.rest.length - (s.next call).consumed :=
      List.length_drop
    rw [flatten_after, List.length_append] at ht ⊢
    rw [hrest]
    rcases hprogress s.state s.rest hmore with hpos | hpos
    · have hpos' : 0 < (s.next call).consumed := hpos
      omega
    · have hpos' : 0 < (s.next call).written.length := hpos
      omega
  obtain ⟨s, hs, hstop⟩ := exists_reaches_stop () (fun s : Drawing σ α β =>
    s.rest.length + (bound - s.chunks.flatten.length)) hdecreases
  have hlast : (s.next call).status = .last := by
    have hanswer := h.answers s hs
    have hnomore := draw_eq_none_iff.mp hstop
    cases hstatus : (s.next call).status with
    | more => exact absurd hstatus hnomore
    | last => rfl
    | failed => exact absurd hstatus hanswer
  exact ⟨_, s, hs, hlast, rfl⟩

/-- **Determinacy.**  The chunks are those of the input. -/
theorem Drawn.unique {chunks chunks' : List (List β)} (h : Drawn call init input chunks)
    (h' : Drawn call init input chunks') : chunks = chunks' := by
  obtain ⟨s, hs, hlast, rfl⟩ := h
  obtain ⟨t, ht, hlast', rfl⟩ := h'
  have hstop : ∀ u : Drawing σ α β, (u.next call).status = .last → draw call u () = none := by
    intro u hu
    rw [draw_eq_none_iff, hu]
    decide
  rw [hs.eq_of_stop ht (hstop s hlast) (hstop t hlast')]

/-- A machine whose first call fails writes no last chunk. -/
theorem not_drawn_of_failed {chunks : List (List β)} (hfailed : (call init input).status = .failed) :
    ¬Drawn call init input chunks := by
  rintro ⟨s, hs, hlast, -⟩
  have hfirst : draw call (.start init input) () = none := by
    rw [draw_eq_none_iff]
    show (call init input).status ≠ .more
    rw [hfailed]
    decide
  have hstop : draw call s () = none := by
    rw [draw_eq_none_iff, hlast]
    decide
  rw [hs.eq_of_stop (Reaches.refl _) hstop hfirst] at hlast
  rw [show (call init input).status = .last from hlast] at hfailed
  cases hfailed

end Chunks

end Core
end FireEvacuation
