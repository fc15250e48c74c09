import Mathlib.Data.List.Basic

/-!
# Messages on a stream

The beginning of a message says how long the message is.  A text falls into the messages which are
whole and an unfinished one at its end, and a receiver which keeps the unfinished one may take the
text in pieces: the messages are those of the whole text, wherever it is cut.
-/

namespace FireEvacuation
namespace Core

/-- How much a message at the front of a text takes, once the text shows it. -/
structure Framing (σ : Type*) where
  size : List σ → Option Nat
  size_append : ∀ {text n}, size text = some n → ∀ more, size (text ++ more) = some n
  size_pos : ∀ {text n}, size text = some n → 0 < n

namespace Framing

variable {σ : Type*} (f : Framing σ)

/-- The message at the front of a text, and what is behind it. -/
def front (text : List σ) : Option (List σ × List σ) :=
  match f.size text with
  | none => none
  | some n => if n ≤ text.length then some (text.take n, text.drop n) else none

/-- At most so many messages, and the rest of the text. -/
def framesUpTo : Nat → List σ → List (List σ) × List σ
  | 0, text => ([], text)
  | fuel + 1, text =>
      match f.front text with
      | none => ([], text)
      | some (message, rest) =>
          (message :: (framesUpTo fuel rest).1, (framesUpTo fuel rest).2)

/-- The messages which are whole, and the unfinished one at the end. -/
def frames (text : List σ) : List (List σ) × List σ := f.framesUpTo text.length text

/-! ## The first message -/

variable {f}

theorem front_eq_some_iff {text message rest : List σ} :
    f.front text = some (message, rest) ↔
      text = message ++ rest ∧ f.size text = some message.length := by
  unfold front
  constructor
  · intro h
    split at h
    · cases h
    · rename_i n hsize
      obtain ⟨hle, heq⟩ := Option.ite_none_right_eq_some.mp h
      cases heq
      rw [List.length_take, Nat.min_eq_left hle]
      exact ⟨(List.take_append_drop n text).symm, hsize⟩
  · rintro ⟨rfl, hsize⟩
    rw [hsize]
    simp

/-- A text without a whole message at its front does not show how long it is, or is too short. -/
theorem front_eq_none_iff {text : List σ} :
    f.front text = none ↔ ∀ n, f.size text = some n → text.length < n := by
  unfold front
  cases f.size text with
  | none => simp
  | some n =>
      dsimp only
      split_ifs with hle
      · simp only [Option.some.injEq, forall_eq', false_iff]
        omega
      · simp only [Option.some.injEq, forall_eq', true_iff]
        omega

theorem front_append {text message rest : List σ} (h : f.front text = some (message, rest))
    (more : List σ) : f.front (text ++ more) = some (message, rest ++ more) := by
  obtain ⟨rfl, hsize⟩ := front_eq_some_iff.mp h
  exact front_eq_some_iff.mpr ⟨List.append_assoc _ _ _, f.size_append hsize more⟩

theorem front_length {text message rest : List σ} (h : f.front text = some (message, rest)) :
    rest.length < text.length := by
  obtain ⟨rfl, hsize⟩ := front_eq_some_iff.mp h
  have hpos := f.size_pos hsize
  rw [List.length_append]
  omega

@[simp] theorem front_nil : f.front [] = none := by
  cases h : f.front [] with
  | none => rfl
  | some one => exact absurd (front_length h) (Nat.not_lt_zero _)

/-- From behind: what holds of a text without a message, and of a text if it holds behind its
first message. -/
@[elab_as_elim]
theorem front_induction {P : List σ → Prop} (unfinished : ∀ text, f.front text = none → P text)
    (whole : ∀ text message rest, f.front text = some (message, rest) → P rest → P text)
    (text : List σ) : P text := by
  induction hn : text.length using Nat.strongRecOn generalizing text with
  | ind n ih =>
      cases hfront : f.front text with
      | none => exact unfinished text hfront
      | some one =>
          have hshort := front_length hfront
          exact whole text one.1 one.2 hfront (ih one.2.length (by omega) one.2 rfl)

/-! ## All messages -/

theorem framesUpTo_fuel {fuel more : Nat} {text : List σ} (hfuel : text.length ≤ fuel)
    (hmore : text.length ≤ more) : f.framesUpTo fuel text = f.framesUpTo more text := by
  induction fuel generalizing more text with
  | zero =>
      obtain rfl := List.length_eq_zero_iff.mp (Nat.le_zero.mp hfuel)
      cases more with
      | zero => rfl
      | succ m => simp [framesUpTo]
  | succ n ih =>
      cases more with
      | zero =>
          obtain rfl := List.length_eq_zero_iff.mp (Nat.le_zero.mp hmore)
          simp [framesUpTo]
      | succ m =>
          rw [framesUpTo, framesUpTo]
          cases hfront : f.front text with
          | none => rfl
          | some one =>
              have hshort := front_length hfront
              dsimp only
              rw [@ih m _ (by omega) (by omega)]

theorem frames_of_none {text : List σ} (h : f.front text = none) : f.frames text = ([], text) := by
  unfold frames
  cases text.length with
  | zero => rfl
  | succ n => simp [framesUpTo, h]

theorem frames_of_some {text message rest : List σ} (h : f.front text = some (message, rest)) :
    f.frames text = (message :: (f.frames rest).1, (f.frames rest).2) := by
  have hshort := front_length h
  obtain ⟨n, hn⟩ := Nat.exists_eq_succ_of_ne_zero (Nat.ne_of_gt (Nat.zero_lt_of_lt hshort))
  rw [frames, hn, framesUpTo, h]
  dsimp only
  have hfuel := framesUpTo_fuel (f := f) (show rest.length ≤ n by omega) (Nat.le_refl rest.length)
  rw [hfuel]
  rfl

@[simp] theorem frames_nil : f.frames [] = ([], []) := rfl

/-- Nothing is lost. -/
theorem frames_flatten (text : List σ) : (f.frames text).1.flatten ++ (f.frames text).2 = text := by
  induction text using f.front_induction with
  | unfinished text hfront => simp [frames_of_none hfront]
  | whole text message rest hfront ih =>
      rw [frames_of_some hfront]
      simp only [List.flatten_cons, List.append_assoc]
      rw [ih]
      exact (front_eq_some_iff.mp hfront).1.symm

/-- The rest has no message. -/
theorem front_rest (text : List σ) : f.front (f.frames text).2 = none := by
  induction text using f.front_induction with
  | unfinished text hfront => rw [frames_of_none hfront, hfront]
  | whole text message rest hfront ih =>
      rw [frames_of_some hfront]
      exact ih

/-- **A text may be taken in two pieces.** -/
theorem frames_append (text more : List σ) :
    f.frames (text ++ more) =
      ((f.frames text).1 ++ (f.frames ((f.frames text).2 ++ more)).1,
        (f.frames ((f.frames text).2 ++ more)).2) := by
  induction text using f.front_induction with
  | unfinished text hfront =>
      rw [frames_of_none hfront]
      rfl
  | whole text message rest hfront ih =>
      rw [frames_of_some (front_append hfront more), frames_of_some hfront, ih]
      rfl

/-- **Messages one after the other** come out as they are, exactly if each one is as long as it
says. -/
theorem frames_messages_iff {messages : List (List σ)}
    (hshows : ∀ message ∈ messages, ∃ n, f.size message = some n) :
    f.frames messages.flatten = (messages, []) ↔
      ∀ message ∈ messages, f.size message = some message.length := by
  induction messages with
  | nil => simp
  | cons message messages ih =>
      have hrest := ih fun m hm => hshows m (List.mem_cons_of_mem _ hm)
      obtain ⟨n, hn⟩ := hshows message List.mem_cons_self
      rw [List.flatten_cons, List.forall_mem_cons, ← hrest]
      constructor
      · intro h
        cases hfront : f.front (message ++ messages.flatten) with
        | none =>
            rw [frames_of_none hfront] at h
            cases h
        | some one =>
            obtain ⟨first, rest⟩ := one
            rw [frames_of_some hfront] at h
            obtain ⟨hall, hend⟩ := Prod.ext_iff.mp h
            obtain ⟨rfl, hmessages⟩ := List.cons.inj hall
            obtain ⟨happend, hsize⟩ := front_eq_some_iff.mp hfront
            obtain rfl := List.append_cancel_left happend
            rw [f.size_append hn] at hsize
            exact ⟨hn.trans hsize, Prod.ext hmessages hend⟩
      · rintro ⟨hsize, hrest⟩
        rw [frames_of_some (front_eq_some_iff.mpr ⟨rfl, f.size_append hsize _⟩), hrest]

end Framing

/-! ## Receivers -/

section Receivers

variable {S σ : Type*}

/-- Piece by piece: the messages, and the state in the end. -/
def receiveAll (receive : S → List σ → List (List σ) × S) : S → List (List σ) → List (List σ) × S
  | s, [] => ([], s)
  | s, piece :: pieces =>
      ((receive s piece).1 ++ (receiveAll receive (receive s piece).2 pieces).1,
        (receiveAll receive (receive s piece).2 pieces).2)

/-- A receiver which keeps the unfinished text, and takes some of it twice if it is left like that
at the end of a piece. -/
structure Framing.Repeats (f : Framing σ) (receive : S → List σ → List (List σ) × S)
    (state : List σ → S) (twice : List σ → List σ) : Prop where
  receive_eq : ∀ rest piece, f.front rest = none → twice rest = [] → piece ≠ [] →
    receive (state rest) piece =
      ((f.frames (rest ++ piece ++ twice (f.frames (rest ++ piece)).2)).1,
        state (f.frames (rest ++ piece ++ twice (f.frames (rest ++ piece)).2)).2)
  once : ∀ rest, f.front rest = none → twice (f.frames (rest ++ twice rest)).2 = []

variable {f : Framing σ} {receive : S → List σ → List (List σ) × S} {state : List σ → S}
  {twice : List σ → List σ}

/-- One piece, with the text in front of it. -/
theorem Framing.Repeats.receive_rest (h : f.Repeats receive state twice) {rest piece : List σ}
    (hrest : f.front rest = none) (honce : twice rest = []) (hpiece : piece ≠ []) :
    ∃ rest', f.front rest' = none ∧ twice rest' = [] ∧ (receive (state rest) piece).2 = state rest' ∧
      (receive (state rest) piece).1.flatten ++ rest' =
        rest ++ piece ++ twice (f.frames (rest ++ piece)).2 := by
  rw [h.receive_eq rest piece hrest honce hpiece]
  refine ⟨_, front_rest _, ?_, rfl, frames_flatten _⟩
  rw [frames_append]
  exact h.once _ (front_rest _)

/-- What comes out and what is kept is at least what came in. -/
theorem Framing.Repeats.length_le (h : f.Repeats receive state twice) {pieces : List (List σ)}
    (hpieces : ∀ piece ∈ pieces, piece ≠ []) {rest : List σ} (hrest : f.front rest = none)
    (honce : twice rest = []) :
    ∃ rest', (receiveAll receive (state rest) pieces).2 = state rest' ∧
      (rest ++ pieces.flatten).length ≤
        ((receiveAll receive (state rest) pieces).1.flatten ++ rest').length := by
  induction pieces generalizing rest with
  | nil => exact ⟨rest, rfl, by simp [receiveAll]⟩
  | cons piece pieces ih =>
      obtain ⟨next, hnext, hnextonce, hstate, hflat⟩ :=
        h.receive_rest hrest honce (hpieces piece List.mem_cons_self)
      obtain ⟨last, hlast, hlength⟩ :=
        ih (fun p hp => hpieces p (List.mem_cons_of_mem _ hp)) hnext hnextonce
      have hone := congrArg List.length hflat
      refine ⟨last, ?_, ?_⟩
      · rw [receiveAll, hstate]
        exact hlast
      · rw [receiveAll, hstate]
        simp only [List.flatten_append, List.flatten_cons, List.length_append] at hone hlength ⊢
        omega

/-- **Cutting does not matter** exactly if no piece ends where the receiver takes something
twice. -/
theorem Framing.Repeats.receiveAll_iff (h : f.Repeats receive state twice)
    (hinj : ∀ rest rest', state rest = state rest' → rest = rest') {pieces : List (List σ)}
    (hpieces : ∀ piece ∈ pieces, piece ≠ []) {rest : List σ} (hrest : f.front rest = none)
    (honce : twice rest = []) :
    receiveAll receive (state rest) pieces =
        ((f.frames (rest ++ pieces.flatten)).1, state (f.frames (rest ++ pieces.flatten)).2) ↔
      ∀ i, twice (f.frames (rest ++ (pieces.take i).flatten)).2 = [] := by
  induction pieces generalizing rest with
  | nil => simp [receiveAll, frames_of_none hrest, honce]
  | cons piece pieces ih =>
      have hpiece := hpieces piece List.mem_cons_self
      have hothers := fun p hp => hpieces p (List.mem_cons_of_mem _ hp)
      by_cases htwice : twice (f.frames (rest ++ piece)).2 = []
      · -- the piece is taken as it is, and the others are taken behind its rest
        have hone := h.receive_eq rest piece hrest honce hpiece
        rw [htwice, List.append_nil] at hone
        have hrest' := ih hothers (front_rest (rest ++ piece)) htwice
        have hpart (text : List σ) : f.frames (rest ++ (piece ++ text)) =
            ((f.frames (rest ++ piece)).1 ++ (f.frames ((f.frames (rest ++ piece)).2 ++ text)).1,
              (f.frames ((f.frames (rest ++ piece)).2 ++ text)).2) := by
          rw [← List.append_assoc, frames_append]
        rw [receiveAll, hone, List.flatten_cons, hpart]
        constructor
        · intro hall i
          obtain ⟨hmessages, hstate⟩ := Prod.ext_iff.mp hall
          have hfirst := hrest'.mp (Prod.ext (List.append_cancel_left hmessages) hstate)
          cases i with
          | zero => simpa [frames_of_none hrest] using honce
          | succ i =>
              rw [List.take_succ_cons, List.flatten_cons, hpart]
              exact hfirst i
        · intro hall
          have hfirst := hrest'.mpr fun i => by
            have hnext := hall (i + 1)
            rw [List.take_succ_cons, List.flatten_cons, hpart] at hnext
            exact hnext
          rw [hfirst]
      · -- something is taken twice, and then too much comes out in the end
        constructor
        · intro hall
          obtain ⟨next, hnext, hnextonce, hstate, hflat⟩ := h.receive_rest hrest honce hpiece
          obtain ⟨last, hlast, hlength⟩ := h.length_le hothers hnext hnextonce
          rw [receiveAll, hstate] at hall
          obtain ⟨hmessages, hkept⟩ := Prod.ext_iff.mp hall
          dsimp only at hmessages hkept
          rw [hlast] at hkept
          obtain rfl := hinj _ _ hkept
          have hwhole := congrArg List.length (f.frames_flatten (rest ++ (piece :: pieces).flatten))
          have hpos := List.length_pos_of_ne_nil htwice
          have hone := congrArg List.length hflat
          rw [← hmessages] at hwhole
          simp only [List.flatten_append, List.flatten_cons, List.length_append] at hwhole hone hlength
          omega
        · intro hall
          have hfirst := hall 1
          simp only [List.take_succ_cons, List.take_zero, List.flatten_cons, List.flatten_nil,
            List.append_nil] at hfirst
          exact absurd hfirst htwice

end Receivers

end Core
end FireEvacuation
