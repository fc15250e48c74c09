import Mathlib.Data.List.Basic

/-!
# Codes whose values say where they end

A value is written as a text which tells a reader where it ends, so a list of values is written
one after the other without separators.  How a value is written may depend on what the values
before it left, the context.  A list ends with the text, or in front of a stop symbol.

What holds of single values is lifted to lists once: a list reads back if every value does in its
own context, and only then if the others are misread.
-/

namespace FireEvacuation
namespace Core

/-- How a value is written, how the next one is read off a text, and what it leaves. -/
structure PrefixCode (κ α σ : Type*) where
  write : κ → α → List σ
  read : κ → List σ → Option (α × List σ)
  next : κ → α → κ

namespace PrefixCode

variable {κ α σ : Type*} (c : PrefixCode κ α σ)

/-- The text of a list of values. -/
def writeAll : κ → List α → List σ
  | _, [] => []
  | k, a :: as => c.write k a ++ writeAll (c.next k a) as

/-- The context behind a list of values. -/
def nextAll : κ → List α → κ
  | k, [] => k
  | k, a :: as => nextAll (c.next k a) as

/-- The values up to the end of the text or a stop symbol, and the text from there on.  The fuel
bounds the number of values. -/
def readAll (stop : σ → Bool) : Nat → κ → List σ → Option (List α × List σ)
  | _, _, [] => some ([], [])
  | 0, _, s :: text => if stop s then some ([], s :: text) else none
  | fuel + 1, k, s :: text =>
      if stop s then some ([], s :: text)
      else
        match c.read k (s :: text) with
        | none => none
        | some (a, rest) =>
            (readAll stop fuel (c.next k a) rest).map fun read => (a :: read.1, read.2)

/-- Every value of a list has the property in its context. -/
def Along (P : κ → α → Prop) : κ → List α → Prop
  | _, [] => True
  | k, a :: as => P k a ∧ Along P (c.next k a) as

/-- A value which is read off its own text, whatever follows. -/
def ReadsBack (k : κ) (a : α) : Prop :=
  ∀ rest, c.read k (c.write k a ++ rest) = some (a, rest)

/-- A value which never shows in what is read off its own text; `view` is how a reader looks at
what it has read. -/
def Misread (view : α → α) (k : κ) (a : α) : Prop :=
  ∀ rest b left, c.read k (c.write k a ++ rest) = some (b, left) → view b ≠ a

/-- The text of a value does not begin with a stop symbol, and is not empty. -/
def Begins (stop : σ → Bool) (k : κ) (a : α) : Prop :=
  ∃ s text, c.write k a = s :: text ∧ stop s = false

/-- Reading takes symbols from the front, at least one. -/
def Consumes : Prop :=
  ∀ k text a rest, c.read k text = some (a, rest) → ∃ front, front ≠ [] ∧ text = front ++ rest

/-- Where a list may end. -/
def AtEnd (stop : σ → Bool) (text : List σ) : Prop := ∀ s ∈ text.head?, stop s = true

/-! ## Lists of values -/

@[simp] theorem writeAll_nil (k : κ) : c.writeAll k [] = [] := rfl

@[simp] theorem writeAll_cons (k : κ) (a : α) (as : List α) :
    c.writeAll k (a :: as) = c.write k a ++ c.writeAll (c.next k a) as := rfl

@[simp] theorem nextAll_nil (k : κ) : c.nextAll k [] = k := rfl

@[simp] theorem nextAll_cons (k : κ) (a : α) (as : List α) :
    c.nextAll k (a :: as) = c.nextAll (c.next k a) as := rfl

@[simp] theorem along_nil (P : κ → α → Prop) (k : κ) : c.Along P k [] := trivial

@[simp] theorem along_cons (P : κ → α → Prop) (k : κ) (a : α) (as : List α) :
    c.Along P k (a :: as) ↔ P k a ∧ c.Along P (c.next k a) as := Iff.rfl

theorem Along.imp {c : PrefixCode κ α σ} {P Q : κ → α → Prop} (hPQ : ∀ k a, P k a → Q k a)
    {k : κ} {as : List α} (h : c.Along P k as) : c.Along Q k as := by
  induction as generalizing k with
  | nil => trivial
  | cons a as ih => exact ⟨hPQ k a h.1, ih h.2⟩

theorem Along.map_eq {c : PrefixCode κ α σ} {P : κ → α → Prop} {view : α → α}
    (hview : ∀ k a, P k a → view a = a) {k : κ} {as : List α} (h : c.Along P k as) :
    as.map view = as := by
  induction as generalizing k with
  | nil => rfl
  | cons a as ih => rw [List.map_cons, hview k a h.1, ih h.2]

/-! ## Reading a list -/

variable (stop : σ → Bool)

@[simp] theorem readAll_nil (fuel : Nat) (k : κ) : c.readAll stop fuel k [] = some ([], []) := by
  cases fuel <;> rfl

theorem readAll_of_stop {s : σ} (hs : stop s = true) (fuel : Nat) (k : κ) (text : List σ) :
    c.readAll stop fuel k (s :: text) = some ([], s :: text) := by
  cases fuel <;> simp [readAll, hs]

theorem readAll_atEnd {text : List σ} (hend : AtEnd stop text) (fuel : Nat) (k : κ) :
    c.readAll stop fuel k text = some ([], text) := by
  cases text with
  | nil => exact c.readAll_nil stop fuel k
  | cons s text => exact c.readAll_of_stop stop (hend s rfl) fuel k text

theorem readAll_step {s : σ} (hs : stop s = false) (fuel : Nat) (k : κ) (text : List σ) :
    c.readAll stop (fuel + 1) k (s :: text) =
      (c.read k (s :: text)).bind fun one =>
        (c.readAll stop fuel (c.next k one.1) one.2).map fun read => (one.1 :: read.1, read.2) := by
  show (if stop s then _ else _) = _
  rw [hs]
  cases c.read k (s :: text) with
  | none => rfl
  | some one => rfl

/-- **What a successful reader has done.**  The values are there one after the other, and the list
ends where a list may end. -/
theorem readAll_cases {fuel : Nat} {k : κ} {text : List σ} {as : List α} {rest : List σ}
    (h : c.readAll stop fuel k text = some (as, rest)) :
    (as = [] ∧ rest = text ∧ AtEnd stop text) ∨
      ∃ n a tail left, fuel = n + 1 ∧ as = a :: tail ∧ ¬ AtEnd stop text ∧
        c.read k text = some (a, left) ∧
        c.readAll stop n (c.next k a) left = some (tail, rest) := by
  cases text with
  | nil =>
      rw [readAll_nil] at h
      cases h
      exact Or.inl ⟨rfl, rfl, by simp [AtEnd]⟩
  | cons s text =>
      cases hs : stop s with
      | true =>
          rw [c.readAll_of_stop stop hs] at h
          cases h
          exact Or.inl ⟨rfl, rfl, by simp [AtEnd, hs]⟩
      | false =>
          cases fuel with
          | zero => simp [readAll, hs] at h
          | succ n =>
              rw [c.readAll_step stop hs] at h
              obtain ⟨⟨a, left⟩, hread, h⟩ := Option.bind_eq_some_iff.mp h
              obtain ⟨⟨tail, rest'⟩, htail, heq⟩ := Option.map_eq_some_iff.mp h
              cases heq
              exact Or.inr ⟨n, a, tail, left, rfl, rfl, by simp [AtEnd, hs], hread, htail⟩

theorem readAll_zero {k : κ} {text : List σ} (h : ¬ AtEnd stop text) :
    c.readAll stop 0 k text = none := by
  cases hread : c.readAll stop 0 k text with
  | none => rfl
  | some read =>
      obtain ⟨-, -, hend⟩ | ⟨n, a, tail, left, hfuel, -⟩ := c.readAll_cases stop hread
      · exact absurd hend h
      · cases hfuel

theorem Consumes.length_lt {c : PrefixCode κ α σ} (hc : c.Consumes) {k : κ} {text rest : List σ}
    {a : α} (h : c.read k text = some (a, rest)) : rest.length < text.length := by
  obtain ⟨front, hfront, rfl⟩ := hc k text a rest h
  have hpos := List.length_pos_of_ne_nil hfront
  rw [List.length_append]
  omega

/-- What is left when a list was read is the end of the text. -/
theorem readAll_suffix (hc : c.Consumes) {fuel : Nat} {k : κ} {text : List σ} {as : List α}
    {rest : List σ} (h : c.readAll stop fuel k text = some (as, rest)) : rest <:+ text := by
  induction as generalizing fuel k text with
  | nil =>
      obtain ⟨-, rfl, -⟩ | ⟨n, a, tail, left, -, hnil, -⟩ := c.readAll_cases stop h
      · exact List.suffix_refl _
      · cases hnil
  | cons b bs ih =>
      obtain ⟨hnil, -⟩ | ⟨n, a, tail, left, -, heq, -, hread, htail⟩ := c.readAll_cases stop h
      · cases hnil
      · cases heq
        obtain ⟨front, -, rfl⟩ := hc _ _ _ _ hread
        exact (ih htail).trans (List.suffix_append _ _)

/-- What is left when a list was read is not longer than the text. -/
theorem readAll_length (hc : c.Consumes) {fuel : Nat} {k : κ} {text : List σ} {as : List α}
    {rest : List σ} (h : c.readAll stop fuel k text = some (as, rest)) :
    rest.length + as.length ≤ text.length := by
  induction as generalizing fuel k text with
  | nil =>
      obtain ⟨-, rfl, -⟩ | ⟨n, a, tail, left, -, hnil, -⟩ := c.readAll_cases stop h
      · simp
      · cases hnil
  | cons b bs ih =>
      obtain ⟨hnil, -⟩ | ⟨n, a, tail, left, -, heq, -, hread, htail⟩ := c.readAll_cases stop h
      · cases hnil
      · cases heq
        have hshort := hc.length_lt hread
        have hrest := ih htail
        simp only [List.length_cons]
        omega

/-- Fuel beyond the length of the text changes nothing. -/
theorem readAll_fuel (hc : c.Consumes) {fuel more : Nat} {k : κ} {text : List σ}
    (hfuel : text.length ≤ fuel) (hmore : text.length ≤ more) :
    c.readAll stop fuel k text = c.readAll stop more k text := by
  induction fuel generalizing more k text with
  | zero =>
      obtain rfl := List.length_eq_zero_iff.mp (Nat.le_zero.mp hfuel)
      simp
  | succ n ih =>
      cases text with
      | nil => simp
      | cons s text =>
          cases hs : stop s with
          | true => rw [c.readAll_of_stop stop hs, c.readAll_of_stop stop hs]
          | false =>
              obtain ⟨m, rfl⟩ := Nat.exists_eq_add_of_le' (Nat.le_trans (Nat.succ_pos _) hmore)
              rw [c.readAll_step stop hs, c.readAll_step stop hs]
              cases hread : c.read k (s :: text) with
              | none => rfl
              | some one =>
                  have hshort := hc.length_lt hread
                  simp only [List.length_cons] at hfuel hmore hshort
                  show Option.map _ _ = Option.map _ _
                  rw [@ih m _ _ (by omega) (by omega)]

/-! ## Round trips -/

theorem readAll_cons {k : κ} {a : α} (hb : c.Begins stop k a) (fuel : Nat) (behind : List σ) :
    c.readAll stop (fuel + 1) k (c.write k a ++ behind) =
      (c.read k (c.write k a ++ behind)).bind fun one =>
        (c.readAll stop fuel (c.next k one.1) one.2).map fun read => (one.1 :: read.1, read.2) := by
  obtain ⟨s, text, hwrite, hs⟩ := hb
  rw [hwrite]
  exact c.readAll_step stop hs fuel k (text ++ behind)

/-- **Lists read back.**  If every value reads back in its own context, then so does the list. -/
theorem readAll_writeAll {fuel : Nat} {k : κ} {as : List α} {rest : List σ}
    (hb : c.Along (c.Begins stop) k as) (hback : c.Along c.ReadsBack k as)
    (hend : AtEnd stop rest) (hfuel : as.length ≤ fuel) :
    c.readAll stop fuel k (c.writeAll k as ++ rest) = some (as, rest) := by
  induction as generalizing fuel k with
  | nil => exact c.readAll_atEnd stop hend fuel k
  | cons a as ih =>
      obtain ⟨n, rfl⟩ := Nat.exists_eq_add_of_le' (Nat.le_trans (Nat.succ_pos _) hfuel)
      have hn : as.length ≤ n := Nat.succ_le_succ_iff.mp hfuel
      rw [writeAll_cons, List.append_assoc, c.readAll_cons stop hb.1, hback.1]
      show Option.map _ _ = _
      rw [ih hb.2 hback.2 hn]
      rfl

/-- A list which shows in what was read off its own text has no value which is misread. -/
theorem along_of_readAll {P : κ → α → Prop} {view : α → α}
    (hback : ∀ k a, P k a → c.ReadsBack k a) (hmis : ∀ k a, ¬ P k a → c.Misread view k a)
    {fuel : Nat} {k : κ} {as read : List α} {rest left : List σ}
    (h : c.readAll stop fuel k (c.writeAll k as ++ rest) = some (read, left))
    (hview : read.map view = as) : c.Along P k as := by
  induction as generalizing fuel k read with
  | nil => trivial
  | cons a as ih =>
      obtain ⟨rfl, -⟩ | ⟨n, b, tail, behind, rfl, rfl, -, hread, htail⟩ := c.readAll_cases stop h
      · cases hview
      · obtain ⟨hfirst, hrest⟩ := List.cons.inj hview
        rw [writeAll_cons, List.append_assoc] at hread
        by_cases hone : P k a
        · rw [hback k a hone] at hread
          cases hread
          exact ⟨hone, ih htail hrest⟩
        · exact absurd hfirst (hmis k a hone _ _ _ hread)

/-- **And only those.**  Where a value reads back or is misread, a list shows in what is read off
its own text exactly if all its values read back. -/
theorem readAll_writeAll_iff {P : κ → α → Prop} {view : α → α}
    (hback : ∀ k a, P k a → c.ReadsBack k a) (hmis : ∀ k a, ¬ P k a → c.Misread view k a)
    (hview : ∀ k a, P k a → view a = a) {fuel : Nat} {k : κ} {as : List α} {rest : List σ}
    (hb : c.Along (c.Begins stop) k as) (hend : AtEnd stop rest) (hfuel : as.length ≤ fuel) :
    ((c.readAll stop fuel k (c.writeAll k as ++ rest)).map fun read =>
        (read.1.map view, read.2)) = some (as, rest) ↔ c.Along P k as := by
  constructor
  · intro h
    obtain ⟨⟨read, left⟩, hread, heq⟩ := Option.map_eq_some_iff.mp h
    exact c.along_of_readAll stop hback hmis hread (congrArg Prod.fst heq)
  · intro h
    rw [c.readAll_writeAll stop hb (h.imp hback) hend hfuel]
    show some (as.map view, rest) = _
    rw [h.map_eq hview]

end PrefixCode

end Core
end FireEvacuation
