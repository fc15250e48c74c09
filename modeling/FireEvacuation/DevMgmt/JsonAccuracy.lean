import FireEvacuation.DevMgmt.JsonReference

/-!
# What a JSON value says

A value shows another one when every member of the second, at every level, is in the first
with an equal value.  Numbers are equal as numbers, whichever way they are stored; the
flags `ar` and `al` are equal when both are zero or both are numbers other than zero; the
elements of `lk`, `sd` and `dd` are compared as sets.

The conversions to 32 bits accept more than they represent: truth values, fractions and
numbers of any size.  A number is converted to a number equal to it exactly when it is an
integer of the range.
-/

namespace FireEvacuation
namespace DevMgmt
namespace Json

open FireEvacuation.Core Platform

/-! ## Numbers -/

/-- The number a value stands for. -/
def number : Json → Option Rat
  | integer value => some value.toInt
  | unsigned value => some value.toNat
  | float value => some value
  | _ => none

/-- The values the conversions to numbers take: numbers, and truth values. -/
def Numeric : Json → Prop
  | integer _ | unsigned _ | float _ | boolean _ => True
  | _ => False

/-- A float without its fraction is in the range; the other numbers are reduced to it. -/
def InRange (least bound : Int) : Json → Prop
  | float value => least ≤ truncate value ∧ truncate value < bound
  | _ => True

/-- An integer of the range, as a number. -/
def Exact (least bound : Int) (json : Json) : Prop :=
  ∃ k : Int, least ≤ k ∧ k < bound ∧ json.number = some (k : Rat)

def ExactUInt32 : Json → Prop := Exact 0 4294967296

def ExactInt32 : Json → Prop := Exact (-2147483648) 2147483648

/-- The value is rejected by a conversion to a number, or the conversion is defined and
`rest` holds. -/
def ReadsNumber (least bound : Int) (json : Json) (rest : Prop) : Prop :=
  json.Numeric → json.InRange least bound ∧ rest

def ReadsUInt32 : Json → Prop → Prop := ReadsNumber 0 4294967296

def ReadsInt32 : Json → Prop → Prop := ReadsNumber (-2147483648) 2147483648

theorem truncate_intCast (k : Int) : truncate (k : Rat) = k := by
  unfold truncate
  split
  · exact Rat.floor_intCast k
  · exact Rat.ceil_intCast k

theorem accepts_getUInt32 {post : UInt32 → Prop} {rest : Prop} {json : Json}
    (h : ∀ n, json.getUInt32 = .ok n → (post n ↔ rest)) :
    Accepts post json.getUInt32 ↔ ReadsUInt32 json rest := by
  cases json with
  | integer value =>
      exact (h _ rfl).trans ⟨fun hrest _ => ⟨trivial, hrest⟩, fun hreads => (hreads trivial).2⟩
  | unsigned value =>
      exact (h _ rfl).trans ⟨fun hrest _ => ⟨trivial, hrest⟩, fun hreads => (hreads trivial).2⟩
  | boolean value =>
      exact (h _ rfl).trans ⟨fun hrest _ => ⟨trivial, hrest⟩, fun hreads => (hreads trivial).2⟩
  | float value =>
      by_cases hrange : 0 ≤ truncate value ∧ truncate value < 4294967296
      · have hok : (float value).getUInt32 = .ok (UInt32.ofNat (truncate value).toNat) :=
          if_pos hrange
        rw [hok]
        exact (h _ hok).trans ⟨fun hrest _ => ⟨hrange, hrest⟩, fun hreads => (hreads trivial).2⟩
      · have herror : (float value).getUInt32 = .error .undefined := if_neg hrange
        rw [herror]
        exact iff_of_false id fun hreads => hrange (hreads trivial).1
  | null | string _ | array _ | object _ => exact iff_of_true trivial fun hnumeric => hnumeric.elim

theorem accepts_getInt32 {post : Int32 → Prop} {rest : Prop} {json : Json}
    (h : ∀ n, json.getInt32 = .ok n → (post n ↔ rest)) :
    Accepts post json.getInt32 ↔ ReadsInt32 json rest := by
  cases json with
  | integer value =>
      exact (h _ rfl).trans ⟨fun hrest _ => ⟨trivial, hrest⟩, fun hreads => (hreads trivial).2⟩
  | unsigned value =>
      exact (h _ rfl).trans ⟨fun hrest _ => ⟨trivial, hrest⟩, fun hreads => (hreads trivial).2⟩
  | boolean value =>
      exact (h _ rfl).trans ⟨fun hrest _ => ⟨trivial, hrest⟩, fun hreads => (hreads trivial).2⟩
  | float value =>
      by_cases hrange : -2147483648 ≤ truncate value ∧ truncate value < 2147483648
      · have hok : (float value).getInt32 = .ok (Int32.ofInt (truncate value)) :=
          if_pos hrange
        rw [hok]
        exact (h _ hok).trans ⟨fun hrest _ => ⟨hrange, hrest⟩, fun hreads => (hreads trivial).2⟩
      · have herror : (float value).getInt32 = .error .undefined := if_neg hrange
        rw [herror]
        exact iff_of_false id fun hreads => hrange (hreads trivial).1
  | null | string _ | array _ | object _ => exact iff_of_true trivial fun hnumeric => hnumeric.elim

theorem accepts_getString {post : String → Prop} {json : Json} :
    Accepts post json.getString ↔ ∀ text, json = string text → post text := by
  cases json with
  | string text =>
      refine ⟨fun h text' heq => ?_, fun h => h text rfl⟩
      cases heq
      exact h
  | null | boolean _ | integer _ | unsigned _ | float _ | array _ | object _ =>
      exact iff_of_true trivial fun _ heq => nomatch heq

theorem number_ofUInt32 (n : UInt32) : (ofUInt32 n).number = some ((n.toNat : Int) : Rat) := by
  unfold ofUInt32 number
  simp

theorem number_ofInt32 (n : Int32) : (ofInt32 n).number = some (n.toInt : Rat) := by
  unfold ofInt32 number
  simp

theorem toNat_of_exact {json : Json} {n : UInt32} {k : Int} (hn : json.getUInt32 = .ok n)
    (hleast : 0 ≤ k) (hbound : k < 4294967296) (hk : json.number = some (k : Rat)) :
    (n.toNat : Int) = k := by
  cases json with
  | integer value =>
      cases hn
      have hvalue : value.toInt = k := by
        simpa [number] using hk
      simp [UInt32.ofInt, hvalue]
      omega
  | unsigned value =>
      cases hn
      have hvalue : (value.toNat : Int) = k := by
        have hcast : ((value.toNat : Int) : Rat) = k := by
          simpa [number] using hk
        exact_mod_cast hcast
      simp
      omega
  | float value =>
      have hvalue : value = k := by
        simpa [number] using hk
      have htruncate : truncate value = k := by
        rw [hvalue, truncate_intCast]
      have hok : (float value).getUInt32 = .ok (UInt32.ofNat (truncate value).toNat) :=
        if_pos ⟨by omega, by omega⟩
      rw [hok] at hn
      cases hn
      rw [htruncate]
      simp
      omega
  | boolean value => cases hk
  | null | string _ | array _ | object _ => cases hk

theorem toInt_of_exact {json : Json} {n : Int32} {k : Int} (hn : json.getInt32 = .ok n)
    (hleast : -2147483648 ≤ k) (hbound : k < 2147483648) (hk : json.number = some (k : Rat)) :
    n.toInt = k := by
  have hbmod : k.bmod 4294967296 = k := Int.bmod_eq_of_le (by omega) (by omega)
  cases json with
  | integer value =>
      cases hn
      have hvalue : value.toInt = k := by
        simpa [number] using hk
      simp [hvalue, hbmod]
  | unsigned value =>
      cases hn
      have hvalue : (value.toNat : Int) = k := by
        have hcast : ((value.toNat : Int) : Rat) = k := by
          simpa [number] using hk
        exact_mod_cast hcast
      have hsmall : value.toNat % 4294967296 = value.toNat := by omega
      rw [← Int32.toInt_toBitVec, UInt32.toBitVec_toInt32, BitVec.toInt_eq_toNat_bmod]
      simp [hsmall, hvalue, hbmod]
  | float value =>
      have hvalue : value = k := by
        simpa [number] using hk
      have htruncate : truncate value = k := by
        rw [hvalue, truncate_intCast]
      have hok : (float value).getInt32 = .ok (Int32.ofInt (truncate value)) :=
        if_pos ⟨by omega, by omega⟩
      rw [hok] at hn
      cases hn
      rw [htruncate]
      simp
      exact hbmod
  | boolean value => cases hk
  | null | string _ | array _ | object _ => cases hk

/-- The conversion to `uint32_t` gives an equal number for the integers of the range only. -/
theorem number_eq_getUInt32 {json : Json} {n : UInt32} (h : json.getUInt32 = .ok n) :
    json.number = (ofUInt32 n).number ↔ json.ExactUInt32 := by
  rw [number_ofUInt32]
  constructor
  · intro hnumber
    have hlt : n.toNat < 4294967296 := n.toNat_lt
    exact ⟨n.toNat, by omega, by omega, hnumber⟩
  · rintro ⟨k, hleast, hbound, hk⟩
    rw [hk, toNat_of_exact h hleast hbound hk]

/-- And so does the conversion to `int`. -/
theorem number_eq_getInt32 {json : Json} {n : Int32} (h : json.getInt32 = .ok n) :
    json.number = (ofInt32 n).number ↔ json.ExactInt32 := by
  rw [number_ofInt32]
  constructor
  · intro hnumber
    have hle : -2147483648 ≤ n.toInt := n.le_toInt
    have hlt : n.toInt < 2147483648 := n.toInt_lt
    exact ⟨n.toInt, hle, hlt, hnumber⟩
  · rintro ⟨k, hleast, hbound, hk⟩
    rw [hk, toInt_of_exact h hleast hbound hk]

/-! ## Showing a value -/

/-- How the member of a key is compared. -/
inductive KeyKind where
  | plain
  | flag
  | set
  deriving DecidableEq

def keyKind (key : String) : KeyKind :=
  if key ∈ ["ar", "al"] then .flag
  else if key ∈ ["lk", "sd", "dd"] then .set
  else .plain

/-- Equal numbers, or equal texts. -/
def SameScalar (expected actual : Json) : Prop :=
  (∃ q, expected.number = some q ∧ actual.number = some q) ∨
    ∃ text, expected = string text ∧ actual = string text

/-- The value of a key shows what is expected there. -/
inductive Shows : String → Json → Json → Prop
  | number {key : String} {expected actual : Json} {q : Rat} (hkey : keyKind key = .plain)
      (hexpected : expected.number = some q) (hactual : actual.number = some q) :
      Shows key expected actual
  | text {key text : String} (hkey : keyKind key = .plain) :
      Shows key (string text) (string text)
  | flag {key : String} {expected actual : Json} {p q : Rat} (hkey : keyKind key = .flag)
      (hexpected : expected.number = some p) (hactual : actual.number = some q)
      (hzero : p = 0 ↔ q = 0) : Shows key expected actual
  | set {key : String} {expected actual : List Json} (hkey : keyKind key = .set)
      (hexpected : ∀ e ∈ expected, ∃ a ∈ actual, SameScalar e a)
      (hactual : ∀ a ∈ actual, ∃ e ∈ expected, SameScalar e a) :
      Shows key (array expected) (array actual)
  | members {key : String} {expected actual : List (String × Json)} (value : String → Json)
      (hkey : keyKind key = .plain)
      (hlookup : ∀ m ∈ expected, lookup m.1 actual = some (value m.1))
      (hvalue : ∀ m ∈ expected, Shows m.1 m.2 (value m.1)) :
      Shows key (object expected) (object actual)

section Shows

variable {key : String} {expected actual : Json}

theorem shows_number_iff (hkey : keyKind key = .plain) {q : Rat}
    (hexpected : expected.number = some q) :
    Shows key expected actual ↔ actual.number = expected.number := by
  constructor
  · intro h
    cases h with
    | number hkey he ha => rw [he, ha]
    | text hkey => rfl
    | flag hflag he ha hzero =>
        rw [hkey] at hflag
        cases hflag
    | set hset he ha =>
        rw [hkey] at hset
        cases hset
    | members value hkey hlookup hvalue => cases hexpected
  · intro h
    exact .number hkey hexpected (h.trans hexpected)

theorem shows_string_iff (hkey : keyKind key = .plain) {text : String} :
    Shows key (string text) actual ↔ actual = string text := by
  constructor
  · intro h
    cases h with
    | number hkey he ha => cases he
    | text hkey => rfl
    | flag hflag he ha hzero => cases he
  · rintro rfl
    exact .text hkey

theorem shows_flag_iff (hkey : keyKind key = .flag) {p : Rat}
    (hexpected : expected.number = some p) :
    Shows key expected actual ↔ ∃ q, actual.number = some q ∧ (p = 0 ↔ q = 0) := by
  constructor
  · intro h
    cases h with
    | number hplain he ha =>
        rw [hkey] at hplain
        cases hplain
    | text hplain =>
        rw [hkey] at hplain
        cases hplain
    | flag hflag he ha hzero =>
        rw [hexpected] at he
        cases he
        exact ⟨_, ha, hzero⟩
    | set hset he ha =>
        rw [hkey] at hset
        cases hset
    | members value hplain hlookup hvalue => cases hexpected
  · rintro ⟨q, hq, hzero⟩
    exact .flag hkey hexpected hq hzero

theorem shows_set_iff (hkey : keyKind key = .set) {elements : List Json} :
    Shows key (array elements) actual ↔ ∃ others, actual = array others ∧
      (∀ e ∈ elements, ∃ a ∈ others, SameScalar e a) ∧
        ∀ a ∈ others, ∃ e ∈ elements, SameScalar e a := by
  constructor
  · intro h
    cases h with
    | number hplain he ha => cases he
    | flag hflag he ha hzero => cases he
    | set hset he ha => exact ⟨_, rfl, he, ha⟩
  · rintro ⟨others, rfl, he, ha⟩
    exact .set hkey he ha

theorem shows_object_iff (hkey : keyKind key = .plain) {members : List (String × Json)} :
    Shows key (object members) actual ↔ ∃ others, actual = object others ∧
      ∀ m ∈ members, ∃ value, lookup m.1 others = some value ∧ Shows m.1 m.2 value := by
  constructor
  · intro h
    cases h with
    | number hplain he ha => cases he
    | flag hflag he ha hzero => cases he
    | members value hplain hlookup hvalue =>
        exact ⟨_, rfl, fun m hm => ⟨value m.1, hlookup m hm, hvalue m hm⟩⟩
  · rintro ⟨others, rfl, hshown⟩
    have hvalue : ∀ m ∈ members, lookup m.1 others = some ((lookup m.1 others).getD null) := by
      intro m hm
      rcases hshown m hm with ⟨value, hlookup, -⟩
      rw [hlookup]
      rfl
    refine .members (fun name => (lookup name others).getD null) hkey hvalue fun m hm => ?_
    rcases hshown m hm with ⟨value, hlookup, hshows⟩
    show Shows m.1 m.2 ((lookup m.1 others).getD null)
    rw [hlookup]
    exact hshows

/-- A flag which was decided by `!= 0` shows in the numbers only. -/
theorem shows_notZero_iff (hkey : keyKind key = .flag) :
    Shows key (ofBool actual.notZero) actual ↔ actual.number.isSome := by
  have hnumber : (ofBool actual.notZero).number = some (if actual.notZero then 1 else 0) := by
    unfold ofBool number
    cases actual.notZero with
    | false => rfl
    | true => rfl
  rw [shows_flag_iff hkey hnumber]
  constructor
  · rintro ⟨q, hq, -⟩
    rw [hq]
    rfl
  · intro hsome
    rcases Option.isSome_iff_exists.mp hsome with ⟨q, hq⟩
    refine ⟨q, hq, ?_⟩
    have hzero : actual.notZero = true ↔ q ≠ 0 := by
      cases actual with
      | integer value =>
          cases hq
          simp [notZero]
      | unsigned value =>
          cases hq
          simp [notZero, ← UInt64.toNat_inj]
      | float value =>
          cases hq
          simp [notZero]
      | null | boolean _ | string _ | array _ | object _ => cases hq
    by_cases hq0 : q = 0
    · simp [hq0] at hzero
      simp [hq0, hzero]
    · simp [hq0] at hzero
      simp [hq0, hzero]

end Shows

end Json
end DevMgmt
end FireEvacuation
