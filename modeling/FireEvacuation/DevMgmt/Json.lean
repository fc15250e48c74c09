import Mathlib.Tactic.Common
import FireEvacuation.Platform.StackResult

/-!
# The values of `nlohmann::json` and the conversions the model reads them with

The conversions are those of `json.hpp`: `operator[]` with a key on a value which
is not constant, the implicit conversions to `std::string` and `uint32_t`, and the
comparison of a value with the literal `0`.  `operator[]` adds a null member for a
key which is missing, which a later read of the same key cannot tell from finding
null, so a lookup is enough here.

The text parser is a parameter of the later modules.
-/

namespace FireEvacuation
namespace DevMgmt

open FireEvacuation.Core Platform

/-- A JSON value.  Numbers keep the three ways the library stores them; a float
is given by the rational number it stands for. -/
inductive Json where
  | null
  | boolean (value : Bool)
  | integer (value : Int64)
  | unsigned (value : UInt64)
  | float (value : Rat)
  | string (value : String)
  | array (elements : List Json)
  | object (members : List (String × Json))

/-- A computation on JSON values, which may throw or be undefined. -/
abbrev JsonM := Except (Fault CppException)

theorem JsonM.bind_eq_ok_iff {α β : Type} {x : JsonM α} {f : α → JsonM β} {b : β} :
    (x >>= f) = .ok b ↔ ∃ a, x = .ok a ∧ f a = .ok b := by
  cases x with
  | error e =>
      constructor
      · intro h
        cases h
      · rintro ⟨a, h, -⟩
        cases h
  | ok a =>
      constructor
      · intro h
        exact ⟨a, rfl, h⟩
      · rintro ⟨a', h, hf⟩
        cases h
        exact hf

theorem JsonM.map_eq_ok_iff {α β : Type} {x : JsonM α} {f : α → β} {b : β} :
    f <$> x = .ok b ↔ ∃ a, x = .ok a ∧ f a = b := by
  cases x with
  | error e =>
      constructor
      · intro h
        cases h
      · rintro ⟨a, h, -⟩
        cases h
  | ok a =>
      constructor
      · intro h
        injection h with h
        exact ⟨a, rfl, h⟩
      · rintro ⟨a', h, rfl⟩
        cases h
        rfl

namespace Json

/-- `type_name()`. -/
def typeName : Json → String
  | null => "null"
  | boolean _ => "boolean"
  | integer _ | unsigned _ | float _ => "number"
  | string _ => "string"
  | array _ => "array"
  | object _ => "object"

/-- `type_error::create`. -/
def typeError (id : Nat) (what : String) : CppException :=
  .jsonException id ("[json.exception.type_error." ++ toString id ++ "] " ++ what)

/-- The member of an object, null when it is missing. -/
def member (key : String) : List (String × Json) → Json
  | [] => null
  | (name, value) :: rest => if name = key then value else member key rest

/-- `json[key]`.  A null value becomes an empty object first. -/
def index (json : Json) (key : String) : JsonM Json :=
  match json with
  | null => .ok null
  | object members => .ok (member key members)
  | other => .error (.exception (typeError 305
      ("cannot use operator[] with a string argument with " ++ other.typeName)))

/-- The implicit conversion to `std::string`. -/
def getString : Json → JsonM String
  | string value => .ok value
  | other => .error (.exception (typeError 302 ("type must be string, but is " ++ other.typeName)))

/-- The part of a rational before the point. -/
def truncate (q : Rat) : Int := if 0 ≤ q then q.floor else q.ceil

/-- The implicit conversion to `uint32_t`.  Integers are taken modulo `2^32`; a
float outside the range makes the conversion undefined. -/
def getUInt32 : Json → JsonM UInt32
  | unsigned value => .ok value.toUInt32
  | integer value => .ok (UInt32.ofInt value.toInt)
  | float value =>
      if 0 ≤ truncate value ∧ truncate value < 4294967296 then
        .ok (UInt32.ofNat (truncate value).toNat)
      else .error .undefined
  | boolean value => .ok (if value then 1 else 0)
  | other => .error (.exception (typeError 302 ("type must be number, but is " ++ other.typeName)))

/-- `json != 0`: only a number can be equal to zero. -/
def notZero : Json → Bool
  | integer value => decide (value.toInt ≠ 0)
  | unsigned value => decide (value ≠ 0)
  | float value => decide (value ≠ 0)
  | _ => true

@[simp] theorem index_object (members : List (String × Json)) (key : String) :
    index (object members) key = .ok (member key members) := rfl

theorem getString_eq_ok_iff {json : Json} {s : String} :
    json.getString = .ok s ↔ json = string s := by
  constructor
  · intro h
    cases json with
    | string value =>
        cases h
        rfl
    | _ => cases h
  · rintro rfl
    rfl

/-- `json = number` for a number which came from an unsigned conversion. -/
def ofUInt32 (value : UInt32) : Json := unsigned value.toUInt64

theorem getUInt32_ofUInt32 (value : UInt32) : (ofUInt32 value).getUInt32 = .ok value := by
  change Except.ok value.toUInt64.toUInt32 = Except.ok value
  rw [UInt32.toUInt32_toUInt64]

/-- `static_cast<int>` of a truth value, as a JSON number. -/
def ofBool (value : Bool) : Json := integer (if value then 1 else 0)

end Json

end DevMgmt
end FireEvacuation
