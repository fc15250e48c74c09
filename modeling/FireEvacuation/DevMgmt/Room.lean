import Std.Data.ExtTreeSet
import FireEvacuation.DevMgmt.Location

/-!
# Rooms

A room has a place, two states, and three sets: the rooms it is linked to and the devices
in it, static and dynamic ones, by their ids.  The sets are ordered, as `std::set` is.
-/

namespace FireEvacuation
namespace DevMgmt

open FireEvacuation.Core FireEvacuation.Core.Effect Platform

/-! ## Sets -/

/-- What a range `for` goes through: the elements of an array and the values of an object;
null has none, and any other value is its own only element. -/
def Json.elements : Json → List Json
  | .null => []
  | .array elements => elements
  | .object members => members.map Prod.snd
  | other => [other]

/-- `MySet`. -/
abbrev MySet (α : Type) [Ord α] := Std.ExtTreeSet α compare

namespace MySet

variable {α : Type} [Ord α] [Std.TransOrd α]

def add (set : MySet α) (value : α) : MySet α := set.insert value

def remove (set : MySet α) (value : α) : MySet α := set.erase value

def clear (_ : MySet α) : MySet α := ∅

/-- The loop of `MySet::parse`, with the implicit conversion of each element. -/
def addAll (convert : Json → JsonM α) : List Json → MySet α → JsonM (MySet α)
  | [], set => pure set
  | element :: rest, set => do
      let value ← convert element
      addAll convert rest (set.add value)

/-- `MySet::parse`, on a copy. -/
def parse (convert : Json → JsonM α) (json : Json) : JsonM (MySet α) :=
  addAll convert json.elements ∅

/-- `toJson`. -/
def toJson (encode : α → Json) (set : MySet α) : Json := .array (set.toList.map encode)

section RoundTrip

variable [Std.LawfulEqOrd α] {convert : Json → JsonM α} {encode : α → Json}

/-- Elements which were written from values give these values. -/
theorem addAll_map (hconvert : ∀ value, convert (encode value) = .ok value)
    (values : List α) (set : MySet α) :
    ∃ after, addAll convert (values.map encode) set = .ok after ∧
      ∀ value, value ∈ after ↔ value ∈ set ∨ value ∈ values := by
  induction values generalizing set with
  | nil => exact ⟨set, rfl, by simp⟩
  | cons first values ih =>
      rcases ih (set.add first) with ⟨after, hafter, hmem⟩
      refine ⟨after, ?_, fun value => ?_⟩
      · rw [List.map_cons]
        unfold addAll
        rw [hconvert]
        exact hafter
      · rw [hmem]
        unfold add
        rw [Std.ExtTreeSet.mem_insert, Std.LawfulEqCmp.compare_eq_iff_eq, List.mem_cons,
          eq_comm (a := first)]
        tauto

/-- A set is read back from its array, whatever the order of the array. -/
theorem parse_toJson (hconvert : ∀ value, convert (encode value) = .ok value)
    (set : MySet α) : parse convert (set.toJson encode) = .ok set := by
  rcases addAll_map hconvert set.toList ∅ with ⟨after, hafter, hmem⟩
  have hsame : after = set := by
    refine Std.ExtTreeSet.ext_mem fun value => ?_
    rw [hmem, Std.ExtTreeSet.mem_toList]
    simp
  subst hsame
  exact hafter

end RoundTrip

end MySet

/-! ## Rooms -/

/-- `Room`, with a location. -/
structure Room where
  id : UInt32
  location : Location
  alertState : Bool
  aliveState : Bool
  links : MySet UInt32
  staticDevices : MySet String
  dynamicDevices : MySet String

namespace Room

/-- The names of the members of a room in JSON. -/
inductive JsonEnum where
  | id
  | location
  | alertState
  | aliveState
  | links
  | staticDevices
  | dynamicDevices

def getJsonKey : JsonEnum → String
  | .id => "id"
  | .location => "lc"
  | .alertState => "ar"
  | .aliveState => "al"
  | .links => "lk"
  | .staticDevices => "sd"
  | .dynamicDevices => "dd"

/-- The constructor with all arguments. -/
def make (id : UInt32) (location : Location) (alertState aliveState : Bool) : Room :=
  ⟨id, location, alertState, aliveState, ∅, ∅, ∅⟩

/-- `json[key] != 0`. -/
def readFlag (key : String) : Cpp Json Bool := Json.read key fun value => pure value.notZero

/-- `Room::parse`. -/
def parse : Cpp Json Room := do
  let id ← Json.read (getJsonKey .id) Json.getUInt32
  let location ← Json.onMember (getJsonKey .location) Location.parse
  let alertState ← readFlag (getJsonKey .alertState)
  let aliveState ← readFlag (getJsonKey .aliveState)
  let links ← Json.read (getJsonKey .links) (MySet.parse Json.getUInt32)
  let staticDevices ← Json.read (getJsonKey .staticDevices) (MySet.parse Json.getString)
  let dynamicDevices ← Json.read (getJsonKey .dynamicDevices) (MySet.parse Json.getString)
  pure { make id location alertState aliveState with
    links := links, staticDevices := staticDevices, dynamicDevices := dynamicDevices }

/-- `toJson`. -/
def toJson (room : Room) : Json :=
  .object [(getJsonKey .id, Json.ofUInt32 room.id),
    (getJsonKey .location, room.location.toJson),
    (getJsonKey .alertState, Json.ofBool room.alertState),
    (getJsonKey .aliveState, Json.ofBool room.aliveState),
    (getJsonKey .links, room.links.toJson Json.ofUInt32),
    (getJsonKey .staticDevices, room.staticDevices.toJson Json.string),
    (getJsonKey .dynamicDevices, room.dynamicDevices.toJson Json.string)]

theorem readFlag_ofBool {key : String} {flag : Bool} {members : List (String × Json)}
    (hlookup : Json.lookup key members = some (Json.ofBool flag)) :
    readFlag key (.object members) = .ok flag (.object members) := by
  refine Json.read_of_lookup hlookup ?_
  cases flag with
  | false => rfl
  | true => rfl

/-- A room is read back from what it is written to, which stays as it is. -/
theorem parse_toJson (room : Room) : parse room.toJson = .ok room room.toJson := by
  have hid := Json.getUInt32_ofUInt32 room.id
  have hlinks := MySet.parse_toJson Json.getUInt32_ofUInt32 room.links
  have htexts : ∀ set : MySet String,
      MySet.parse Json.getString (set.toJson Json.string) = .ok set :=
    MySet.parse_toJson fun _ => rfl
  unfold parse toJson
  rw [bind_of_ok (Json.read_of_lookup rfl hid),
    bind_of_ok (Json.onMember_of_lookup rfl room.location.parse_toJson),
    bind_of_ok (readFlag_ofBool rfl), bind_of_ok (readFlag_ofBool rfl),
    bind_of_ok (Json.read_of_lookup rfl hlinks),
    bind_of_ok (Json.read_of_lookup rfl (htexts room.staticDevices)),
    bind_of_ok (Json.read_of_lookup rfl (htexts room.dynamicDevices))]
  rfl

end Room

end DevMgmt
end FireEvacuation
