import FireEvacuation.DevMgmt.JsonReference

/-!
# Locations

The place of a room.  The level is never 0: `setLevel` throws it, and every constructor
calls `setLevel`.  A `LocationBuilder` finds out only when it builds.
-/

namespace FireEvacuation
namespace DevMgmt

open FireEvacuation.Core FireEvacuation.Core.Effect Platform

/-- `Location`. -/
structure Location where
  level : Int32
  x : Int32
  y : Int32
  level_ne_zero : level ≠ 0
  deriving DecidableEq

namespace Location

/-- The names of the members of a location in JSON. -/
inductive JsonEnum where
  | level
  | x
  | y

def getJsonKey : JsonEnum → String
  | .level => "lv"
  | .x => "x"
  | .y => "y"

/-- The constructor without arguments. -/
def origin : Location := ⟨1, 0, 0, by decide⟩

/-- The constructor, which throws a level of 0. -/
def make (level x y : Int32) : JsonM Location :=
  if hlevel : level = 0 then .error (.exception (.number level))
  else .ok ⟨level, x, y, hlevel⟩

def setLevel (location : Location) (level : Int32) : JsonM Location :=
  make level location.x location.y

def setX (location : Location) (x : Int32) : Location := { location with x := x }

def setY (location : Location) (y : Int32) : Location := { location with y := y }

/-- `Location::parse`. -/
def parse : Cpp Json Location := do
  let level ← Json.read (getJsonKey .level) Json.getInt32
  let x ← Json.read (getJsonKey .x) Json.getInt32
  let y ← Json.read (getJsonKey .y) Json.getInt32
  runExcept (make level x y)

/-- `toJson`. -/
def toJson (location : Location) : Json :=
  .object [(getJsonKey .level, Json.ofInt32 location.level),
    (getJsonKey .x, Json.ofInt32 location.x),
    (getJsonKey .y, Json.ofInt32 location.y)]

theorem make_of_ne_zero {level : Int32} (x y : Int32) (hlevel : level ≠ 0) :
    make level x y = .ok ⟨level, x, y, hlevel⟩ := dif_neg hlevel

/-- A location is read back from what it is written to, which stays as it is. -/
theorem parse_toJson (location : Location) :
    parse location.toJson = .ok location location.toJson := by
  rcases location with ⟨level, x, y, hlevel⟩
  unfold parse toJson
  rw [bind_of_ok (Json.read_of_lookup rfl (Json.getInt32_ofInt32 level)),
    bind_of_ok (Json.read_of_lookup rfl (Json.getInt32_ofInt32 x)),
    bind_of_ok (Json.read_of_lookup rfl (Json.getInt32_ofInt32 y)), make_of_ne_zero x y hlevel,
    runExcept_ok]

/-- The call of a setter, on a location or on its builder. -/
inductive Setter where
  | setLevel (level : Int32)
  | setX (x : Int32)
  | setY (y : Int32)
  deriving DecidableEq

def set (location : Location) : Setter → JsonM Location
  | .setLevel level => location.setLevel level
  | .setX x => .ok (location.setX x)
  | .setY y => .ok (location.setY y)

end Location

/-- `LocationBuilder`.  Its members may have any values until a location is built. -/
structure LocationBuilder where
  level : Int32
  x : Int32
  y : Int32
  deriving DecidableEq

namespace LocationBuilder

/-- The initialisers of the members. -/
def initial : LocationBuilder := ⟨1, 0, 0⟩

def set (builder : LocationBuilder) : Location.Setter → LocationBuilder
  | .setLevel level => { builder with level := level }
  | .setX x => { builder with x := x }
  | .setY y => { builder with y := y }

/-- `build`. -/
def build (builder : LocationBuilder) : JsonM Location := do
  let location ← Location.origin.setLevel builder.level
  pure ((location.setX builder.x).setY builder.y)

theorem build_eq_make (builder : LocationBuilder) :
    builder.build = Location.make builder.level builder.x builder.y := by
  unfold build Location.setLevel Location.make
  split_ifs <;> rfl

/-- A setter does to what is built what it does to a location. -/
theorem build_set {builder : LocationBuilder} {location : Location}
    (hbuild : builder.build = .ok location) {call : Location.Setter}
    (hcall : call ≠ .setLevel 0) :
    ∃ next, location.set call = .ok next ∧ (builder.set call).build = .ok next := by
  rw [build_eq_make, Location.make] at hbuild
  split_ifs at hbuild with hlevel
  obtain rfl := Except.ok.inj hbuild
  cases call with
  | setLevel level =>
      have hne : level ≠ 0 := fun hzero => hcall (hzero ▸ rfl)
      exact ⟨_, Location.make_of_ne_zero _ _ hne,
        (build_eq_make _).trans (Location.make_of_ne_zero _ _ hne)⟩
  | setX x => exact ⟨_, rfl, (build_eq_make _).trans (Location.make_of_ne_zero _ _ hlevel)⟩
  | setY y => exact ⟨_, rfl, (build_eq_make _).trans (Location.make_of_ne_zero _ _ hlevel)⟩

theorem foldlM_set_eq_ok_iff (calls : List Location.Setter) {builder : LocationBuilder}
    {location built : Location} (hbuild : builder.build = .ok location) :
    calls.foldlM Location.set location = .ok built ↔
      (∀ call ∈ calls, call ≠ .setLevel 0) ∧ (calls.foldl set builder).build = .ok built := by
  induction calls generalizing builder location with
  | nil =>
      rw [List.foldl_nil, hbuild]
      exact (and_iff_right (List.forall_mem_nil _)).symm
  | cons call calls ih =>
      rw [List.foldlM_cons, List.foldl_cons, List.forall_mem_cons, and_assoc]
      by_cases hcall : call = .setLevel 0
      · subst hcall
        exact iff_of_false nofun fun h => h.1 rfl
      · obtain ⟨next, hset, hnext⟩ := build_set hbuild hcall
        rw [hset, and_iff_right hcall]
        exact ih hnext

/-- **Setting is building without a level of 0 on the way.**  The builder lets such a level pass
when another one follows. -/
theorem setters_eq_ok_iff (calls : List Location.Setter) (built : Location) :
    calls.foldlM Location.set .origin = .ok built ↔
      (∀ call ∈ calls, call ≠ .setLevel 0) ∧ (calls.foldl set initial).build = .ok built :=
  foldlM_set_eq_ok_iff calls rfl

end LocationBuilder

end DevMgmt
end FireEvacuation
