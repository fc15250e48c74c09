import FireEvacuation.Core.Transition
import FireEvacuation.DevMgmt.Room

/-!
# Rooms as objects

A room holds shared pointers: to its location, which several rooms may have in common and
whose setters anybody may call, and to its three sets, which are changed through the
pointers its getters give away.  The constructors take a null location as well.

A world holds all objects which were made.  No operation makes a pointer dangle, and a
location has a level other than 0 by its type, so a room with a location stands for a value
whatever was done before; parsing is then the parsing of values.
-/

namespace FireEvacuation
namespace DevMgmt

open FireEvacuation.Core FireEvacuation.Core.Effect Platform

/-! ## Objects -/

/-- An object of `Room`; what its pointers point to is given by positions in lists. -/
structure RoomObject where
  id : UInt32
  location : Option Nat
  alertState : Bool
  aliveState : Bool
  links : Nat
  staticDevices : Nat
  dynamicDevices : Nat
  deriving DecidableEq, Repr

/-- All objects there are.  The two sets of devices have one type. -/
structure RoomWorld where
  locations : List Location
  linkSets : List (MySet UInt32)
  deviceSets : List (MySet String)
  rooms : List RoomObject

def RoomWorld.initial : RoomWorld := ⟨[], [], [], []⟩

namespace RoomWorld

/-- The constructor with all arguments.  `Room(id, location)` passes `false` and `true`. -/
def construct (w : RoomWorld) (id : UInt32) (location : Option Nat)
    (alertState aliveState : Bool) : RoomWorld × RoomObject :=
  ({ w with
      linkSets := w.linkSets ++ [∅]
      deviceSets := w.deviceSets ++ [∅, ∅] },
    ⟨id, location, alertState, aliveState, w.linkSets.length, w.deviceSets.length,
      w.deviceSets.length + 1⟩)

/-- The objects `Room::parse` makes for what it has read.  The sets of the constructor are
given up again. -/
def place (w : RoomWorld) (room : Room) : RoomWorld × RoomObject :=
  ({ w with
      locations := w.locations ++ [room.location]
      linkSets := w.linkSets ++ [room.links]
      deviceSets := w.deviceSets ++ [room.staticDevices, room.dynamicDevices] },
    ⟨room.id, some w.locations.length, room.alertState, room.aliveState, w.linkSets.length,
      w.deviceSets.length, w.deviceSets.length + 1⟩)

end RoomWorld

namespace RoomObject

/-- What `getLocation()` points to. -/
def locationOf (w : RoomWorld) (r : RoomObject) : Option Location :=
  r.location.bind (w.locations[·]?)

/-- `toJson`, which is undefined without a location. -/
def toJson (w : RoomWorld) (r : RoomObject) : JsonM Json :=
  match r.locationOf w, w.linkSets[r.links]?, w.deviceSets[r.staticDevices]?,
    w.deviceSets[r.dynamicDevices]? with
  | some location, some links, some staticDevices, some dynamicDevices =>
      .ok (.object [(Room.getJsonKey .id, Json.ofUInt32 r.id),
        (Room.getJsonKey .location, location.toJson),
        (Room.getJsonKey .alertState, Json.ofBool r.alertState),
        (Room.getJsonKey .aliveState, Json.ofBool r.aliveState),
        (Room.getJsonKey .links, links.toJson Json.ofUInt32),
        (Room.getJsonKey .staticDevices, staticDevices.toJson Json.string),
        (Room.getJsonKey .dynamicDevices, dynamicDevices.toJson Json.string)])
  -- `location->toJson()` of a null pointer
  | _, _, _, _ => .error .undefined

/-- `Room::parse`. -/
def parse (w : RoomWorld) : Cpp Json (RoomWorld × RoomObject) := do
  let room ← Room.parse
  pure (w.place room)

end RoomObject

/-! ## Operations -/

/-- The public operations on a set. -/
inductive SetOp (α : Type) where
  | add (value : α)
  | remove (value : α)
  | clear

def SetOp.apply {α : Type} [Ord α] [Std.TransOrd α] : SetOp α → MySet α → MySet α
  | .add value, set => set.add value
  | .remove value, set => set.remove value
  | .clear, set => set.clear

/-- A public operation.  The sets and the locations are reached by their pointers. -/
inductive RoomOp where
  | newLocation (level x y : Int32)
  | setLevel (index : Nat) (level : Int32)
  | setX (index : Nat) (x : Int32)
  | setY (index : Nat) (y : Int32)
  | newRoom (id : UInt32) (location : Option Nat) (alertState aliveState : Bool)
  | newRoomAtOrigin (id : UInt32)
  | copyRoom (index : Nat)
  | assignRoom (target source : Nat)
  | setAlertState (index : Nat) (state : Bool)
  | setAliveState (index : Nat) (state : Bool)
  | links (index : Nat) (op : SetOp UInt32)
  | devices (index : Nat) (op : SetOp String)
  | parse (json : Json)

namespace RoomWorld

def addRoom (w : RoomWorld) (r : RoomObject) : RoomWorld := { w with rooms := w.rooms ++ [r] }

def setRoom (w : RoomWorld) (index : Nat) (r : RoomObject) : RoomWorld :=
  { w with rooms := w.rooms.set index r }

def setLocation (w : RoomWorld) (index : Nat) (location : Location) : RoomWorld :=
  { w with locations := w.locations.set index location }

end RoomWorld

/-- One operation; `none` when there is no such object, or when parsing is undefined.  A
constructor or setter which throws leaves everything as it was. -/
def roomStep (w : RoomWorld) : RoomOp → Option RoomWorld
  | .newLocation level x y =>
      match Location.make level x y with
      | .ok location => some { w with locations := w.locations ++ [location] }
      | .error _ => some w
  | .setLevel index level =>
      w.locations[index]?.map fun location =>
        match location.setLevel level with
        | .ok location => w.setLocation index location
        | .error _ => w
  | .setX index x => w.locations[index]?.map fun location => w.setLocation index (location.setX x)
  | .setY index y => w.locations[index]?.map fun location => w.setLocation index (location.setY y)
  | .newRoom id location alertState aliveState =>
      if location.all (· < w.locations.length) then
        let made := w.construct id location alertState aliveState
        some (made.1.addRoom made.2)
      else none
  | .newRoomAtOrigin id =>
      let located : RoomWorld := { w with locations := w.locations ++ [.origin] }
      let made := located.construct id (some w.locations.length) false true
      some (made.1.addRoom made.2)
  | .copyRoom index => w.rooms[index]?.map fun r => w.addRoom r
  -- the pointers are copied, not the sets they point to
  | .assignRoom target source => w.rooms[source]?.map fun r => w.setRoom target r
  | .setAlertState index state =>
      w.rooms[index]?.map fun r => w.setRoom index { r with alertState := state }
  | .setAliveState index state =>
      w.rooms[index]?.map fun r => w.setRoom index { r with aliveState := state }
  | .links index op =>
      w.linkSets[index]?.map fun set => { w with linkSets := w.linkSets.set index (op.apply set) }
  | .devices index op =>
      w.deviceSets[index]?.map fun set =>
        { w with deviceSets := w.deviceSets.set index (op.apply set) }
  | .parse json =>
      match RoomObject.parse w json with
      | .ok (w', r) _ => some (w'.addRoom r)
      | .error (.exception _) _ => some w
      | .error .undefined _ => none
      | .error .blocked _ => none

/-! ## Pointers -/

/-- The pointers of a room point to objects, the location to none when it is null. -/
structure RoomObject.PointsInto (w : RoomWorld) (r : RoomObject) : Prop where
  location : ∀ pointer, r.location = some pointer → pointer < w.locations.length
  links : r.links < w.linkSets.length
  staticDevices : r.staticDevices < w.deviceSets.length
  dynamicDevices : r.dynamicDevices < w.deviceSets.length

/-- No pointer dangles. -/
def RoomsWf (w : RoomWorld) : Prop := ∀ r ∈ w.rooms, r.PointsInto w

section Pointers

variable {w w' : RoomWorld} {r : RoomObject}

/-- Objects are never taken away. -/
theorem RoomObject.PointsInto.mono (h : r.PointsInto w)
    (hlocations : w.locations.length ≤ w'.locations.length)
    (hlinks : w.linkSets.length ≤ w'.linkSets.length)
    (hdevices : w.deviceSets.length ≤ w'.deviceSets.length) : r.PointsInto w' :=
  ⟨fun pointer hpointer => Nat.lt_of_lt_of_le (h.location pointer hpointer) hlocations,
    Nat.lt_of_lt_of_le h.links hlinks, Nat.lt_of_lt_of_le h.staticDevices hdevices,
    Nat.lt_of_lt_of_le h.dynamicDevices hdevices⟩

theorem RoomsWf.mono (h : RoomsWf w) (hrooms : w'.rooms = w.rooms)
    (hlocations : w.locations.length ≤ w'.locations.length)
    (hlinks : w.linkSets.length ≤ w'.linkSets.length)
    (hdevices : w.deviceSets.length ≤ w'.deviceSets.length) : RoomsWf w' := by
  intro r hr
  rw [hrooms] at hr
  exact (h r hr).mono hlocations hlinks hdevices

theorem RoomsWf.addRoom (h : RoomsWf w) (hr : r.PointsInto w) : RoomsWf (w.addRoom r) := by
  intro other hother
  rcases List.mem_append.mp hother with hold | hnew
  · exact (h other hold).mono (Nat.le_refl _) (Nat.le_refl _) (Nat.le_refl _)
  · rw [List.mem_singleton.mp hnew]
    exact hr.mono (Nat.le_refl _) (Nat.le_refl _) (Nat.le_refl _)

theorem RoomsWf.setRoom (h : RoomsWf w) (index : Nat) (hr : r.PointsInto w) :
    RoomsWf (w.setRoom index r) := by
  intro other hother
  rcases List.mem_or_eq_of_mem_set hother with hold | rfl
  · exact (h other hold).mono (Nat.le_refl _) (Nat.le_refl _) (Nat.le_refl _)
  · exact hr.mono (Nat.le_refl _) (Nat.le_refl _) (Nat.le_refl _)

theorem RoomsWf.setLocation (h : RoomsWf w) (index : Nat) (location : Location) :
    RoomsWf (w.setLocation index location) := by
  refine h.mono rfl ?_ (Nat.le_refl _) (Nat.le_refl _)
  simp [RoomWorld.setLocation]

theorem RoomsWf.construct (h : RoomsWf w) (id : UInt32) {location : Option Nat}
    (alertState aliveState : Bool)
    (hlocation : ∀ pointer, location = some pointer → pointer < w.locations.length) :
    RoomsWf ((w.construct id location alertState aliveState).1.addRoom
      (w.construct id location alertState aliveState).2) := by
  refine RoomsWf.addRoom (h.mono rfl ?_ ?_ ?_) ⟨hlocation, ?_, ?_, ?_⟩
  all_goals simp [RoomWorld.construct]

theorem RoomsWf.place (h : RoomsWf w) (room : Room) :
    RoomsWf ((w.place room).1.addRoom (w.place room).2) := by
  refine RoomsWf.addRoom (h.mono rfl ?_ ?_ ?_) ⟨fun pointer hpointer => ?_, ?_, ?_, ?_⟩
  case refine_4 =>
    cases hpointer
    simp [RoomWorld.place]
  all_goals simp [RoomWorld.place]

/-- No operation makes a pointer dangle. -/
theorem RoomsWf.step {op : RoomOp} (h : RoomsWf w) (hstep : roomStep w op = some w') :
    RoomsWf w' := by
  cases op with
  | newLocation level x y =>
      unfold roomStep at hstep
      dsimp only at hstep
      split at hstep
      · cases hstep
        exact h.mono rfl (by simp) (Nat.le_refl _) (Nat.le_refl _)
      · cases hstep
        exact h
  | setLevel index level =>
      rcases Option.map_eq_some_iff.mp hstep with ⟨location, -, rfl⟩
      split
      · exact h.setLocation index _
      · exact h
  | setX index x =>
      rcases Option.map_eq_some_iff.mp hstep with ⟨location, -, rfl⟩
      exact h.setLocation index _
  | setY index y =>
      rcases Option.map_eq_some_iff.mp hstep with ⟨location, -, rfl⟩
      exact h.setLocation index _
  | newRoom id location alertState aliveState =>
      unfold roomStep at hstep
      dsimp only at hstep
      split at hstep
      · rename_i hlocation
        cases hstep
        refine h.construct id alertState aliveState fun pointer hpointer => ?_
        rw [hpointer] at hlocation
        simpa using hlocation
      · cases hstep
  | newRoomAtOrigin id =>
      cases hstep
      have hlocated : RoomsWf { w with locations := w.locations ++ [.origin] } :=
        h.mono rfl (by simp) (Nat.le_refl _) (Nat.le_refl _)
      refine hlocated.construct id false true fun pointer hpointer => ?_
      cases hpointer
      simp
  | copyRoom index =>
      rcases Option.map_eq_some_iff.mp hstep with ⟨r, hr, rfl⟩
      exact h.addRoom (h r (List.mem_of_getElem? hr))
  | assignRoom target source =>
      rcases Option.map_eq_some_iff.mp hstep with ⟨r, hr, rfl⟩
      exact h.setRoom target (h r (List.mem_of_getElem? hr))
  | setAlertState index state | setAliveState index state =>
      rcases Option.map_eq_some_iff.mp hstep with ⟨r, hr, rfl⟩
      have hold := h r (List.mem_of_getElem? hr)
      exact h.setRoom index ⟨hold.location, hold.links, hold.staticDevices, hold.dynamicDevices⟩
  | links index op =>
      rcases Option.map_eq_some_iff.mp hstep with ⟨set, -, rfl⟩
      exact h.mono rfl (Nat.le_refl _) (by simp) (Nat.le_refl _)
  | devices index op =>
      rcases Option.map_eq_some_iff.mp hstep with ⟨set, -, rfl⟩
      exact h.mono rfl (Nat.le_refl _) (Nat.le_refl _) (by simp)
  | parse json =>
      unfold roomStep at hstep
      dsimp only at hstep
      split at hstep
      · rename_i made r json' hparse
        rcases bind_eq_ok_iff.mp hparse with ⟨room, json'', -, hplace⟩
        cases hplace
        cases hstep
        exact h.place room
      · cases hstep
        exact h
      · cases hstep
      · cases hstep

end Pointers

/-! ## The values of rooms -/

/-- The value a room stands for. -/
structure Denotes (w : RoomWorld) (r : RoomObject) (room : Room) : Prop where
  id : r.id = room.id
  location : r.locationOf w = some room.location
  alertState : r.alertState = room.alertState
  aliveState : r.aliveState = room.aliveState
  links : w.linkSets[r.links]? = some room.links
  staticDevices : w.deviceSets[r.staticDevices]? = some room.staticDevices
  dynamicDevices : w.deviceSets[r.dynamicDevices]? = some room.dynamicDevices

section Values

variable {w : RoomWorld} {r : RoomObject} {room : Room}

theorem RoomObject.PointsInto.denotes (h : r.PointsInto w) (hlocation : r.location ≠ none) :
    ∃ room, Denotes w r room := by
  rcases Option.ne_none_iff_exists'.mp hlocation with ⟨pointer, hpointer⟩
  have hlt := h.location pointer hpointer
  have hlinks := h.links
  have hstatic := h.staticDevices
  have hdynamic := h.dynamicDevices
  refine ⟨⟨r.id, w.locations[pointer], r.alertState, r.aliveState, w.linkSets[r.links],
    w.deviceSets[r.staticDevices], w.deviceSets[r.dynamicDevices]⟩, rfl, ?_, rfl, rfl, ?_, ?_, ?_⟩
  · unfold RoomObject.locationOf
    simp [hpointer, hlt]
  · exact List.getElem?_eq_getElem hlinks
  · exact List.getElem?_eq_getElem hstatic
  · exact List.getElem?_eq_getElem hdynamic

/-- An object is written as its value is. -/
theorem Denotes.toJson (h : Denotes w r room) : r.toJson w = .ok room.toJson := by
  unfold RoomObject.toJson
  rw [h.location, h.links, h.staticDevices, h.dynamicDevices, h.id, h.alertState, h.aliveState]
  rfl

/-- The objects which are made by parsing stand for what was read. -/
theorem denotes_place (w : RoomWorld) (room : Room) :
    Denotes (w.place room).1 (w.place room).2 room := by
  refine ⟨rfl, ?_, rfl, rfl, ?_, ?_, ?_⟩
  · unfold RoomObject.locationOf RoomWorld.place
    simp
  · simp [RoomWorld.place]
  · simp [RoomWorld.place]
  · simp [RoomWorld.place]

theorem parse_room_toJson (w : RoomWorld) (room : Room) :
    RoomObject.parse w room.toJson = .ok (w.place room) room.toJson := by
  unfold RoomObject.parse
  rw [bind_of_ok room.parse_toJson]
  rfl

/-- **Room round trip.**  After every sequence of public operations every room with a
location is written to a JSON value from which a room is read which stands for the same
value and is written to the same JSON value. -/
theorem roomRoundTrip_of_reaches (h : Reaches roomStep .initial w) (hr : r ∈ w.rooms)
    (hlocation : r.location ≠ none) :
    ∃ room, Denotes w r room ∧ room.location.level ≠ 0 ∧ r.toJson w = .ok room.toJson ∧
      ∃ w' r', RoomObject.parse w room.toJson = .ok (w', r') room.toJson ∧
        Denotes w' r' room ∧ r'.toJson w' = .ok room.toJson := by
  have hwf : RoomsWf w := h.invariant (fun _ _ _ hs hstep => hs.step hstep) fun _ hnone =>
    nomatch hnone
  rcases (hwf r hr).denotes hlocation with ⟨room, hroom⟩
  have hplace := denotes_place w room
  exact ⟨room, hroom, room.location.level_ne_zero, hroom.toJson, _, _,
    parse_room_toJson w room, hplace, hplace.toJson⟩

/-- A room with an alarm, below the ground. -/
def cellar : RoomObject := ⟨1, some 0, true, false, 0, 0, 1⟩

/-- The world in which it was made and its links were changed. -/
def cellarWorld : RoomWorld where
  locations := [⟨-1, 5, -5, by decide⟩]
  linkSets := [(((∅ : MySet UInt32).add 2).add 3).remove 2]
  deviceSets := [(∅ : MySet String).add "10", ((∅ : MySet String).add "30").clear]
  rooms := [cellar]

/-- The level 0 is thrown, and the location stays where it was. -/
theorem cellarWorld_reached : Reaches roomStep .initial cellarWorld :=
  ⟨[.newLocation 7 5 (-5), .newRoom 1 (some 0) true false, .links 0 (.add 2), .links 0 (.add 3),
    .devices 0 (.add "10"), .devices 1 (.add "30"), .setLevel 0 (-1), .setLevel 0 0,
    .links 0 (.remove 2), .devices 1 .clear], rfl⟩

theorem roomRoundTrip_of_reaches_cellar :
    ∃ room, Denotes cellarWorld cellar room ∧ room.location.level ≠ 0 ∧
      cellar.toJson cellarWorld = .ok room.toJson ∧
      ∃ w' r', RoomObject.parse cellarWorld room.toJson = .ok (w', r') room.toJson ∧
        Denotes w' r' room ∧ r'.toJson w' = .ok room.toJson :=
  roomRoundTrip_of_reaches cellarWorld_reached List.mem_cons_self (by decide)

end Values

end DevMgmt
end FireEvacuation
