import FireEvacuation.DevMgmt.RoomObjects

/-!
# The builder of rooms

`RoomBuilder` collects the members of a room and hands them over in `build`.  Three of its
members have no initial value, its location is null until one is set, and its sets are
objects of their own, which every room it builds gets to hold.

The same changes can be made to a room itself.  What happens after `build` is a run over the
calls of the builder, further rooms built from it, and changes to these.
-/

namespace FireEvacuation
namespace DevMgmt

open FireEvacuation.Core Platform

/-! ## What a room is -/

/-- The members of a room and what they point to. -/
structure RoomContents where
  id : UInt32
  location : Option Location
  alertState : Bool
  aliveState : Bool
  links : Option (MySet UInt32)
  staticDevices : Option (MySet String)
  dynamicDevices : Option (MySet String)

def RoomObject.contents (w : RoomWorld) (r : RoomObject) : RoomContents where
  id := r.id
  location := r.locationOf w
  alertState := r.alertState
  aliveState := r.aliveState
  links := w.linkSets[r.links]?
  staticDevices := w.deviceSets[r.staticDevices]?
  dynamicDevices := w.deviceSets[r.dynamicDevices]?

/-- `Room(id)`. -/
def RoomObject.constructAtOrigin (w : RoomWorld) (id : UInt32) : RoomWorld × RoomObject :=
  let located : RoomWorld := { w with locations := w.locations ++ [.origin] }
  located.construct id (some w.locations.length) false true

/-! ## The builder -/

/-- An object of `RoomBuilder`: `none` is a member which was not initialised, and the null
location. -/
structure RoomBuilder where
  id : Option UInt32
  location : Option Nat
  alertState : Option Bool
  aliveState : Option Bool
  links : Nat
  staticDevices : Nat
  dynamicDevices : Nat
  deriving DecidableEq, Repr

/-- A call of the builder.  Of a device it reads the uuid only. -/
inductive BuilderCall where
  | setId (id : UInt32)
  | setLocation (location : Option Nat)
  | setAlertState (state : Bool)
  | setAliveState (state : Bool)
  | addLink (linkId : UInt32)
  | addStaticDevice (uuid : String)
  | addDynamicDevice (uuid : String)
  deriving DecidableEq, Repr

/-- A call which has the builder hold another set than its own. -/
inductive SetCall where
  | setLinks (pointer : Nat)
  | setStaticDevices (pointer : Nat)
  | setDynamicDevices (pointer : Nat)
  deriving DecidableEq, Repr

namespace RoomBuilder

/-- The constructor. -/
def construct (w : RoomWorld) : RoomWorld × RoomBuilder :=
  ({ w with
      linkSets := w.linkSets ++ [∅]
      deviceSets := w.deviceSets ++ [∅, ∅] },
    ⟨none, none, none, none, w.linkSets.length, w.deviceSets.length, w.deviceSets.length + 1⟩)

/-- One call; `none` for a location there is not. -/
def call (w : RoomWorld) (b : RoomBuilder) : BuilderCall → Option (RoomWorld × RoomBuilder)
  | .setId id => some (w, { b with id := some id })
  | .setLocation location =>
      if location.all (· < w.locations.length) then some (w, { b with location := location })
      else none
  | .setAlertState state => some (w, { b with alertState := some state })
  | .setAliveState state => some (w, { b with aliveState := some state })
  | .addLink linkId => (roomStep w (.links b.links (.add linkId))).map (·, b)
  | .addStaticDevice uuid => (roomStep w (.devices b.staticDevices (.add uuid))).map (·, b)
  | .addDynamicDevice uuid => (roomStep w (.devices b.dynamicDevices (.add uuid))).map (·, b)

/-- The set is not copied, and nothing is done to the one which was held before; `none` for a
set there is not. -/
def hold (w : RoomWorld) (b : RoomBuilder) : SetCall → Option RoomBuilder
  | .setLinks pointer =>
      if pointer < w.linkSets.length then some { b with links := pointer } else none
  | .setStaticDevices pointer =>
      if pointer < w.deviceSets.length then some { b with staticDevices := pointer } else none
  | .setDynamicDevices pointer =>
      if pointer < w.deviceSets.length then some { b with dynamicDevices := pointer } else none

/-- `build`: the room is constructed with its defaults, all of which are written over. -/
def build (w : RoomWorld) (b : RoomBuilder) : Option (RoomWorld × RoomObject) :=
  match b.id, b.alertState, b.aliveState with
  | some id, some alertState, some aliveState =>
      let made := RoomObject.constructAtOrigin w id
      some (made.1, { made.2 with
        location := b.location
        alertState := alertState
        aliveState := aliveState
        links := b.links
        staticDevices := b.staticDevices
        dynamicDevices := b.dynamicDevices })
  -- a member is read which was never initialised
  | _, _, _ => none

end RoomBuilder

/-! ## The room itself -/

namespace RoomObject

/-- The change a call of the builder stands for, made to a room. -/
def change (w : RoomWorld) (r : RoomObject) : BuilderCall → Option (RoomWorld × RoomObject)
  | .setId id => some (w, { r with id := id })
  | .setLocation location =>
      if location.all (· < w.locations.length) then some (w, { r with location := location })
      else none
  | .setAlertState state => some (w, { r with alertState := state })
  | .setAliveState state => some (w, { r with aliveState := state })
  | .addLink linkId => (roomStep w (.links r.links (.add linkId))).map (·, r)
  | .addStaticDevice uuid => (roomStep w (.devices r.staticDevices (.add uuid))).map (·, r)
  | .addDynamicDevice uuid => (roomStep w (.devices r.dynamicDevices (.add uuid))).map (·, r)

end RoomObject

/-! ## After `build` -/

/-- A change of a room through its public members. -/
inductive RoomChange where
  | setAlertState (state : Bool)
  | setAliveState (state : Bool)
  | setLevel (level : Int32)
  | setX (x : Int32)
  | setY (y : Int32)
  | links (op : SetOp UInt32)
  | staticDevices (op : SetOp String)
  | dynamicDevices (op : SetOp String)
  | assign (source : Nat)

/-- The operation it is, for the room at a position; `none` for a null location. -/
def RoomChange.op (index : Nat) (r : RoomObject) : RoomChange → Option RoomOp
  | .setAlertState state => some (.setAlertState index state)
  | .setAliveState state => some (.setAliveState index state)
  | .setLevel level => r.location.map (RoomOp.setLevel · level)
  | .setX x => r.location.map (RoomOp.setX · x)
  | .setY y => r.location.map (RoomOp.setY · y)
  | .links op => some (.links r.links op)
  | .staticDevices op => some (.devices r.staticDevices op)
  | .dynamicDevices op => some (.devices r.dynamicDevices op)
  | .assign source => some (.assignRoom index source)

/-- A builder and the rooms which were built from it, by their positions. -/
structure BuilderWorld where
  world : RoomWorld
  builder : RoomBuilder
  built : List Nat

/-- What can happen after the first `build`.  The rooms which are changed are the other ones,
counted from the second which was built. -/
inductive BuilderEvent where
  | call (c : BuilderCall)
  | hold (c : SetCall)
  | build
  | change (other : Nat) (c : RoomChange)

/-- One event; `none` where the behaviour is not defined. -/
def builderStep (s : BuilderWorld) : BuilderEvent → Option BuilderWorld
  | .call c => (s.builder.call s.world c).map fun after =>
      { s with world := after.1, builder := after.2 }
  | .hold c => (s.builder.hold s.world c).map fun builder => { s with builder := builder }
  | .build => (s.builder.build s.world).map fun made =>
      { s with
        world := made.1.addRoom made.2
        built := s.built ++ [s.world.rooms.length] }
  | .change other c => do
      let index ← s.built[other + 1]?
      let r ← s.world.rooms[index]?
      let op ← c.op index r
      let world ← roomStep s.world op
      pure { s with world := world }

/-- What an event does to the sets and locations there are. -/
def BuilderEvent.op (s : BuilderWorld) : BuilderEvent → Option RoomOp
  | .call (.addLink linkId) => some (.links s.builder.links (.add linkId))
  | .call (.addStaticDevice uuid) => some (.devices s.builder.staticDevices (.add uuid))
  | .call (.addDynamicDevice uuid) => some (.devices s.builder.dynamicDevices (.add uuid))
  | .call _ | .hold _ | .build => none
  | .change other c => do
      let index ← s.built[other + 1]?
      let r ← s.world.rooms[index]?
      c.op index r

/-- A new builder. -/
def BuilderWorld.start (w : RoomWorld) : BuilderWorld :=
  ⟨(RoomBuilder.construct w).1, (RoomBuilder.construct w).2, []⟩

/-! ## Operations which leave a room as it is -/

/-- The operation leaves the set as it is. -/
def SetOp.Idle {α : Type} [Ord α] [Std.TransOrd α] : SetOp α → MySet α → Prop
  | .add value, set => value ∈ set
  | .remove value, set => value ∉ set
  | .clear, set => set = ∅

theorem SetOp.apply_eq_iff {α : Type} [Ord α] [Std.TransOrd α] [Std.LawfulEqOrd α]
    (op : SetOp α) (set : MySet α) : op.apply set = set ↔ op.Idle set := by
  cases op with
  | add value =>
      constructor
      · intro h
        have hmem : value ∈ set.insert value := Std.ExtTreeSet.mem_insert_self
        rw [show set.insert value = set from h] at hmem
        exact hmem
      · intro h
        apply Std.ExtTreeSet.ext_mem
        intro other
        show other ∈ set.insert value ↔ other ∈ set
        rw [Std.ExtTreeSet.mem_insert, Std.LawfulEqCmp.compare_eq_iff_eq]
        constructor
        · rintro (rfl | hmem)
          · exact h
          · exact hmem
        · exact Or.inr
  | remove value =>
      constructor
      · intro h hmem
        rw [← show set.erase value = set from h] at hmem
        simp at hmem
      · intro h
        apply Std.ExtTreeSet.ext_mem
        intro other
        show other ∈ set.erase value ↔ other ∈ set
        rw [Std.ExtTreeSet.mem_erase]
        constructor
        · exact fun hmem => hmem.2
        · intro hmem
          refine ⟨fun heq => h ?_, hmem⟩
          rw [Std.LawfulEqCmp.eq_of_compare heq]
          exact hmem
  | clear => exact eq_comm

/-- The operation leaves what the room points to as it is. -/
def LeavesAlone (w : RoomWorld) (room : RoomObject) : RoomOp → Prop
  | .links pointer op =>
      pointer = room.links → ∀ set, w.linkSets[pointer]? = some set → op.Idle set
  | .devices pointer op =>
      pointer = room.staticDevices ∨ pointer = room.dynamicDevices →
        ∀ set, w.deviceSets[pointer]? = some set → op.Idle set
  | .setLevel pointer level =>
      room.location = some pointer →
        ∀ location, w.locations[pointer]? = some location → level = 0 ∨ level = location.level
  | .setX pointer x =>
      room.location = some pointer →
        ∀ location, w.locations[pointer]? = some location → x = location.x
  | .setY pointer y =>
      room.location = some pointer →
        ∀ location, w.locations[pointer]? = some location → y = location.y
  | _ => True

theorem Location.ext_iff {a b : Location} :
    a = b ↔ a.level = b.level ∧ a.x = b.x ∧ a.y = b.y := by
  cases a
  cases b
  simp

section Frame

variable {w w' : RoomWorld} {room : RoomObject}

theorem getElem?_of_grown {α : Type} {before after : List α} (h : before <+: after) {i : Nat}
    (hi : i < before.length) : after[i]? = before[i]? := by
  obtain ⟨added, rfl⟩ := h
  exact List.getElem?_append_left hi

theorem locationOf_of_grown (hroom : room.PointsInto w)
    (hlocations : w.locations <+: w'.locations) : room.locationOf w' = room.locationOf w := by
  rw [RoomObject.locationOf, RoomObject.locationOf]
  cases hpointer : room.location with
  | none => rfl
  | some pointer => exact getElem?_of_grown hlocations (hroom.location pointer hpointer)

/-- New objects do not matter to a room. -/
theorem contents_of_grown (hroom : room.PointsInto w) (hlocations : w.locations <+: w'.locations)
    (hlinks : w.linkSets <+: w'.linkSets) (hdevices : w.deviceSets <+: w'.deviceSets) :
    room.contents w' = room.contents w := by
  rw [RoomObject.contents, RoomObject.contents, locationOf_of_grown hroom hlocations,
    getElem?_of_grown hlinks hroom.links, getElem?_of_grown hdevices hroom.staticDevices,
    getElem?_of_grown hdevices hroom.dynamicDevices]

theorem getElem?_set_eq_iff {α : Type} {values : List α} {i j : Nat} {old new : α}
    (hold : values[i]? = some old) :
    (values.set i new)[j]? = values[j]? ↔ (i = j → new = old) := by
  by_cases hij : i = j
  · subst hij
    have hlt : i < values.length := (List.getElem?_eq_some_iff.mp hold).1
    rw [List.getElem?_set_self hlt, hold, Option.some_inj, forall_prop_of_true rfl]
  · rw [List.getElem?_set_ne hij]
    exact iff_of_true rfl fun heq => absurd heq hij

theorem contents_setLocation_iff {pointer : Nat} {old new : Location}
    (hold : w.locations[pointer]? = some old) :
    room.contents (w.setLocation pointer new) = room.contents w ↔
      (room.location = some pointer → new = old) := by
  have hcontents : room.contents (w.setLocation pointer new) = room.contents w ↔
      room.locationOf (w.setLocation pointer new) = room.locationOf w := by
    simp [RoomObject.contents, RoomWorld.setLocation]
  rw [hcontents, RoomObject.locationOf, RoomObject.locationOf]
  cases hpointer : room.location with
  | none => exact iff_of_true rfl fun h => by cases h
  | some own =>
      rw [Option.some_inj, eq_comm (a := own)]
      exact getElem?_set_eq_iff hold

theorem contents_setLinks_iff {pointer : Nat} {old new : MySet UInt32}
    (hold : w.linkSets[pointer]? = some old) :
    room.contents { w with linkSets := w.linkSets.set pointer new } = room.contents w ↔
      (pointer = room.links → new = old) := by
  rw [← getElem?_set_eq_iff hold]
  simp [RoomObject.contents, RoomObject.locationOf]

theorem contents_setDevices_iff {pointer : Nat} {old new : MySet String}
    (hold : w.deviceSets[pointer]? = some old) :
    room.contents { w with deviceSets := w.deviceSets.set pointer new } = room.contents w ↔
      (pointer = room.staticDevices ∨ pointer = room.dynamicDevices → new = old) := by
  rw [or_imp, ← getElem?_set_eq_iff hold, ← getElem?_set_eq_iff hold]
  simp [RoomObject.contents, RoomObject.locationOf]

theorem stays_of_grown {op : RoomOp} (hroom : room.PointsInto w)
    (hlocations : w.locations <+: w'.locations) (hlinks : w.linkSets <+: w'.linkSets)
    (hdevices : w.deviceSets <+: w'.deviceSets) (hop : LeavesAlone w room op) :
    room.PointsInto w' ∧ (room.contents w' = room.contents w ↔ LeavesAlone w room op) :=
  ⟨hroom.mono hlocations.length_le hlinks.length_le hdevices.length_le,
    iff_of_true (contents_of_grown hroom hlocations hlinks hdevices) hop⟩

theorem pointsInto_setLocation (hroom : room.PointsInto w) (pointer : Nat) (new : Location) :
    room.PointsInto (w.setLocation pointer new) := by
  refine hroom.mono ?_ (Nat.le_refl _) (Nat.le_refl _)
  simp [RoomWorld.setLocation]

/-- **One operation.**  The pointers of a room stay good, and the room is the same after it
exactly when the operation leaves alone what they point to. -/
theorem room_step {op : RoomOp} (hroom : room.PointsInto w) (hstep : roomStep w op = some w') :
    room.PointsInto w' ∧ (room.contents w' = room.contents w ↔ LeavesAlone w room op) := by
  cases op with
  | newLocation level x y =>
      unfold roomStep at hstep
      dsimp only at hstep
      split at hstep
      · cases hstep
        exact stays_of_grown hroom (List.prefix_append _ _) List.prefix_rfl List.prefix_rfl
          trivial
      · cases hstep
        exact ⟨hroom, iff_of_true rfl trivial⟩
  | setLevel pointer level =>
      obtain ⟨location, hlocation, rfl⟩ := Option.map_eq_some_iff.mp hstep
      by_cases hlevel : level = 0
      · -- the level is refused, and the location is as before
        have hthrown : location.setLevel level = .error (.exception (.number level)) :=
          dif_pos hlevel
        rw [hthrown]
        exact ⟨hroom, iff_of_true rfl fun _ _ _ => Or.inl hlevel⟩
      · rw [Location.setLevel, Location.make_of_ne_zero _ _ hlevel]
        refine ⟨pointsInto_setLocation hroom pointer _, ?_⟩
        show room.contents (w.setLocation pointer _) = room.contents w ↔ _
        rw [contents_setLocation_iff hlocation, LeavesAlone, Location.ext_iff]
        simp [hlocation, hlevel]
  | setX pointer x =>
      obtain ⟨location, hlocation, rfl⟩ := Option.map_eq_some_iff.mp hstep
      refine ⟨pointsInto_setLocation hroom pointer _, ?_⟩
      rw [contents_setLocation_iff hlocation, LeavesAlone, Location.ext_iff]
      simp [hlocation, Location.setX]
  | setY pointer y =>
      obtain ⟨location, hlocation, rfl⟩ := Option.map_eq_some_iff.mp hstep
      refine ⟨pointsInto_setLocation hroom pointer _, ?_⟩
      rw [contents_setLocation_iff hlocation, LeavesAlone, Location.ext_iff]
      simp [hlocation, Location.setY]
  | newRoom id location alertState aliveState =>
      unfold roomStep at hstep
      dsimp only at hstep
      split at hstep
      · cases hstep
        exact stays_of_grown hroom List.prefix_rfl (List.prefix_append _ _)
          (List.prefix_append _ _) trivial
      · cases hstep
  | newRoomAtOrigin id =>
      cases hstep
      exact stays_of_grown hroom (List.prefix_append _ _) (List.prefix_append _ _)
        (List.prefix_append _ _) trivial
  -- what a room object holds itself is not among the things it points to
  | copyRoom index | assignRoom target source | setAlertState index state
    | setAliveState index state =>
      obtain ⟨r, hr, rfl⟩ := Option.map_eq_some_iff.mp hstep
      exact stays_of_grown hroom List.prefix_rfl List.prefix_rfl List.prefix_rfl trivial
  | links pointer op =>
      obtain ⟨set, hset, rfl⟩ := Option.map_eq_some_iff.mp hstep
      refine ⟨hroom.mono (Nat.le_refl _) (by simp) (Nat.le_refl _), ?_⟩
      rw [contents_setLinks_iff hset, op.apply_eq_iff, LeavesAlone]
      simp [hset]
  | devices pointer op =>
      obtain ⟨set, hset, rfl⟩ := Option.map_eq_some_iff.mp hstep
      refine ⟨hroom.mono (Nat.le_refl _) (Nat.le_refl _) (by simp), ?_⟩
      rw [contents_setDevices_iff hset, op.apply_eq_iff, LeavesAlone]
      simp [hset]
  | parse json =>
      unfold roomStep at hstep
      dsimp only at hstep
      split at hstep
      · rename_i made r json' hparse
        obtain ⟨parsed, json'', -, hplace⟩ := Effect.bind_eq_ok_iff.mp hparse
        cases hplace
        cases hstep
        exact stays_of_grown hroom (List.prefix_append _ _) (List.prefix_append _ _)
          (List.prefix_append _ _) trivial
      · cases hstep
        exact ⟨hroom, iff_of_true rfl trivial⟩
      · cases hstep
      · cases hstep

end Frame

end DevMgmt
end FireEvacuation
