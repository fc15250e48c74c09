import FireEvacuation.DevMgmt.RoomBuilder

/-!
# The rooms a builder builds

A builder and a room take the same calls side by side, and as long as every member has been
given they agree.  The room which is built holds the sets of the builder, so whether it stays
as it is depends on every later call, and on every change of another room built from it.
-/

namespace FireEvacuation
namespace DevMgmt

open FireEvacuation.Core Platform

/-! ## The builder and the room side by side -/

theorem roomStep_links {w : RoomWorld} {pointer : Nat} {set : MySet UInt32}
    (h : w.linkSets[pointer]? = some set) (op : SetOp UInt32) :
    roomStep w (.links pointer op) =
      some { w with linkSets := w.linkSets.set pointer (op.apply set) } := by
  rw [roomStep, h, Option.map_some]

theorem roomStep_devices {w : RoomWorld} {pointer : Nat} {set : MySet String}
    (h : w.deviceSets[pointer]? = some set) (op : SetOp String) :
    roomStep w (.devices pointer op) =
      some { w with deviceSets := w.deviceSets.set pointer (op.apply set) } := by
  rw [roomStep, h, Option.map_some]

/-- A builder made in the world and a room made there with an id, after the same calls. -/
structure Follows (w : RoomWorld) (id : UInt32) (s : RoomWorld × RoomBuilder)
    (d : RoomWorld × RoomObject) : Prop where
  id : d.2.id = s.2.id.getD id
  alertState : d.2.alertState = s.2.alertState.getD false
  aliveState : d.2.aliveState = s.2.aliveState.getD true
  location : ∀ pointer, s.2.location = some pointer →
    d.2.location = some pointer ∧ pointer < w.locations.length
  links : ∃ set, s.1.linkSets[s.2.links]? = some set ∧ d.1.linkSets[d.2.links]? = some set
  staticDevices : ∃ set, s.1.deviceSets[s.2.staticDevices]? = some set ∧
    d.1.deviceSets[d.2.staticDevices]? = some set
  dynamicDevices : ∃ set, s.1.deviceSets[s.2.dynamicDevices]? = some set ∧
    d.1.deviceSets[d.2.dynamicDevices]? = some set
  builderApart : s.2.staticDevices ≠ s.2.dynamicDevices
  roomApart : d.2.staticDevices ≠ d.2.dynamicDevices
  builderLocations : s.1.locations = w.locations
  roomLocations : d.1.locations = w.locations ++ [.origin]
  rooms : s.1.rooms = w.rooms

section Following

variable {w : RoomWorld} {id : UInt32} {s : RoomWorld × RoomBuilder} {d : RoomWorld × RoomObject}

theorem follows_construct (w : RoomWorld) (id : UInt32) :
    Follows w id (RoomBuilder.construct w) (RoomObject.constructAtOrigin w id) where
  id := rfl
  alertState := rfl
  aliveState := rfl
  location := fun _ h => by cases h
  links := ⟨∅, by simp [RoomBuilder.construct],
    by simp [RoomObject.constructAtOrigin, RoomWorld.construct]⟩
  staticDevices := ⟨∅, by simp [RoomBuilder.construct],
    by simp [RoomObject.constructAtOrigin, RoomWorld.construct]⟩
  dynamicDevices := ⟨∅, by simp [RoomBuilder.construct],
    by simp [RoomObject.constructAtOrigin, RoomWorld.construct]⟩
  builderApart := (Nat.succ_ne_self _).symm
  roomApart := (Nat.succ_ne_self _).symm
  builderLocations := rfl
  roomLocations := rfl
  rooms := rfl

/-- The location a call passes is one there is. -/
def BuilderCall.Valid (w : RoomWorld) (c : BuilderCall) : Prop :=
  ∀ pointer, c = .setLocation (some pointer) → pointer < w.locations.length

/-- **One call.** -/
theorem Follows.step (h : Follows w id s d) {c : BuilderCall} (hc : c.Valid w) :
    ∃ s' d', s.2.call s.1 c = some s' ∧ d.2.change d.1 c = some d' ∧ Follows w id s' d' := by
  obtain ⟨set, hset, hset'⟩ := h.links
  obtain ⟨devices, hstatic, hstatic'⟩ := h.staticDevices
  obtain ⟨others, hdynamic, hdynamic'⟩ := h.dynamicDevices
  cases c with
  | setId newId => exact ⟨_, _, rfl, rfl, { h with id := rfl }⟩
  | setAlertState state => exact ⟨_, _, rfl, rfl, { h with alertState := rfl }⟩
  | setAliveState state => exact ⟨_, _, rfl, rfl, { h with aliveState := rfl }⟩
  | setLocation location =>
      have hlt : ∀ pointer, location = some pointer → pointer < w.locations.length :=
        fun pointer hpointer => hc pointer (congrArg _ hpointer)
      have hin : location.all (· < s.1.locations.length) = true ∧
          location.all (· < d.1.locations.length) = true := by
        rw [h.builderLocations, h.roomLocations, List.length_append]
        cases location with
        | none => exact ⟨rfl, rfl⟩
        | some pointer =>
            have hpointer := hlt pointer rfl
            simp only [Option.all_some, decide_eq_true_eq]
            omega
      refine ⟨_, _, if_pos hin.1, if_pos hin.2, { h with location := ?_ }⟩
      intro pointer hpointer
      exact ⟨hpointer, hlt pointer hpointer⟩
  | addLink linkId =>
      rw [RoomBuilder.call, RoomObject.change, roomStep_links hset, roomStep_links hset']
      refine ⟨_, _, rfl, rfl, { h with links := ⟨set.add linkId, ?_, ?_⟩ }⟩
      · exact List.getElem?_set_self (List.getElem?_eq_some_iff.mp hset).1
      · exact List.getElem?_set_self (List.getElem?_eq_some_iff.mp hset').1
  -- both sets of devices are in one list, so the other one has to be another
  | addStaticDevice uuid =>
      rw [RoomBuilder.call, RoomObject.change, roomStep_devices hstatic, roomStep_devices hstatic']
      refine ⟨_, _, rfl, rfl, { h with
        staticDevices := ⟨devices.add uuid, ?_, ?_⟩
        dynamicDevices := ⟨others, ?_, ?_⟩ }⟩
      · exact List.getElem?_set_self (List.getElem?_eq_some_iff.mp hstatic).1
      · exact List.getElem?_set_self (List.getElem?_eq_some_iff.mp hstatic').1
      · exact (List.getElem?_set_ne h.builderApart).trans hdynamic
      · exact (List.getElem?_set_ne h.roomApart).trans hdynamic'
  | addDynamicDevice uuid =>
      rw [RoomBuilder.call, RoomObject.change, roomStep_devices hdynamic,
        roomStep_devices hdynamic']
      refine ⟨_, _, rfl, rfl, { h with
        staticDevices := ⟨devices, ?_, ?_⟩
        dynamicDevices := ⟨others.add uuid, ?_, ?_⟩ }⟩
      · exact (List.getElem?_set_ne h.builderApart.symm).trans hstatic
      · exact (List.getElem?_set_ne h.roomApart.symm).trans hstatic'
      · exact List.getElem?_set_self (List.getElem?_eq_some_iff.mp hdynamic).1
      · exact List.getElem?_set_self (List.getElem?_eq_some_iff.mp hdynamic').1

/-- The builder takes a call. -/
def callStep (s : RoomWorld × RoomBuilder) (c : BuilderCall) : Option (RoomWorld × RoomBuilder) :=
  s.2.call s.1 c

/-- The room takes the change a call stands for. -/
def directStep (d : RoomWorld × RoomObject) (c : BuilderCall) : Option (RoomWorld × RoomObject) :=
  d.2.change d.1 c

/-- **All calls.** -/
theorem Follows.run (h : Follows w id s d) {calls : List BuilderCall}
    (hcalls : ∀ c ∈ calls, c.Valid w) :
    ∃ s' d', Core.run callStep s calls = some s' ∧ Core.run directStep d calls = some d' ∧
      Follows w id s' d' := by
  induction calls generalizing s d with
  | nil => exact ⟨s, d, rfl, rfl, h⟩
  | cons c calls ih =>
      obtain ⟨s', d', hcall, hchange, hfollows⟩ := h.step (hcalls c List.mem_cons_self)
      have hs' : callStep s c = some s' := hcall
      have hd' : directStep d c = some d' := hchange
      obtain ⟨s'', d'', hs, hd, hrest⟩ :=
        ih hfollows fun c hc => hcalls c (List.mem_cons_of_mem _ hc)
      refine ⟨s'', d'', ?_, ?_, hrest⟩
      · rw [run_cons_of_step hs', hs]
      · rw [run_cons_of_step hd', hd]

end Following

/-! ## What the calls give -/

/-- What a call does to the members of the builder. -/
def BuilderCall.given (b : RoomBuilder) : BuilderCall → RoomBuilder
  | .setId id => { b with id := some id }
  | .setLocation location => { b with location := location }
  | .setAlertState state => { b with alertState := some state }
  | .setAliveState state => { b with aliveState := some state }
  | .addLink _ | .addStaticDevice _ | .addDynamicDevice _ => b

/-- The location of the last call of `setLocation`. -/
def lastLocation (calls : List BuilderCall) : Option Nat :=
  calls.foldl (fun last c => match c with
    | .setLocation location => location
    | _ => last) none

theorem call_given {s t : RoomWorld × RoomBuilder} {c : BuilderCall}
    (h : callStep s c = some t) : t.2 = c.given s.2 := by
  cases c with
  | setId id | setAlertState state | setAliveState state =>
      cases h
      rfl
  | setLocation location =>
      rw [callStep, RoomBuilder.call] at h
      split at h
      · cases h
        rfl
      · cases h
  | addLink linkId | addStaticDevice uuid | addDynamicDevice uuid =>
      obtain ⟨w, -, rfl⟩ := Option.map_eq_some_iff.mp h
      rfl

/-- The members after all calls. -/
theorem run_given {s t : RoomWorld × RoomBuilder} {calls : List BuilderCall}
    (h : run callStep s calls = some t) : t.2 = calls.foldl BuilderCall.given s.2 := by
  induction calls generalizing s with
  | nil =>
      cases h
      rfl
  | cons c calls ih =>
      obtain ⟨u, hcall, hrest⟩ := run_cons_eq_some h
      rw [ih hrest, call_given hcall, List.foldl_cons]

/-- A member which only one kind of call sets is set when there is such a call. -/
theorem foldl_given_iff (Set : RoomBuilder → Prop) (Sets : BuilderCall → Prop)
    (hstep : ∀ b c, Set (c.given b) ↔ Set b ∨ Sets c) (b : RoomBuilder)
    (calls : List BuilderCall) :
    Set (calls.foldl BuilderCall.given b) ↔ Set b ∨ ∃ c ∈ calls, Sets c := by
  induction calls generalizing b with
  | nil => simp
  | cons c calls ih =>
      rw [List.foldl_cons, ih, hstep, or_assoc]
      simp

theorem location_given (b : RoomBuilder) (calls : List BuilderCall) :
    (calls.foldl BuilderCall.given b).location =
      calls.foldl (fun last c => match c with
        | .setLocation location => location
        | _ => last) b.location := by
  induction calls generalizing b with
  | nil => rfl
  | cons c calls ih =>
      rw [List.foldl_cons, List.foldl_cons, ih]
      cases c <;> rfl

/-- The calls give a value to every member which has none, and a location which is there. -/
structure Complete (calls : List BuilderCall) : Prop where
  id : ∃ c ∈ calls, ∃ id, c = .setId id
  alertState : ∃ c ∈ calls, ∃ state, c = .setAlertState state
  aliveState : ∃ c ∈ calls, ∃ state, c = .setAliveState state
  location : lastLocation calls ≠ none

section Given

variable {w : RoomWorld} {calls : List BuilderCall} {s : RoomWorld × RoomBuilder}

theorem id_given_iff (h : run callStep (RoomBuilder.construct w) calls = some s) :
    s.2.id ≠ none ↔ ∃ c ∈ calls, ∃ id, c = .setId id := by
  rw [run_given h, foldl_given_iff (fun b => b.id ≠ none)
    (fun c => ∃ id, c = .setId id) (fun b c => by cases c <;> simp [BuilderCall.given])]
  exact or_iff_right fun hnot => hnot rfl

theorem alertState_given_iff (h : run callStep (RoomBuilder.construct w) calls = some s) :
    s.2.alertState ≠ none ↔ ∃ c ∈ calls, ∃ state, c = .setAlertState state := by
  rw [run_given h, foldl_given_iff (fun b => b.alertState ≠ none)
    (fun c => ∃ state, c = .setAlertState state)
    (fun b c => by cases c <;> simp [BuilderCall.given])]
  exact or_iff_right fun hnot => hnot rfl

theorem aliveState_given_iff (h : run callStep (RoomBuilder.construct w) calls = some s) :
    s.2.aliveState ≠ none ↔ ∃ c ∈ calls, ∃ state, c = .setAliveState state := by
  rw [run_given h, foldl_given_iff (fun b => b.aliveState ≠ none)
    (fun c => ∃ state, c = .setAliveState state)
    (fun b c => by cases c <;> simp [BuilderCall.given])]
  exact or_iff_right fun hnot => hnot rfl

theorem location_eq_last (h : run callStep (RoomBuilder.construct w) calls = some s) :
    s.2.location = lastLocation calls := by
  rw [run_given h, location_given]
  rfl

/-- `build` reads initialised members only. -/
theorem build_isSome_iff (w : RoomWorld) (b : RoomBuilder) :
    (∃ made, b.build w = some made) ↔
      b.id ≠ none ∧ b.alertState ≠ none ∧ b.aliveState ≠ none := by
  rw [RoomBuilder.build]
  cases b.id with
  | none => simp
  | some id =>
      cases b.alertState with
      | none => simp
      | some alertState =>
          cases b.aliveState with
          | none => simp
          | some aliveState => simp

/-- The room which was built. -/
structure Built (w : RoomWorld) (b : RoomBuilder) (made : RoomWorld × RoomObject) : Prop where
  id : b.id = some made.2.id
  alertState : b.alertState = some made.2.alertState
  aliveState : b.aliveState = some made.2.aliveState
  location : made.2.location = b.location
  links : made.2.links = b.links
  staticDevices : made.2.staticDevices = b.staticDevices
  dynamicDevices : made.2.dynamicDevices = b.dynamicDevices
  locations : made.1.locations = w.locations ++ [.origin]
  linkSets : made.1.linkSets = w.linkSets ++ [∅]
  deviceSets : made.1.deviceSets = w.deviceSets ++ [∅, ∅]
  rooms : made.1.rooms = w.rooms

theorem build_spec {w : RoomWorld} {b : RoomBuilder} {made : RoomWorld × RoomObject}
    (h : b.build w = some made) : Built w b made := by
  rw [RoomBuilder.build] at h
  split at h
  · rename_i id alertState aliveState hid halert halive
    cases h
    exact ⟨hid, halert, halive, rfl, rfl, rfl, rfl, rfl, rfl, rfl, rfl⟩
  · cases h

end Given

/-! ## The room which was built and the one which was constructed -/

section BuiltRoom

variable {w : RoomWorld} {id : UInt32} {s : RoomWorld × RoomBuilder} {d : RoomWorld × RoomObject}
  {made : RoomWorld × RoomObject}

/-- With a location the two rooms have the same contents. -/
theorem Follows.contents_eq (h : Follows w id s d) (hbuilt : Built s.1 s.2 made)
    (hlocation : s.2.location ≠ none) :
    made.2.contents (made.1.addRoom made.2) = d.2.contents d.1 := by
  obtain ⟨pointer, hpointer⟩ := Option.ne_none_iff_exists'.mp hlocation
  obtain ⟨hroom, hlt⟩ := h.location pointer hpointer
  obtain ⟨set, hset, hset'⟩ := h.links
  obtain ⟨devices, hstatic, hstatic'⟩ := h.staticDevices
  obtain ⟨others, hdynamic, hdynamic'⟩ := h.dynamicDevices
  have hlocations : made.1.locations = d.1.locations := by
    rw [hbuilt.locations, h.builderLocations, h.roomLocations]
  have hid : d.2.id = made.2.id := by rw [h.id, hbuilt.id, Option.getD_some]
  have halert : d.2.alertState = made.2.alertState := by
    rw [h.alertState, hbuilt.alertState, Option.getD_some]
  have halive : d.2.aliveState = made.2.aliveState := by
    rw [h.aliveState, hbuilt.aliveState, Option.getD_some]
  have hlinks : made.1.linkSets[made.2.links]? = d.1.linkSets[d.2.links]? := by
    rw [hbuilt.linkSets, hbuilt.links, hset',
      List.getElem?_append_left (List.getElem?_eq_some_iff.mp hset).1, hset]
  have hstatics : made.1.deviceSets[made.2.staticDevices]? =
      d.1.deviceSets[d.2.staticDevices]? := by
    rw [hbuilt.deviceSets, hbuilt.staticDevices, hstatic',
      List.getElem?_append_left (List.getElem?_eq_some_iff.mp hstatic).1, hstatic]
  have hdynamics : made.1.deviceSets[made.2.dynamicDevices]? =
      d.1.deviceSets[d.2.dynamicDevices]? := by
    rw [hbuilt.deviceSets, hbuilt.dynamicDevices, hdynamic',
      List.getElem?_append_left (List.getElem?_eq_some_iff.mp hdynamic).1, hdynamic]
  have hplace : made.2.locationOf (made.1.addRoom made.2) = d.2.locationOf d.1 := by
    rw [RoomObject.locationOf, RoomObject.locationOf, hbuilt.location, hpointer, hroom,
      Option.bind_some, Option.bind_some]
    exact congrArg (·[pointer]?) hlocations
  rw [RoomObject.contents, RoomObject.contents, hplace, hid, halert, halive]
  simp only [RoomWorld.addRoom, hlinks, hstatics, hdynamics]

theorem Follows.pointsInto (h : Follows w id s d) (hbuilt : Built s.1 s.2 made) :
    made.2.PointsInto (made.1.addRoom made.2) := by
  obtain ⟨set, hset, -⟩ := h.links
  obtain ⟨devices, hstatic, -⟩ := h.staticDevices
  obtain ⟨others, hdynamic, -⟩ := h.dynamicDevices
  have hlinks := (List.getElem?_eq_some_iff.mp hset).1
  have hstatics := (List.getElem?_eq_some_iff.mp hstatic).1
  have hdynamics := (List.getElem?_eq_some_iff.mp hdynamic).1
  constructor
  · intro pointer hpointer
    rw [hbuilt.location] at hpointer
    have hlt := (h.location pointer hpointer).2
    show pointer < made.1.locations.length
    rw [hbuilt.locations, h.builderLocations, List.length_append]
    omega
  · show made.2.links < made.1.linkSets.length
    rw [hbuilt.linkSets, hbuilt.links, List.length_append]
    omega
  · show made.2.staticDevices < made.1.deviceSets.length
    rw [hbuilt.deviceSets, hbuilt.staticDevices, List.length_append]
    omega
  · show made.2.dynamicDevices < made.1.deviceSets.length
    rw [hbuilt.deviceSets, hbuilt.dynamicDevices, List.length_append]
    omega

/-- A room is written exactly when it has a location. -/
theorem toJson_isOk_iff {room : RoomObject} {w : RoomWorld} (h : room.PointsInto w) :
    (∃ json, room.toJson w = .ok json) ↔ room.location ≠ none := by
  constructor
  · rintro ⟨json, hjson⟩ hnone
    rw [RoomObject.toJson, RoomObject.locationOf, hnone] at hjson
    cases hjson
  · intro hlocation
    obtain ⟨value, hvalue⟩ := h.denotes hlocation
    exact ⟨value.toJson, hvalue.toJson⟩

end BuiltRoom

/-! ## Runs of the whole -/

/-- The calls before `build`, as events. -/
theorem run_calls (w : RoomWorld) (b : RoomBuilder) (calls : List BuilderCall) :
    run builderStep ⟨w, b, []⟩ (calls.map .call) =
      (run callStep (w, b) calls).map fun s => ⟨s.1, s.2, []⟩ := by
  induction calls generalizing w b with
  | nil => rfl
  | cons c calls ih =>
      rw [List.map_cons, run, run, builderStep, callStep]
      cases b.call w c with
      | none => rfl
      | some s => exact ih s.1 s.2

/-- The room at the position is there, and the other rooms which were built are others. -/
structure Holds (first : Nat) (room : RoomObject) (s : BuilderWorld) : Prop where
  object : s.world.rooms[first]? = some room
  pointsInto : room.PointsInto s.world
  built : s.built ≠ []
  others : ∀ k index, s.built[k + 1]? = some index → index ≠ first

/-- The event leaves what the room at the position points to as it is. -/
def LeavesRoom (first : Nat) (s : BuilderWorld) (e : BuilderEvent) : Prop :=
  ∀ room, s.world.rooms[first]? = some room →
    ∀ op, e.op s = some op → LeavesAlone s.world room op

section Events

variable {first : Nat} {room : RoomObject} {s t : BuilderWorld}

/-- A change of one room keeps the object at every other position. -/
theorem rooms_change {w w' : RoomWorld} {index : Nat} {r : RoomObject} {c : RoomChange}
    {op : RoomOp} (hop : c.op index r = some op) (hstep : roomStep w op = some w')
    (hne : index ≠ first) : w'.rooms[first]? = w.rooms[first]? := by
  cases c with
  | setAlertState state | setAliveState state | assign source =>
      cases hop
      obtain ⟨old, -, rfl⟩ := Option.map_eq_some_iff.mp hstep
      exact List.getElem?_set_ne hne
  | setLevel level =>
      obtain ⟨pointer, -, rfl⟩ := Option.map_eq_some_iff.mp hop
      obtain ⟨location, -, rfl⟩ := Option.map_eq_some_iff.mp hstep
      split
      · rfl
      · rfl
  | setX value | setY value =>
      obtain ⟨pointer, -, rfl⟩ := Option.map_eq_some_iff.mp hop
      obtain ⟨location, -, rfl⟩ := Option.map_eq_some_iff.mp hstep
      rfl
  | links op | staticDevices op | dynamicDevices op =>
      cases hop
      obtain ⟨set, -, rfl⟩ := Option.map_eq_some_iff.mp hstep
      rfl

/-- The world takes an operation which is no change of the room's own members. -/
theorem Holds.after_op (h : Holds first room s) {op : RoomOp} {w' : RoomWorld}
    (hop : roomStep s.world op = some w')
    (hrooms : w'.rooms[first]? = s.world.rooms[first]?) :
    Holds first room { s with world := w' } ∧
      (room.contents w' = room.contents s.world ↔ LeavesAlone s.world room op) := by
  obtain ⟨hpoints, hiff⟩ := room_step h.pointsInto hop
  exact ⟨⟨hrooms.trans h.object, hpoints, h.built, h.others⟩, hiff⟩

theorem leavesRoom_iff (h : Holds first room s) (e : BuilderEvent) :
    LeavesRoom first s e ↔ ∀ op, e.op s = some op → LeavesAlone s.world room op := by
  rw [LeavesRoom, h.object]
  simp

/-- A call of the builder. -/
theorem Holds.call {c : BuilderCall} (h : Holds first room s)
    (hstep : builderStep s (.call c) = some t) :
    Holds first room t ∧
      (room.contents t.world = room.contents s.world ↔ LeavesRoom first s (.call c)) := by
  rw [leavesRoom_iff h]
  obtain ⟨after, hcall, rfl⟩ := Option.map_eq_some_iff.mp hstep
  cases c with
  | setId id | setAlertState state | setAliveState state =>
      cases hcall
      exact ⟨⟨h.object, h.pointsInto, h.built, h.others⟩,
        iff_of_true rfl fun op hop => by cases hop⟩
  -- the location is read by the next `build` only
  | setLocation location =>
      rw [RoomBuilder.call] at hcall
      split at hcall
      · cases hcall
        exact ⟨⟨h.object, h.pointsInto, h.built, h.others⟩,
          iff_of_true rfl fun op hop => by cases hop⟩
      · cases hcall
  | addLink linkId | addStaticDevice uuid | addDynamicDevice uuid =>
      obtain ⟨w', hop, rfl⟩ := Option.map_eq_some_iff.mp hcall
      have hrooms : w'.rooms = s.world.rooms := by
        obtain ⟨set, -, rfl⟩ := Option.map_eq_some_iff.mp hop
        rfl
      obtain ⟨hholds, hiff⟩ := h.after_op hop (congrArg (·[first]?) hrooms)
      refine ⟨⟨hholds.object, hholds.pointsInto, h.built, h.others⟩, hiff.trans ?_⟩
      simp [BuilderEvent.op]

/-- The builder holds another set from now on; the room keeps the one it has. -/
theorem Holds.hold {c : SetCall} (h : Holds first room s)
    (hstep : builderStep s (.hold c) = some t) :
    Holds first room t ∧
      (room.contents t.world = room.contents s.world ↔ LeavesRoom first s (.hold c)) := by
  rw [leavesRoom_iff h]
  obtain ⟨builder, -, rfl⟩ := Option.map_eq_some_iff.mp hstep
  exact ⟨⟨h.object, h.pointsInto, h.built, h.others⟩, iff_of_true rfl fun op hop => by cases hop⟩

/-- A further room is built. -/
theorem Holds.build (h : Holds first room s) (hstep : builderStep s .build = some t) :
    Holds first room t ∧
      (room.contents t.world = room.contents s.world ↔ LeavesRoom first s .build) := by
  rw [leavesRoom_iff h]
  obtain ⟨made, hmade, rfl⟩ := Option.map_eq_some_iff.mp hstep
  have hbuilt := build_spec hmade
  have hfirst : first < s.world.rooms.length := (List.getElem?_eq_some_iff.mp h.object).1
  have hlocations : s.world.locations <+: made.1.locations := ⟨_, hbuilt.locations.symm⟩
  have hlinks : s.world.linkSets <+: made.1.linkSets := ⟨_, hbuilt.linkSets.symm⟩
  have hdevices : s.world.deviceSets <+: made.1.deviceSets := ⟨_, hbuilt.deviceSets.symm⟩
  refine ⟨⟨?_, ?_, ?_, ?_⟩, iff_of_true ?_ fun op hop => by cases hop⟩
  · show (made.1.rooms ++ [made.2])[first]? = some room
    rw [hbuilt.rooms, List.getElem?_append_left hfirst, h.object]
  · exact h.pointsInto.mono hlocations.length_le hlinks.length_le hdevices.length_le
  · exact List.append_ne_nil_of_left_ne_nil h.built _
  · intro k index hk
    rw [List.getElem?_append] at hk
    split at hk
    · exact h.others k index hk
    · have hindex := List.mem_of_getElem? hk
      rw [List.mem_singleton] at hindex
      omega
  · exact contents_of_grown h.pointsInto hlocations hlinks hdevices

/-- Another room is changed. -/
theorem Holds.change {other : Nat} {c : RoomChange} (h : Holds first room s)
    (hstep : builderStep s (.change other c) = some t) :
    Holds first room t ∧
      (room.contents t.world = room.contents s.world ↔ LeavesRoom first s (.change other c)) := by
  rw [leavesRoom_iff h]
  simp only [builderStep, Option.bind_eq_bind, Option.bind_eq_some_iff] at hstep
  obtain ⟨index, hindex, r, hr, op, hop, w', hw', ht⟩ := hstep
  cases ht
  obtain ⟨hholds, hiff⟩ := h.after_op hw' (rooms_change hop hw' (h.others other index hindex))
  have hevent : (BuilderEvent.change other c).op s = some op := by
    simp only [BuilderEvent.op, hindex, hr, hop, Option.bind_eq_bind, Option.bind_some]
  refine ⟨hholds, hiff.trans ?_⟩
  rw [hevent]
  simp

/-- **One event.**  The room stays where it is, and it is the same after the event exactly when
the event leaves alone what the room points to. -/
theorem Holds.step {e : BuilderEvent} (h : Holds first room s) (hstep : builderStep s e = some t) :
    Holds first room t ∧
      (room.contents t.world = room.contents s.world ↔ LeavesRoom first s e) := by
  cases e with
  | call c => exact h.call hstep
  | hold c => exact h.hold hstep
  | build => exact h.build hstep
  | change other c => exact h.change hstep

/-- The room at the position has these contents. -/
def RoomIs (first : Nat) (contents : RoomContents) (s : BuilderWorld) : Prop :=
  ∃ room, s.world.rooms[first]? = some room ∧ room.contents s.world = contents

/-- **A whole run.** -/
theorem Holds.guarded_iff {later : List BuilderEvent} (h : Holds first room s)
    (hrun : run builderStep s later = some t) :
    Guarded builderStep (LeavesRoom first) s later ↔
      Throughout builderStep (RoomIs first (room.contents s.world)) s later := by
  have hpres : ∀ u e v, Holds first room u ∧ room.contents u.world = room.contents s.world →
      LeavesRoom first u e → builderStep u e = some v →
        Holds first room v ∧ room.contents v.world = room.contents s.world := by
    intro u e v hu hleaves hstep
    obtain ⟨hv, hiff⟩ := hu.1.step hstep
    exact ⟨hv, (hiff.mpr hleaves).trans hu.2⟩
  have hgood : ∀ u e v, Holds first room u ∧ room.contents u.world = room.contents s.world →
      builderStep u e = some v →
        (RoomIs first (room.contents s.world) v ↔ LeavesRoom first u e) := by
    intro u e v hu hstep
    obtain ⟨hv, hiff⟩ := hu.1.step hstep
    rw [← hiff, hu.2]
    constructor
    · rintro ⟨other, hother, hcontents⟩
      cases Option.some.inj (hother.symm.trans hv.object)
      exact hcontents
    · intro hcontents
      exact ⟨room, hv.object, hcontents⟩
  exact guarded_iff_throughout hpres hgood hrun ⟨h, rfl⟩ ⟨room, h.object, rfl⟩

end Events

/-! ## The builder agrees with the constructor -/

/-- The calls on a new builder, and then `build`. -/
def callsAndBuild (calls : List BuilderCall) : List BuilderEvent := calls.map .call ++ [.build]

/-- The room which is built is the one which is constructed, with any id, and changed by the
same calls; it can be written; and nothing that happens later changes it. -/
structure BuiltRight (w : RoomWorld) (calls : List BuilderCall) (later : List BuilderEvent)
    (s : BuilderWorld) (room : RoomObject) : Prop where
  built : run builderStep (.start w) (callsAndBuild calls) = some s
  object : s.world.rooms[w.rooms.length]? = some room
  direct : ∀ id, ∃ d, run directStep (RoomObject.constructAtOrigin w id) calls = some d ∧
    room.contents s.world = d.2.contents d.1
  written : ∃ json, room.toJson s.world = .ok json
  unchanged : Throughout builderStep (RoomIs w.rooms.length (room.contents s.world)) s later

section Agreement

variable {w : RoomWorld} {calls : List BuilderCall} {s : RoomWorld × RoomBuilder}

theorem run_callsAndBuild (h : run callStep (RoomBuilder.construct w) calls = some s) :
    run builderStep (.start w) (callsAndBuild calls) =
      (s.2.build s.1).map fun made => ⟨made.1.addRoom made.2, s.2, [s.1.rooms.length]⟩ := by
  have hcalls : run builderStep (.start w) (calls.map .call) = some ⟨s.1, s.2, []⟩ := by
    rw [BuilderWorld.start, run_calls, h, Option.map_some]
  rw [callsAndBuild, run_append hcalls, run, builderStep]
  cases s.2.build s.1 with
  | none => rfl
  | some made => rfl

/-- The room as it is right after `build`. -/
theorem Follows.holds {id : UInt32} {d made : RoomWorld × RoomObject} (h : Follows w id s d)
    (hmade : s.2.build s.1 = some made) :
    Holds w.rooms.length made.2 ⟨made.1.addRoom made.2, s.2, [s.1.rooms.length]⟩ := by
  have hbuilt := build_spec hmade
  refine ⟨?_, h.pointsInto hbuilt, List.cons_ne_nil _ _, fun k index hk => by simp at hk⟩
  show (made.1.rooms ++ [made.2])[w.rooms.length]? = some made.2
  rw [hbuilt.rooms, h.rooms]
  simp

end Agreement

/-- The builder does what the constructor does if and only if the calls give it an id, both
states and a location, and everything that happens later leaves alone what the room points
to. -/
theorem builtRight_iff (w : RoomWorld) (calls : List BuilderCall) (later : List BuilderEvent)
    (hcalls : ∀ c ∈ calls, c.Valid w)
    (hlater : ∀ s, run builderStep (.start w) (callsAndBuild calls) = some s →
      ∃ t, run builderStep s later = some t) :
    (∃ s room, BuiltRight w calls later s room) ↔
      Complete calls ∧ ∀ s, run builderStep (.start w) (callsAndBuild calls) = some s →
        Guarded builderStep (LeavesRoom w.rooms.length) s later := by
  -- the builder does not depend on the id of the other room
  obtain ⟨s, d, hs, hd, hfollows⟩ := (follows_construct w 0).run hcalls
  rw [run_callsAndBuild hs] at hlater ⊢
  constructor
  · rintro ⟨t, room, h⟩
    have hbuilt := h.built
    rw [run_callsAndBuild hs] at hbuilt
    obtain ⟨made, hmade, rfl⟩ := Option.map_eq_some_iff.mp hbuilt
    have hholds := hfollows.holds hmade
    cases Option.some.inj (h.object.symm.trans hholds.object)
    obtain ⟨hid, halert, halive⟩ := (build_isSome_iff s.1 s.2).mp ⟨made, hmade⟩
    have hlocation := (toJson_isOk_iff hholds.pointsInto).mp h.written
    rw [(build_spec hmade).location, location_eq_last hs] at hlocation
    refine ⟨⟨(id_given_iff hs).mp hid, (alertState_given_iff hs).mp halert,
      (aliveState_given_iff hs).mp halive, hlocation⟩, fun u hu => ?_⟩
    cases Option.some.inj (hbuilt.symm.trans hu)
    obtain ⟨t, ht⟩ := hlater _ hu
    exact (hholds.guarded_iff ht).mpr h.unchanged
  · rintro ⟨hcomplete, hguarded⟩
    have hlocation : s.2.location ≠ none := by
      rw [location_eq_last hs]
      exact hcomplete.location
    obtain ⟨made, hmade⟩ := (build_isSome_iff s.1 s.2).mpr
      ⟨(id_given_iff hs).mpr hcomplete.id, (alertState_given_iff hs).mpr hcomplete.alertState,
        (aliveState_given_iff hs).mpr hcomplete.aliveState⟩
    have hbuilt := build_spec hmade
    have hholds := hfollows.holds hmade
    have hrun := run_callsAndBuild hs
    rw [hmade, Option.map_some] at hrun hguarded hlater
    obtain ⟨t, ht⟩ := hlater _ rfl
    refine ⟨_, made.2, hrun, hholds.object, fun id => ?_, ?_,
      (hholds.guarded_iff ht).mp (hguarded _ rfl)⟩
    · obtain ⟨s', d, hs', hd, hfollows'⟩ := (follows_construct w id).run hcalls
      cases Option.some.inj (hs.symm.trans hs')
      exact ⟨d, hd, hfollows'.contents_eq hbuilt hlocation⟩
    · rw [toJson_isOk_iff hholds.pointsInto, hbuilt.location]
      exact hlocation

/-- A place for a room, and a set of links. -/
def hallWorld : RoomWorld := ⟨[⟨7, 5, -5, by decide⟩], [∅], [], []⟩

/-- Calls which give everything. -/
def hallCalls : List BuilderCall :=
  [.setId 1, .setLocation (some 0), .setAlertState true, .setAliveState false, .addLink 2]

theorem hallCalls_valid : ∀ c ∈ hallCalls, c.Valid hallWorld := by
  simp [hallCalls, BuilderCall.Valid, hallWorld]

theorem hallCalls_complete : Complete hallCalls := by
  constructor <;> simp [hallCalls, lastLocation]

/-- Another room is built and changed, a link is added which is there already, and one more
after the builder has been given the other set. -/
theorem builtRight_iff_hall :
    ∃ s room, BuiltRight hallWorld hallCalls
      [.build, .change 0 (.setAlertState false), .call (.addLink 2), .hold (.setLinks 0),
        .call (.addLink 3)] s room := by
  refine (builtRight_iff hallWorld hallCalls _ hallCalls_valid fun s hs => ?_).mpr
    ⟨hallCalls_complete, fun s hs => ?_⟩
  · cases hs
    exact ⟨_, rfl⟩
  · cases hs
    refine ⟨fun room hroom op hop => (by cases hop), fun t ht => ?_⟩
    cases ht
    refine ⟨fun room hroom op hop => ?_, fun t ht => ?_⟩
    · cases hop
      trivial
    cases ht
    refine ⟨fun room hroom op hop => ?_, fun t ht => ?_⟩
    · cases hop
      intro hsame set hset
      cases hset
      exact Std.ExtTreeSet.mem_insert_self
    cases ht
    refine ⟨fun room hroom op hop => (by cases hop), fun t ht => ?_⟩
    cases ht
    refine ⟨fun room hroom op hop => ?_, fun t ht => trivial⟩
    -- the set is not the one of the room any more
    cases hop
    cases hroom
    exact fun hsame => absurd hsame (by decide)

/-- A link is added to the builder after `build`. -/
theorem not_builtRight_hall :
    ¬∀ (w : RoomWorld) (calls : List BuilderCall) (later : List BuilderEvent),
      (∀ c ∈ calls, c.Valid w) →
      (∀ s, run builderStep (.start w) (callsAndBuild calls) = some s →
        ∃ t, run builderStep s later = some t) →
      ∃ s room, BuiltRight w calls later s room := by
  intro h
  obtain ⟨s, room, hright⟩ := h hallWorld hallCalls [.call (.addLink 3)] hallCalls_valid
    fun s hs => by
      cases hs
      exact ⟨_, rfl⟩
  have hbuilt := hright.built
  cases hbuilt
  have hobject := hright.object
  cases hobject
  obtain ⟨after, hafter, hcontents⟩ := hright.unchanged _ List.prefix_rfl _ rfl
  cases hafter
  have hlinks : ((∅ : MySet UInt32).add 2).add 3 = (∅ : MySet UInt32).add 2 :=
    Option.some.inj (congrArg RoomContents.links hcontents)
  have hnew : (3 : UInt32) ∈ (∅ : MySet UInt32).add 2 := by
    rw [← hlinks]
    exact Std.ExtTreeSet.mem_insert_self
  revert hnew
  decide

end DevMgmt
end FireEvacuation
