import FireEvacuation.DevMgmt.Device
import FireEvacuation.DevMgmt.JsonAccuracy
import FireEvacuation.DevMgmt.Room

/-!
# What the parsers of the model accept

A parser is accurate on a value when it rejects the value, or gives something whose JSON
the value shows; and the value of the caller is what it was before.  `Device::parse` works
on a copy, `Location::parse` and `Room::parse` on the value itself.

None of them is accurate everywhere.  A flag which is missing counts as set, a number is
reduced to 32 bits, `lk`, `sd` and `dd` need not be arrays, and the two parsers which take a
reference leave a null member wherever they looked for one.  The conditions say what has to
be asked of a value, in the order in which the members are read.
-/

namespace FireEvacuation
namespace DevMgmt

open FireEvacuation.Core FireEvacuation.Core.Effect Platform Json

/-! ## Accuracy -/

/-- A device which is parsed from a copy of the value is shown by it. -/
def DeviceAccurate (json : Json) : Prop :=
  Accepts (fun parsed => ∀ device, parsed = some device → Shows "" device.toJson json)
    (Device.parse json)

/-- A location which is parsed is shown by the value, and the value is not changed. -/
def LocationAccurate (json : Json) : Prop :=
  Keeps (fun location => Shows "" location.toJson json) Location.parse json

/-- A room which is parsed is shown by the value, and the value is not changed. -/
def RoomAccurate (json : Json) : Prop :=
  Keeps (fun room => Shows "" room.toJson json) Room.parse json

/-! ## The conditions -/

/-- The elements are converted one after the other. -/
def ReadsUInt32s : List Json → Prop → Prop
  | [], rest => rest
  | element :: elements, rest => ReadsUInt32 element (ReadsUInt32s elements rest)

/-- An element which is no text is rejected. -/
def ReadsStrings (elements : List Json) (rest : Prop) : Prop :=
  (∀ element ∈ elements, ∃ text, element = .string text) → rest

def IsArray (json : Json) : Prop := ∃ elements, json = .array elements

/-- An array of integers of the range. -/
def ExactSet (json : Json) : Prop :=
  ∃ elements, json = .array elements ∧ ∀ element ∈ elements, element.ExactUInt32

/-- The members of a location, in place; a level of 0 is thrown. -/
def ReadsLocation (json : Json) (rest : Json → Json → Json → Prop) : Prop :=
  Present "lv" json fun level => ReadsInt32 level <|
    Present "x" json fun x => ReadsInt32 x <|
      Present "y" json fun y => ReadsInt32 y <|
        level.getInt32 ≠ .ok 0 → rest level x y

def LocationCondition (json : Json) : Prop :=
  ReadsLocation json fun level x y => level.ExactInt32 ∧ x.ExactInt32 ∧ y.ExactInt32

def RoomCondition (json : Json) : Prop :=
  Present "id" json fun id => ReadsUInt32 id <|
    Present "lc" json fun location => ReadsLocation location fun level x y =>
      Present "ar" json fun alert => Present "al" json fun alive =>
        Present "lk" json fun links => ReadsUInt32s links.elements <|
          Present "sd" json fun statics => ReadsStrings statics.elements <|
            Present "dd" json fun dynamics => ReadsStrings dynamics.elements <|
              id.ExactUInt32 ∧ (level.ExactInt32 ∧ x.ExactInt32 ∧ y.ExactInt32) ∧
                alert.number.isSome ∧ alive.number.isSome ∧
                  ExactSet links ∧ IsArray statics ∧ IsArray dynamics

/-- A flag which is a number. -/
def FlagIsNumber (key : String) (members : List (String × Json)) : Prop :=
  ∃ flag, lookup key members = some flag ∧ flag.number.isSome

/-- Classes 1 and 2 have a sensor. -/
def ReadsSensor (members : List (String × Json)) (classId : Json) : Prop :=
  classId.getUInt32 = .ok 1 ∨ classId.getUInt32 = .ok 2 →
    (∃ text, lookup "st" members = some (.string text)) ∧
      ∃ text, lookup "sv" members = some (.string text)

/-- A class there is. -/
def KnownClass (classId : Json) : Prop :=
  classId.getUInt32 = .ok 1 ∨ classId.getUInt32 = .ok 2 ∨ classId.getUInt32 = .ok 3

/-- The members of a device class which is an object with a number. -/
def ReadsClass (json : Json) (rest : List (String × Json) → Json → Prop) : Prop :=
  ∀ members classId, json = .object members → lookup "ci" members = some classId →
    ReadsUInt32 classId (ReadsSensor members classId → rest members classId)

def DeviceCondition (json : Json) : Prop :=
  ∀ members, json = .object members →
    lookup "dt" members = some (.string "s") ∨ lookup "dt" members = some (.string "d") →
      (∃ uuid, lookup "id" members = some (.string uuid)) →
        ∀ deviceClass, lookup "cl" members = some deviceClass →
          ReadsClass deviceClass fun classMembers classId =>
            (∃ mac, lookup "bm" members = some (.string mac)) →
              ∀ roomId, lookup "rm" members = some roomId →
                ReadsUInt32 roomId (KnownClass classId →
                  classId.ExactUInt32 ∧ FlagIsNumber "ar" classMembers ∧
                    FlagIsNumber "al" classMembers ∧ roomId.ExactUInt32)

/-! ## Locations -/

section Location

theorem shows_member_iff {key : String} {members : List (String × Json)}
    {expected value : Json} (h : lookup key members = some value) :
    (∃ v, lookup key members = some v ∧ Shows key expected v) ↔ Shows key expected value := by
  rw [h]
  simp

theorem shows_ofInt32_iff {key : String} (hkey : keyKind key = .plain) {json : Json}
    {n : Int32} (h : json.getInt32 = .ok n) :
    Shows key (ofInt32 n) json ↔ json.ExactInt32 :=
  (shows_number_iff hkey (number_ofInt32 n)).trans (number_eq_getInt32 h)

theorem shows_ofUInt32_iff {key : String} (hkey : keyKind key = .plain) {json : Json}
    {n : UInt32} (h : json.getUInt32 = .ok n) :
    Shows key (ofUInt32 n) json ↔ json.ExactUInt32 :=
  (shows_number_iff hkey (number_ofUInt32 n)).trans (number_eq_getUInt32 h)

/-- Where the members of a location came from. -/
structure LocationRead (json level x y : Json) (location : Location) : Prop where
  object : ∃ members, json = .object members ∧ lookup "lv" members = some level ∧
    lookup "x" members = some x ∧ lookup "y" members = some y
  level : level.getInt32 = .ok location.level
  x : x.getInt32 = .ok location.x
  y : y.getInt32 = .ok location.y

theorem LocationRead.shows_iff {key : String} (hkey : keyKind key = .plain)
    {json level x y : Json} {location : Location} (h : LocationRead json level x y location) :
    Shows key location.toJson json ↔ level.ExactInt32 ∧ x.ExactInt32 ∧ y.ExactInt32 := by
  rcases h.object with ⟨members, rfl, hlevel, hx, hy⟩
  unfold Location.toJson Location.getJsonKey
  rw [shows_object_iff hkey]
  simp only [Json.object.injEq, exists_eq_left', List.forall_mem_cons, List.not_mem_nil,
    false_imp_iff, implies_true, and_true]
  rw [shows_member_iff hlevel, shows_member_iff hx, shows_member_iff hy,
    shows_ofInt32_iff rfl h.level, shows_ofInt32_iff rfl h.x, shows_ofInt32_iff rfl h.y]

theorem grows_location : Grows Location.parse :=
  (grows_read _ _).bind fun _ => (grows_read _ _).bind fun _ => (grows_read _ _).bind fun _ =>
    grows_runExcept fun _ => _

/-- Reading a location in place. -/
theorem keeps_location {post : Location → Prop} {json : Json}
    {rest : Json → Json → Json → Prop}
    (h : ∀ level x y location, LocationRead json level x y location →
      (post location ↔ rest level x y)) :
    Keeps post Location.parse json ↔ ReadsLocation json rest := by
  unfold Location.parse ReadsLocation
  rw [keeps_bind (grows_read _ _) fun _ => (grows_read _ _).bind fun _ =>
    (grows_read _ _).bind fun _ => grows_runExcept fun _ => _, keeps_read]
  refine present_congr fun level members hjson hlevel => accepts_getInt32 fun l hl => ?_
  rw [keeps_bind (grows_read _ _) fun _ => (grows_read _ _).bind fun _ =>
    grows_runExcept fun _ => _, keeps_read]
  refine present_congr fun x members' hjson' hx => accepts_getInt32 fun i hi => ?_
  rw [keeps_bind (grows_read _ _) fun _ => grows_runExcept fun _ => _, keeps_read]
  refine present_congr fun y members'' hjson'' hy => accepts_getInt32 fun j hj => ?_
  rw [keeps_runExcept]
  subst hjson
  cases hjson'
  cases hjson''
  unfold Location.make
  split
  · rename_i hzero
    rw [hl, hzero]
    exact iff_of_true trivial fun hne => absurd rfl hne
  · rename_i hne
    have hlevel_ne : level.getInt32 ≠ .ok 0 := by
      rw [hl]
      simpa using hne
    have hread : LocationRead (.object members) level x y ⟨l, i, j, hne⟩ :=
      ⟨⟨members, rfl, hlevel, hx, hy⟩, hl, hi, hj⟩
    exact (h level x y _ hread).trans ⟨fun hrest _ => hrest, fun hrest => hrest hlevel_ne⟩

theorem locationAccurate_iff (json : Json) : LocationAccurate json ↔ LocationCondition json :=
  keeps_location fun _ _ _ _ hread => hread.shows_iff rfl

end Location

/-! ## Rooms -/

section Room

variable {α : Type} [Ord α] [Std.TransOrd α] [Std.LawfulEqOrd α]

/-- The set is made of what the elements are converted to. -/
structure ElementsRead (convert : Json → JsonM α) (elements : List Json) (before after : MySet α) :
    Prop where
  converted : ∀ element ∈ elements, ∃ value, convert element = .ok value
  mem_iff : ∀ value, value ∈ after ↔
    value ∈ before ∨ ∃ element ∈ elements, convert element = .ok value

omit [Std.LawfulEqOrd α] in
theorem elementsRead_nil (convert : Json → JsonM α) (set : MySet α) :
    ElementsRead convert [] set set := ⟨by simp, by simp⟩

theorem ElementsRead.cons {convert : Json → JsonM α} {element : Json} {elements : List Json}
    {value : α} {before after : MySet α} (hvalue : convert element = .ok value)
    (h : ElementsRead convert elements (before.add value) after) :
    ElementsRead convert (element :: elements) before after := by
  refine ⟨fun e he => ?_, fun v => ?_⟩
  · rcases List.mem_cons.mp he with rfl | htail
    · exact ⟨value, hvalue⟩
    · exact h.converted e htail
  · rw [h.mem_iff]
    unfold MySet.add
    rw [Std.ExtTreeSet.mem_insert, Std.LawfulEqCmp.compare_eq_iff_eq]
    simp only [List.mem_cons, exists_eq_or_imp, hvalue, Except.ok.injEq]
    tauto

theorem accepts_addAll_uint32 {post : MySet UInt32 → Prop} {rest : Prop}
    {elements : List Json} {before : MySet UInt32}
    (h : ∀ after, ElementsRead Json.getUInt32 elements before after → (post after ↔ rest)) :
    Accepts post (MySet.addAll Json.getUInt32 elements before) ↔ ReadsUInt32s elements rest := by
  -- for any set to start with, since each element goes into the set of those before it
  induction elements generalizing before with
  | nil => exact h before (elementsRead_nil _ _)
  | cons element elements ih =>
      unfold MySet.addAll ReadsUInt32s
      rw [accepts_bind]
      exact accepts_getUInt32 fun n hn => ih fun after hread => h after (hread.cons hn)

theorem accepts_addAll_string {post : MySet String → Prop} {rest : Prop}
    {elements : List Json} {before : MySet String}
    (h : ∀ after, ElementsRead Json.getString elements before after → (post after ↔ rest)) :
    Accepts post (MySet.addAll Json.getString elements before) ↔ ReadsStrings elements rest := by
  induction elements generalizing before with
  | nil =>
      unfold ReadsStrings
      simp only [List.not_mem_nil, false_imp_iff, implies_true, true_imp_iff]
      exact h before (elementsRead_nil _ _)
  | cons element elements ih =>
      unfold MySet.addAll
      rw [accepts_bind, accepts_getString]
      unfold ReadsStrings at ih ⊢
      constructor
      · intro hpost hall
        rcases hall element List.mem_cons_self with ⟨text, rfl⟩
        have htail := (ih fun after hread => h after (hread.cons rfl)).mp (hpost text rfl)
        exact htail fun e he => hall e (List.mem_cons_of_mem _ he)
      · rintro hrest text rfl
        refine (ih fun after hread => h after (hread.cons rfl)).mpr fun hall => hrest ?_
        intro e he
        rcases List.mem_cons.mp he with rfl | htail
        · exact ⟨text, rfl⟩
        · exact hall e htail

/-- A set of ids shows in an array of exact numbers only. -/
theorem shows_links_iff {key : String} (hkey : keyKind key = .set) {json : Json}
    {set : MySet UInt32} (h : ElementsRead Json.getUInt32 json.elements ∅ set) :
    Shows key (set.toJson ofUInt32) json ↔ ExactSet json := by
  unfold MySet.toJson
  rw [shows_set_iff hkey]
  refine exists_congr fun others => and_congr_right fun hjson => ?_
  subst hjson
  have hmem : ∀ n, n ∈ set ↔ ∃ element ∈ others, element.getUInt32 = .ok n := by
    intro n
    rw [h.mem_iff]
    simp [Json.elements]
  constructor
  · rintro ⟨-, hshown⟩ element helement
    rcases h.converted element helement with ⟨n, hn⟩
    rcases hshown element helement with ⟨e, he, hsame⟩
    rcases List.mem_map.mp he with ⟨m, -, rfl⟩
    rcases hsame with ⟨q, hq, hnumber⟩ | ⟨text, htext, -⟩
    · rw [number_ofUInt32] at hq
      cases hq
      have hlt : m.toNat < 4294967296 := m.toNat_lt
      exact ⟨m.toNat, by omega, by omega, hnumber⟩
    · cases htext
  · intro hexact
    -- an exact element is the number it is converted to
    have hsame : ∀ element ∈ others, ∀ n, element.getUInt32 = .ok n →
        SameScalar (ofUInt32 n) element := by
      intro element helement n hn
      have hnumber := (number_eq_getUInt32 hn).mpr (hexact element helement)
      rw [number_ofUInt32] at hnumber
      exact .inl ⟨_, number_ofUInt32 n, hnumber⟩
    refine ⟨fun e he => ?_, fun a ha => ?_⟩
    · rcases List.mem_map.mp he with ⟨n, hn, rfl⟩
      rcases (hmem n).mp (Std.ExtTreeSet.mem_toList.mp hn) with ⟨element, helement, hok⟩
      exact ⟨element, helement, hsame element helement n hok⟩
    · rcases h.converted a ha with ⟨n, hn⟩
      refine ⟨ofUInt32 n, List.mem_map.mpr ⟨n, ?_, rfl⟩, hsame a ha n hn⟩
      exact Std.ExtTreeSet.mem_toList.mpr ((hmem n).mpr ⟨a, ha, hn⟩)

/-- A set of texts shows in an array. -/
theorem shows_devices_iff {key : String} (hkey : keyKind key = .set) {json : Json}
    {set : MySet String} (h : ElementsRead Json.getString json.elements ∅ set) :
    Shows key (set.toJson Json.string) json ↔ IsArray json := by
  unfold MySet.toJson
  rw [shows_set_iff hkey]
  refine exists_congr fun others => ⟨fun hshows => hshows.1, fun hjson => ⟨hjson, ?_⟩⟩
  subst hjson
  have hmem : ∀ text, text ∈ set ↔ Json.string text ∈ others := by
    intro text
    rw [h.mem_iff]
    simp [Json.elements, Json.getString_eq_ok_iff]
  refine ⟨fun e he => ?_, fun a ha => ?_⟩
  · rcases List.mem_map.mp he with ⟨text, htext, rfl⟩
    exact ⟨.string text, (hmem text).mp (Std.ExtTreeSet.mem_toList.mp htext),
      .inr ⟨text, rfl, rfl⟩⟩
  · rcases h.converted a ha with ⟨text, htext⟩
    rw [Json.getString_eq_ok_iff] at htext
    subst htext
    exact ⟨.string text, List.mem_map.mpr ⟨text, Std.ExtTreeSet.mem_toList.mpr
      ((hmem text).mpr ha), rfl⟩, .inr ⟨text, rfl, rfl⟩⟩

theorem grows_flag (key : String) : Grows (Room.readFlag key) := grows_read _ _

theorem keeps_flag {post : Bool → Prop} {key : String} {json : Json} :
    Keeps post (Room.readFlag key) json ↔ Present key json fun value => post value.notZero :=
  keeps_read

/-- Where the members of a room came from. -/
structure RoomRead (json id location level x y alert alive links statics dynamics : Json)
    (room : Room) : Prop where
  object : ∃ members, json = .object members ∧ lookup "id" members = some id ∧
    lookup "lc" members = some location ∧ lookup "ar" members = some alert ∧
      lookup "al" members = some alive ∧ lookup "lk" members = some links ∧
        lookup "sd" members = some statics ∧ lookup "dd" members = some dynamics
  id : id.getUInt32 = .ok room.id
  location : LocationRead location level x y room.location
  alertState : room.alertState = alert.notZero
  aliveState : room.aliveState = alive.notZero
  links : ElementsRead Json.getUInt32 links.elements ∅ room.links
  staticDevices : ElementsRead Json.getString statics.elements ∅ room.staticDevices
  dynamicDevices : ElementsRead Json.getString dynamics.elements ∅ room.dynamicDevices

theorem RoomRead.shows_iff
    {json id location level x y alert alive links statics dynamics : Json} {room : Room}
    (h : RoomRead json id location level x y alert alive links statics dynamics room) :
    Shows "" room.toJson json ↔
      id.ExactUInt32 ∧ (level.ExactInt32 ∧ x.ExactInt32 ∧ y.ExactInt32) ∧
        alert.number.isSome ∧ alive.number.isSome ∧
          ExactSet links ∧ IsArray statics ∧ IsArray dynamics := by
  rcases h.object with ⟨members, rfl, hid, hlocation, halert, halive, hlinks, hstatics,
    hdynamics⟩
  unfold Room.toJson Room.getJsonKey
  rw [shows_object_iff rfl, h.alertState, h.aliveState]
  simp only [Json.object.injEq, exists_eq_left', List.forall_mem_cons, List.not_mem_nil,
    false_imp_iff, implies_true, and_true]
  rw [shows_member_iff hid, shows_member_iff hlocation, shows_member_iff halert,
    shows_member_iff halive, shows_member_iff hlinks, shows_member_iff hstatics,
    shows_member_iff hdynamics, shows_ofUInt32_iff rfl h.id, h.location.shows_iff rfl,
    shows_notZero_iff rfl, shows_notZero_iff rfl, shows_links_iff rfl h.links,
    shows_devices_iff rfl h.staticDevices, shows_devices_iff rfl h.dynamicDevices]

/-- Reading a room in place. -/
theorem keeps_room {post : Room → Prop} {json : Json}
    {rest : Json → Json → Json → Json → Json → Json → Json → Json → Json → Prop}
    (h : ∀ id location level x y alert alive links statics dynamics room,
      RoomRead json id location level x y alert alive links statics dynamics room →
        (post room ↔ rest id level x y alert alive links statics dynamics)) :
    Keeps post Room.parse json ↔
      Present "id" json fun id => ReadsUInt32 id <|
        Present "lc" json fun location => ReadsLocation location fun level x y =>
          Present "ar" json fun alert => Present "al" json fun alive =>
            Present "lk" json fun links => ReadsUInt32s links.elements <|
              Present "sd" json fun statics => ReadsStrings statics.elements <|
                Present "dd" json fun dynamics => ReadsStrings dynamics.elements <|
                  rest id level x y alert alive links statics dynamics := by
  -- what is left to be read only adds members
  have hgrowsDynamics : ∀ (room : MySet String → Room), Grows (Json.read "dd"
      (MySet.parse Json.getString) >>= fun dynamics => pure (room dynamics)) :=
    fun _ => (grows_read _ _).bind fun _ => grows_pure _
  have hgrowsStatics : ∀ (room : MySet String → MySet String → Room), Grows (Json.read "sd"
      (MySet.parse Json.getString) >>= fun statics => Json.read "dd"
        (MySet.parse Json.getString) >>= fun dynamics => pure (room statics dynamics)) :=
    fun _ => (grows_read _ _).bind fun _ => hgrowsDynamics _
  have hgrowsLinks : ∀ (room : MySet UInt32 → MySet String → MySet String → Room),
      Grows (Json.read "lk" (MySet.parse Json.getUInt32) >>= fun links => Json.read "sd"
        (MySet.parse Json.getString) >>= fun statics => Json.read "dd"
          (MySet.parse Json.getString) >>= fun dynamics =>
            pure (room links statics dynamics)) :=
    fun _ => (grows_read _ _).bind fun _ => hgrowsStatics _
  unfold Room.parse
  simp only [Room.getJsonKey]
  rw [keeps_bind (grows_read _ _) fun _ => (grows_location.onMember _).bind fun _ =>
    (grows_flag _).bind fun _ => (grows_flag _).bind fun _ => hgrowsLinks _, keeps_read]
  refine present_congr fun id members hjson hid => accepts_getUInt32 fun n hn => ?_
  subst hjson
  rw [keeps_bind (grows_location.onMember _) fun _ => (grows_flag _).bind fun _ =>
    (grows_flag _).bind fun _ => hgrowsLinks _, keeps_onMember]
  refine present_congr fun location members hjson hlocation => ?_
  cases hjson
  refine keeps_location fun level x y place hplace => ?_
  rw [keeps_bind (grows_flag _) fun _ => (grows_flag _).bind fun _ => hgrowsLinks _, keeps_flag]
  refine present_congr fun alert members hjson halert => ?_
  cases hjson
  rw [keeps_bind (grows_flag _) fun _ => hgrowsLinks _, keeps_flag]
  refine present_congr fun alive members hjson halive => ?_
  cases hjson
  rw [keeps_bind (grows_read _ _) fun _ => hgrowsStatics _, keeps_read]
  refine present_congr fun links members hjson hlinks => ?_
  cases hjson
  refine accepts_addAll_uint32 fun linkSet hlinkSet => ?_
  rw [keeps_bind (grows_read _ _) fun _ => hgrowsDynamics _, keeps_read]
  refine present_congr fun statics members hjson hstatics => ?_
  cases hjson
  refine accepts_addAll_string fun staticSet hstaticSet => ?_
  rw [keeps_bind (grows_read _ _) fun _ => grows_pure _, keeps_read]
  refine present_congr fun dynamics members hjson hdynamics => ?_
  cases hjson
  refine accepts_addAll_string fun dynamicSet hdynamicSet => ?_
  rw [keeps_pure]
  exact h id location level x y alert alive links statics dynamics _
    ⟨⟨_, rfl, hid, hlocation, halert, halive, hlinks, hstatics, hdynamics⟩, hn, hplace, rfl, rfl,
      hlinkSet, hstaticSet, hdynamicSet⟩

theorem roomAccurate_iff (json : Json) : RoomAccurate json ↔ RoomCondition json :=
  keeps_room fun _ _ _ _ _ _ _ _ _ _ _ hread => hread.shows_iff

end Room

/-! ## Devices -/

section Device

/-- A missing member is read as null. -/
theorem member_eq_getD (key : String) (members : List (String × Json)) :
    Json.member key members = (lookup key members).getD .null := by
  induction members with
  | nil => rfl
  | cons member rest ih =>
      rcases member with ⟨name, value⟩
      unfold Json.member lookup
      split
      · rfl
      · exact ih

/-- The constant `operator[]` of an object always gives something. -/
theorem accepts_index_object {post : Json → Prop} {members : List (String × Json)}
    {key : String} :
    Accepts post (Json.index (.object members) key) ↔ post (Json.member key members) :=
  Iff.rfl

/-- A read which rejects null is about the members which are there. -/
theorem forall_lookup_iff {key : String} {members : List (String × Json)} {P : Json → Prop}
    (hnull : P .null) :
    P (Json.member key members) ↔ ∀ value, lookup key members = some value → P value := by
  rw [member_eq_getD]
  cases lookup key members with
  | none => simp [hnull]
  | some value => simp

/-- A text which is read is there. -/
theorem accepts_member_text {post : String → Prop} {key : String}
    {members : List (String × Json)} :
    Accepts post (Json.member key members).getString ↔
      ∀ text, lookup key members = some (.string text) → post text := by
  rw [forall_lookup_iff (P := fun value => Accepts post value.getString) trivial]
  constructor
  · intro h text hlookup
    exact accepts_getString.mp (h _ hlookup) text rfl
  · intro h value hlookup
    refine accepts_getString.mpr fun text htext => h text ?_
    rw [hlookup, htext]

/-- What a class is parsed to, given its members and its number. -/
inductive ClassRead (members : List (String × Json)) (classId : Json) :
    Option DeviceClass → Prop
  | unknown (hunknown : ¬KnownClass classId) : ClassRead members classId none
  | class1 {sensorType sensorValue : String} (hclassId : classId.getUInt32 = .ok 1)
      (htype : lookup "st" members = some (.string sensorType))
      (hvalue : lookup "sv" members = some (.string sensorValue)) :
      ClassRead members classId (some (.class1 (Json.member "ar" members).notZero
        (Json.member "al" members).notZero sensorType sensorValue))
  | class2 {sensorType sensorValue : String} (hclassId : classId.getUInt32 = .ok 2)
      (htype : lookup "st" members = some (.string sensorType))
      (hvalue : lookup "sv" members = some (.string sensorValue)) :
      ClassRead members classId (some (.class2 (Json.member "ar" members).notZero
        (Json.member "al" members).notZero sensorType sensorValue))
  | class3 (hclassId : classId.getUInt32 = .ok 3) :
      ClassRead members classId (some (.class3 (Json.member "ar" members).notZero
        (Json.member "al" members).notZero))

theorem accepts_sensorClass {post : DeviceClass → Prop}
    {make : Bool → Bool → String → String → DeviceClass} {members : List (String × Json)} :
    Accepts post (DeviceClass.parseSensorClass make (.object members)) ↔
      ∀ sensorType sensorValue, lookup "st" members = some (.string sensorType) →
        lookup "sv" members = some (.string sensorValue) →
          post (make (Json.member "ar" members).notZero (Json.member "al" members).notZero
            sensorType sensorValue) := by
  unfold DeviceClass.parseSensorClass
  simp only [accepts_bind, DeviceClass.getJsonKey]
  rw [accepts_index_object, accepts_index_object, accepts_index_object, accepts_member_text]
  refine forall_congr' fun sensorType => ?_
  rw [accepts_index_object, accepts_member_text]
  exact ⟨fun h sensorValue htype => h htype sensorValue, fun h htype sensorValue =>
    h sensorValue htype⟩

/-- A class with a sensor needs its two texts. -/
theorem sensor_iff {members : List (String × Json)} {classId : Json} {rest : Prop}
    {post : String → String → Prop}
    (hclass : classId.getUInt32 = .ok 1 ∨ classId.getUInt32 = .ok 2)
    (h : ∀ sensorType sensorValue, lookup "st" members = some (.string sensorType) →
      lookup "sv" members = some (.string sensorValue) →
        (post sensorType sensorValue ↔ rest)) :
    (∀ sensorType sensorValue, lookup "st" members = some (.string sensorType) →
      lookup "sv" members = some (.string sensorValue) → post sensorType sensorValue) ↔
      (ReadsSensor members classId → rest) := by
  constructor
  · intro hall hsensor
    rcases hsensor hclass with ⟨⟨sensorType, htype⟩, sensorValue, hvalue⟩
    exact (h _ _ htype hvalue).mp (hall _ _ htype hvalue)
  · intro hrest sensorType sensorValue htype hvalue
    exact (h _ _ htype hvalue).mpr (hrest fun _ => ⟨⟨_, htype⟩, _, hvalue⟩)

/-- The number of a class is read from an object which has one. -/
theorem accepts_classId {post : UInt32 → Prop} {json : Json} :
    Accepts (fun value => Accepts post value.getUInt32) (json.index "ci") ↔
      ∀ members classId, json = .object members → lookup "ci" members = some classId →
        Accepts post classId.getUInt32 := by
  cases json with
  | object members =>
      rw [accepts_index_object,
        forall_lookup_iff (P := fun value => Accepts post value.getUInt32) trivial]
      refine ⟨fun h members' classId hjson => ?_, fun h classId => h members classId rfl⟩
      cases hjson
      exact h classId
  | null | boolean _ | integer _ | unsigned _ | float _ | string _ | array _ =>
      exact iff_of_true trivial fun _ _ hjson => nomatch hjson

theorem accepts_class {post : Option DeviceClass → Prop} {json : Json}
    {rest : List (String × Json) → Json → Prop}
    (h : ∀ members classId parsed, json = .object members →
      lookup "ci" members = some classId → ClassRead members classId parsed →
        (post parsed ↔ rest members classId)) :
    Accepts post (DeviceClass.parse json) ↔ ReadsClass json rest := by
  unfold DeviceClass.parse ReadsClass
  simp only [accepts_bind]
  refine accepts_classId.trans ?_
  refine forall_congr' fun members => forall_congr' fun classId => forall_congr' fun hjson =>
    forall_congr' fun hlookup => accepts_getUInt32 fun n hn => ?_
  subst hjson
  split
  · rename_i hone
    rw [hone] at hn
    rw [accepts_map]
    refine accepts_sensorClass.trans (sensor_iff (.inl hn) fun _ _ htype hvalue => ?_)
    exact h members classId _ rfl hlookup (.class1 hn htype hvalue)
  · rename_i hone
    split
    · rename_i htwo
      rw [htwo] at hn
      rw [accepts_map]
      refine accepts_sensorClass.trans (sensor_iff (.inr hn) fun _ _ htype hvalue => ?_)
      exact h members classId _ rfl hlookup (.class2 hn htype hvalue)
    · rename_i htwo
      -- the classes without a sensor read nothing else
      have hsensor : ReadsSensor members classId := by
        rintro (h1 | h2)
        · rw [hn] at h1
          exact absurd (Except.ok.inj h1) hone
        · rw [hn] at h2
          exact absurd (Except.ok.inj h2) htwo
      have hdrop : (ReadsSensor members classId → rest members classId) ↔
          rest members classId := ⟨fun hrest => hrest hsensor, fun hrest _ => hrest⟩
      rw [hdrop]
      split
      · rename_i hthree
        rw [hthree] at hn
        exact h members classId _ rfl hlookup (.class3 hn)
      · rename_i hthree
        refine h members classId _ rfl hlookup (.unknown ?_)
        rintro (h1 | h2 | h3)
        · rw [hn] at h1
          exact hone (Except.ok.inj h1)
        · rw [hn] at h2
          exact htwo (Except.ok.inj h2)
        · rw [hn] at h3
          exact hthree (Except.ok.inj h3)

/-- A flag shows in a number which is there. -/
theorem shows_flag_member_iff {key : String} (hkey : keyKind key = .flag)
    {members : List (String × Json)} :
    (∃ value, lookup key members = some value ∧
      Shows key (ofBool (Json.member key members).notZero) value) ↔
      FlagIsNumber key members := by
  refine exists_congr fun value => and_congr_right fun hlookup => ?_
  rw [member_eq_getD, hlookup]
  exact shows_notZero_iff hkey

/-- Only what was not put into the class as it is has to be asked of the value. -/
theorem shows_class_iff {members : List (String × Json)} {classId : Json}
    {deviceClass : DeviceClass} (hlookup : lookup "ci" members = some classId)
    (hclassId : classId.getUInt32 = .ok deviceClass.getClassId)
    (halert : deviceClass.getAlertState = (Json.member "ar" members).notZero)
    (halive : deviceClass.getAliveState = (Json.member "al" members).notZero)
    (hsensor : ∀ sensorType sensorValue,
      deviceClass.getSensor = some (sensorType, sensorValue) →
        lookup "st" members = some (.string sensorType) ∧
          lookup "sv" members = some (.string sensorValue)) :
    Shows "cl" deviceClass.toJson (.object members) ↔
      classId.ExactUInt32 ∧ FlagIsNumber "ar" members ∧ FlagIsNumber "al" members := by
  unfold DeviceClass.toJson
  rw [shows_object_iff rfl]
  simp only [Json.object.injEq, exists_eq_left', List.cons_append, List.nil_append,
    List.forall_mem_cons, DeviceClass.getJsonKey]
  rw [halert, halive, shows_member_iff hlookup, shows_ofUInt32_iff (by decide) hclassId,
    shows_flag_member_iff rfl, shows_flag_member_iff rfl]
  refine and_congr_right fun _ => and_congr_right fun _ => and_iff_left ?_
  cases hgetSensor : deviceClass.getSensor with
  | none => simp
  | some sensor =>
      rcases sensor with ⟨sensorType, sensorValue⟩
      rcases hsensor sensorType sensorValue hgetSensor with ⟨htype, hvalue⟩
      simp only [List.forall_mem_cons, List.not_mem_nil, false_imp_iff, implies_true, and_true]
      rw [shows_member_iff htype, shows_member_iff hvalue]
      exact ⟨.text rfl, .text rfl⟩

theorem ClassRead.shows_iff {members : List (String × Json)} {classId : Json}
    {deviceClass : DeviceClass} (h : ClassRead members classId (some deviceClass))
    (hlookup : lookup "ci" members = some classId) :
    Shows "cl" deviceClass.toJson (.object members) ↔
      classId.ExactUInt32 ∧ FlagIsNumber "ar" members ∧ FlagIsNumber "al" members := by
  cases h with
  | class1 hclassId htype hvalue =>
      refine shows_class_iff hlookup hclassId rfl rfl fun _ _ hsensor => ?_
      cases hsensor
      exact ⟨htype, hvalue⟩
  | class2 hclassId htype hvalue =>
      refine shows_class_iff hlookup hclassId rfl rfl fun _ _ hsensor => ?_
      cases hsensor
      exact ⟨htype, hvalue⟩
  | class3 hclassId =>
      exact shows_class_iff hlookup hclassId rfl rfl fun _ _ hsensor => nomatch hsensor

/-- A class is made for the numbers there is one for. -/
theorem ClassRead.known_iff {members : List (String × Json)} {classId : Json}
    {parsed : Option DeviceClass} (h : ClassRead members classId parsed) :
    KnownClass classId ↔ parsed.isSome := by
  cases h with
  | unknown hunknown => simp [hunknown]
  | class1 hclassId htype hvalue => simp [KnownClass, hclassId]
  | class2 hclassId htype hvalue => simp [KnownClass, hclassId]
  | class3 hclassId => simp [KnownClass, hclassId]

/-- The conditions on the members of a device, the type apart. -/
theorem accepts_parseAs {post : Device → Prop} {deviceType : DeviceType}
    {members : List (String × Json)} {rest : List (String × Json) → Json → Json → Prop}
    (h : ∀ uuid classMembers classId deviceClass mac roomId room,
      lookup "id" members = some (.string uuid) →
        lookup "cl" members = some (.object classMembers) →
          lookup "ci" classMembers = some classId →
            ClassRead classMembers classId (some deviceClass) →
              lookup "bm" members = some (.string mac) →
                lookup "rm" members = some roomId → roomId.getUInt32 = .ok room →
                  (post ⟨uuid, deviceType, deviceClass, mac, room⟩ ↔
                    rest classMembers classId roomId)) :
    Accepts post (Device.parseAs deviceType (.object members)) ↔
      ((∃ uuid, lookup "id" members = some (.string uuid)) →
        ∀ deviceClass, lookup "cl" members = some deviceClass →
          ReadsClass deviceClass fun classMembers classId =>
            (∃ mac, lookup "bm" members = some (.string mac)) →
              ∀ roomId, lookup "rm" members = some roomId →
                ReadsUInt32 roomId (KnownClass classId → rest classMembers classId roomId)) := by
  unfold Device.parseAs
  simp only [accepts_bind, Device.getJsonKey]
  rw [accepts_index_object, accepts_member_text, forall_exists_index]
  refine forall_congr' fun uuid => forall_congr' fun huuid => ?_
  rw [accepts_index_object, forall_lookup_iff (P := fun value => Accepts _ (DeviceClass.parse value))
    trivial]
  refine forall_congr' fun deviceClass => forall_congr' fun hclass => ?_
  refine accepts_class fun classMembers classId parsed hobject hclassId hread => ?_
  subst hobject
  rw [accepts_index_object, accepts_member_text, forall_exists_index]
  refine forall_congr' fun mac => forall_congr' fun hmac => ?_
  rw [accepts_index_object, forall_lookup_iff (P := fun value => Accepts _ value.getUInt32) trivial]
  refine forall_congr' fun roomId => forall_congr' fun hroom => ?_
  refine accepts_getUInt32 fun room hok => ?_
  have hknown := hread.known_iff
  cases parsed with
  | none => exact iff_of_true trivial fun hclassKnown => absurd (hknown.mp hclassKnown) (by simp)
  | some parsed =>
      refine (h uuid classMembers classId parsed mac roomId room huuid hclass hclassId hread hmac
        hroom hok).trans ?_
      exact ⟨fun hrest _ => hrest, fun hrest => hrest (hknown.mpr rfl)⟩

/-- What is left to ask of a value which a device was made from. -/
theorem accepts_deviceAs {deviceType : DeviceType} {members : List (String × Json)}
    {text : String} (htext : lookup "dt" members = some (.string text))
    (htype : ∀ uuid deviceClass mac roomId,
      (⟨uuid, deviceType, deviceClass, mac, roomId⟩ : Device).getDeviceType = text) :
    Accepts (fun device => Shows "" device.toJson (.object members))
        (Device.parseAs deviceType (.object members)) ↔
      ((∃ uuid, lookup "id" members = some (.string uuid)) →
        ∀ deviceClass, lookup "cl" members = some deviceClass →
          ReadsClass deviceClass fun classMembers classId =>
            (∃ mac, lookup "bm" members = some (.string mac)) →
              ∀ roomId, lookup "rm" members = some roomId →
                ReadsUInt32 roomId (KnownClass classId →
                  classId.ExactUInt32 ∧ FlagIsNumber "ar" classMembers ∧
                    FlagIsNumber "al" classMembers ∧ roomId.ExactUInt32)) := by
  refine accepts_parseAs fun uuid classMembers classId deviceClass mac roomId room huuid hclass
    hclassId hread hmac hroom hok => ?_
  unfold Device.toJson
  rw [shows_object_iff rfl, htype]
  simp only [Json.object.injEq, exists_eq_left', List.forall_mem_cons, List.not_mem_nil,
    false_imp_iff, implies_true, and_true, Device.getJsonKey]
  rw [shows_member_iff huuid, shows_member_iff htext, shows_member_iff hclass,
    shows_member_iff hmac, shows_member_iff hroom, hread.shows_iff hclassId,
    shows_string_iff rfl, shows_string_iff rfl, shows_string_iff rfl, shows_ofUInt32_iff rfl hok]
  simp [and_assoc]

theorem deviceCondition_of_ne_object {json : Json} (h : ∀ members, json ≠ .object members) :
    DeviceCondition json :=
  fun members hjson => absurd hjson (h members)

theorem deviceAccurate_iff (json : Json) : DeviceAccurate json ↔ DeviceCondition json := by
  cases json with
  | object members =>
      unfold DeviceAccurate Device.parse DeviceCondition
      simp only [accepts_bind, Device.getJsonKey]
      rw [accepts_index_object, accepts_member_text]
      constructor
      · intro h members' hjson hdevice
        cases hjson
        rcases hdevice with hstatic | hdynamic
        · have hparse := h "s" hstatic
          rw [if_pos rfl, accepts_map] at hparse
          simp only [Option.some.injEq, forall_eq'] at hparse
          exact (accepts_deviceAs hstatic fun _ _ _ _ => rfl).mp hparse
        · have hparse := h "d" hdynamic
          rw [if_neg (by decide), if_pos rfl, accepts_map] at hparse
          simp only [Option.some.injEq, forall_eq'] at hparse
          exact (accepts_deviceAs hdynamic fun _ _ _ _ => rfl).mp hparse
      · intro h text htext
        split
        · rename_i hstatic
          subst hstatic
          rw [accepts_map]
          simp only [Option.some.injEq, forall_eq']
          exact (accepts_deviceAs htext fun _ _ _ _ => rfl).mpr (h members rfl (.inl htext))
        · split
          · rename_i hdynamic
            subst hdynamic
            rw [accepts_map]
            simp only [Option.some.injEq, forall_eq']
            exact (accepts_deviceAs htext fun _ _ _ _ => rfl).mpr (h members rfl (.inr htext))
          · -- a null pointer
            rw [accepts_pure]
            simp
  | null | boolean _ | integer _ | unsigned _ | float _ | string _ | array _ =>
      exact iff_of_true trivial (deviceCondition_of_ne_object (by simp))

end Device

/-- **What has to be asked of a value.**  Each parser is accurate on exactly the values which
meet its condition. -/
theorem accurate_iff (json : Json) :
    (DeviceAccurate json ↔ DeviceCondition json) ∧
      (RoomAccurate json ↔ RoomCondition json) ∧
        (LocationAccurate json ↔ LocationCondition json) :=
  ⟨deviceAccurate_iff json, roomAccurate_iff json, locationAccurate_iff json⟩

/-- A device without an alert state. -/
def silentDevice : Json :=
  .object [("id", .string "A0"), ("dt", .string "s"),
    ("cl", .object [("ci", Json.ofUInt32 3), ("al", Json.ofUInt32 1)]), ("bm", .string ""),
    ("rm", Json.ofUInt32 0)]

/-- The missing state is read as an alarm. -/
theorem missing_alert_state_is_alarm :
    ¬∀ json, DeviceAccurate json ∧ RoomAccurate json ∧ LocationAccurate json := by
  intro h
  have hcondition := (deviceAccurate_iff silentDevice).mp (h silentDevice).1
  have hclass := hcondition _ rfl (.inl rfl) ⟨"A0", rfl⟩ _ rfl _ _ rfl rfl trivial
  have hsensor : ReadsSensor [("ci", Json.ofUInt32 3), ("al", Json.ofUInt32 1)]
      (Json.ofUInt32 3) := by
    rintro (hone | htwo)
    · cases hone
    · cases htwo
  have hroom := hclass.2 hsensor ⟨"", rfl⟩ _ rfl trivial
  rcases (hroom.2 (.inr (.inr rfl))).2.1 with ⟨flag, hflag, -⟩
  cases hflag

end DevMgmt
end FireEvacuation
