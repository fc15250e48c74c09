import FireEvacuation.Core.Transition
import FireEvacuation.DevMgmt.Device

/-!
# Devices as objects

The C++ objects behind the values: a class object stores its class number, which every
constructor of the chain `DeviceClass`, `DeviceClass3`, `DeviceClass2`, `DeviceClass1`
writes again, and a device object stores its type next to a shared pointer to a class
object.  Several devices may share one, and whoever still has the pointer may set its
states and its sensor later on.

A world holds all objects which were made by constructors and builders.  What the setters
can do to it keeps the number of every class object equal to its kind, and the type of every
device as well, so an object is determined by the value it stands for; parsing is then the
parsing of values.  Copies, which are no operations of this world, are added later.
-/

namespace FireEvacuation
namespace DevMgmt

open FireEvacuation.Core Platform

/-! ## Class objects -/

inductive ClassKind where
  | class1
  | class2
  | class3
  deriving DecidableEq, Repr

/-- An object of `DeviceClass3` or of a class derived from it.  An object which is no
`DeviceClass2` has no sensor; its two texts are empty here. -/
structure ClassObject where
  kind : ClassKind
  classId : UInt32
  alertState : Bool
  aliveState : Bool
  sensorType : String
  sensorValue : String
  deriving DecidableEq, Repr

/-- The public setters of classes and class builders. -/
inductive ClassSetter where
  | alertState (state : Bool)
  | aliveState (state : Bool)
  | sensorType (sensorType : String)
  | sensorValue (sensorValue : String)
  deriving DecidableEq, Repr

namespace ClassObject

def setClassId (c : ClassObject) (classId : UInt32) : ClassObject :=
  { c with classId := classId }

def setAlertState (c : ClassObject) (state : Bool) : ClassObject :=
  { c with alertState := state }

def setAliveState (c : ClassObject) (state : Bool) : ClassObject :=
  { c with aliveState := state }

def setSensorType (c : ClassObject) (sensorType : String) : ClassObject :=
  { c with sensorType := sensorType }

def setSensorValue (c : ClassObject) (sensorValue : String) : ClassObject :=
  { c with sensorValue := sensorValue }

/-- The members of `DeviceClass` with their initialisers. -/
def base (kind : ClassKind) : ClassObject := ⟨kind, 0, false, true, "", ""⟩

/-- The constructor of `DeviceClass3`, which runs for derived objects too. -/
def newClass3 (kind : ClassKind) : ClassObject := (base kind).setClassId 3

/-- The constructor of `DeviceClass2`. -/
def newClass2 (kind : ClassKind) (sensorType sensorValue : String) : ClassObject :=
  (((newClass3 kind).setClassId 2).setSensorType sensorType).setSensorValue sensorValue

/-- The constructor of `DeviceClass1`. -/
def newClass1 (sensorType sensorValue : String) : ClassObject :=
  (newClass2 .class1 sensorType sensorValue).setClassId 1

/-- A setter, for the objects which have it. -/
def set (c : ClassObject) : ClassSetter → Option ClassObject
  | .alertState state => some (c.setAlertState state)
  | .aliveState state => some (c.setAliveState state)
  | .sensorType sensorType =>
      if c.kind = .class3 then none else some (c.setSensorType sensorType)
  | .sensorValue sensorValue =>
      if c.kind = .class3 then none else some (c.setSensorValue sensorValue)

/-- `DeviceClass::toJson`. -/
def baseMembers (c : ClassObject) : List (String × Json) :=
  [(DeviceClass.getJsonKey .classId, Json.ofUInt32 c.classId),
    (DeviceClass.getJsonKey .alertState, Json.ofBool c.alertState),
    (DeviceClass.getJsonKey .aliveState, Json.ofBool c.aliveState)]

/-- The virtual `toJson`. -/
def toJson (c : ClassObject) : Json :=
  match c.kind with
  | .class3 => .object c.baseMembers
  | .class2 | .class1 => .object (c.baseMembers ++
      [(DeviceClass.getJsonKey .sensorType, .string c.sensorType),
        (DeviceClass.getJsonKey .sensorValue, .string c.sensorValue)])

/-- `DeviceClass3::parse`. -/
def parseClass3 (json : Json) : JsonM ClassObject := do
  let alert ← json.index (DeviceClass.getJsonKey .alertState)
  let alive ← json.index (DeviceClass.getJsonKey .aliveState)
  pure (((newClass3 .class3).setAlertState alert.notZero).setAliveState alive.notZero)

/-- `DeviceClass2::parse` and `DeviceClass1::parse`, which fill what their default
constructor made. -/
def parseSensorClass (made : ClassObject) (json : Json) : JsonM ClassObject := do
  let alert ← json.index (DeviceClass.getJsonKey .alertState)
  let alive ← json.index (DeviceClass.getJsonKey .aliveState)
  let sensorType ← (← json.index (DeviceClass.getJsonKey .sensorType)).getString
  let sensorValue ← (← json.index (DeviceClass.getJsonKey .sensorValue)).getString
  pure ((((made.setAlertState alert.notZero).setAliveState alive.notZero).setSensorType
    sensorType).setSensorValue sensorValue)

def parseClass2 : Json → JsonM ClassObject := parseSensorClass (newClass2 .class2 "" "")

def parseClass1 : Json → JsonM ClassObject := parseSensorClass (newClass1 "" "")

/-- `DeviceClass::parse`. -/
def parse (json : Json) : JsonM (Option ClassObject) := do
  let classId ← (← json.index (DeviceClass.getJsonKey .classId)).getUInt32
  if classId = 1 then some <$> parseClass1 json
  else if classId = 2 then some <$> parseClass2 json
  else if classId = 3 then some <$> parseClass3 json
  else pure none

end ClassObject

/-! ## Device objects -/

/-- An object of `StaticDevice` or `DynamicDevice`; a class object is given by its position
in a list. -/
structure DeviceObject where
  kind : DeviceType
  uuid : String
  deviceType : String
  deviceClass : Option Nat
  bluetoothMac : String
  roomId : UInt32
  deriving DecidableEq, Repr

/-- The public setters of devices and device builders. -/
inductive DeviceSetter where
  | uuid (uuid : String)
  | deviceClass (deviceClass : Option Nat)
  | bluetoothMac (bluetoothMac : String)
  | roomId (roomId : UInt32)
  deriving DecidableEq, Repr

namespace DeviceObject

def setUuid (d : DeviceObject) (uuid : String) : DeviceObject := { d with uuid := uuid }

def setDeviceType (d : DeviceObject) (deviceType : String) : DeviceObject :=
  { d with deviceType := deviceType }

/-- `setDeviceClass`, which throws for a null pointer. -/
def setDeviceClass (d : DeviceObject) (deviceClass : Option Nat) : JsonM DeviceObject :=
  match deviceClass with
  | none => .error (.exception (.invalidArgument "Device class cannot be a nullptr."))
  | some pointer => .ok { d with deviceClass := some pointer }

def setBluetoothMac (d : DeviceObject) (bluetoothMac : String) : DeviceObject :=
  { d with bluetoothMac := bluetoothMac }

def setRoomId (d : DeviceObject) (roomId : UInt32) : DeviceObject := { d with roomId := roomId }

/-- The constructors of `StaticDevice` and `DynamicDevice`.  Those with fewer arguments
pass an empty address and the room 0. -/
def newDevice (kind : DeviceType) (uuid : String) (deviceClass : Option Nat)
    (bluetoothMac : String) (roomId : UInt32) : JsonM DeviceObject := do
  let device : DeviceObject := ⟨kind, "", "", none, "", 0⟩
  let device ← (device.setUuid uuid).setDeviceClass deviceClass
  let device := (device.setBluetoothMac bluetoothMac).setRoomId roomId
  match kind with
  | .static => pure (device.setDeviceType "s")
  | .dynamic => pure (device.setDeviceType "d")

def set (d : DeviceObject) : DeviceSetter → JsonM DeviceObject
  | .uuid uuid => pure (d.setUuid uuid)
  | .deviceClass deviceClass => d.setDeviceClass deviceClass
  | .bluetoothMac bluetoothMac => pure (d.setBluetoothMac bluetoothMac)
  | .roomId roomId => pure (d.setRoomId roomId)

/-- What `getDeviceClass()` points to. -/
def classOf (classes : List ClassObject) (d : DeviceObject) : Option ClassObject :=
  d.deviceClass.bind (classes[·]?)

/-- `toJson`, which is undefined without a class. -/
def toJson (classes : List ClassObject) (d : DeviceObject) : JsonM Json :=
  match d.classOf classes with
  | none => .error .undefined
  | some c => .ok (.object [(Device.getJsonKey .uuid, .string d.uuid),
      (Device.getJsonKey .deviceType, .string d.deviceType),
      (Device.getJsonKey .deviceClass, c.toJson),
      (Device.getJsonKey .bluetoothMac, .string d.bluetoothMac),
      (Device.getJsonKey .roomId, Json.ofUInt32 d.roomId)])

/-- `StaticDevice::parse` and `DynamicDevice::parse`.  The class object is a new one. -/
def parseAs (kind : DeviceType) (classes : List ClassObject) (json : Json) :
    JsonM (List ClassObject × DeviceObject) := do
  let uuid ← (← json.index (Device.getJsonKey .uuid)).getString
  let deviceClass ← ClassObject.parse (← json.index (Device.getJsonKey .deviceClass))
  let bluetoothMac ← (← json.index (Device.getJsonKey .bluetoothMac)).getString
  let roomId ← (← json.index (Device.getJsonKey .roomId)).getUInt32
  let device ← newDevice kind uuid (deviceClass.map fun _ => classes.length) bluetoothMac roomId
  pure (classes ++ deviceClass.toList, device)

/-- `Device::parse`. -/
def parse (classes : List ClassObject) (json : Json) :
    JsonM (List ClassObject × Option DeviceObject) := do
  let deviceType ← (← json.index (Device.getJsonKey .deviceType)).getString
  if deviceType = "s" then
    (fun parsed => (parsed.1, some parsed.2)) <$> parseAs .static classes json
  else if deviceType = "d" then
    (fun parsed => (parsed.1, some parsed.2)) <$> parseAs .dynamic classes json
  else pure (classes, none)

end DeviceObject

/-! ## Builders -/

/-- `DeviceClass3Builder` and the builders derived from it. -/
structure ClassBuilder where
  kind : ClassKind
  alertState : Bool
  aliveState : Bool
  sensorType : String
  sensorValue : String
  deriving DecidableEq, Repr

namespace ClassBuilder

def new (kind : ClassKind) : ClassBuilder := ⟨kind, false, true, "", ""⟩

def set (b : ClassBuilder) : ClassSetter → Option ClassBuilder
  | .alertState state => some { b with alertState := state }
  | .aliveState state => some { b with aliveState := state }
  | .sensorType sensorType =>
      if b.kind = .class3 then none else some { b with sensorType := sensorType }
  | .sensorValue sensorValue =>
      if b.kind = .class3 then none else some { b with sensorValue := sensorValue }

/-- `build`. -/
def build (b : ClassBuilder) : ClassObject :=
  match b.kind with
  | .class3 =>
      ((ClassObject.newClass3 .class3).setAlertState b.alertState).setAliveState b.aliveState
  | .class2 =>
      ((((ClassObject.newClass2 .class2 "" "").setAlertState b.alertState).setAliveState
        b.aliveState).setSensorType b.sensorType).setSensorValue b.sensorValue
  | .class1 =>
      ((((ClassObject.newClass1 "" "").setAlertState b.alertState).setAliveState
        b.aliveState).setSensorType b.sensorType).setSensorValue b.sensorValue

end ClassBuilder

/-- `DeviceBuilder`. -/
structure DeviceBuilder where
  uuid : String
  deviceClass : Option Nat
  bluetoothMac : String
  roomId : UInt32
  deriving DecidableEq, Repr

namespace DeviceBuilder

def new : DeviceBuilder := ⟨"", none, "", 0⟩

def set (b : DeviceBuilder) : DeviceSetter → DeviceBuilder
  | .uuid uuid => { b with uuid := uuid }
  | .deviceClass deviceClass => { b with deviceClass := deviceClass }
  | .bluetoothMac bluetoothMac => { b with bluetoothMac := bluetoothMac }
  | .roomId roomId => { b with roomId := roomId }

/-- `buildStatic` and `buildDynamic`. -/
def build (b : DeviceBuilder) (kind : DeviceType) : JsonM DeviceObject :=
  DeviceObject.newDevice kind b.uuid b.deviceClass b.bluetoothMac b.roomId

end DeviceBuilder

/-! ## Worlds -/

/-- All objects and builders there are. -/
structure DeviceWorld where
  classes : List ClassObject
  devices : List DeviceObject
  classBuilders : List ClassBuilder
  deviceBuilders : List DeviceBuilder
  deriving DecidableEq, Repr

def DeviceWorld.initial : DeviceWorld := ⟨[], [], [], []⟩

/-- A public operation. -/
inductive DeviceOp where
  | newClass3
  | newClass2 (sensorType sensorValue : String)
  | newClass1 (sensorType sensorValue : String)
  | setClass (index : Nat) (setter : ClassSetter)
  | newClassBuilder (kind : ClassKind)
  | setClassBuilder (index : Nat) (setter : ClassSetter)
  | buildClass (index : Nat)
  | newDevice (kind : DeviceType) (uuid : String) (deviceClass : Option Nat)
      (bluetoothMac : String) (roomId : UInt32)
  | setDevice (index : Nat) (setter : DeviceSetter)
  | newDeviceBuilder
  | setDeviceBuilder (index : Nat) (setter : DeviceSetter)
  | buildDevice (index : Nat) (kind : DeviceType)
  deriving DecidableEq, Repr

namespace DeviceWorld

/-- A pointer which is null or points to a class object. -/
def pointsTo (w : DeviceWorld) (pointer : Option Nat) : Bool :=
  pointer.all (· < w.classes.length)

/-- The pointers a setter passes on. -/
def allows (w : DeviceWorld) : DeviceSetter → Bool
  | .deviceClass pointer => w.pointsTo pointer
  | .uuid _ | .bluetoothMac _ | .roomId _ => true

/-- A new device, or nothing new when its constructor throws. -/
def addDevice (w : DeviceWorld) (made : JsonM DeviceObject) : DeviceWorld :=
  match made with
  | .ok device => { w with devices := w.devices ++ [device] }
  | .error _ => w

end DeviceWorld

open DeviceWorld

/-- One operation; `none` when there is no such object, setter or pointer. -/
def deviceStep (w : DeviceWorld) : DeviceOp → Option DeviceWorld
  | .newClass3 => some { w with classes := w.classes ++ [.newClass3 .class3] }
  | .newClass2 sensorType sensorValue =>
      some { w with classes := w.classes ++ [.newClass2 .class2 sensorType sensorValue] }
  | .newClass1 sensorType sensorValue =>
      some { w with classes := w.classes ++ [.newClass1 sensorType sensorValue] }
  | .setClass index setter =>
      (w.classes[index]?.bind (·.set setter)).map fun c =>
        { w with classes := w.classes.set index c }
  | .newClassBuilder kind => some { w with classBuilders := w.classBuilders ++ [.new kind] }
  | .setClassBuilder index setter =>
      (w.classBuilders[index]?.bind (·.set setter)).map fun b =>
        { w with classBuilders := w.classBuilders.set index b }
  | .buildClass index =>
      w.classBuilders[index]?.map fun b => { w with classes := w.classes ++ [b.build] }
  | .newDevice kind uuid deviceClass bluetoothMac roomId =>
      if w.pointsTo deviceClass then
        some (w.addDevice (DeviceObject.newDevice kind uuid deviceClass bluetoothMac roomId))
      else none
  | .setDevice index setter =>
      if w.allows setter then
        w.devices[index]?.map fun d =>
          match d.set setter with
          | .ok device => { w with devices := w.devices.set index device }
          | .error _ => w
      else none
  | .newDeviceBuilder => some { w with deviceBuilders := w.deviceBuilders ++ [.new] }
  | .setDeviceBuilder index setter =>
      if w.allows setter then
        w.deviceBuilders[index]?.map fun b =>
          { w with deviceBuilders := w.deviceBuilders.set index (b.set setter) }
      else none
  | .buildDevice index kind =>
      w.deviceBuilders[index]?.map fun b => w.addDevice (b.build kind)

/-! ## Well-formed objects -/

/-- The number a kind stands for. -/
def ClassKind.number : ClassKind → UInt32
  | .class1 => 1
  | .class2 => 2
  | .class3 => 3

/-- `dt` of a kind. -/
def DeviceType.letter : DeviceType → String
  | .static => "s"
  | .dynamic => "d"

/-- The class number is that of the kind. -/
structure ClassObject.Wf (c : ClassObject) : Prop where
  classId : c.classId = c.kind.number
  noSensor : c.kind = .class3 → c.sensorType = "" ∧ c.sensorValue = ""

/-- `dt` is that of the kind, and there is a class object. -/
structure DeviceObject.Wf (classes : List ClassObject) (d : DeviceObject) : Prop where
  deviceType : d.deviceType = d.kind.letter
  deviceClass : ∃ c, d.classOf classes = some c ∧ c.Wf

/-- What holds after every sequence of operations. -/
structure WorldWf (w : DeviceWorld) : Prop where
  classes : ∀ c ∈ w.classes, c.Wf
  devices : ∀ d ∈ w.devices, d.deviceType = d.kind.letter ∧
    ∃ pointer, d.deviceClass = some pointer ∧ pointer < w.classes.length
  builders : ∀ b ∈ w.deviceBuilders, w.pointsTo b.deviceClass = true

section Wf

variable {w : DeviceWorld}

theorem ClassObject.Wf.set {c c' : ClassObject} {setter : ClassSetter} (h : c.Wf)
    (hset : c.set setter = some c') : c'.Wf := by
  cases setter with
  | alertState state =>
      cases hset
      exact ⟨h.classId, h.noSensor⟩
  | aliveState state =>
      cases hset
      exact ⟨h.classId, h.noSensor⟩
  | sensorType sensorType | sensorValue sensorValue =>
      unfold ClassObject.set at hset
      dsimp only at hset
      split at hset
      · cases hset
      · rename_i hkind
        cases hset
        exact ⟨h.classId, fun h3 => absurd h3 hkind⟩

theorem ClassBuilder.build_wf (b : ClassBuilder) : b.build.Wf := by
  unfold ClassBuilder.build
  cases b.kind with
  | class1 => exact ⟨rfl, fun h => nomatch h⟩
  | class2 => exact ⟨rfl, fun h => nomatch h⟩
  | class3 => exact ⟨rfl, fun _ => ⟨rfl, rfl⟩⟩

/-- What a constructor made. -/
theorem newDevice_eq_ok {kind : DeviceType} {uuid bluetoothMac : String}
    {deviceClass : Option Nat} {roomId : UInt32} {d : DeviceObject}
    (h : DeviceObject.newDevice kind uuid deviceClass bluetoothMac roomId = .ok d) :
    d = ⟨kind, uuid, kind.letter, deviceClass, bluetoothMac, roomId⟩ ∧
      ∃ pointer, deviceClass = some pointer := by
  cases deviceClass with
  | none => cases h
  | some pointer =>
      cases kind with
      | static =>
          cases h
          exact ⟨rfl, pointer, rfl⟩
      | dynamic =>
          cases h
          exact ⟨rfl, pointer, rfl⟩

theorem pointsTo_some {pointer : Nat} :
    w.pointsTo (some pointer) = true ↔ pointer < w.classes.length := by
  unfold DeviceWorld.pointsTo
  simp

/-- More class objects, and changed ones of the same kind, do no harm. -/
theorem WorldWf.classes_changed (h : WorldWf w) {classes : List ClassObject}
    (hclasses : ∀ c ∈ classes, c.Wf) (hlength : w.classes.length ≤ classes.length) :
    WorldWf { w with classes := classes } := by
  refine ⟨hclasses, fun d hd => ?_, fun b hb => ?_⟩
  · rcases h.devices d hd with ⟨htype, pointer, hpointer, hlt⟩
    exact ⟨htype, pointer, hpointer, Nat.lt_of_lt_of_le hlt hlength⟩
  · have hpoints := h.builders b hb
    cases hclass : b.deviceClass with
    | none => rfl
    | some pointer =>
        rw [hclass, pointsTo_some] at hpoints
        rw [pointsTo_some]
        exact Nat.lt_of_lt_of_le hpoints hlength

theorem WorldWf.newClass (h : WorldWf w) {c : ClassObject} (hc : c.Wf) :
    WorldWf { w with classes := w.classes ++ [c] } := by
  refine h.classes_changed (fun c' hc' => ?_) (by simp)
  rcases List.mem_append.mp hc' with hold | hnew
  · exact h.classes c' hold
  · rw [List.mem_singleton.mp hnew]
    exact hc

theorem WorldWf.addDevice (h : WorldWf w) {kind : DeviceType} {uuid bluetoothMac : String}
    {deviceClass : Option Nat} {roomId : UInt32} (hpoints : w.pointsTo deviceClass = true) :
    WorldWf (w.addDevice
      (DeviceObject.newDevice kind uuid deviceClass bluetoothMac roomId)) := by
  unfold DeviceWorld.addDevice
  split
  · rename_i d hd
    rcases newDevice_eq_ok hd with ⟨rfl, pointer, rfl⟩
    refine ⟨h.classes, fun d' hd' => ?_, h.builders⟩
    rcases List.mem_append.mp hd' with hold | hnew
    · exact h.devices d' hold
    · rw [List.mem_singleton.mp hnew]
      exact ⟨rfl, pointer, rfl, pointsTo_some.mp hpoints⟩
  · exact h

theorem WorldWf.setDevice (h : WorldWf w) {index : Nat} {d d' : DeviceObject}
    {setter : DeviceSetter} (hd : w.devices[index]? = some d)
    (hallows : w.allows setter = true) (hset : d.set setter = .ok d') :
    WorldWf { w with devices := w.devices.set index d' } := by
  rcases h.devices d (List.mem_of_getElem? hd) with ⟨htype, pointer, hpointer, hlt⟩
  refine ⟨h.classes, fun other hother => ?_, h.builders⟩
  rcases List.mem_or_eq_of_mem_set hother with hold | rfl
  · exact h.devices other hold
  · cases setter with
    | uuid uuid =>
        cases hset
        exact ⟨htype, pointer, hpointer, hlt⟩
    | bluetoothMac bluetoothMac =>
        cases hset
        exact ⟨htype, pointer, hpointer, hlt⟩
    | roomId roomId =>
        cases hset
        exact ⟨htype, pointer, hpointer, hlt⟩
    | deviceClass deviceClass =>
        -- a null class is thrown, so a device never loses its class object
        cases deviceClass with
        | none => cases hset
        | some given =>
            cases hset
            exact ⟨htype, given, rfl, pointsTo_some.mp hallows⟩

theorem WorldWf.copyDevice (h : WorldWf w) {d : DeviceObject} (hd : d ∈ w.devices) :
    WorldWf { w with devices := w.devices ++ [d] } := by
  refine ⟨h.classes, fun other hother => ?_, h.builders⟩
  rcases List.mem_append.mp hother with hold | hnew
  · exact h.devices other hold
  · rw [List.mem_singleton.mp hnew]
    exact h.devices d hd

/-- Every operation keeps all objects well formed. -/
theorem WorldWf.step {w' : DeviceWorld} {op : DeviceOp} (h : WorldWf w)
    (hstep : deviceStep w op = some w') : WorldWf w' := by
  cases op with
  | newClass3 =>
      cases hstep
      exact h.newClass ⟨rfl, fun _ => ⟨rfl, rfl⟩⟩
  | newClass2 sensorType sensorValue =>
      cases hstep
      exact h.newClass ⟨rfl, fun h3 => nomatch h3⟩
  | newClass1 sensorType sensorValue =>
      cases hstep
      exact h.newClass ⟨rfl, fun h3 => nomatch h3⟩
  | setClass index setter =>
      rcases Option.map_eq_some_iff.mp hstep with ⟨c', hset, rfl⟩
      rcases Option.bind_eq_some_iff.mp hset with ⟨c, hc, hc'⟩
      refine h.classes_changed (fun other hother => ?_) (by simp)
      rcases List.mem_or_eq_of_mem_set hother with hold | rfl
      · exact h.classes other hold
      · exact (h.classes c (List.mem_of_getElem? hc)).set hc'
  | newClassBuilder kind =>
      cases hstep
      exact ⟨h.classes, h.devices, h.builders⟩
  | setClassBuilder index setter =>
      rcases Option.map_eq_some_iff.mp hstep with ⟨b, -, rfl⟩
      exact ⟨h.classes, h.devices, h.builders⟩
  | buildClass index =>
      rcases Option.map_eq_some_iff.mp hstep with ⟨b, -, rfl⟩
      exact h.newClass b.build_wf
  | newDevice kind uuid deviceClass bluetoothMac roomId =>
      unfold deviceStep at hstep
      dsimp only at hstep
      split at hstep
      · rename_i hpoints
        cases hstep
        exact h.addDevice hpoints
      · cases hstep
  | setDevice index setter =>
      unfold deviceStep at hstep
      dsimp only at hstep
      split at hstep
      · rename_i hallows
        rcases Option.map_eq_some_iff.mp hstep with ⟨d, hd, rfl⟩
        split
        · rename_i device hset
          exact h.setDevice hd hallows hset
        · exact h
      · cases hstep
  | newDeviceBuilder =>
      cases hstep
      refine ⟨h.classes, h.devices, fun b hb => ?_⟩
      rcases List.mem_append.mp hb with hold | hnew
      · exact h.builders b hold
      · rw [List.mem_singleton.mp hnew]
        rfl
  | setDeviceBuilder index setter =>
      unfold deviceStep at hstep
      dsimp only at hstep
      split at hstep
      · rename_i hallows
        rcases Option.map_eq_some_iff.mp hstep with ⟨b, hb, rfl⟩
        have hpoints := h.builders b (List.mem_of_getElem? hb)
        refine ⟨h.classes, h.devices, fun other hother => ?_⟩
        rcases List.mem_or_eq_of_mem_set hother with hold | rfl
        · exact h.builders other hold
        · cases setter with
          | deviceClass deviceClass => exact hallows
          | uuid _ | bluetoothMac _ | roomId _ => exact hpoints
      · cases hstep
  | buildDevice index kind =>
      rcases Option.map_eq_some_iff.mp hstep with ⟨b, hb, rfl⟩
      exact h.addDevice (h.builders b (List.mem_of_getElem? hb))

theorem worldWf_initial : WorldWf .initial :=
  ⟨by simp [DeviceWorld.initial], by simp [DeviceWorld.initial], by simp [DeviceWorld.initial]⟩

theorem WorldWf.device {d : DeviceObject} (h : WorldWf w) (hd : d ∈ w.devices) :
    d.Wf w.classes := by
  rcases h.devices d hd with ⟨htype, pointer, hpointer, hlt⟩
  refine ⟨htype, w.classes[pointer], ?_, h.classes _ (List.getElem_mem hlt)⟩
  unfold DeviceObject.classOf
  simp [hpointer, hlt]

end Wf

/-! ## The values of objects -/

/-- The value a class object stands for. -/
def ClassObject.value (c : ClassObject) : DeviceClass :=
  match c.kind with
  | .class1 => .class1 c.alertState c.aliveState c.sensorType c.sensorValue
  | .class2 => .class2 c.alertState c.aliveState c.sensorType c.sensorValue
  | .class3 => .class3 c.alertState c.aliveState

/-- The value a device stands for. -/
def DeviceObject.value (classes : List ClassObject) (d : DeviceObject) : Option Device :=
  (d.classOf classes).map fun c => ⟨d.uuid, d.kind, c.value, d.bluetoothMac, d.roomId⟩

section Value

variable {classes : List ClassObject} {d : DeviceObject}

theorem ClassObject.Wf.toJson {c : ClassObject} (h : c.Wf) : c.toJson = c.value.toJson := by
  rcases c with ⟨kind, classId, alertState, aliveState, sensorType, sensorValue⟩
  have hid : classId = kind.number := h.classId
  subst hid
  cases kind with
  | class1 => rfl
  | class2 => rfl
  | class3 => rfl

/-- A well-formed class object is determined by its value. -/
theorem ClassObject.Wf.eq_of_value {c c' : ClassObject} (h : c.Wf) (h' : c'.Wf)
    (hvalue : c'.value = c.value) : c' = c := by
  rcases c with ⟨kind, classId, alertState, aliveState, sensorType, sensorValue⟩
  rcases c' with ⟨kind', classId', alertState', aliveState', sensorType', sensorValue'⟩
  have hid : classId = kind.number := h.classId
  have hid' : classId' = kind'.number := h'.classId
  subst hid hid'
  cases kind with
  | class1 =>
      cases kind' with
      | class1 =>
          cases hvalue
          rfl
      | class2 | class3 => cases hvalue
  | class2 =>
      cases kind' with
      | class2 =>
          cases hvalue
          rfl
      | class1 | class3 => cases hvalue
  | class3 =>
      cases kind' with
      | class3 =>
          -- the value leaves the sensor out, and both objects have none
          rcases h.noSensor rfl with ⟨htype, hsensor⟩
          rcases h'.noSensor rfl with ⟨htype', hsensor'⟩
          dsimp only at htype hsensor htype' hsensor'
          subst htype hsensor htype' hsensor'
          cases hvalue
          rfl
      | class1 | class2 => cases hvalue

theorem DeviceObject.Wf.toJson (h : d.Wf classes) :
    ∃ device, d.value classes = some device ∧ d.toJson classes = .ok device.toJson := by
  rcases h.deviceClass with ⟨c, hc, hwf⟩
  refine ⟨⟨d.uuid, d.kind, c.value, d.bluetoothMac, d.roomId⟩, ?_, ?_⟩
  · unfold DeviceObject.value
    rw [hc]
    rfl
  · unfold DeviceObject.toJson
    rw [hc, h.deviceType]
    dsimp only
    rw [hwf.toJson]
    cases d.kind with
    | static => rfl
    | dynamic => rfl

end Value

/-! ## Parsing objects is parsing their values -/

section Parse

theorem parseSensorClass_value {made : ClassObject}
    {make : Bool → Bool → String → String → DeviceClass}
    (hmake : ∀ alertState aliveState sensorType sensorValue,
      ((((made.setAlertState alertState).setAliveState aliveState).setSensorType
        sensorType).setSensorValue sensorValue).value =
        make alertState aliveState sensorType sensorValue) (json : Json) :
    ClassObject.value <$> ClassObject.parseSensorClass made json =
      DeviceClass.parseSensorClass make json := by
  unfold ClassObject.parseSensorClass DeviceClass.parseSensorClass
  simp only [map_bind, map_pure, hmake]

/-- Class objects are parsed like their values. -/
theorem parse_class_value (json : Json) :
    Option.map ClassObject.value <$> ClassObject.parse json = DeviceClass.parse json := by
  have hclass1 : ClassObject.value <$> ClassObject.parseClass1 json =
      DeviceClass.parseClass1 json := parseSensorClass_value (fun _ _ _ _ => rfl) json
  have hclass2 : ClassObject.value <$> ClassObject.parseClass2 json =
      DeviceClass.parseClass2 json := parseSensorClass_value (fun _ _ _ _ => rfl) json
  have hclass3 : ClassObject.value <$> ClassObject.parseClass3 json =
      DeviceClass.parseClass3 json := by
    unfold ClassObject.parseClass3 DeviceClass.parseClass3
    simp only [map_bind, map_pure]
    rfl
  unfold ClassObject.parse DeviceClass.parse
  simp only [map_bind]
  refine bind_congr fun member => bind_congr fun classId => ?_
  split
  · rw [← hclass1, Functor.map_map, Functor.map_map]
    rfl
  · split
    · rw [← hclass2, Functor.map_map, Functor.map_map]
      rfl
    · split
      · rw [← hclass3, Functor.map_map, Functor.map_map]
        rfl
      · rfl

/-- What the constructor puts together stands for what it was given. -/
theorem newDevice_value (kind : DeviceType) (classes : List ClassObject) (uuid : String)
    (deviceClass : Option ClassObject) (bluetoothMac : String) (roomId : UInt32) :
    (fun device => DeviceObject.value (classes ++ deviceClass.toList) device) <$>
        DeviceObject.newDevice kind uuid (deviceClass.map fun _ => classes.length)
          bluetoothMac roomId =
      some <$> Device.make kind uuid (deviceClass.map ClassObject.value) bluetoothMac roomId := by
  cases deviceClass with
  | none => rfl
  | some c =>
      have hclass : DeviceObject.value (classes ++ [c])
          ⟨kind, uuid, kind.letter, some classes.length, bluetoothMac, roomId⟩ =
            some ⟨uuid, kind, c.value, bluetoothMac, roomId⟩ := by
        unfold DeviceObject.value DeviceObject.classOf
        simp
      cases kind with
      | static => exact congrArg Except.ok hclass
      | dynamic => exact congrArg Except.ok hclass

theorem parseAs_value (kind : DeviceType) (classes : List ClassObject) (json : Json) :
    (fun parsed => DeviceObject.value parsed.1 parsed.2) <$>
        DeviceObject.parseAs kind classes json =
      some <$> Device.parseAs kind json := by
  unfold DeviceObject.parseAs Device.parseAs
  simp only [map_bind, map_pure]
  refine bind_congr fun member => bind_congr fun uuid => bind_congr fun cl => ?_
  rw [← parse_class_value, bind_map_left]
  refine bind_congr fun deviceClass => bind_congr fun member => bind_congr fun bluetoothMac =>
    bind_congr fun member => bind_congr fun roomId => ?_
  rw [← newDevice_value kind classes]
  exact (map_eq_pure_bind _ _).symm

/-- **Refinement.**  Objects are parsed like values, whatever objects there are. -/
theorem parse_value (classes : List ClassObject) (json : Json) :
    (fun parsed => parsed.2.bind (DeviceObject.value parsed.1)) <$>
        DeviceObject.parse classes json = Device.parse json := by
  unfold DeviceObject.parse Device.parse
  simp only [map_bind]
  refine bind_congr fun member => bind_congr fun deviceType => ?_
  split
  · rw [← parseAs_value .static classes, Functor.map_map]
    rfl
  · split
    · rw [← parseAs_value .dynamic classes, Functor.map_map]
      rfl
    · rfl

theorem parseSensorClass_wf {made c : ClassObject} {json : Json} (hmade : made.Wf)
    (hkind : made.kind ≠ .class3) (h : ClassObject.parseSensorClass made json = .ok c) :
    c.Wf := by
  unfold ClassObject.parseSensorClass at h
  simp only [JsonM.bind_eq_ok_iff] at h
  rcases h with ⟨alert, -, alive, -, type, -, sensorType, -, value, -, sensorValue, -, hmake⟩
  cases hmake
  exact ⟨hmade.classId, fun h3 => absurd h3 hkind⟩

theorem parse_class_wf {c : ClassObject} {json : Json}
    (h : ClassObject.parse json = .ok (some c)) : c.Wf := by
  unfold ClassObject.parse at h
  simp only [JsonM.bind_eq_ok_iff] at h
  rcases h with ⟨member, -, classId, -, hclass⟩
  split at hclass
  · rcases JsonM.map_eq_ok_iff.mp hclass with ⟨parsed, hparsed, heq⟩
    cases heq
    exact parseSensorClass_wf ⟨rfl, fun h3 => absurd h3 (by decide)⟩ (by decide) hparsed
  · split at hclass
    · rcases JsonM.map_eq_ok_iff.mp hclass with ⟨parsed, hparsed, heq⟩
      cases heq
      exact parseSensorClass_wf ⟨rfl, fun h3 => absurd h3 (by decide)⟩ (by decide) hparsed
    · split at hclass
      · rcases JsonM.map_eq_ok_iff.mp hclass with ⟨parsed, hparsed, heq⟩
        cases heq
        unfold ClassObject.parseClass3 at hparsed
        simp only [JsonM.bind_eq_ok_iff] at hparsed
        rcases hparsed with ⟨alert, -, alive, -, hmake⟩
        cases hmake
        exact ⟨rfl, fun _ => ⟨rfl, rfl⟩⟩
      · cases hclass

/-- A parsed device was made by the constructor, of the class object which was parsed. -/
theorem parseAs_eq_ok {kind : DeviceType} {classes classes' : List ClassObject}
    {d : DeviceObject} {json : Json}
    (h : DeviceObject.parseAs kind classes json = .ok (classes', d)) :
    ∃ cl deviceClass uuid bluetoothMac roomId, ClassObject.parse cl = .ok deviceClass ∧
      classes' = classes ++ deviceClass.toList ∧
        DeviceObject.newDevice kind uuid (deviceClass.map fun _ => classes.length)
          bluetoothMac roomId = .ok d := by
  unfold DeviceObject.parseAs at h
  simp only [JsonM.bind_eq_ok_iff] at h
  obtain ⟨-, -, uuid, -, cl, -, deviceClass, hclass, -, -, bluetoothMac, -, -, -, roomId, -,
    device, hdevice, hparsed⟩ := h
  cases hparsed
  exact ⟨cl, deviceClass, uuid, bluetoothMac, roomId, hclass, rfl, hdevice⟩

/-- A device is parsed as one of the two kinds. -/
theorem parse_eq_ok {classes classes' : List ClassObject} {d : DeviceObject} {json : Json}
    (h : DeviceObject.parse classes json = .ok (classes', some d)) :
    ∃ kind, DeviceObject.parseAs kind classes json = .ok (classes', d) := by
  unfold DeviceObject.parse at h
  simp only [JsonM.bind_eq_ok_iff] at h
  obtain ⟨-, -, deviceType, -, hparse⟩ := h
  split at hparse
  · obtain ⟨parsed, hparsed, heq⟩ := JsonM.map_eq_ok_iff.mp hparse
    cases heq
    exact ⟨.static, hparsed⟩
  · split at hparse
    · obtain ⟨parsed, hparsed, heq⟩ := JsonM.map_eq_ok_iff.mp hparse
      cases heq
      exact ⟨.dynamic, hparsed⟩
    · cases hparse

/-- A parsed device is well formed. -/
theorem parse_wf {classes classes' : List ClassObject} {d : DeviceObject} {json : Json}
    (h : DeviceObject.parse classes json = .ok (classes', some d)) : d.Wf classes' := by
  obtain ⟨kind, hparse⟩ := parse_eq_ok h
  obtain ⟨cl, deviceClass, uuid, bluetoothMac, roomId, hclass, rfl, hdevice⟩ :=
    parseAs_eq_ok hparse
  obtain ⟨rfl, pointer, hpointer⟩ := newDevice_eq_ok hdevice
  cases deviceClass with
  | none => cases hpointer
  | some c =>
      refine ⟨rfl, c, ?_, parse_class_wf hclass⟩
      unfold DeviceObject.classOf
      simp

/-- Parsing makes new class objects only. -/
theorem parse_grows {classes classes' : List ClassObject} {d : DeviceObject} {json : Json}
    (h : DeviceObject.parse classes json = .ok (classes', some d)) : classes <+: classes' := by
  obtain ⟨kind, hparse⟩ := parse_eq_ok h
  obtain ⟨cl, deviceClass, uuid, bluetoothMac, roomId, -, rfl, -⟩ := parseAs_eq_ok hparse
  exact List.prefix_append classes deviceClass.toList

end Parse

/-! ## The round trip -/

section RoundTrip

/-- Two devices with the same members, whose class objects are equal. -/
structure SameDevice (classes : List ClassObject) (d : DeviceObject)
    (classes' : List ClassObject) (d' : DeviceObject) : Prop where
  kind : d'.kind = d.kind
  deviceType : d'.deviceType = d.deviceType
  uuid : d'.uuid = d.uuid
  bluetoothMac : d'.bluetoothMac = d.bluetoothMac
  roomId : d'.roomId = d.roomId
  deviceClass : ∃ c, d.classOf classes = some c ∧ d'.classOf classes' = some c

/-- Well-formed devices with one value are the same. -/
theorem DeviceObject.Wf.same {classes classes' : List ClassObject} {d d' : DeviceObject}
    (h : d.Wf classes) (h' : d'.Wf classes') {device : Device}
    (hvalue : d.value classes = some device) (hvalue' : d'.value classes' = some device) :
    SameDevice classes d classes' d' := by
  rcases h.deviceClass with ⟨c, hc, hwf⟩
  rcases h'.deviceClass with ⟨c', hc', hwf'⟩
  unfold DeviceObject.value at hvalue hvalue'
  rw [hc] at hvalue
  rw [hc'] at hvalue'
  cases hvalue
  injection hvalue' with hdevice
  injection hdevice with huuid hkind hclass hmac hroom
  have hsame : c' = c := hwf.eq_of_value hwf' hclass
  subst hsame
  refine ⟨hkind, ?_, huuid, hmac, hroom, c', hc, hc'⟩
  rw [h'.deviceType, h.deviceType, hkind]

/-- A device is the same among more class objects. -/
theorem SameDevice.mono {classes classes' classes'' : List ClassObject} {d d' : DeviceObject}
    (h : SameDevice classes d classes' d') (hgrows : classes' <+: classes'') :
    SameDevice classes d classes'' d' := by
  obtain ⟨c, hc, hc'⟩ := h.deviceClass
  refine { h with deviceClass := ⟨c, hc, ?_⟩ }
  obtain ⟨pointer, hpointer, hclass⟩ := Option.bind_eq_some_iff.mp hc'
  obtain ⟨added, rfl⟩ := hgrows
  rw [DeviceObject.classOf, hpointer, Option.bind_some]
  exact (List.getElem?_append_left (List.getElem?_eq_some_iff.mp hclass).1).trans hclass

/-- A well-formed device is written, read back as the same device, and written again as the
same JSON value, whatever other class objects there are. -/
theorem DeviceObject.Wf.readBack {classes : List ClassObject} {d : DeviceObject}
    (h : d.Wf classes) : ∃ json, d.toJson classes = .ok json ∧ ∀ others, ∃ others' d',
      DeviceObject.parse others json = .ok (others', some d') ∧ others <+: others' ∧
        SameDevice classes d others' d' ∧ d'.toJson others' = .ok json := by
  rcases h.toJson with ⟨device, hvalue, hjson⟩
  refine ⟨device.toJson, hjson, fun others => ?_⟩
  have hparse := parse_value others device.toJson
  rw [Device.parse_toJson, JsonM.map_eq_ok_iff] at hparse
  rcases hparse with ⟨⟨others', parsed⟩, hparsed, hsome⟩
  cases parsed with
  | none => cases hsome
  | some d' =>
      have hwf : d'.Wf others' := parse_wf hparsed
      have hvalue' : d'.value others' = some device := hsome
      rcases hwf.toJson with ⟨device', hdevice', hjson'⟩
      rw [hvalue'] at hdevice'
      cases hdevice'
      exact ⟨others', d', hparsed, parse_grows hparsed, h.same hwf hvalue hvalue', hjson'⟩

end RoundTrip

end DevMgmt
end FireEvacuation
