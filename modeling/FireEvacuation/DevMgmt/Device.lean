import FireEvacuation.DevMgmt.DeviceClass

/-!
# Devices

`Device::parse` reads a device out of a JSON value.  It answers a null pointer for
an unknown device type, and it throws for members of the wrong type and for a
class it does not know (the constructor rejects a null class), so a device which
exists always has a class.
-/

namespace FireEvacuation
namespace DevMgmt

open FireEvacuation.Core Platform

/-- `StaticDevice` or `DynamicDevice`. -/
inductive DeviceType where
  | static
  | dynamic
  deriving DecidableEq, Repr

/-- `Device`. -/
structure Device where
  uuid : String
  deviceType : DeviceType
  deviceClass : DeviceClass
  bluetoothMac : String
  roomId : UInt32
  deriving DecidableEq, Repr

namespace Device

/-- The names of the members of a device in JSON. -/
inductive JsonEnum where
  | uuid
  | deviceType
  | deviceClass
  | bluetoothMac
  | roomId

def getJsonKey : JsonEnum → String
  | .uuid => "id"
  | .deviceType => "dt"
  | .deviceClass => "cl"
  | .bluetoothMac => "bm"
  | .roomId => "rm"

def getDeviceType (device : Device) : String :=
  match device.deviceType with
  | .static => "s"
  | .dynamic => "d"

/-- The constructor, which throws for a null class. -/
def make (deviceType : DeviceType) (uuid : String) (deviceClass : Option DeviceClass)
    (bluetoothMac : String) (roomId : UInt32) : JsonM Device :=
  match deviceClass with
  | none => .error (.exception (.invalidArgument "Device class cannot be a nullptr."))
  | some deviceClass => .ok ⟨uuid, deviceType, deviceClass, bluetoothMac, roomId⟩

/-- `StaticDevice::parse` and `DynamicDevice::parse`. -/
def parseAs (deviceType : DeviceType) (json : Json) : JsonM Device := do
  let uuid ← (← json.index (getJsonKey .uuid)).getString
  let deviceClass ← DeviceClass.parse (← json.index (getJsonKey .deviceClass))
  let bluetoothMac ← (← json.index (getJsonKey .bluetoothMac)).getString
  let roomId ← (← json.index (getJsonKey .roomId)).getUInt32
  make deviceType uuid deviceClass bluetoothMac roomId

/-- `Device::parse`. -/
def parse (json : Json) : JsonM (Option Device) := do
  let deviceType ← (← json.index (getJsonKey .deviceType)).getString
  if deviceType = "s" then some <$> parseAs .static json
  else if deviceType = "d" then some <$> parseAs .dynamic json
  else pure none

/-- `toJson`. -/
def toJson (device : Device) : Json :=
  .object [(getJsonKey .uuid, .string device.uuid),
    (getJsonKey .deviceType, .string device.getDeviceType),
    (getJsonKey .deviceClass, device.deviceClass.toJson),
    (getJsonKey .bluetoothMac, .string device.bluetoothMac),
    (getJsonKey .roomId, Json.ofUInt32 device.roomId)]

theorem parseAs_toJson (device : Device) :
    parseAs device.deviceType device.toJson = .ok device := by
  have hclass := DeviceClass.parse_toJson device.deviceClass
  have hroom := Json.getUInt32_ofUInt32 device.roomId
  simp only [parseAs, toJson, Json.index_object, Json.member, getJsonKey, Json.getString,
    bind, Except.bind, if_true, String.reduceEq, if_false, hclass, hroom]
  rfl

/-- **Round trip.**  Every device is read back from the JSON it is written to. -/
theorem parse_toJson (device : Device) : parse device.toJson = .ok (some device) := by
  have hparse := parseAs_toJson device
  obtain ⟨uuid, deviceType, deviceClass, bluetoothMac, roomId⟩ := device
  cases deviceType with
  | static =>
      change some <$> parseAs .static _ = _
      rw [hparse]
      rfl
  | dynamic =>
      change some <$> parseAs .dynamic _ = _
      rw [hparse]
      rfl

/-- The class of a parsed device was parsed from the member `cl`. -/
theorem parseAs_eq_ok {deviceType : DeviceType} {json : Json} {device : Device}
    (h : parseAs deviceType json = .ok device) :
    ∃ cl, json.index "cl" = .ok cl ∧ DeviceClass.parse cl = .ok (some device.deviceClass) := by
  simp only [parseAs, JsonM.bind_eq_ok_iff] at h
  obtain ⟨-, -, uuid, -, cl, hcl, deviceClass, hclass, -, -, bluetoothMac, -, -, -, roomId, -,
    hmake⟩ := h
  cases deviceClass with
  | none => cases hmake
  | some deviceClass =>
      injection hmake with hmake
      subst hmake
      exact ⟨cl, hcl, hclass⟩

theorem parse_eq_ok_some {json : Json} {device : Device}
    (h : parse json = .ok (some device)) :
    ∃ cl, json.index "cl" = .ok cl ∧ DeviceClass.parse cl = .ok (some device.deviceClass) := by
  simp only [parse, JsonM.bind_eq_ok_iff] at h
  obtain ⟨-, -, deviceType, -, hdevice⟩ := h
  split at hdevice
  · obtain ⟨parsed, hparsed, heq⟩ := JsonM.map_eq_ok_iff.mp hdevice
    cases heq
    exact parseAs_eq_ok hparsed
  · split at hdevice
    · obtain ⟨parsed, hparsed, heq⟩ := JsonM.map_eq_ok_iff.mp hdevice
      cases heq
      exact parseAs_eq_ok hparsed
    · cases hdevice

end Device

end DevMgmt
end FireEvacuation
