import FireEvacuation.DevMgmt.Json

/-!
# Device classes

A device is of class 1, 2 or 3.  Every class has an alert and an alive state;
classes 1 and 2 carry a sensor as well.  The class number is not stored: it is
determined by the constructor, as the source's constructors set it once.
-/

namespace FireEvacuation
namespace DevMgmt

open FireEvacuation.Core Platform

/-- `DeviceClass` with its subclasses. -/
inductive DeviceClass where
  | class3 (alertState aliveState : Bool)
  | class2 (alertState aliveState : Bool) (sensorType sensorValue : String)
  | class1 (alertState aliveState : Bool) (sensorType sensorValue : String)
  deriving DecidableEq, Repr

namespace DeviceClass

/-- The names of the members of a class in JSON. -/
inductive JsonEnum where
  | classId
  | alertState
  | aliveState
  | sensorType
  | sensorValue

def getJsonKey : JsonEnum → String
  | .classId => "ci"
  | .alertState => "ar"
  | .aliveState => "al"
  | .sensorType => "st"
  | .sensorValue => "sv"

def getClassId : DeviceClass → UInt32
  | class3 .. => 3
  | class2 .. => 2
  | class1 .. => 1

def getAlertState : DeviceClass → Bool
  | class3 alertState _ => alertState
  | class2 alertState _ _ _ => alertState
  | class1 alertState _ _ _ => alertState

def getAliveState : DeviceClass → Bool
  | class3 _ aliveState => aliveState
  | class2 _ aliveState _ _ => aliveState
  | class1 _ aliveState _ _ => aliveState

/-- The sensor type and the sensor value, for the classes which have them. -/
def getSensor : DeviceClass → Option (String × String)
  | class3 .. => none
  | class2 _ _ sensorType sensorValue => some (sensorType, sensorValue)
  | class1 _ _ sensorType sensorValue => some (sensorType, sensorValue)

/-- `DeviceClass3::parse`. -/
def parseClass3 (json : Json) : JsonM DeviceClass := do
  let alert ← json.index (getJsonKey .alertState)
  let alive ← json.index (getJsonKey .aliveState)
  pure (class3 alert.notZero alive.notZero)

/-- `DeviceClass2::parse` and `DeviceClass1::parse` read the same members. -/
def parseSensorClass (make : Bool → Bool → String → String → DeviceClass) (json : Json) :
    JsonM DeviceClass := do
  let alert ← json.index (getJsonKey .alertState)
  let alive ← json.index (getJsonKey .aliveState)
  let sensorType ← (← json.index (getJsonKey .sensorType)).getString
  let sensorValue ← (← json.index (getJsonKey .sensorValue)).getString
  pure (make alert.notZero alive.notZero sensorType sensorValue)

def parseClass2 : Json → JsonM DeviceClass := parseSensorClass class2

def parseClass1 : Json → JsonM DeviceClass := parseSensorClass class1

/-- `DeviceClass::parse`: a null pointer for an unknown class number. -/
def parse (json : Json) : JsonM (Option DeviceClass) := do
  let classId ← (← json.index (getJsonKey .classId)).getUInt32
  if classId = 1 then some <$> parseClass1 json
  else if classId = 2 then some <$> parseClass2 json
  else if classId = 3 then some <$> parseClass3 json
  else pure none

/-- `toJson`. -/
def toJson (deviceClass : DeviceClass) : Json :=
  .object ([(getJsonKey .classId, Json.ofUInt32 deviceClass.getClassId),
      (getJsonKey .alertState, Json.ofBool deviceClass.getAlertState),
      (getJsonKey .aliveState, Json.ofBool deviceClass.getAliveState)] ++
    match deviceClass.getSensor with
    | none => []
    | some (sensorType, sensorValue) =>
        [(getJsonKey .sensorType, .string sensorType),
          (getJsonKey .sensorValue, .string sensorValue)])

/-- What a class writes out, it reads back. -/
theorem parse_toJson (deviceClass : DeviceClass) :
    parse deviceClass.toJson = .ok (some deviceClass) := by
  cases deviceClass with
  | class3 alertState aliveState => cases alertState <;> cases aliveState <;> rfl
  | class2 alertState aliveState sensorType sensorValue =>
      cases alertState <;> cases aliveState <;> rfl
  | class1 alertState aliveState sensorType sensorValue =>
      cases alertState <;> cases aliveState <;> rfl

/-- What a sensor class is made from. -/
theorem parseSensorClass_eq_ok {make : Bool → Bool → String → String → DeviceClass}
    {json : Json} {deviceClass : DeviceClass}
    (h : parseSensorClass make json = .ok deviceClass) :
    ∃ alert alive sensorType sensorValue,
      deviceClass = make alert alive sensorType sensorValue ∧
      json.index "st" = .ok (.string sensorType) ∧
      json.index "sv" = .ok (.string sensorValue) := by
  simp only [parseSensorClass, JsonM.bind_eq_ok_iff, Json.getString_eq_ok_iff] at h
  obtain ⟨alert, -, alive, -, type, htype, sensorType, rfl, value, hvalue, sensorValue, rfl,
    hmake⟩ := h
  injection hmake with hmake
  exact ⟨alert.notZero, alive.notZero, sensorType, sensorValue, hmake.symm, htype, hvalue⟩

theorem parseClass3_eq_ok {json : Json} {deviceClass : DeviceClass}
    (h : parseClass3 json = .ok deviceClass) :
    ∃ alert alive, deviceClass = class3 alert alive := by
  simp only [parseClass3, JsonM.bind_eq_ok_iff] at h
  obtain ⟨alert, -, alive, -, hmake⟩ := h
  injection hmake with hmake
  exact ⟨alert.notZero, alive.notZero, hmake.symm⟩

/-- The sensor of a class 2 device can be read from the JSON value once more. -/
theorem index_of_parse_class2 {json : Json} {alert alive : Bool}
    {sensorType sensorValue : String}
    (h : parse json = .ok (some (class2 alert alive sensorType sensorValue))) :
    json.index "st" = .ok (.string sensorType) ∧
      json.index "sv" = .ok (.string sensorValue) := by
  simp only [parse, JsonM.bind_eq_ok_iff] at h
  obtain ⟨-, -, classId, -, hclass⟩ := h
  split at hclass
  · obtain ⟨parsed, hparsed, heq⟩ := JsonM.map_eq_ok_iff.mp hclass
    obtain ⟨alert', alive', sensorType', sensorValue', rfl, -⟩ := parseSensorClass_eq_ok hparsed
    cases heq
  · split at hclass
    · obtain ⟨parsed, hparsed, heq⟩ := JsonM.map_eq_ok_iff.mp hclass
      obtain ⟨alert', alive', sensorType', sensorValue', rfl, htype, hvalue⟩ :=
        parseSensorClass_eq_ok hparsed
      cases heq
      exact ⟨htype, hvalue⟩
    · split at hclass
      · obtain ⟨parsed, hparsed, heq⟩ := JsonM.map_eq_ok_iff.mp hclass
        obtain ⟨alert', alive', rfl⟩ := parseClass3_eq_ok hparsed
        cases heq
      · cases hclass

end DeviceClass

end DevMgmt
end FireEvacuation
