import FireEvacuation.Redis.WriteReadBack
import FireEvacuation.Server.GenericResource

/-!
# The map `Post` writes for a device

`Post` reads the sensor of a class 2 device from the JSON text again.  For a text
`Device::parse` has accepted this always succeeds and finds the sensor of the
device, so the map depends on the device only.  With this the question whether a
written device can be read back becomes a question about the device's texts.
-/

namespace FireEvacuation
namespace Server

open FireEvacuation.Core Platform Redis DevMgmt

/-- The sensor `Post` writes: that of a class 2 device. -/
def writtenSensor (deviceClass : DeviceClass) : Option (String × String) :=
  if deviceClass.getClassId = 2 then deviceClass.getSensor else none

/-- The map with the two fields of a sensor. -/
def withSensor (sensor : Option (String × String)) (entries : StringMap) : StringMap :=
  match sensor with
  | none => entries
  | some (sensorType, sensorValue) =>
      (entries.insertIfNew "st" sensorType).insertIfNew "sv" sensorValue

/-- The map `Post` fills for the device. -/
def postedEntries (device : Device) : StringMap :=
  withSensor (writtenSensor device.deviceClass) (baseEntries device)

/-- The fields a device has: those of its sensor as well, for both classes which
carry one.  This is what its hash is for. -/
def deviceEntries (device : Device) : StringMap :=
  withSensor device.deviceClass.getSensor (baseEntries device)

/-- Reading the text twice gives one device. -/
theorem entriesInfo_of_parse {json : Json} {device : Device}
    (h : Device.parse json = .ok (some device)) :
    entriesInfo json device = .ok (postedEntries device) := by
  obtain ⟨cl, hcl, hclass⟩ := Device.parse_eq_ok_some h
  cases hdevice : device.deviceClass with
  | class3 alert alive =>
      simp [entriesInfo, postedEntries, withSensor, writtenSensor, hdevice,
        DeviceClass.getClassId]
      rfl
  | class2 alert alive sensorType sensorValue =>
      rw [hdevice] at hclass
      obtain ⟨htype, hvalue⟩ := DeviceClass.index_of_parse_class2 hclass
      simp only [entriesInfo, postedEntries, withSensor, writtenSensor, hdevice,
        DeviceClass.getClassId, DeviceClass.getSensor, if_true, sensorEntries, hcl, htype,
        hvalue, Json.getString, bind, Except.bind]
      rfl
  | class1 alert alive sensorType sensorValue =>
      simp [entriesInfo, postedEntries, withSensor, writtenSensor, hdevice,
        DeviceClass.getClassId]
      rfl

theorem getElem?_baseEntries (device : Device) (k : String) :
    (baseEntries device)[k]? =
      if k = "id" then some device.uuid
      else if k = "bm" then some device.bluetoothMac
      else if k = "dt" then some device.getDeviceType
      else if k = "ci" then some (toString device.deviceClass.getClassId)
      else if k = "ar" then some (streamBool device.deviceClass.getAlertState)
      else if k = "al" then some (streamBool device.deviceClass.getAliveState)
      else none := by
  simp only [baseEntries, Std.ExtTreeMap.getElem?_insertIfNew, Std.compare_eq_iff_eq,
    Std.ExtTreeMap.mem_insertIfNew]
  simp only [String.reduceEq, Std.ExtTreeMap.not_mem_empty, or_self, not_false_eq_true,
    and_true, eq_comm (b := k), Std.ExtTreeMap.getElem?_empty]
  by_cases hid : k = "id"
  · subst hid
    simp
  · by_cases hbm : k = "bm"
    · subst hbm
      simp
    · by_cases hdt : k = "dt"
      · subst hdt
        simp
      · by_cases hci : k = "ci"
        · subst hci
          simp
        · by_cases har : k = "ar"
          · subst har
            simp
          · simp [hid, hbm, hdt, hci, har]

/-- The fields of a device with a given sensor, one by one. -/
theorem getElem?_withSensor (sensor : Option (String × String)) (device : Device)
    (k : String) :
    (withSensor sensor (baseEntries device))[k]? =
      if k = "st" then sensor.map Prod.fst
      else if k = "sv" then sensor.map Prod.snd
      else (baseEntries device)[k]? := by
  have hbase := getElem?_baseEntries device
  cases sensor with
  | none =>
      rw [withSensor]
      by_cases hst : k = "st"
      · subst hst
        simp [hbase]
      · by_cases hsv : k = "sv"
        · subst hsv
          simp [hbase]
        · simp [hst, hsv]
  | some sensor =>
      obtain ⟨sensorType, sensorValue⟩ := sensor
      rw [withSensor]
      have hmem : ∀ k : String, k ∈ baseEntries device ↔ (baseEntries device)[k]?.isSome := by
        intro k
        exact Std.ExtTreeMap.mem_iff_isSome_getElem?
      simp only [Std.ExtTreeMap.getElem?_insertIfNew, Std.compare_eq_iff_eq,
        Std.ExtTreeMap.mem_insertIfNew, hmem, hbase "st", hbase "sv", String.reduceEq,
        if_false, Option.isSome_none, Bool.false_eq_true, or_self, not_false_eq_true, and_true,
        eq_comm (b := k), Option.map_some]
      by_cases hst : k = "st"
      · subst hst
        simp
      · simp [hst]

theorem getElem?_postedEntries (device : Device) (k : String) :
    (postedEntries device)[k]? =
      if k = "st" then (writtenSensor device.deviceClass).map Prod.fst
      else if k = "sv" then (writtenSensor device.deviceClass).map Prod.snd
      else (baseEntries device)[k]? :=
  getElem?_withSensor (writtenSensor device.deviceClass) device k

theorem getElem?_deviceEntries (device : Device) (k : String) :
    (deviceEntries device)[k]? =
      if k = "st" then device.deviceClass.getSensor.map Prod.fst
      else if k = "sv" then device.deviceClass.getSensor.map Prod.snd
      else (baseEntries device)[k]? :=
  getElem?_withSensor device.deviceClass.getSensor device k

/-- What `Post` writes are fields of the device. -/
theorem deviceEntries_of_postedEntries {device : Device} {k v : String}
    (h : (postedEntries device)[k]? = some v) : (deviceEntries device)[k]? = some v := by
  rw [getElem?_postedEntries] at h
  rw [getElem?_deviceEntries]
  by_cases hclass : device.deviceClass.getClassId = 2
  · rw [writtenSensor, if_pos hclass] at h
    exact h
  · rw [writtenSensor, if_neg hclass, Option.map_none, Option.map_none] at h
    by_cases hst : k = "st"
    · rw [if_pos hst] at h
      cases h
    · by_cases hsv : k = "sv"
      · rw [if_neg hst, if_pos hsv] at h
        cases h
      · rw [if_neg hst, if_neg hsv] at h ⊢
        exact h

theorem postedEntries_ne_empty (device : Device) : postedEntries device ≠ ∅ := by
  intro hempty
  have hid := getElem?_postedEntries device "id"
  rw [hempty, getElem?_baseEntries, Std.ExtTreeMap.getElem?_empty] at hid
  simp at hid

theorem deviceEntries_id (device : Device) : (deviceEntries device)["id"]? = some device.uuid := by
  rw [getElem?_deviceEntries, getElem?_baseEntries]
  simp

/-- The names `Post` uses are words hiredis copies unchanged. -/
theorem plainNames_postedEntries (device : Device) :
    RedisDb.PlainNames (postedEntries device) := by
  intro f v h
  have hname : f ∈ ["st", "sv", "id", "bm", "dt", "ci", "ar", "al"] := by
    by_contra hnot
    simp only [List.mem_cons, List.not_mem_nil, or_false, not_or] at hnot
    rw [getElem?_postedEntries, getElem?_baseEntries] at h
    simp [hnot] at h
  simp only [List.mem_cons, List.not_mem_nil, or_false] at hname
  obtain rfl | rfl | rfl | rfl | rfl | rfl | rfl | rfl := hname <;>
    exact ⟨⟨by decide, by decide, by decide⟩, by decide⟩

/-! ## Reading a posted device back -/

/-- **Write and read back.**  For the map `Post` makes of an accepted text, on every
store and for every key, `setEntries` keeps its promise exactly when the write
condition holds. -/
theorem setEntries_writesBack_iff (rejects : List Char → Bool) (link : Link) (store : Store)
    (key : CString) {json : Json} {device : Device} {entries : StringMap}
    (hparse : Device.parse json = .ok (some device))
    (hentries : entriesInfo json device = .ok entries) :
    RedisDb.WritesBack rejects link store key entries ↔
      RedisDb.WriteCondition rejects store key entries link := by
  rw [entriesInfo_of_parse hparse] at hentries
  injection hentries with hposted
  have hne : entries ≠ ∅ := hposted ▸ postedEntries_ne_empty device
  have hnames : RedisDb.PlainNames entries := hposted ▸ plainNames_postedEntries device
  constructor
  · exact RedisDb.writeCondition_of_writesBack hne hnames
  · exact RedisDb.writesBack_of_writeCondition hne

/-- A static class 3 device. -/
def smokeDetector (bluetoothMac : String) : Device where
  uuid := "u"
  deviceType := .static
  deviceClass := .class3 false true
  bluetoothMac := bluetoothMac
  roomId := 0

theorem setEntries_writesBack_iff_smokeDetector :
    RedisDb.WritesBack (fun _ => true) .up RedisDb.emptyStore (cStr "u")
        (postedEntries (smokeDetector "m")) ↔
      RedisDb.WriteCondition (fun _ => true) RedisDb.emptyStore (cStr "u")
        (postedEntries (smokeDetector "m")) .up :=
  setEntries_writesBack_iff (fun _ => true) .up RedisDb.emptyStore (cStr "u")
    (Device.parse_toJson (smokeDetector "m"))
    (entriesInfo_of_parse (Device.parse_toJson (smokeDetector "m")))

/-- The command for a device with an empty address, as hiredis splits it. -/
theorem format_blank_mac :
    redisvFormatCommand (fun _ => true)
        (cStr (RedisDb.entriesCommand (cStr "u") (postedEntries (smokeDetector "")))) [] =
      .args ["HMSET", "u", "al", "1", "ar", "0", "bm", "ci", "3", "dt", "s", "id", "u"] := by
  have hcommand : RedisDb.entriesCommand (cStr "u") (postedEntries (smokeDetector "")) =
      "HMSET u al 1 ar 0 bm  ci 3 dt s id u" := rfl
  rw [hcommand, redisvFormatCommand, cStr_text_of_noNul (by decide)]
  simp [formatLoop]

/-- A device with an empty Bluetooth address is accepted by the parser, but its map
is not written: one argument is missing, Redis answers with an error, and the call
returns as if all was well. -/
theorem blank_mac_not_written_back :
    Device.parse (smokeDetector "").toJson = .ok (some (smokeDetector "")) ∧
      entriesInfo (smokeDetector "").toJson (smokeDetector "") =
        .ok (postedEntries (smokeDetector "")) ∧
      RedisDb.setEntries (fun _ => true) .up (cStr "u") (postedEntries (smokeDetector ""))
        RedisDb.emptyStore = .ok () RedisDb.emptyStore ∧
      ¬RedisDb.WritesBack (fun _ => true) .up RedisDb.emptyStore (cStr "u")
        (postedEntries (smokeDetector "")) := by
  have hset : RedisDb.setEntries (fun _ => true) .up (cStr "u")
      (postedEntries (smokeDetector "")) RedisDb.emptyStore = .ok () RedisDb.emptyStore :=
    RedisDb.setEntries_up format_blank_mac RedisDb.emptyStore
  refine ⟨Device.parse_toJson _, entriesInfo_of_parse (Device.parse_toJson _), hset, ?_⟩
  rw [RedisDb.writesBack_of_ok_iff hset, RedisDb.overlay_emptyStore,
    RedisDb.getEntries_emptyStore]
  rintro ⟨hread, -⟩
  injection hread with hempty
  exact postedEntries_ne_empty _ hempty.symm

end Server
end FireEvacuation
