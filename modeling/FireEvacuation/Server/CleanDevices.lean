import FireEvacuation.Server.RequestHandling

/-!
# Devices whose texts pass through unharmed

A text is clean when it is not empty and has no space and no percent sign.  For a
device with clean texts the command for its hash addresses the key of its uuid, and
it is the whole map which is written, unless one of the texts has a terminator
inside: the command ends there.
-/

namespace FireEvacuation
namespace Server

open FireEvacuation.Core Platform Redis DevMgmt

/-- Not empty, without spaces and percent signs. -/
structure CleanText (text : String) : Prop where
  nonempty : text.toList ≠ []
  noSpace : ' ' ∉ text.toList
  noPercent : '%' ∉ text.toList

/-- The texts a device is free to choose. -/
def deviceTexts (device : Device) : List String :=
  device.uuid :: device.bluetoothMac ::
    match device.deviceClass.getSensor with
    | none => []
    | some (sensorType, sensorValue) => [sensorType, sensorValue]

/-- All texts of the device are clean. -/
def CleanDevice (device : Device) : Prop := ∀ text ∈ deviceTexts device, CleanText text

/-- No text of the device has a terminator inside. -/
def NulFreeDevice (device : Device) : Prop := ∀ text ∈ deviceTexts device, nul ∉ text.toList

theorem CleanText.argWord {text : String} (h : CleanText text) (hnul : nul ∉ text.toList) :
    ArgWord text :=
  ⟨h.nonempty, h.noSpace, hnul⟩

theorem CleanDevice.uuid {device : Device} (h : CleanDevice device) : CleanText device.uuid :=
  h device.uuid List.mem_cons_self

theorem NulFreeDevice.uuid {device : Device} (h : NulFreeDevice device) :
    nul ∉ device.uuid.toList :=
  h device.uuid List.mem_cons_self

/-- The texts `Post` adds of its own: the field names and the encoded values. -/
def fixedTexts : List String :=
  ["id", "bm", "dt", "ci", "ar", "al", "st", "sv", "s", "d", "0", "1", "2", "3"]

theorem clean_of_mem_fixedTexts {text : String} (h : text ∈ fixedTexts) : CleanText text := by
  simp only [fixedTexts, List.mem_cons, List.not_mem_nil, or_false] at h
  obtain rfl | rfl | rfl | rfl | rfl | rfl | rfl | rfl | rfl | rfl | rfl | rfl | rfl | rfl :=
    h <;> constructor <;> decide

theorem nul_of_mem_fixedTexts {text : String} (h : text ∈ fixedTexts) : nul ∉ text.toList := by
  simp only [fixedTexts, List.mem_cons, List.not_mem_nil, or_false] at h
  obtain rfl | rfl | rfl | rfl | rfl | rfl | rfl | rfl | rfl | rfl | rfl | rfl | rfl | rfl :=
    h <;> decide

theorem streamBool_mem_fixedTexts (value : Bool) : streamBool value ∈ fixedTexts := by
  cases value <;> decide

theorem deviceType_mem_fixedTexts (device : Device) : device.getDeviceType ∈ fixedTexts := by
  rw [Device.getDeviceType]
  cases device.deviceType <;> decide

theorem classId_mem_fixedTexts (deviceClass : DeviceClass) :
    toString deviceClass.getClassId ∈ fixedTexts := by
  have hthree : toString (3 : UInt32) ∈ fixedTexts := by decide
  have htwo : toString (2 : UInt32) ∈ fixedTexts := by decide
  have hone : toString (1 : UInt32) ∈ fixedTexts := by decide
  cases deviceClass with
  | class3 => exact hthree
  | class2 => exact htwo
  | class1 => exact hone

/-- The written sensor is a sensor of the device. -/
theorem writtenSensor_eq_some {deviceClass : DeviceClass} {sensor : String × String}
    (h : writtenSensor deviceClass = some sensor) : deviceClass.getSensor = some sensor := by
  rw [writtenSensor] at h
  split at h
  · exact h
  · cases h

/-- Every text of a map with the device's fields is fixed or the device's own. -/
theorem withSensor_texts {device : Device} {sensor : Option (String × String)} {k v : String}
    (hsensor : ∀ s, sensor = some s → device.deviceClass.getSensor = some s)
    (h : (withSensor sensor (baseEntries device))[k]? = some v) :
    k ∈ fixedTexts ∧ (v ∈ fixedTexts ∨ v ∈ deviceTexts device) := by
  have hown : ∀ s, sensor = some s → s.1 ∈ deviceTexts device ∧ s.2 ∈ deviceTexts device := by
    intro s hs
    rw [deviceTexts, hsensor s hs]
    simp
  -- one field after the other: `st` and `sv`, then those of the base
  rw [getElem?_withSensor] at h
  split at h
  · rename_i hk
    subst hk
    obtain ⟨s, hs, rfl⟩ := Option.map_eq_some_iff.mp h
    exact ⟨by decide, Or.inr (hown s hs).1⟩
  · split at h
    · rename_i hk
      subst hk
      obtain ⟨s, hs, rfl⟩ := Option.map_eq_some_iff.mp h
      exact ⟨by decide, Or.inr (hown s hs).2⟩
    · rw [getElem?_baseEntries] at h
      split at h
      · rename_i hk
        cases h
        subst hk
        exact ⟨by decide, Or.inr List.mem_cons_self⟩
      · split at h
        · rename_i hk
          cases h
          subst hk
          exact ⟨by decide, Or.inr (List.mem_cons_of_mem _ List.mem_cons_self)⟩
        · split at h
          · rename_i hk
            cases h
            subst hk
            exact ⟨by decide, Or.inl (deviceType_mem_fixedTexts device)⟩
          · split at h
            · rename_i hk
              cases h
              subst hk
              exact ⟨by decide, Or.inl (classId_mem_fixedTexts _)⟩
            · split at h
              · rename_i hk
                cases h
                subst hk
                exact ⟨by decide, Or.inl (streamBool_mem_fixedTexts _)⟩
              · split at h
                · rename_i hk
                  cases h
                  subst hk
                  exact ⟨by decide, Or.inl (streamBool_mem_fixedTexts _)⟩
                · cases h

/-- Every word of a map is a field name or a value of it. -/
theorem mem_flattenPairs_toList {entries : StringMap} {w : String}
    (h : w ∈ flattenPairs entries.toList) :
    ∃ k v, entries[k]? = some v ∧ (w = k ∨ w = v) := by
  rw [flattenPairs, List.mem_flatMap] at h
  obtain ⟨⟨k, v⟩, hmem, hw⟩ := h
  refine ⟨k, v, Std.ExtTreeMap.mem_toList_iff_getElem?_eq_some.mp hmem, ?_⟩
  simpa only [List.mem_cons, List.not_mem_nil, or_false] using hw

theorem posted_word {device : Device} {w : String}
    (h : w ∈ flattenPairs (postedEntries device).toList) :
    w ∈ fixedTexts ∨ w ∈ deviceTexts device := by
  obtain ⟨k, v, hkv, rfl | rfl⟩ := mem_flattenPairs_toList h
  · exact Or.inl (withSensor_texts (fun _ => writtenSensor_eq_some) hkv).1
  · exact (withSensor_texts (fun _ => writtenSensor_eq_some) hkv).2

/-! ## The words which arrive -/

/-- The words of a command which arrive: those up to the first terminator, less the empty
ones. -/
def arrivingWords (ws : List String) : List String :=
  ((cutWords (ws.map String.toList)).filter fun w => !w.isEmpty).map String.ofList

theorem arrivingWords_cons {w : String} (h : ArgWord w) (ws : List String) :
    arrivingWords (w :: ws) = w :: arrivingWords ws := by
  have hne : (!w.toList.isEmpty) = true := by
    rw [Bool.not_eq_true', List.isEmpty_eq_false_iff]
    exact h.nonempty
  rw [arrivingWords, List.map_cons, cutWords, if_neg h.noNul, List.filter_cons, if_pos hne,
    List.map_cons, String.ofList_toList]
  rfl

theorem arrivingWords_eq_self {ws : List String} (h : ∀ w ∈ ws, ArgWord w) :
    arrivingWords ws = ws := by
  induction ws with
  | nil => rfl
  | cons w ws ih =>
      rw [arrivingWords_cons (h w List.mem_cons_self),
        ih fun u hu => h u (List.mem_cons_of_mem w hu)]

theorem plainText_of_mem_cutWords {ws : List (List Char)} (h : ∀ w ∈ ws, PlainText w) :
    ∀ w ∈ cutWords ws, PlainText w := by
  induction ws with
  | nil => exact fun w hw => by cases hw
  | cons v ws ih =>
      obtain ⟨hpct, hsp⟩ := h v List.mem_cons_self
      intro w hw
      rw [cutWords] at hw
      split at hw
      · rw [List.mem_singleton] at hw
        subst hw
        have hsub := (List.takeWhile_sublist (l := v) (· ≠ nul)).subset
        exact ⟨fun hc => hpct (hsub hc), fun hc => hsp (hsub hc)⟩
      · rw [List.mem_cons] at hw
        cases hw with
        | inl heq => exact heq ▸ ⟨hpct, hsp⟩
        | inr hrest => exact ih (fun u hu => h u (List.mem_cons_of_mem v hu)) w hrest

/-- How a command with plain texts is split, terminators or not. -/
theorem format_of_plainText {rejects : List Char → Bool} {key : CString} {entries : StringMap}
    (h : ∀ w ∈ key.text :: flattenPairs entries.toList, PlainText w.toList) :
    redisvFormatCommand rejects (cStr (RedisDb.entriesCommand key entries)) [] =
      .args ("HMSET" :: arrivingWords (key.text :: flattenPairs entries.toList)) := by
  have hwords : ∀ w ∈ (RedisDb.commandWords key entries).map String.toList, PlainText w := by
    intro w hw
    obtain ⟨u, hu, rfl⟩ := List.mem_map.mp hw
    rw [RedisDb.commandWords, List.mem_cons] at hu
    cases hu with
    | inl hfirst => exact hfirst ▸ ⟨by decide, by decide⟩
    | inr hrest => exact h u hrest
  rw [redisvFormatCommand, toList_cStr, RedisDb.toList_entriesCommand, takeWhile_joinWords,
    formatLoop_words (plainText_of_mem_cutWords hwords), List.nil_append,
    ← arrivingWords_cons RedisDb.argWord_hmset]
  rfl

theorem clean_words {device : Device} (h : CleanDevice device) :
    ∀ w ∈ flattenPairs (postedEntries device).toList, CleanText w := by
  intro w hw
  cases posted_word hw with
  | inl hfixed => exact clean_of_mem_fixedTexts hfixed
  | inr hown => exact h w hown

theorem CleanText.plainText {text : String} (h : CleanText text) : PlainText text.toList :=
  ⟨h.noPercent, h.noSpace⟩

/-- The command for the hash of a clean device, whatever is left of its uuid. -/
theorem sentCommand_clean (externals : Externals) {device : Device} (h : CleanDevice device) :
    sentCommand externals device = .args ("HMSET" ::
      arrivingWords ((cStr device.uuid).text :: flattenPairs (postedEntries device).toList)) := by
  apply format_of_plainText
  intro w hw
  rw [List.mem_cons] at hw
  cases hw with
  | inl hkey =>
      obtain ⟨hpct, hsp⟩ := h.uuid.plainText
      have hsub := (List.takeWhile_sublist (l := device.uuid.toList) (· ≠ nul)).subset
      rw [hkey, toList_cStr]
      exact ⟨fun hc => hpct (hsub hc), fun hc => hsp (hsub hc)⟩
  | inr hfield => exact (clean_words h w hfield).plainText

/-- Without a percent sign in its texts a command never misses an argument. -/
theorem sentCommand_ne_undefined {externals : Externals} {device : Device}
    (h : CleanDevice device) : sentCommand externals device ≠ .undefined := by
  rw [sentCommand_clean externals h]
  exact nofun

/-- The command reaches the key of the uuid when this has no terminator. -/
theorem sentCommand_clean_key (externals : Externals) {device : Device} (h : CleanDevice device)
    (hnul : nul ∉ device.uuid.toList) :
    sentCommand externals device = .args ("HMSET" :: device.uuid ::
      arrivingWords (flattenPairs (postedEntries device).toList)) := by
  rw [sentCommand_clean externals h, cStr_text_of_noNul hnul,
    arrivingWords_cons (h.uuid.argWord hnul)]

/-- Without terminators it is the whole map which arrives. -/
theorem sentCommand_nulFree {externals : Externals} {device : Device}
    (h : CleanDevice device) (hnul : NulFreeDevice device) :
    sentCommand externals device =
      .args ("HMSET" :: device.uuid :: flattenPairs (postedEntries device).toList) := by
  rw [sentCommand_clean_key externals h hnul.uuid, arrivingWords_eq_self]
  intro w hw
  refine (clean_words h w hw).argWord ?_
  cases posted_word hw with
  | inl hfixed => exact nul_of_mem_fixedTexts hfixed
  | inr hown => exact hnul w hown

/-- The command which marks a clean uuid as not alive arrives whole. -/
theorem aliveCommand_clean {externals : Externals} {uuid : String} (h : CleanText uuid)
    (hnul : nul ∉ uuid.toList) :
    aliveCommand externals uuid = .args ["HMSET", uuid, "al", "0"] := by
  have hlist : flattenPairs notAlive.toList = ["al", "0"] := rfl
  have hwords : ∀ w ∈ [uuid, "al", "0"], CleanText w ∧ nul ∉ w.toList := by
    intro w hw
    rw [List.mem_cons] at hw
    cases hw with
    | inl huuid => exact huuid ▸ ⟨h, hnul⟩
    | inr hfixed =>
        have hmem : w ∈ fixedTexts := by
          simp only [List.mem_cons, List.not_mem_nil, or_false] at hfixed
          obtain rfl | rfl := hfixed <;> decide
        exact ⟨clean_of_mem_fixedTexts hmem, nul_of_mem_fixedTexts hmem⟩
  rw [aliveCommand, format_of_plainText, cStr_text_of_noNul hnul, hlist,
    arrivingWords_eq_self fun w hw => (hwords w hw).1.argWord (hwords w hw).2]
  rw [cStr_text_of_noNul hnul, hlist]
  exact fun w hw => (hwords w hw).1.plainText

end Server
end FireEvacuation
