import FireEvacuation.Server.CleanDevices

/-!
# What a post writes, by the texts of the device

The command for the hash of a device ends at the first terminator in its texts.  The fields
are written in the order of their names, so an address with a terminator costs everything
behind it, and when nothing is left of the last value Redis refuses the command.
-/

namespace FireEvacuation
namespace Server

open FireEvacuation.Core Platform Redis DevMgmt

/-! ## The pairs which arrive -/

/-- What arrives of the last word, if anything does. -/
def arrivingText (text : String) : Option String :=
  if (cStr text).text = "" then none else some (cStr text).text

/-- The pairs of a map which arrive, up to the first value with a terminator.  If nothing is
left of this value its name has none, and the words are no pairs. -/
def arrivingPairs : List (String × String) → Option (List (String × String))
  | [] => some []
  | (name, value) :: rest =>
      if nul ∈ value.toList then (arrivingText value).map fun kept => [(name, kept)]
      else (arrivingPairs rest).map ((name, value) :: ·)

theorem noNul_arrivingText {text kept : String} (h : arrivingText text = some kept) :
    nul ∉ kept.toList := by
  rw [arrivingText] at h
  split at h
  · cases h
  · cases h
    exact (cStr text).noNul

theorem arrivingText_of_noNul {text : String} (h : CleanText text) (hnul : nul ∉ text.toList) :
    arrivingText text = some text := by
  have hne : text ≠ "" := fun heq => h.nonempty (String.toList_eq_nil_iff.mpr heq)
  rw [arrivingText, cStr_text_of_noNul hnul, if_neg hne]

/-- A word with a terminator is the last one. -/
theorem arrivingWords_cut {w : String} (h : nul ∈ w.toList) (ws : List String) :
    arrivingWords (w :: ws) = (arrivingText w).toList := by
  rw [arrivingWords, List.map_cons, cutWords, if_pos h, arrivingText, ← toList_cStr]
  by_cases hempty : (cStr w).text = ""
  · rw [if_pos hempty, hempty]
    rfl
  · have hne : (!(cStr w).text.toList.isEmpty) = true := by
      rw [Bool.not_eq_true', List.isEmpty_eq_false_iff]
      intro hnil
      exact hempty (String.toList_eq_nil_iff.mp hnil)
    rw [if_neg hempty, List.filter_singleton, hne, cond_true, List.map_singleton,
      String.ofList_toList]
    rfl

/-- The words are the pairs, or one word is left over. -/
theorem arrivingWords_flattenPairs {pairs : List (String × String)}
    (hname : ∀ pair ∈ pairs, ArgWord pair.1) (hvalue : ∀ pair ∈ pairs, CleanText pair.2) :
    match arrivingPairs pairs with
    | some kept => arrivingWords (flattenPairs pairs) = flattenPairs kept
    | none => (arrivingWords (flattenPairs pairs)).length % 2 = 1 := by
  induction pairs with
  | nil => rfl
  | cons pair pairs ih =>
      obtain ⟨name, value⟩ := pair
      have hfirst : ArgWord name := hname (name, value) List.mem_cons_self
      have hclean : CleanText value := hvalue (name, value) List.mem_cons_self
      have hrest := ih (fun p hp => hname p (List.mem_cons_of_mem _ hp))
        fun p hp => hvalue p (List.mem_cons_of_mem _ hp)
      rw [arrivingPairs, flattenPairs_cons, arrivingWords_cons hfirst]
      by_cases hnul : nul ∈ value.toList
      · rw [if_pos hnul, arrivingWords_cut hnul]
        cases arrivingText value with
        | none => rfl
        | some kept => rfl
      · rw [if_neg hnul, arrivingWords_cons (hclean.argWord hnul)]
        cases harriving : arrivingPairs pairs with
        | none =>
            rw [harriving] at hrest
            dsimp only [Option.map_none] at hrest ⊢
            rw [List.length_cons, List.length_cons]
            omega
        | some kept =>
            rw [harriving] at hrest
            dsimp only [Option.map_some] at hrest ⊢
            rw [hrest, flattenPairs_cons]

/-- A pair which arrives has a name of the map and a value without a terminator. -/
theorem mem_arrivingPairs {pairs kept : List (String × String)}
    (h : arrivingPairs pairs = some kept) {pair : String × String} (hpair : pair ∈ kept) :
    pair.1 ∈ pairs.map Prod.fst ∧ nul ∉ pair.2.toList := by
  induction pairs generalizing kept with
  | nil =>
      cases h
      cases hpair
  | cons first pairs ih =>
      obtain ⟨name, value⟩ := first
      rw [arrivingPairs] at h
      split at h
      · obtain ⟨text, htext, rfl⟩ := Option.map_eq_some_iff.mp h
        rw [List.mem_singleton.mp hpair]
        exact ⟨List.mem_cons_self, noNul_arrivingText htext⟩
      · rename_i hnul
        obtain ⟨rest, hrest, rfl⟩ := Option.map_eq_some_iff.mp h
        rcases List.mem_cons.mp hpair with rfl | hmem
        · exact ⟨List.mem_cons_self, hnul⟩
        · obtain ⟨hname, hvalue⟩ := ih hrest hmem
          exact ⟨List.mem_cons_of_mem _ hname, hvalue⟩

/-! ## The fields of a device -/

/-- The pairs a post writes under its uuid. -/
def writtenPairs (device : Device) : List (String × String) :=
  (arrivingPairs (postedEntries device).toList).getD []

/-- The type of sensor a post writes, which is only done for class 2.  Nothing of the sensor
arrives after an address which is cut, and nothing at all when the value is cut to nothing. -/
def writtenType (device : Device) : Option String :=
  match writtenSensor device.deviceClass with
  | none => none
  | some (sensorType, sensorValue) =>
      if nul ∈ device.bluetoothMac.toList then none
      else if nul ∈ sensorType.toList then arrivingText sensorType
      else (arrivingText sensorValue).map fun _ => sensorType

/-- The value of the sensor a post writes. -/
def writtenValue (device : Device) : Option String :=
  match writtenSensor device.deviceClass with
  | none => none
  | some (sensorType, sensorValue) =>
      if nul ∈ device.bluetoothMac.toList ∨ nul ∈ sensorType.toList then none
      else arrivingText sensorValue

/-- The fields are listed by their names, those of the sensor after the others. -/
theorem postedEntries_toList (device : Device) :
    (postedEntries device).toList = (baseEntries device).toList ++
      match writtenSensor device.deviceClass with
      | none => []
      | some (sensorType, sensorValue) => [("st", sensorType), ("sv", sensorValue)] := by
  rw [postedEntries]
  cases writtenSensor device.deviceClass with
  | none => exact (List.append_nil _).symm
  | some sensor => rfl

theorem baseEntries_toList (device : Device) :
    (baseEntries device).toList =
      [("al", streamBool device.deviceClass.getAliveState),
        ("ar", streamBool device.deviceClass.getAlertState), ("bm", device.bluetoothMac),
        ("ci", toString device.deviceClass.getClassId), ("dt", device.getDeviceType),
        ("id", device.uuid)] := rfl

/-- What arrives of the fields: all of the base when the address is not cut. -/
theorem arrivingPairs_base {device : Device} (hnul : nul ∉ device.uuid.toList)
    (rest : List (String × String)) :
    arrivingPairs ((baseEntries device).toList ++ rest) =
      if nul ∈ device.bluetoothMac.toList then
        (arrivingText device.bluetoothMac).map fun kept =>
          [("al", streamBool device.deviceClass.getAliveState),
            ("ar", streamBool device.deviceClass.getAlertState), ("bm", kept)]
      else (arrivingPairs rest).map ((baseEntries device).toList ++ ·) := by
  have halive := nul_of_mem_fixedTexts
    (streamBool_mem_fixedTexts device.deviceClass.getAliveState)
  have halert := nul_of_mem_fixedTexts
    (streamBool_mem_fixedTexts device.deviceClass.getAlertState)
  have hclass := nul_of_mem_fixedTexts (classId_mem_fixedTexts device.deviceClass)
  have htype := nul_of_mem_fixedTexts (deviceType_mem_fixedTexts device)
  rw [baseEntries_toList]
  simp only [List.cons_append, List.nil_append, arrivingPairs, if_neg halive, if_neg halert,
    if_neg hclass, if_neg htype, if_neg hnul]
  split
  · cases arrivingText device.bluetoothMac <;> rfl
  · cases arrivingPairs rest <;> rfl

/-- The value of a field among pairs which are written one after the other. -/
theorem getElem?_pairs_cons (name value : String) (pairs : List (String × String))
    (field : String) :
    (insertPairs ∅ (flattenPairs ((name, value) :: pairs)))[field]? =
      (insertPairs ∅ (flattenPairs pairs))[field]?.or
        (if name = field then some value else none) := by
  rw [flattenPairs_cons, insertPairs, getElem?_insertPairs, Std.ExtTreeMap.getElem?_insert]
  simp only [Std.LawfulEqCmp.compare_eq_iff_eq, Std.ExtTreeMap.getElem?_empty]

theorem getElem?_pairs_nil (field : String) :
    (insertPairs ∅ (flattenPairs []))[field]? = none := Std.ExtTreeMap.getElem?_empty

/-- The fields of the base come before those of the sensor. -/
theorem getElem?_base_append {device : Device} {field : String}
    (h : (baseEntries device)[field]? = none) (pairs : List (String × String)) :
    (insertPairs ∅ (flattenPairs ((baseEntries device).toList ++ pairs)))[field]? =
      (insertPairs ∅ (flattenPairs pairs))[field]? := by
  have hbase : insertPairs ∅ (flattenPairs (baseEntries device).toList) = baseEntries device := by
    rw [insertPairs_toList, overlay_empty_left]
  rw [insertPairs_flattenPairs, Std.ExtTreeMap.insertMany_append, ← insertPairs_flattenPairs,
    ← insertPairs_flattenPairs, hbase, getElem?_insertPairs, h, Option.or_none]

/-- The same, for pairs of which nothing may arrive. -/
theorem getElem?_base_getD {device : Device} {field : String}
    (h : (baseEntries device)[field]? = none) (arrived : Option (List (String × String))) :
    (insertPairs ∅ (flattenPairs
      ((arrived.map ((baseEntries device).toList ++ ·)).getD [])))[field]? =
      (insertPairs ∅ (flattenPairs (arrived.getD [])))[field]? := by
  cases arrived with
  | none => rfl
  | some pairs => exact getElem?_base_append h pairs

/-- A cut address is the last value which arrives, if anything is written. -/
theorem getElem?_cutAddress (device : Device) {field : String} (hal : "al" ≠ field)
    (har : "ar" ≠ field) (hbm : "bm" ≠ field) :
    (insertPairs ∅ (flattenPairs (((arrivingText device.bluetoothMac).map fun kept =>
      [("al", streamBool device.deviceClass.getAliveState),
        ("ar", streamBool device.deviceClass.getAlertState), ("bm", kept)]).getD
          [])))[field]? = none := by
  cases arrivingText device.bluetoothMac with
  | none => exact getElem?_pairs_nil field
  | some kept =>
      rw [Option.map_some, Option.getD_some, getElem?_pairs_cons, getElem?_pairs_cons,
        getElem?_pairs_cons, getElem?_pairs_nil, if_neg hal, if_neg har, if_neg hbm]
      rfl

/-- What arrives of the two fields of the sensor. -/
theorem arrivingPairs_sensor {sensorType sensorValue : String}
    (hvalue : nul ∉ sensorValue.toList → arrivingText sensorValue = some sensorValue) :
    arrivingPairs [("st", sensorType), ("sv", sensorValue)] =
      if nul ∈ sensorType.toList then (arrivingText sensorType).map fun kept => [("st", kept)]
      else (arrivingText sensorValue).map fun kept => [("st", sensorType), ("sv", kept)] := by
  rw [arrivingPairs]
  split
  · rfl
  · rw [arrivingPairs]
    by_cases hnul : nul ∈ sensorValue.toList
    · rw [if_pos hnul]
      cases arrivingText sensorValue <;> rfl
    · rw [if_neg hnul, hvalue hnul]
      rfl

theorem getElem?_sensorType {sensorType sensorValue : String}
    (hvalue : nul ∉ sensorValue.toList → arrivingText sensorValue = some sensorValue) :
    (insertPairs ∅ (flattenPairs
      ((arrivingPairs [("st", sensorType), ("sv", sensorValue)]).getD [])))["st"]? =
      if nul ∈ sensorType.toList then arrivingText sensorType
      else (arrivingText sensorValue).map fun _ => sensorType := by
  rw [arrivingPairs_sensor hvalue]
  split
  · cases arrivingText sensorType with
    | none => exact getElem?_pairs_nil "st"
    | some kept =>
        simp only [Option.map_some, Option.getD_some, getElem?_pairs_cons, getElem?_pairs_nil,
          if_true, Option.none_or]
  · cases arrivingText sensorValue with
    | none => exact getElem?_pairs_nil "st"
    | some kept =>
        simp only [Option.map_some, Option.getD_some, getElem?_pairs_cons, getElem?_pairs_nil,
          String.reduceEq, if_true, if_false, Option.none_or]

theorem getElem?_sensorValue {sensorType sensorValue : String}
    (hvalue : nul ∉ sensorValue.toList → arrivingText sensorValue = some sensorValue) :
    (insertPairs ∅ (flattenPairs
      ((arrivingPairs [("st", sensorType), ("sv", sensorValue)]).getD [])))["sv"]? =
      if nul ∈ sensorType.toList then none else arrivingText sensorValue := by
  rw [arrivingPairs_sensor hvalue]
  split
  · cases arrivingText sensorType with
    | none => exact getElem?_pairs_nil "sv"
    | some kept =>
        simp only [Option.map_some, Option.getD_some, getElem?_pairs_cons, getElem?_pairs_nil,
          String.reduceEq, if_false, Option.none_or]
  · cases arrivingText sensorValue with
    | none => exact getElem?_pairs_nil "sv"
    | some kept =>
        simp only [Option.map_some, Option.getD_some, getElem?_pairs_cons, getElem?_pairs_nil,
          String.reduceEq, if_true, if_false, Option.none_or, Option.or_none]

/-- The sensor among the pairs which are written. -/
theorem getElem?_writtenPairs {device : Device} (h : CleanDevice device)
    (hnul : nul ∉ device.uuid.toList) :
    (insertPairs ∅ (flattenPairs (writtenPairs device)))["st"]? = writtenType device ∧
      (insertPairs ∅ (flattenPairs (writtenPairs device)))["sv"]? = writtenValue device := by
  have hst : (baseEntries device)["st"]? = none := getElem?_baseEntries device "st"
  have hsv : (baseEntries device)["sv"]? = none := getElem?_baseEntries device "sv"
  rw [writtenPairs, postedEntries_toList, arrivingPairs_base hnul, writtenType, writtenValue]
  by_cases hmac : nul ∈ device.bluetoothMac.toList
  · rw [if_pos hmac, getElem?_cutAddress device (by decide) (by decide) (by decide),
      getElem?_cutAddress device (by decide) (by decide) (by decide)]
    cases writtenSensor device.deviceClass with
    | none => exact ⟨rfl, rfl⟩
    | some sensor => exact ⟨(if_pos hmac).symm, (if_pos (Or.inl hmac)).symm⟩
  · rw [if_neg hmac, getElem?_base_getD hst, getElem?_base_getD hsv]
    cases hsensor : writtenSensor device.deviceClass with
    | none => exact ⟨getElem?_pairs_nil "st", getElem?_pairs_nil "sv"⟩
    | some sensor =>
        obtain ⟨sensorType, sensorValue⟩ := sensor
        have hvalue : nul ∉ sensorValue.toList → arrivingText sensorValue = some sensorValue := by
          have hmem : sensorValue ∈ deviceTexts device := by
            rw [deviceTexts, writtenSensor_eq_some hsensor]
            simp
          exact arrivingText_of_noNul (h sensorValue hmem)
        dsimp only
        rw [getElem?_sensorType hvalue, getElem?_sensorValue hvalue, if_neg hmac]
        refine ⟨rfl, ?_⟩
        by_cases htype : nul ∈ sensorType.toList
        · rw [if_pos htype, if_pos (Or.inr htype)]
        · rw [if_neg htype, if_neg (not_or.mpr ⟨hmac, htype⟩)]

theorem mem_of_getElem?_pairs {pairs : List (String × String)} {field v : String}
    (h : (insertPairs ∅ (flattenPairs pairs))[field]? = some v) : (field, v) ∈ pairs := by
  induction pairs with
  | nil =>
      rw [getElem?_pairs_nil] at h
      cases h
  | cons pair pairs ih =>
      rw [getElem?_pairs_cons] at h
      rcases Option.or_eq_some_iff.mp h with hlater | ⟨-, hfirst⟩
      · exact List.mem_cons_of_mem _ (ih hlater)
      · split at hfirst
        · rename_i hname
          cases hfirst
          rw [← hname]
          exact List.mem_cons_self
        · cases hfirst

/-- What is written is a field of the map, and has no terminator. -/
theorem getElem?_written {device : Device} {field v : String}
    (h : (insertPairs ∅ (flattenPairs (writtenPairs device)))[field]? = some v) :
    (postedEntries device)[field]? ≠ none ∧ nul ∉ v.toList := by
  have hmem := mem_of_getElem?_pairs h
  rw [writtenPairs] at hmem
  cases hpairs : arrivingPairs (postedEntries device).toList with
  | none =>
      rw [hpairs] at hmem
      cases hmem
  | some kept =>
      rw [hpairs] at hmem
      obtain ⟨hname, hnul⟩ := mem_arrivingPairs hpairs hmem
      obtain ⟨⟨name, value⟩, hentry, rfl⟩ := List.mem_map.mp hname
      rw [Std.ExtTreeMap.mem_toList_iff_getElem?_eq_some.mp hentry]
      exact ⟨Option.some_ne_none value, hnul⟩

/-- Every text of a device is the value of one of its fields. -/
theorem exists_field_of_mem_deviceTexts {device : Device} {text : String}
    (h : text ∈ deviceTexts device) :
    ∃ field : String, (deviceEntries device)[field]? = some text := by
  rw [deviceTexts, List.mem_cons, List.mem_cons] at h
  rcases h with rfl | rfl | h
  · exact ⟨"id", deviceEntries_id device⟩
  · exact ⟨"bm", (getElem?_deviceEntries device "bm").trans (getElem?_baseEntries device "bm")⟩
  · cases hsensor : device.deviceClass.getSensor with
    | none =>
        rw [hsensor] at h
        cases h
    | some sensor =>
        rw [hsensor] at h
        rcases List.mem_cons.mp h with rfl | hvalue
        · refine ⟨"st", (getElem?_deviceEntries device "st").trans ?_⟩
          rw [if_pos rfl, hsensor]
          rfl
        · refine ⟨"sv", (getElem?_deviceEntries device "sv").trans ?_⟩
          rw [if_neg (by decide), if_pos rfl, hsensor, List.mem_singleton.mp hvalue]
          rfl

/-- A device without terminators writes its whole sensor. -/
theorem written_nulFree {device : Device} (h : CleanDevice device) (hnul : NulFreeDevice device) :
    writtenType device = (writtenSensor device.deviceClass).map Prod.fst ∧
      writtenValue device = (writtenSensor device.deviceClass).map Prod.snd := by
  rw [writtenType, writtenValue]
  cases hsensor : writtenSensor device.deviceClass with
  | none => exact ⟨rfl, rfl⟩
  | some sensor =>
      obtain ⟨sensorType, sensorValue⟩ := sensor
      have htexts : sensorType ∈ deviceTexts device ∧ sensorValue ∈ deviceTexts device := by
        rw [deviceTexts, writtenSensor_eq_some hsensor]
        simp
      have hmac : nul ∉ device.bluetoothMac.toList :=
        hnul _ (List.mem_cons_of_mem _ List.mem_cons_self)
      have htype := hnul sensorType htexts.1
      dsimp only
      rw [if_neg hmac, if_neg htype, if_neg (not_or.mpr ⟨hmac, htype⟩),
        arrivingText_of_noNul (h sensorValue htexts.2) (hnul sensorValue htexts.2)]
      exact ⟨rfl, rfl⟩

end Server
end FireEvacuation
