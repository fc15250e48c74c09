import FireEvacuation.Core.Transition
import FireEvacuation.Server.PostAtomicity
import FireEvacuation.Server.WrittenFields

/-!
# The store as a map from uuids to devices

What the store is for: it should be a map which gives for every uuid the device
posted last, with the fields of this device and no others.  `registry` is this map,
`RefinesRegistry` says that a store represents it, and `storeAfter` is the store the
server really reaches by a sequence of posts.
-/

namespace FireEvacuation
namespace Server

open FireEvacuation.Core Platform Redis DevMgmt

/-! ## The abstract map -/

/-- The map from uuids to the device posted last. -/
def registry (devices : List Device) : String → Option Device :=
  devices.foldl (fun r device => Function.update r device.uuid (some device)) fun _ => none

theorem registry_append (devices : List Device) (device : Device) :
    registry (devices ++ [device]) =
      Function.update (registry devices) device.uuid (some device) := by
  rw [registry, List.foldl_append]
  rfl

theorem registry_ne_none_iff {devices : List Device} {uuid : String} :
    registry devices uuid ≠ none ↔ ∃ device ∈ devices, device.uuid = uuid := by
  -- from the right: the last post decides
  induction devices using List.reverseRecOn with
  | nil => simp [registry]
  | append_singleton devices device ih =>
      rw [registry_append]
      by_cases hsame : uuid = device.uuid
      · subst hsame
        rw [Function.update_self]
        simp
      · rw [Function.update_of_ne hsame, ih]
        simp [Ne.symm hsame]

/-- The entry for a uuid is a posted device with this uuid. -/
theorem registry_eq_some {devices : List Device} {uuid : String} {device : Device}
    (h : registry devices uuid = some device) : device ∈ devices ∧ device.uuid = uuid := by
  induction devices using List.reverseRecOn with
  | nil => cases h
  | append_singleton devices last ih =>
      rw [registry_append] at h
      by_cases hsame : uuid = last.uuid
      · subst hsame
        rw [Function.update_self] at h
        cases h
        exact ⟨by simp, rfl⟩
      · rw [Function.update_of_ne hsame] at h
        obtain ⟨hmem, huuid⟩ := ih h
        exact ⟨List.mem_append_left _ hmem, huuid⟩

/-- What was written last by the devices with the uuid which write something. -/
def lastWritten {α : Type} (written : Device → Option α) (uuid : String)
    (devices : List Device) : Option α :=
  devices.foldl (fun old device =>
    if device.uuid = uuid then (written device).or old else old) none

section LastWritten

variable {α β : Type} {written : Device → Option α} {uuid : String} {devices : List Device}

theorem lastWritten_append (written : Device → Option α) (uuid : String)
    (devices : List Device) (device : Device) :
    lastWritten written uuid (devices ++ [device]) =
      if device.uuid = uuid then (written device).or (lastWritten written uuid devices)
      else lastWritten written uuid devices := by
  rw [lastWritten, List.foldl_append]
  rfl

theorem lastWritten_congr {written' : Device → Option α}
    (h : ∀ device ∈ devices, written device = written' device) :
    lastWritten written uuid devices = lastWritten written' uuid devices := by
  induction devices using List.reverseRecOn with
  | nil => rfl
  | append_singleton devices device ih =>
      rw [lastWritten_append, lastWritten_append, h device (by simp),
        ih fun d hd => h d (List.mem_append_left _ hd)]

theorem lastWritten_map (f : α → β) :
    lastWritten (fun device => (written device).map f) uuid devices =
      (lastWritten written uuid devices).map f := by
  induction devices using List.reverseRecOn with
  | nil => rfl
  | append_singleton devices device ih =>
      rw [lastWritten_append, lastWritten_append, ih]
      split
      · cases written device <;> rfl
      · rfl

theorem lastWritten_eq_some {v : α} (h : lastWritten written uuid devices = some v) :
    ∃ device ∈ devices, written device = some v := by
  induction devices using List.reverseRecOn with
  | nil => cases h
  | append_singleton devices last ih =>
      have hbefore : lastWritten written uuid devices = some v →
          ∃ device ∈ devices ++ [last], written device = some v := by
        intro hv
        obtain ⟨device, hmem, hwritten⟩ := ih hv
        exact ⟨device, List.mem_append_left _ hmem, hwritten⟩
      rw [lastWritten_append] at h
      split at h
      · rcases Option.or_eq_some_iff.mp h with hlast | ⟨-, hv⟩
        · exact ⟨last, by simp, hlast⟩
        · exact hbefore hv
      · exact hbefore h

/-- What the device posted last writes is there in the end. -/
theorem lastWritten_of_registry {device : Device} {v : α}
    (h : registry devices uuid = some device) (hv : written device = some v) :
    lastWritten written uuid devices = some v := by
  induction devices using List.reverseRecOn with
  | nil => cases h
  | append_singleton devices last ih =>
      rw [registry_append] at h
      rw [lastWritten_append]
      by_cases hsame : uuid = last.uuid
      · rw [hsame, Function.update_self] at h
        cases h
        rw [if_pos hsame.symm, hv, Option.some_or]
      · rw [Function.update_of_ne hsame] at h
        rw [if_neg (Ne.symm hsame), ih h]

end LastWritten

/-- The store represents the map: the set `devices` has the uuids of the map and every
hash has the fields of its device and no others. -/
structure RefinesRegistry (store : Store) (map : String → Option Device) : Prop where
  devices : ∀ uuid, uuid ∈ storedSet store "devices" ↔ map uuid ≠ none
  hashes : ∀ uuid device, map uuid = some device →
    storedHash store uuid = deviceEntries device

/-! ## The posts and the store after them -/

/-- A `POST` of a device with clean texts. -/
structure Posting (externals : Externals) where
  payload : OCRepresentation
  value : String
  json : Json
  device : Device
  getValue : payload.getValue resourceKey = some value
  read : readDevice externals value = .ok (json, device)
  clean : CleanDevice device

/-- The request the stack makes of it. -/
def Posting.request {externals : Externals} (posting : Posting externals) :
    OCResourceRequest :=
  formResourceRequest requestFlag
    { method := .post, payload := posting.payload, obsInfo := ⟨.observeRegister, 0⟩ }

/-- One `POST`, when everything around it works. -/
def postStep (externals : Externals) (s : ServerState) (posting : Posting externals) :
    Option ServerState :=
  match EntityHandlerCB externals .good (some posting.request) s with
  | .ok _ t => some t
  | .error _ _ => none

/-- The store after one `POST` of the device. -/
def storeStep (externals : Externals) (device : Device) (store : Store) : Store :=
  afterHmset externals .up device (afterSadd device store)

/-- The store after posts of the devices. -/
def storeAfter (externals : Externals) (devices : List Device) (store : Store) : Store :=
  devices.foldl (fun store device => storeStep externals device store) store

/-- The pairs the command for the hash has for Redis to write. -/
def sentPairs (externals : Externals) (device : Device) : List String :=
  match sentCommand externals device with
  | .args (_ :: _ :: pairs) => if pairs.length % 2 = 0 then pairs else []
  | _ => []

/-- The value last sent for a field of the uuid. -/
def lastSent (externals : Externals) (field uuid : String) (devices : List Device) :
    Option String :=
  lastWritten (fun device => (insertPairs ∅ (sentPairs externals device))[field]?) uuid devices

section Store

variable {externals : Externals}

theorem storeAfter_append (devices : List Device) (device : Device) (store : Store) :
    storeAfter externals (devices ++ [device]) store =
      storeStep externals device (storeAfter externals devices store) := by
  rw [storeAfter, List.foldl_append]
  rfl

theorem lastSent_append (field uuid : String) (devices : List Device) (device : Device) :
    lastSent externals field uuid (devices ++ [device]) =
      if device.uuid = uuid then
        (insertPairs ∅ (sentPairs externals device))[field]?.or
          (lastSent externals field uuid devices)
      else lastSent externals field uuid devices :=
  lastWritten_append _ uuid devices device

/-- The server's state after a `POST`. -/
def afterPosting (posting : Posting externals) (s : ServerState) : ServerState :=
  withResponse ⟨.ok, some posting.value⟩
    (afterPost externals .up 0 posting.value posting.device s)

theorem afterPosting_redis (posting : Posting externals) (s : ServerState) :
    (afterPosting posting s).redis = storeStep externals posting.device s.redis := rfl

theorem postStep_eq {s : ServerState} (hset : HoldsSet s.redis "devices")
    (posting : Posting externals) :
    postStep externals s posting = some (afterPosting posting s) := by
  have hsadd : SaddAnswered .good s.redis := ⟨rfl, hset⟩
  have hpost : posting.request.requestType = "POST" := rfl
  have hrespond := respond_post_ok hpost posting.getValue posting.read hsadd
    (sentCommand_ne_undefined posting.clean)
  have hhandle := handleRequest_passes hrespond rfl
  rw [postStep, EntityHandlerCB_plain (show requestFlag &&& requestFlag ≠ 0 by decide)
    (show requestFlag &&& observerFlag = 0 by decide), hhandle]
  rfl

theorem holdsSet_afterHmset {link : Link} {device : Device} {store : Store}
    {members : Finset String} (h : store "devices" = some (.set members)) :
    afterHmset externals link device store "devices" = some (.set members) := by
  obtain hsame | ⟨key, pairs, -, -, hexec⟩ := afterHmset_cases externals link device store
  · rw [hsame, h]
  · rw [hexec]
    by_cases hkey : "devices" = key
    · subst hkey
      have hnot : ¬HoldsHash store "devices" := by
        rintro (hnone | ⟨fields, hfields⟩)
        · rw [h] at hnone
          cases hnone
        · rw [h] at hfields
          cases hfields
      rw [hmset_unchanged hnot, h]
    · rw [hmset_other hkey, h]

/-- After a `POST` the set has one more member, the uuid as far as a C string shows it. -/
theorem storeStep_devices {store : Store} (h : HoldsSet store "devices") (device : Device) :
    storeStep externals device store "devices" =
      some (.set (insert (cStr device.uuid).text (storedSet store "devices"))) := by
  obtain ⟨added, hadd⟩ := sadd_of_holdsSet h (cStr device.uuid).text
  apply holdsSet_afterHmset
  rw [afterSadd, hadd]
  simp only [Function.update_self]

theorem storedSet_storeStep {store : Store} (h : HoldsSet store "devices")
    (device : Device) :
    storedSet (storeStep externals device store) "devices" =
      insert (cStr device.uuid).text (storedSet store "devices") := by
  rw [storedSet, storeStep_devices h]

theorem holdsSet_storeStep {store : Store} (h : HoldsSet store "devices")
    (device : Device) : HoldsSet (storeStep externals device store) "devices" :=
  Or.inr ⟨_, storeStep_devices h device⟩

/-- The key the command of a clean device addresses is its uuid. -/
theorem storeStep_cases (externals : Externals) {device : Device} (h : CleanDevice device)
    (hnul : nul ∉ device.uuid.toList) :
    ∃ pairs, sentPairs externals device = (if pairs.length % 2 = 0 then pairs else []) ∧
      ∀ store, storeStep externals device store =
        (hmset device.uuid pairs (afterSadd device store)).2 := by
  have hsent := sentCommand_clean_key externals h hnul
  refine ⟨_, by rw [sentPairs, hsent], fun store => ?_⟩
  rw [storeStep, afterHmset, hsent]
  rfl

/-- A `POST` changes the key of its uuid and the set `devices` only. -/
theorem storeStep_other (externals : Externals) {device : Device} (h : CleanDevice device)
    (hnul : nul ∉ device.uuid.toList) (store : Store) {key : String}
    (huuid : key ≠ device.uuid) (hset : key ≠ "devices") :
    storeStep externals device store key = store key := by
  obtain ⟨pairs, -, hstep⟩ := storeStep_cases externals h hnul
  rw [hstep, hmset_other huuid, afterSadd_other device store hset]

/-- A `POST` changes no hash but the one of its uuid. -/
theorem storedHash_storeStep_other (externals : Externals) {device : Device} (h : CleanDevice device)
    (hnul : nul ∉ device.uuid.toList) (store : Store) {key : String}
    (huuid : key ≠ device.uuid) :
    storedHash (storeStep externals device store) key = storedHash store key := by
  obtain ⟨pairs, -, hstep⟩ := storeStep_cases externals h hnul
  rw [hstep, storedHash_congr (hmset_other huuid pairs _), storedHash_afterSadd]

/-- The hash of the uuid after a `POST`. -/
theorem storedHash_storeStep (externals : Externals) {device : Device} (h : CleanDevice device)
    (hnul : nul ∉ device.uuid.toList) {store : Store} (hname : device.uuid ≠ "devices")
    (hkey : HoldsHash store device.uuid) :
    storedHash (storeStep externals device store) device.uuid =
        insertPairs (storedHash store device.uuid) (sentPairs externals device) ∧
      HoldsHash (storeStep externals device store) device.uuid := by
  obtain ⟨pairs, hpairs, hstep⟩ := storeStep_cases externals h hnul
  have hholds : HoldsHash (afterSadd device store) device.uuid :=
    (holdsHash_congr (afterSadd_other device store hname)).mpr hkey
  rw [hstep, hpairs]
  by_cases heven : pairs.length % 2 = 0
  · rw [storedHash_hmset hholds heven, storedHash_afterSadd, if_pos heven]
    refine ⟨rfl, ?_⟩
    by_cases hnil : pairs = []
    · rw [hmset_wrongArity (Or.inl hnil)]
      exact hholds
    · rw [hmset_of_holdsHash (by rintro (h | h) <;> [exact hnil h; omega]) hholds]
      exact Or.inr ⟨_, Function.update_self _ _ _⟩
  · rw [hmset_wrongArity (Or.inr (by omega)), if_neg heven, storedHash_afterSadd]
    exact ⟨rfl, hholds⟩

/-- Posts for different uuids can be exchanged. -/
theorem storeStep_comm {first second : Device} (hfirst : CleanDevice first)
    (hfirstNul : nul ∉ first.uuid.toList) (hsecond : CleanDevice second)
    (hsecondNul : nul ∉ second.uuid.toList) (hne : first.uuid ≠ second.uuid) {store : Store}
    (hset : HoldsSet store "devices") :
    storeStep externals second (storeStep externals first store) =
      storeStep externals first (storeStep externals second store) := by
  -- what a post leaves under its own uuid does not depend on the other post
  have hown : ∀ {device other : Device}, CleanDevice device → nul ∉ device.uuid.toList →
      CleanDevice other → nul ∉ other.uuid.toList → device.uuid ≠ other.uuid →
      device.uuid ≠ "devices" →
      storeStep externals device (storeStep externals other store) device.uuid =
        storeStep externals device store device.uuid := by
    intro device other hdevice hdeviceNul hother hotherNul hdiff hname
    obtain ⟨pairs, -, hstep⟩ := storeStep_cases externals hdevice hdeviceNul
    rw [hstep, hstep]
    apply hmset_congr
    rw [afterSadd_other _ _ hname, afterSadd_other _ _ hname]
    exact storeStep_other externals hother hotherNul store hdiff hname
  funext key
  by_cases hkey : key = "devices"
  · subst hkey
    rw [storeStep_devices (holdsSet_storeStep hset first), storedSet_storeStep hset,
      storeStep_devices (holdsSet_storeStep hset second), storedSet_storeStep hset,
      Finset.insert_comm]
  · by_cases hone : key = first.uuid
    · subst hone
      rw [storeStep_other externals hsecond hsecondNul _ hne hkey,
        hown hfirst hfirstNul hsecond hsecondNul hne hkey]
    · by_cases htwo : key = second.uuid
      · subst htwo
        rw [storeStep_other externals hfirst hfirstNul _ hone hkey,
          hown hsecond hsecondNul hfirst hfirstNul hone hkey]
      · rw [storeStep_other externals hsecond hsecondNul _ htwo hkey,
          storeStep_other externals hfirst hfirstNul _ hone hkey,
          storeStep_other externals hfirst hfirstNul _ hone hkey,
          storeStep_other externals hsecond hsecondNul _ htwo hkey]

/-! ## Sequences of posts -/

/-- The database has no device yet. -/
structure Fresh (store : Store) (devices : List Device) : Prop where
  noSet : store "devices" = none
  noHash : ∀ device ∈ devices, store device.uuid = none

theorem holdsSet_storeAfter {store : Store} (h : HoldsSet store "devices")
    (devices : List Device) : HoldsSet (storeAfter externals devices store) "devices" := by
  induction devices using List.reverseRecOn with
  | nil => exact h
  | append_singleton devices device ih =>
      rw [storeAfter_append]
      exact holdsSet_storeStep ih device

/-- The set after the posts has the uuids as C strings show them. -/
theorem mem_storedSet_storeAfter {store : Store} (h : store "devices" = none)
    {devices : List Device} {uuid : String} :
    uuid ∈ storedSet (storeAfter externals devices store) "devices" ↔
      ∃ device ∈ devices, uuid = (cStr device.uuid).text := by
  induction devices using List.reverseRecOn with
  | nil =>
      have hempty : storedSet (storeAfter externals [] store) "devices" = ∅ := by
        simp only [storeAfter, List.foldl_nil, storedSet, h]
      simp [hempty]
  | append_singleton devices device ih =>
      rw [storeAfter_append, storedSet_storeStep (holdsSet_storeAfter (Or.inl h) devices),
        Finset.mem_insert, ih]
      simp [or_comm]

theorem storedHash_devices {store : Store} (h : HoldsSet store "devices") :
    storedHash store "devices" = ∅ := by
  obtain h | ⟨members, h⟩ := h <;> simp only [storedHash, h]

/-- The hash of a uuid after the posts has the values last sent for it. -/
theorem storedHash_storeAfter (externals : Externals) {store : Store}
    {devices : List Device} {uuid : String} (hclean : ∀ device ∈ devices, CleanDevice device)
    (hnul : ∀ device ∈ devices, nul ∉ device.uuid.toList) (hname : uuid ≠ "devices")
    (hfresh : store uuid = none) :
    HoldsHash (storeAfter externals devices store) uuid ∧
      ∀ field : String, (storedHash (storeAfter externals devices store) uuid)[field]? =
        lastSent externals field uuid devices := by
  -- the last post writes over what those before it have left
  induction devices using List.reverseRecOn with
  | nil =>
      have hempty : storedHash store uuid = ∅ := by
        simp only [storedHash, hfresh]
      refine ⟨Or.inl hfresh, fun field => ?_⟩
      change (storedHash store uuid)[field]? = none
      rw [hempty, Std.ExtTreeMap.getElem?_empty]
  | append_singleton devices device ih =>
      obtain ⟨hholds, hfields⟩ := ih
        (fun d hd => hclean d (List.mem_append_left _ hd))
        (fun d hd => hnul d (List.mem_append_left _ hd))
      have hlast : device ∈ devices ++ [device] := by simp
      rw [storeAfter_append]
      by_cases hsame : device.uuid = uuid
      · subst hsame
        obtain ⟨hhash, hkey⟩ :=
          storedHash_storeStep externals (hclean device hlast)
            (hnul device hlast) hname hholds
        refine ⟨hkey, fun field => ?_⟩
        rw [hhash, getElem?_insertPairs, hfields, lastSent_append, if_pos rfl]
      · have hother := storeStep_other externals (hclean device hlast)
          (hnul device hlast) (storeAfter externals devices store) (Ne.symm hsame) hname
        refine ⟨(holdsHash_congr hother).mpr hholds, fun field => ?_⟩
        rw [storedHash_congr hother, hfields, lastSent_append, if_neg hsame]

/-- No uuid is the name of the set or has a terminator inside, and the values last sent for a
uuid are those of the device last posted with it. -/
def SentCondition (externals : Externals) (devices : List Device) : Prop :=
  ∀ uuid device, registry devices uuid = some device →
    uuid ≠ "devices" ∧ nul ∉ uuid.toList ∧
      ∀ field, lastSent externals field uuid devices = (deviceEntries device)[field]?

theorem SentCondition.nul {devices : List Device} (h : SentCondition externals devices) :
    ∀ device ∈ devices, nul ∉ device.uuid.toList := by
  intro device hdevice
  have hsome := registry_ne_none_iff.mpr ⟨device, hdevice, rfl⟩
  obtain ⟨last, hlast⟩ := Option.ne_none_iff_exists'.mp hsome
  exact (h device.uuid last hlast).2.1

/-- **Refinement.**  The store after the posts represents the map exactly when the right
values were sent. -/
theorem refinesRegistry_iff {store : Store} {devices : List Device}
    (hclean : ∀ device ∈ devices, CleanDevice device) (hfresh : Fresh store devices) :
    RefinesRegistry (storeAfter externals devices store) (registry devices) ↔
      SentCondition externals devices := by
  constructor
  · intro h
    have hnul : ∀ uuid, registry devices uuid ≠ none → nul ∉ uuid.toList := by
      intro uuid huuid
      obtain ⟨device, -, rfl⟩ :=
        (mem_storedSet_storeAfter hfresh.noSet).mp ((h.devices uuid).mpr huuid)
      exact (cStr device.uuid).noNul
    intro uuid device hdevice
    obtain ⟨hmem, huuid⟩ := registry_eq_some hdevice
    have hentries := h.hashes uuid device hdevice
    -- under `devices` there is the set, and a set has no field `id`
    have hname : uuid ≠ "devices" := by
      rintro rfl
      rw [storedHash_devices (holdsSet_storeAfter (Or.inl hfresh.noSet) devices)] at hentries
      have hid := deviceEntries_id device
      rw [← hentries, Std.ExtTreeMap.getElem?_empty] at hid
      cases hid
    refine ⟨hname, hnul uuid (by rw [hdevice]; simp), fun field => ?_⟩
    have hfields := (storedHash_storeAfter externals hclean
      (fun d hd => hnul d.uuid (registry_ne_none_iff.mpr ⟨d, hd, rfl⟩)) hname
      (huuid ▸ hfresh.noHash device hmem)).2 field
    rw [← hfields, hentries]
  · intro h
    refine ⟨fun uuid => ?_, fun uuid device hdevice => ?_⟩
    · rw [mem_storedSet_storeAfter hfresh.noSet, registry_ne_none_iff]
      constructor
      · rintro ⟨device, hdevice, rfl⟩
        exact ⟨device, hdevice, (cStr_text_of_noNul (h.nul device hdevice)).symm⟩
      · rintro ⟨device, hdevice, rfl⟩
        exact ⟨device, hdevice, (cStr_text_of_noNul (h.nul device hdevice)).symm⟩
    · obtain ⟨hmem, huuid⟩ := registry_eq_some hdevice
      obtain ⟨hname, -, hfields⟩ := h uuid device hdevice
      apply Std.ExtTreeMap.ext_getElem?
      intro field
      rw [← hfields field]
      exact (storedHash_storeAfter externals hclean h.nul hname
        (huuid ▸ hfresh.noHash device hmem)).2 field

/-! ## The condition in terms of the texts -/

/-- When the posts leave a store which represents the map: no uuid is the name of the set, the
device last posted has no terminator in its texts, and what was last written of a sensor is
its sensor. -/
def StoreCondition (devices : List Device) : Prop :=
  ∀ uuid device, registry devices uuid = some device →
    uuid ≠ "devices" ∧ NulFreeDevice device ∧
      lastWritten writtenType uuid devices = device.deviceClass.getSensor.map Prod.fst ∧
      lastWritten writtenValue uuid devices = device.deviceClass.getSensor.map Prod.snd

/-- All devices have the same fields next to those of the sensor. -/
theorem baseEntries_none {device other : Device} {k : String}
    (h : (baseEntries device)[k]? = none) : (baseEntries other)[k]? = none := by
  rw [getElem?_baseEntries] at h ⊢
  split at h
  · cases h
  · split at h
    · cases h
    · split at h
      · cases h
      · split at h
        · cases h
        · split at h
          · cases h
          · split at h
            · cases h
            · simp [*]

theorem sentPairs_eq {device : Device} (h : CleanDevice device)
    (hnul : nul ∉ device.uuid.toList) :
    sentPairs externals device = flattenPairs (writtenPairs device) := by
  have hposted : ∀ pair ∈ (postedEntries device).toList,
      (postedEntries device)[pair.1]? = some pair.2 :=
    fun pair hpair => Std.ExtTreeMap.mem_toList_iff_getElem?_eq_some.mp hpair
  have hwords := arrivingWords_flattenPairs
    (fun pair hpair => (plainNames_postedEntries device pair.1 pair.2 (hposted pair hpair)).1)
    fun pair hpair => clean_words h pair.2
      (List.mem_flatMap.mpr ⟨pair, hpair, List.mem_cons_of_mem _ List.mem_cons_self⟩)
  rw [sentPairs, sentCommand_clean_key externals h hnul, writtenPairs]
  dsimp only
  cases hpairs : arrivingPairs (postedEntries device).toList with
  | none =>
      rw [hpairs] at hwords
      dsimp only at hwords
      rw [if_neg (by omega)]
      rfl
  | some kept =>
      rw [hpairs] at hwords
      dsimp only at hwords
      have heven : (flattenPairs kept).length % 2 = 0 := by
        rw [length_flattenPairs]
        omega
      rw [hwords, if_pos heven]
      rfl

theorem insertPairs_sentPairs {device : Device} (h : CleanDevice device)
    (hnul : NulFreeDevice device) :
    insertPairs ∅ (sentPairs externals device) = postedEntries device := by
  have heven : (flattenPairs (postedEntries device).toList).length % 2 = 0 := by
    rw [length_flattenPairs]
    omega
  rw [sentPairs, sentCommand_nulFree h hnul]
  dsimp only
  rw [if_pos heven, insertPairs_toList, overlay_empty_left]

section Sent

variable {devices : List Device} {uuid field : String}

/-- What was sent last is what was written last. -/
theorem lastSent_eq_lastWritten (hclean : ∀ device ∈ devices, CleanDevice device)
    (hnul : ∀ device ∈ devices, nul ∉ device.uuid.toList) (field uuid : String) :
    lastSent externals field uuid devices =
      lastWritten (fun device => (insertPairs ∅ (flattenPairs (writtenPairs device)))[field]?)
        uuid devices :=
  lastWritten_congr fun device hdevice => by
    rw [sentPairs_eq (hclean device hdevice) (hnul device hdevice)]

theorem lastSent_sensor (hclean : ∀ device ∈ devices, CleanDevice device)
    (hnul : ∀ device ∈ devices, nul ∉ device.uuid.toList) (uuid : String) :
    lastSent externals "st" uuid devices = lastWritten writtenType uuid devices ∧
      lastSent externals "sv" uuid devices = lastWritten writtenValue uuid devices := by
  rw [lastSent_eq_lastWritten hclean hnul, lastSent_eq_lastWritten hclean hnul]
  exact ⟨lastWritten_congr fun device hdevice =>
      (getElem?_writtenPairs (hclean device hdevice) (hnul device hdevice)).1,
    lastWritten_congr fun device hdevice =>
      (getElem?_writtenPairs (hclean device hdevice) (hnul device hdevice)).2⟩

/-- A value which was sent is the value of a field every device may have, and it has no
terminator. -/
theorem lastSent_eq_some (hclean : ∀ device ∈ devices, CleanDevice device)
    (hnul : ∀ device ∈ devices, nul ∉ device.uuid.toList) {v : String}
    (h : lastSent externals field uuid devices = some v) :
    (∃ device, (postedEntries device)[field]? ≠ none) ∧ nul ∉ v.toList := by
  rw [lastSent_eq_lastWritten hclean hnul] at h
  obtain ⟨device, -, hwritten⟩ := lastWritten_eq_some h
  obtain ⟨hposted, hv⟩ := getElem?_written hwritten
  exact ⟨⟨device, hposted⟩, hv⟩

/-- The values sent last are the right ones exactly under the condition on the texts. -/
theorem sentCondition_iff (hclean : ∀ device ∈ devices, CleanDevice device) :
    SentCondition externals devices ↔ StoreCondition devices := by
  constructor
  · intro h uuid device hdevice
    obtain ⟨hname, -, hfields⟩ := h uuid device hdevice
    obtain ⟨htype, hvalue⟩ := lastSent_sensor hclean h.nul uuid
    refine ⟨hname, fun text htext => ?_, ?_, ?_⟩
    · obtain ⟨field, hfield⟩ := exists_field_of_mem_deviceTexts htext
      rw [← hfields field] at hfield
      exact (lastSent_eq_some hclean h.nul hfield).2
    · rw [← htype, hfields, getElem?_deviceEntries, if_pos rfl]
    · rw [← hvalue, hfields, getElem?_deviceEntries, if_neg (by decide), if_pos rfl]
  · intro h
    have hnul : ∀ device ∈ devices, nul ∉ device.uuid.toList := by
      intro device hdevice
      obtain ⟨last, hlast⟩ := Option.ne_none_iff_exists'.mp
        (registry_ne_none_iff.mpr ⟨device, hdevice, rfl⟩)
      rw [← (registry_eq_some hlast).2]
      exact (h device.uuid last hlast).2.1.uuid
    intro uuid device hdevice
    obtain ⟨hname, hfree, htype, hvalue⟩ := h uuid device hdevice
    obtain ⟨hsentType, hsentValue⟩ := lastSent_sensor hclean hnul uuid
    obtain ⟨hmem, huuid⟩ := registry_eq_some hdevice
    refine ⟨hname, huuid ▸ hfree.uuid, fun field => ?_⟩
    rw [getElem?_deviceEntries]
    by_cases hst : field = "st"
    · rw [if_pos hst, hst, hsentType, htype]
    rw [if_neg hst]
    by_cases hsv : field = "sv"
    · rw [if_pos hsv, hsv, hsentValue, hvalue]
    rw [if_neg hsv]
    cases hbase : (baseEntries device)[field]? with
    | some v =>
        refine lastWritten_of_registry hdevice ?_
        rw [insertPairs_sentPairs (hclean device hmem) hfree, getElem?_postedEntries, if_neg hst,
          if_neg hsv, hbase]
    | none =>
        -- the fields of the base are the same for every device
        cases hsent : lastSent externals field uuid devices with
        | none => rfl
        | some v =>
            obtain ⟨⟨other, hother⟩, -⟩ := lastSent_eq_some hclean hnul hsent
            rw [getElem?_postedEntries, if_neg hst, if_neg hsv] at hother
            exact absurd (baseEntries_none hbase) hother

end Sent

/-! ## The condition in terms of classes -/

/-- The sensor of the last class 2 device posted with the uuid. -/
def leftSensor (uuid : String) (devices : List Device) : Option (String × String) :=
  lastWritten (fun device => writtenSensor device.deviceClass) uuid devices

/-- The sensor left in the hash is the one of the device posted last: none when it is
of class 3, and for class 1 a class 2 device must have written the same. -/
def ClassCondition (devices : List Device) : Prop :=
  ∀ uuid device, registry devices uuid = some device →
    uuid ≠ "devices" ∧ leftSensor uuid devices = device.deviceClass.getSensor

/-- For devices without terminators the condition is about their classes. -/
theorem storeCondition_iff_class {devices : List Device}
    (hclean : ∀ device ∈ devices, CleanDevice device)
    (hnul : ∀ device ∈ devices, NulFreeDevice device) :
    StoreCondition devices ↔ ClassCondition devices := by
  have htype : ∀ uuid, lastWritten writtenType uuid devices =
      (leftSensor uuid devices).map Prod.fst := fun uuid =>
    (lastWritten_congr fun device hdevice =>
      (written_nulFree (hclean device hdevice) (hnul device hdevice)).1).trans
        (lastWritten_map Prod.fst)
  have hvalue : ∀ uuid, lastWritten writtenValue uuid devices =
      (leftSensor uuid devices).map Prod.snd := fun uuid =>
    (lastWritten_congr fun device hdevice =>
      (written_nulFree (hclean device hdevice) (hnul device hdevice)).2).trans
        (lastWritten_map Prod.snd)
  constructor
  · intro h uuid device hdevice
    obtain ⟨hname, -, hst, hsv⟩ := h uuid device hdevice
    rw [htype] at hst
    rw [hvalue] at hsv
    refine ⟨hname, ?_⟩
    cases hleft : leftSensor uuid devices <;> cases hown : device.deviceClass.getSensor <;>
      simp_all [Prod.ext_iff]
  · intro h uuid device hdevice
    obtain ⟨hname, hsensor⟩ := h uuid device hdevice
    rw [htype, hvalue, hsensor]
    exact ⟨hname, hnul device (registry_eq_some hdevice).1, rfl, rfl⟩

/-! ## Runs of the server -/

/-- What a run of posts promises: the store represents the map, a `POST` changes no
hash but the one of its uuid, and posts for different uuids can be exchanged. -/
structure StoreProperty (externals : Externals) (store : Store)
    (posts : List (Posting externals)) : Prop where
  refines : ∃ t, run (postStep externals) (.initial store) posts = some t ∧
    RefinesRegistry t.redis (registry (posts.map Posting.device))
  frame : ∀ before posting after s t, posts = before ++ posting :: after →
    run (postStep externals) (.initial store) before = some s →
    postStep externals s posting = some t →
    ∀ uuid, uuid ≠ posting.device.uuid → storedHash t.redis uuid = storedHash s.redis uuid
  commute : ∀ first ∈ posts, ∀ second ∈ posts, first.device.uuid ≠ second.device.uuid →
    ∀ s t u, Reaches (postStep externals) (.initial store) s →
      run (postStep externals) s [first, second] = some t →
      run (postStep externals) s [second, first] = some u → t.redis = u.redis

/-- A run of posts reaches the store the devices lead to. -/
theorem run_postStep {s : ServerState} (hset : HoldsSet s.redis "devices")
    (posts : List (Posting externals)) :
    ∃ t, run (postStep externals) s posts = some t ∧
      t.redis = storeAfter externals (posts.map Posting.device) s.redis := by
  induction posts generalizing s with
  | nil => exact ⟨s, rfl, rfl⟩
  | cons posting posts ih =>
      have hset' : HoldsSet (afterPosting posting s).redis "devices" :=
        holdsSet_storeStep hset _
      obtain ⟨u, hrun, hstore⟩ := ih hset'
      refine ⟨u, by rw [run_cons_of_step (postStep_eq hset posting), hrun], ?_⟩
      rw [hstore, afterPosting_redis]
      rfl

theorem postStep_redis {s t : ServerState} (hset : HoldsSet s.redis "devices")
    {posting : Posting externals} (h : postStep externals s posting = some t) :
    t.redis = storeStep externals posting.device s.redis := by
  rw [postStep_eq hset posting] at h
  cases h
  exact afterPosting_redis posting s

/-- The key of the set holds a set in every reachable state. -/
theorem holdsSet_of_reaches {s t : ServerState} (hset : HoldsSet s.redis "devices")
    (h : Reaches (postStep externals) s t) : HoldsSet t.redis "devices" := by
  have hpres : ∀ (s : ServerState) (posting : Posting externals) (t : ServerState),
      HoldsSet s.redis "devices" → postStep externals s posting = some t →
        HoldsSet t.redis "devices" := by
    intro s posting t hs hstep
    rw [postStep_redis hs hstep]
    exact holdsSet_storeStep hs _
  exact h.invariant hpres hset

theorem run_two {s t : ServerState} {first second : Posting externals}
    (hset : HoldsSet s.redis "devices")
    (h : run (postStep externals) s [first, second] = some t) :
    t.redis = storeStep externals second.device (storeStep externals first.device s.redis) := by
  obtain ⟨u, hrun, hredis⟩ := run_postStep hset [first, second]
  rw [hrun] at h
  cases h
  exact hredis

/-- The promise of a run depends on the refinement alone: the other two parts hold
whenever no uuid has a terminator inside. -/
theorem storeProperty_iff_condition {store : Store} {posts : List (Posting externals)}
    (hfresh : Fresh store (posts.map Posting.device)) :
    StoreProperty externals store posts ↔
      StoreCondition (posts.map Posting.device) := by
  have hset : HoldsSet (ServerState.initial store).redis "devices" := Or.inl hfresh.noSet
  have hclean : ∀ device ∈ posts.map Posting.device, CleanDevice device := by
    intro device hdevice
    obtain ⟨posting, -, rfl⟩ := List.mem_map.mp hdevice
    exact posting.clean
  rw [← sentCondition_iff hclean]
  constructor
  · intro h
    obtain ⟨t, hrun, hrefines⟩ := h.refines
    obtain ⟨u, hrun', hredis⟩ := run_postStep hset posts
    rw [hrun] at hrun'
    cases hrun'
    rw [hredis] at hrefines
    exact (refinesRegistry_iff hclean hfresh).mp hrefines
  · intro h
    have hnul : ∀ posting ∈ posts, nul ∉ posting.device.uuid.toList := fun posting hmem =>
      h.nul posting.device (List.mem_map_of_mem hmem)
    refine ⟨?_, ?_, ?_⟩
    · obtain ⟨t, hrun, hredis⟩ := run_postStep hset posts
      refine ⟨t, hrun, ?_⟩
      rw [hredis]
      exact (refinesRegistry_iff hclean hfresh).mpr h
    · intro before posting after s t hposts hrun hstep uuid huuid
      have hs := holdsSet_of_reaches hset ⟨before, hrun⟩
      rw [postStep_redis hs hstep]
      exact storedHash_storeStep_other externals posting.clean (hnul posting (by rw [hposts]; simp)) _
        huuid
    · intro first hfirst second hsecond hne s t u hreach hrun hrun'
      have hs := holdsSet_of_reaches hset hreach
      rw [run_two hs hrun, run_two hs hrun']
      exact storeStep_comm first.clean (hnul first hfirst) second.clean
        (hnul second hsecond) hne hs

theorem storeProperty_iff_class {store : Store} {posts : List (Posting externals)}
    (hfresh : Fresh store (posts.map Posting.device))
    (hnul : ∀ device ∈ posts.map Posting.device, NulFreeDevice device) :
    StoreProperty externals store posts ↔ ClassCondition (posts.map Posting.device) := by
  have hclean : ∀ device ∈ posts.map Posting.device, CleanDevice device := by
    intro device hdevice
    obtain ⟨posting, -, rfl⟩ := List.mem_map.mp hdevice
    exact posting.clean
  rw [storeProperty_iff_condition hfresh, storeCondition_iff_class hclean hnul]

end Store

/-- **The store refines the map.**  A run of posts over a database without devices keeps
its promise exactly under the condition on the texts of the devices, which for devices without
terminators is the condition on their classes. -/
theorem storeProperty_iff (externals : Externals) {store : Store}
    {posts : List (Posting externals)} (hfresh : Fresh store (posts.map Posting.device)) :
    (StoreProperty externals store posts ↔
      StoreCondition (posts.map Posting.device)) ∧
    ((∀ device ∈ posts.map Posting.device, NulFreeDevice device) →
      (StoreProperty externals store posts ↔
        ClassCondition (posts.map Posting.device))) :=
  ⟨storeProperty_iff_condition hfresh, storeProperty_iff_class hfresh⟩

/-! ## A device of class 1 -/

/-- A thermometer, which is of class 1. -/
def thermometer : Device where
  uuid := "u"
  deviceType := .static
  deviceClass := .class1 false true "temp" "20"
  bluetoothMac := "m"
  roomId := 0

/-- The text it posts. -/
def thermometerText : String :=
  "\x7b\"bm\":\"m\",\"cl\":\x7b\"al\":1,\"ar\":0,\"ci\":1,\"st\":\"temp\",\"sv\":\"20\"\x7d,\"dt\":\"s\",\"id\":\"u\",\"rm\":0\x7d"

def thermometerJson : Json :=
  .object [("bm", .string "m"),
    ("cl", .object [("al", .unsigned 1), ("ar", .unsigned 0), ("ci", .unsigned 1),
      ("st", .string "temp"), ("sv", .string "20")]),
    ("dt", .string "s"), ("id", .string "u"), ("rm", .unsigned 0)]

/-- Libraries which know this text. -/
def thermometerExternals : Externals where
  jsonParse text :=
    if text = thermometerText then .ok thermometerJson
    else .error (.jsonException 101 "[json.exception.parse_error.101] parse error")
  rejects := fun _ => true

theorem thermometer_read :
    readDevice thermometerExternals thermometerText = .ok (thermometerJson, thermometer) := by
  have hjson : thermometerExternals.jsonParse thermometerText = .ok thermometerJson := by
    simp only [thermometerExternals, if_true]
  have hdevice : Device.parse thermometerJson = .ok (some thermometer) := rfl
  rw [readDevice, hjson]
  dsimp only
  rw [hdevice]

theorem thermometer_texts {text : String} (h : text ∈ deviceTexts thermometer) :
    CleanText text ∧ nul ∉ text.toList := by
  have hlist : deviceTexts thermometer = ["u", "m", "temp", "20"] := rfl
  simp only [hlist, List.mem_cons, List.not_mem_nil, or_false] at h
  obtain rfl | rfl | rfl | rfl := h <;>
    exact ⟨⟨by decide, by decide, by decide⟩, by decide⟩

def thermometerPosting : Posting thermometerExternals where
  payload := OCRepresentation.setValue (fun _ => none) resourceKey thermometerText
  value := thermometerText
  json := thermometerJson
  device := thermometer
  getValue := rfl
  read := thermometer_read
  clean := fun _ h => (thermometer_texts h).1

theorem fresh_thermometer : Fresh RedisDb.emptyStore ([thermometerPosting].map Posting.device) :=
  ⟨rfl, fun _ _ => rfl⟩

theorem storeProperty_iff_thermometer :
    StoreProperty thermometerExternals RedisDb.emptyStore [thermometerPosting] ↔
      StoreCondition ([thermometerPosting].map Posting.device) :=
  (storeProperty_iff thermometerExternals fresh_thermometer).1

/-- The sensor of a class 1 device is posted and accepted, but never written. -/
theorem class1_sensor_not_stored :
    ¬StoreProperty thermometerExternals RedisDb.emptyStore [thermometerPosting] := by
  rw [storeProperty_iff_class fresh_thermometer]
  · intro h
    obtain ⟨-, hsensor⟩ := h "u" thermometer rfl
    cases hsensor
  · intro device hdevice
    rw [List.map_singleton, List.mem_singleton] at hdevice
    subst hdevice
    exact fun text htext => (thermometer_texts htext).2

end Server
end FireEvacuation
