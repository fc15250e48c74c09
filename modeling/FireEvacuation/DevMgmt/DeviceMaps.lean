import FireEvacuation.DevMgmt.DeviceObjects
import FireEvacuation.DevMgmt.Room

/-!
# Maps of devices

A `DeviceMap` files shared pointers to devices under the uuids which the devices have when
they are added.  A device stays shared, and its uuid can be set while it is in the map; the
key does not follow.  `parse` does not look at the keys of the JSON object, but files each
device under the uuid inside.

The objects are those of the world of devices, so a run mixes operations on the map with
every public operation on devices, classes and builders.
-/

namespace FireEvacuation
namespace DevMgmt

open FireEvacuation.Core Platform

/-! ## The map -/

/-- `DeviceMap<Device>`; a device is given by its position in a list.  The order of the keys
does not matter, for a JSON object has its own. -/
abbrev DeviceMap := Std.ExtTreeMap String Nat

namespace DeviceMap

/-- `MyMap::add`: `insert` keeps the value of a key which is there. -/
def addKey (m : DeviceMap) (key : String) (pointer : Nat) : DeviceMap := m.insertIfNew key pointer

/-- `add(std::shared_ptr<T>)`. -/
def add (w : DeviceWorld) (m : DeviceMap) (pointer : Nat) : Option DeviceMap :=
  w.devices[pointer]?.map fun d => m.addKey d.uuid pointer

def remove (m : DeviceMap) (key : String) : DeviceMap := m.erase key

def clear (_ : DeviceMap) : DeviceMap := ∅

/-- The loop of `toJson`. -/
def members (w : DeviceWorld) : List (String × Nat) → JsonM (List (String × Json))
  | [] => pure []
  | (key, pointer) :: rest =>
      match w.devices[pointer]? with
      | none => .error .undefined
      | some d => do
          let json ← d.toJson w.classes
          let others ← members w rest
          pure ((key, json) :: others)

def toJson (w : DeviceWorld) (m : DeviceMap) : JsonM Json := do
  let members ← members w m.toList
  pure (.object members)

/-- The loop of `parse`. -/
def addAll : List Json → DeviceWorld → DeviceMap → JsonM (DeviceWorld × DeviceMap)
  | [], w, m => pure (w, m)
  | element :: rest, w, m => do
      let parsed ← DeviceObject.parse w.classes element
      match parsed.2 with
      -- `add` of a null pointer asks it for its uuid
      | none => .error .undefined
      | some d =>
          addAll rest { w with classes := parsed.1, devices := w.devices ++ [d] }
            (m.addKey d.uuid w.devices.length)

def parse (w : DeviceWorld) (json : Json) : JsonM (DeviceWorld × DeviceMap) :=
  addAll json.elements w ∅

end DeviceMap

/-! ## Runs -/

/-- A map and the objects there are. -/
structure MapWorld where
  world : DeviceWorld
  map : DeviceMap

def MapWorld.initial : MapWorld := ⟨.initial, ∅⟩

/-- An operation on the map, or one on the objects: `setDevice` is a setter call on a device,
whether it is in the map or not. -/
inductive MapOp where
  | object (op : DeviceOp)
  | add (device : Nat)
  | addCopy (device : Nat)
  | remove (key : String)
  | clear

/-- One operation; `none` when there is no such object. -/
def mapStep (s : MapWorld) : MapOp → Option MapWorld
  | .object op => (deviceStep s.world op).map fun w => { s with world := w }
  | .add device => (s.map.add s.world device).map fun m => { s with map := m }
  -- `add(T)` makes a device of its argument, also when the key is refused then
  | .addCopy device => s.world.devices[device]?.map fun d =>
      { world := { s.world with devices := s.world.devices ++ [d] }
        map := s.map.addKey d.uuid s.world.devices.length }
  | .remove key => some { s with map := s.map.remove key }
  | .clear => some { s with map := s.map.clear }

/-! ## What is promised -/

/-- Every device is stored under its own uuid. -/
def UnderOwnUuid (s : MapWorld) : Prop :=
  ∀ (key : String) pointer d, s.map[key]? = some pointer → s.world.devices[pointer]? = some d →
    d.uuid = key

/-- No uuid occurs twice. -/
def UuidsDiffer (s : MapWorld) : Prop :=
  ∀ (key key' : String) pointer pointer' d d', s.map[key]? = some pointer →
    s.map[key']? = some pointer' → s.world.devices[pointer]? = some d →
      s.world.devices[pointer']? = some d' → d.uuid = d'.uuid → key = key'

/-- Two maps have the same keys, and under each key the same device. -/
def SameDevices (w : DeviceWorld) (m : DeviceMap) (w' : DeviceWorld) (m' : DeviceMap) : Prop :=
  ∀ key : String, m[key]? = none ∧ m'[key]? = none ∨
    ∃ pointer pointer' d d', m[key]? = some pointer ∧ m'[key]? = some pointer' ∧
      w.devices[pointer]? = some d ∧ w'.devices[pointer']? = some d' ∧
        SameDevice w.classes d w'.classes d'

/-- The map is read back from what it is written to. -/
def ReadsBack (s : MapWorld) : Prop :=
  ∃ json, s.map.toJson s.world = .ok json ∧
    ∃ w' m', DeviceMap.parse s.world json = .ok (w', m') ∧ SameDevices s.world s.map w' m'

structure MapRight (s : MapWorld) : Prop where
  underOwnUuid : UnderOwnUuid s
  uuidsDiffer : UuidsDiffer s
  readsBack : ReadsBack s

/-! ## Reading a whole map -/

section WholeMap

variable {w : DeviceWorld}

/-- The entry points to a device with the key as its uuid. -/
def FiledRight (w : DeviceWorld) (entry : String × Nat) : Prop :=
  ∃ d, w.devices[entry.2]? = some d ∧ d.uuid = entry.1

/-- What the loop of `parse` makes of entries: each is found under its key, unless the key was
there before. -/
structure ReadsEntries (w : DeviceWorld) (entries : List (String × Nat)) (before : DeviceWorld)
    (m : DeviceMap) (after : DeviceWorld) (m' : DeviceMap) : Prop where
  classes : before.classes <+: after.classes
  devices : before.devices <+: after.devices
  other : ∀ key : String, (∀ entry ∈ entries, entry.1 ≠ key) → m'[key]? = m[key]?
  found : ∀ entry ∈ entries, m[entry.1]? = none →
    ∃ pointer d d', m'[entry.1]? = some pointer ∧ w.devices[entry.2]? = some d ∧
      after.devices[pointer]? = some d' ∧ SameDevice w.classes d after.classes d'

/-- A key which is there keeps its value, and every other key as well. -/
theorem getElem?_addKey (m : DeviceMap) (key k : String) (pointer : Nat) :
    (m.addKey key pointer)[k]? = if key = k then some (m[k]?.getD pointer) else m[k]? := by
  rw [DeviceMap.addKey, Std.ExtTreeMap.getElem?_insertIfNew]
  simp only [Std.LawfulEqCmp.compare_eq_iff_eq]
  by_cases hkey : key = k
  · subst hkey
    rw [if_pos rfl]
    cases hvalue : m[key]? with
    | none =>
        have hnot : key ∉ m := by simpa using hvalue
        rw [if_pos ⟨rfl, hnot⟩, Option.getD_none]
    | some old =>
        have hmem : key ∈ m := by
          rw [Std.ExtTreeMap.mem_iff_isSome_getElem?, hvalue]
          rfl
        rw [if_neg fun h => h.2 hmem, Option.getD_some]
  · rw [if_neg fun h => hkey h.1, if_neg hkey]

/-- One device is read, and then the others. -/
theorem ReadsEntries.cons {key : String} {pointer : Nat} {entries : List (String × Nat)}
    {before after : DeviceWorld} {classes : List ClassObject} {d d' : DeviceObject}
    {m m' : DeviceMap} (hd : w.devices[pointer]? = some d)
    (hnew : ∀ entry ∈ entries, entry.1 ≠ key) (hgrows : before.classes <+: classes)
    (hsame : SameDevice w.classes d classes d')
    (h : ReadsEntries w entries
      { before with classes := classes, devices := before.devices ++ [d'] }
      (m.addKey key before.devices.length) after m') :
    ReadsEntries w ((key, pointer) :: entries) before m after m' where
  classes := hgrows.trans h.classes
  devices := (List.prefix_append before.devices [d']).trans h.devices
  other := by
    intro k hk
    rw [h.other k fun entry hentry => hk entry (List.mem_cons_of_mem _ hentry), getElem?_addKey,
      if_neg (hk _ List.mem_cons_self)]
  found := by
    intro entry hentry hfree
    rcases List.mem_cons.mp hentry with rfl | hentry
    · refine ⟨before.devices.length, d, d', ?_, hd, ?_, hsame.mono h.classes⟩
      · rw [h.other key hnew, getElem?_addKey, if_pos rfl]
        dsimp only at hfree
        rw [hfree, Option.getD_none]
      · obtain ⟨added, hadded⟩ := h.devices
        rw [← hadded]
        simp
    · apply h.found entry hentry
      rw [getElem?_addKey, if_neg (hnew entry hentry).symm]
      exact hfree

/-- **The loops of `toJson` and `parse`.** -/
theorem addAll_members (hw : WorldWf w) (entries : List (String × Nat))
    (hfiled : ∀ entry ∈ entries, FiledRight w entry) (hkeys : (entries.map Prod.fst).Nodup) :
    ∃ members, DeviceMap.members w entries = .ok members ∧ ∀ before m, ∃ after m',
      DeviceMap.addAll (members.map Prod.snd) before m = .ok (after, m') ∧
        ReadsEntries w entries before m after m' := by
  induction entries with
  | nil =>
      refine ⟨[], rfl, fun before m => ⟨before, m, rfl, List.prefix_rfl, List.prefix_rfl,
        fun _ _ => rfl, fun entry hentry => by cases hentry⟩⟩
  | cons entry entries ih =>
      obtain ⟨key, pointer⟩ := entry
      obtain ⟨hnew, hkeys⟩ := List.nodup_cons.mp hkeys
      obtain ⟨members, hmembers, hrest⟩ :=
        ih (fun entry hentry => hfiled entry (List.mem_cons_of_mem _ hentry)) hkeys
      obtain ⟨d, hd, hkey⟩ := hfiled _ List.mem_cons_self
      obtain ⟨json, hjson, hread⟩ := (hw.device (List.mem_of_getElem? hd)).readBack
      refine ⟨(key, json) :: members, ?_, fun before m => ?_⟩
      · rw [DeviceMap.members]
        dsimp only at hd ⊢
        rw [hd]
        dsimp only
        rw [hjson, hmembers]
        rfl
      · obtain ⟨classes, d', hparse, hgrows, hsame, -⟩ := hread before.classes
        have huuid : d'.uuid = key := hsame.uuid.trans hkey
        obtain ⟨after, m', hall, hentries⟩ := hrest
          { before with classes := classes, devices := before.devices ++ [d'] }
          (m.addKey key before.devices.length)
        refine ⟨after, m', ?_, hentries.cons hd (fun entry hentry heq => ?_) hgrows hsame⟩
        · rw [List.map_cons, DeviceMap.addAll, hparse]
          dsimp only [bind, Except.bind]
          rw [huuid]
          exact hall
        · exact hnew (List.mem_map.mpr ⟨entry, hentry, heq⟩)

/-- Every map whose keys are the uuids is read back. -/
theorem readsBack_of_filed {s : MapWorld} (hw : WorldWf s.world)
    (hfiled : ∀ (key : String) pointer, s.map[key]? = some pointer →
      FiledRight s.world (key, pointer)) : ReadsBack s := by
  -- the keys differ, so `add` refuses none of the devices
  have hkeys : (s.map.toList.map Prod.fst).Nodup := by
    refine List.pairwise_map.mpr (s.map.distinct_keys_toList.imp fun hne heq => hne ?_)
    rw [heq]
    exact Std.ReflCmp.compare_self
  obtain ⟨members, hmembers, hread⟩ := addAll_members hw s.map.toList (fun entry hentry =>
    hfiled entry.1 entry.2 (Std.ExtTreeMap.mem_toList_iff_getElem?_eq_some.mp hentry)) hkeys
  obtain ⟨after, m', hparse, hentries⟩ := hread s.world ∅
  refine ⟨.object members, ?_, after, m', hparse, fun key => ?_⟩
  · rw [DeviceMap.toJson, hmembers]
    rfl
  · cases hkey : s.map[key]? with
    | none =>
        refine Or.inl ⟨rfl, ?_⟩
        rw [hentries.other key, Std.ExtTreeMap.getElem?_empty]
        rintro entry hentry rfl
        rw [Std.ExtTreeMap.mem_toList_iff_getElem?_eq_some.mp hentry] at hkey
        cases hkey
    | some pointer =>
        have hmem : (key, pointer) ∈ s.map.toList :=
          Std.ExtTreeMap.mem_toList_iff_getElem?_eq_some.mpr hkey
        obtain ⟨pointer', d, d', hpointer', hd, hd', hsame⟩ :=
          hentries.found _ hmem Std.ExtTreeMap.getElem?_empty
        exact Or.inr ⟨pointer, pointer', d, d', rfl, hpointer', hd, hd', hsame⟩

end WholeMap

/-! ## What an operation does to the uuids -/

/-- The uuid of a device after an operation on the objects. -/
def DeviceOp.uuidAfter (device : Nat) (uuid : String) : DeviceOp → String
  | .setDevice index (.uuid new) => if index = device then new else uuid
  | _ => uuid

theorem DeviceObject.uuid_set {d d' : DeviceObject} {setter : DeviceSetter} (index : Nat)
    (h : d.set setter = .ok d') :
    d'.uuid = (DeviceOp.setDevice index setter).uuidAfter index d.uuid := by
  cases setter with
  | uuid uuid =>
      cases h
      exact (if_pos rfl).symm
  | bluetoothMac bluetoothMac | roomId roomId =>
      cases h
      rfl
  | deviceClass deviceClass =>
      cases deviceClass with
      | none => cases h
      | some pointer =>
          cases h
          rfl

/-- Only a null class is thrown, and it leaves the uuid as it is. -/
theorem DeviceObject.uuid_thrown {d : DeviceObject} {setter : DeviceSetter}
    {e : Fault CppException} (index : Nat) (h : d.set setter = .error e) :
    d.uuid = (DeviceOp.setDevice index setter).uuidAfter index d.uuid := by
  cases setter with
  | uuid uuid => cases h
  | deviceClass _ | bluetoothMac _ | roomId _ => rfl

theorem uuidAfter_of_ne {index device : Nat} (hne : index ≠ device) (uuid : String)
    (setter : DeviceSetter) :
    (DeviceOp.setDevice index setter).uuidAfter device uuid = uuid := by
  cases setter with
  | uuid new => exact if_neg hne
  | deviceClass _ | bluetoothMac _ | roomId _ => rfl

section Uuids

variable {w w' : DeviceWorld} {device : Nat} {d : DeviceObject}

theorem devices_addDevice (hd : w.devices[device]? = some d) (made : JsonM DeviceObject) :
    (w.addDevice made).devices[device]? = some d := by
  unfold DeviceWorld.addDevice
  split
  · exact (List.getElem?_append_left (List.getElem?_eq_some_iff.mp hd).1).trans hd
  · exact hd

/-- Every device stays, and only its setter changes its uuid. -/
theorem uuid_step {op : DeviceOp} (hd : w.devices[device]? = some d)
    (hstep : deviceStep w op = some w') :
    ∃ d', w'.devices[device]? = some d' ∧ d'.uuid = op.uuidAfter device d.uuid := by
  cases op with
  | newClass3 | newClass2 _ _ | newClass1 _ _ | newClassBuilder _ | newDeviceBuilder =>
      cases hstep
      exact ⟨d, hd, rfl⟩
  | setClass index setter =>
      obtain ⟨c, -, rfl⟩ := Option.map_eq_some_iff.mp hstep
      exact ⟨d, hd, rfl⟩
  | setClassBuilder index setter =>
      obtain ⟨b, -, rfl⟩ := Option.map_eq_some_iff.mp hstep
      exact ⟨d, hd, rfl⟩
  | buildClass index =>
      obtain ⟨b, -, rfl⟩ := Option.map_eq_some_iff.mp hstep
      exact ⟨d, hd, rfl⟩
  | buildDevice index kind =>
      obtain ⟨b, -, rfl⟩ := Option.map_eq_some_iff.mp hstep
      exact ⟨d, devices_addDevice hd _, rfl⟩
  | newDevice kind uuid deviceClass bluetoothMac roomId =>
      unfold deviceStep at hstep
      dsimp only at hstep
      split at hstep
      · cases hstep
        exact ⟨d, devices_addDevice hd _, rfl⟩
      · cases hstep
  | setDeviceBuilder index setter =>
      unfold deviceStep at hstep
      dsimp only at hstep
      split at hstep
      · obtain ⟨b, -, rfl⟩ := Option.map_eq_some_iff.mp hstep
        exact ⟨d, hd, rfl⟩
      · cases hstep
  | setDevice index setter =>
      unfold deviceStep at hstep
      dsimp only at hstep
      split at hstep
      · obtain ⟨old, hold, rfl⟩ := Option.map_eq_some_iff.mp hstep
        by_cases hindex : index = device
        · subst hindex
          cases Option.some.inj (hold.symm.trans hd)
          cases hset : d.set setter with
          -- the setter has thrown, and the device is as before
          | error e => exact ⟨d, hd, DeviceObject.uuid_thrown index hset⟩
          | ok new =>
              refine ⟨new, List.getElem?_set_self (List.getElem?_eq_some_iff.mp hd).1, ?_⟩
              exact DeviceObject.uuid_set index hset
        · rw [uuidAfter_of_ne hindex]
          split
          · exact ⟨d, (List.getElem?_set_ne hindex).trans hd, rfl⟩
          · exact ⟨d, hd, rfl⟩
      · cases hstep

end Uuids

/-! ## Runs -/

/-- All objects are well formed, and the map points to devices. -/
structure MapWf (s : MapWorld) : Prop where
  world : WorldWf s.world
  devices : ∀ (key : String) pointer, s.map[key]? = some pointer →
    ∃ d, s.world.devices[pointer]? = some d

/-- No device in the map gets a uuid which is not its key. -/
def KeepsKeys (s : MapWorld) : MapOp → Prop
  | .object (.setDevice index (.uuid uuid)) =>
      ∀ key : String, s.map[key]? = some index → uuid = key
  | _ => True

section Run

variable {s t : MapWorld}

theorem mapWf_initial : MapWf .initial :=
  ⟨worldWf_initial, fun key pointer h => by simp [MapWorld.initial] at h⟩

/-- An entry after `add` was there before, or it is the new one. -/
theorem addKey_eq_some {m : DeviceMap} {key k : String} {pointer q : Nat}
    (h : (m.addKey key pointer)[k]? = some q) : m[k]? = some q ∨ key = k ∧ pointer = q := by
  rw [getElem?_addKey] at h
  split at h
  · rename_i hkey
    cases hold : m[k]? with
    | none =>
        rw [hold] at h
        cases h
        exact Or.inr ⟨hkey, rfl⟩
    | some old =>
        rw [hold] at h
        exact Or.inl h
  · exact Or.inl h

/-- An entry after `remove` was there before. -/
theorem remove_eq_some {m : DeviceMap} {key k : String} {q : Nat}
    (h : (m.remove key)[k]? = some q) : m[k]? = some q := by
  rw [DeviceMap.remove, Std.ExtTreeMap.getElem?_erase] at h
  split at h
  · cases h
  · exact h

/-- A device is filed under its uuid, maybe a new one. -/
theorem MapWf.file (h : MapWf s) {w : DeviceWorld} {device : Nat} {d : DeviceObject}
    (hw : WorldWf w) (hdevices : s.world.devices <+: w.devices)
    (hd : w.devices[device]? = some d) : MapWf ⟨w, s.map.addKey d.uuid device⟩ := by
  refine ⟨hw, fun key pointer hpointer => ?_⟩
  rcases addKey_eq_some hpointer with hold | ⟨-, rfl⟩
  · obtain ⟨old, hlookup⟩ := h.devices key pointer hold
    obtain ⟨added, hadded⟩ := hdevices
    refine ⟨old, ?_⟩
    dsimp only
    rw [← hadded, List.getElem?_append_left (List.getElem?_eq_some_iff.mp hlookup).1, hlookup]
  · exact ⟨d, hd⟩

theorem UnderOwnUuid.file (hown : UnderOwnUuid s) (h : MapWf s) {w : DeviceWorld} {device : Nat}
    {d : DeviceObject} (hdevices : s.world.devices <+: w.devices)
    (hd : w.devices[device]? = some d) : UnderOwnUuid ⟨w, s.map.addKey d.uuid device⟩ := by
  intro key pointer found hpointer hfound
  rcases addKey_eq_some hpointer with hold | ⟨hkey, rfl⟩
  · obtain ⟨old, hlookup⟩ := h.devices key pointer hold
    obtain ⟨added, hadded⟩ := hdevices
    dsimp only at hfound
    rw [← hadded, List.getElem?_append_left (List.getElem?_eq_some_iff.mp hlookup).1] at hfound
    exact hown key pointer found hold hfound
  · cases Option.some.inj (hd.symm.trans hfound)
    exact hkey

/-- **One operation** keeps everything well formed. -/
theorem MapWf.step {op : MapOp} (h : MapWf s) (hstep : mapStep s op = some t) : MapWf t := by
  cases op with
  | object op =>
      obtain ⟨w, hw, rfl⟩ := Option.map_eq_some_iff.mp hstep
      refine ⟨h.world.step hw, fun key pointer hpointer => ?_⟩
      obtain ⟨d, hd⟩ := h.devices key pointer hpointer
      obtain ⟨d', hd', -⟩ := uuid_step hd hw
      exact ⟨d', hd'⟩
  | add device =>
      obtain ⟨m, hadd, rfl⟩ := Option.map_eq_some_iff.mp hstep
      obtain ⟨d, hd, rfl⟩ := Option.map_eq_some_iff.mp hadd
      exact h.file h.world List.prefix_rfl hd
  | addCopy device =>
      obtain ⟨d, hd, rfl⟩ := Option.map_eq_some_iff.mp hstep
      exact h.file (h.world.copyDevice (List.mem_of_getElem? hd)) (List.prefix_append _ _)
        (by simp)
  | remove key =>
      cases hstep
      exact ⟨h.world, fun k pointer hpointer => h.devices k pointer (remove_eq_some hpointer)⟩
  | clear =>
      cases hstep
      exact ⟨h.world, fun k pointer hpointer => by simp [DeviceMap.clear] at hpointer⟩

/-- An operation on the objects keeps the devices under their uuids exactly when none of them
gets another one. -/
theorem underOwnUuid_object_iff {op : DeviceOp} {w : DeviceWorld} (h : MapWf s)
    (hown : UnderOwnUuid s) (hw : deviceStep s.world op = some w) :
    UnderOwnUuid { s with world := w } ↔
      ∀ (key : String) pointer, s.map[key]? = some pointer → op.uuidAfter pointer key = key := by
  constructor
  · intro hafter key pointer hpointer
    obtain ⟨d, hd⟩ := h.devices key pointer hpointer
    obtain ⟨d', hd', huuid⟩ := uuid_step hd hw
    rw [hown key pointer d hpointer hd] at huuid
    rw [← huuid]
    exact hafter key pointer d' hpointer hd'
  · intro hkeeps key pointer d' hpointer hd'
    obtain ⟨d, hd⟩ := h.devices key pointer hpointer
    obtain ⟨after, hafter, huuid⟩ := uuid_step hd hw
    cases Option.some.inj (hafter.symm.trans hd')
    rw [huuid, hown key pointer d hpointer hd]
    exact hkeeps key pointer hpointer

theorem keepsKeys_object_iff (s : MapWorld) (op : DeviceOp) :
    KeepsKeys s (.object op) ↔
      ∀ (key : String) pointer, s.map[key]? = some pointer → op.uuidAfter pointer key = key := by
  cases op with
  | setDevice index setter =>
      cases setter with
      | uuid uuid =>
          constructor
          · intro hkeeps key pointer hpointer
            rw [DeviceOp.uuidAfter]
            split
            · rename_i hindex
              subst hindex
              exact hkeeps key hpointer
            · rfl
          · intro hafter key hindex
            have huuid := hafter key index hindex
            rwa [DeviceOp.uuidAfter, if_pos rfl] at huuid
      | deviceClass _ | bluetoothMac _ | roomId _ => exact iff_of_true trivial fun _ _ _ => rfl
  | newClass3 | newClass2 _ _ | newClass1 _ _ | setClass _ _ | newClassBuilder _
    | setClassBuilder _ _ | buildClass _ | newDevice _ _ _ _ _ | newDeviceBuilder
    | setDeviceBuilder _ _ | buildDevice _ _ => exact iff_of_true trivial fun _ _ _ => rfl

/-- **One operation** keeps every device under its own uuid exactly when it gives no device in
the map a uuid which is not its key. -/
theorem underOwnUuid_step_iff {op : MapOp} (h : MapWf s) (hown : UnderOwnUuid s)
    (hstep : mapStep s op = some t) : UnderOwnUuid t ↔ KeepsKeys s op := by
  cases op with
  | object op =>
      obtain ⟨w, hw, rfl⟩ := Option.map_eq_some_iff.mp hstep
      rw [underOwnUuid_object_iff h hown hw, keepsKeys_object_iff]
  | add device =>
      obtain ⟨m, hadd, rfl⟩ := Option.map_eq_some_iff.mp hstep
      obtain ⟨d, hd, rfl⟩ := Option.map_eq_some_iff.mp hadd
      exact iff_of_true (hown.file h List.prefix_rfl hd) trivial
  | addCopy device =>
      obtain ⟨d, hd, rfl⟩ := Option.map_eq_some_iff.mp hstep
      exact iff_of_true (hown.file h (List.prefix_append _ _) (by simp)) trivial
  | remove key =>
      cases hstep
      exact iff_of_true (fun k pointer d hpointer => hown k pointer d (remove_eq_some hpointer))
        trivial
  | clear =>
      cases hstep
      exact iff_of_true (fun k pointer d hpointer => by simp [DeviceMap.clear] at hpointer) trivial

theorem mapRight_iff (h : MapWf s) : MapRight s ↔ UnderOwnUuid s := by
  constructor
  · exact fun hright => hright.underOwnUuid
  · intro hown
    refine ⟨hown, ?_, readsBack_of_filed h.world fun key pointer hpointer => ?_⟩
    · intro key key' pointer pointer' d d' hkey hkey' hd hd' huuid
      rw [← hown key pointer d hkey hd, ← hown key' pointer' d' hkey' hd', huuid]
    · obtain ⟨d, hd⟩ := h.devices key pointer hpointer
      exact ⟨d, hd, hown key pointer d hpointer hd⟩

theorem underOwnUuid_initial : UnderOwnUuid .initial :=
  fun key pointer d h => by simp [MapWorld.initial] at h

/-- **Maps of devices.**  In a run every map on the way has its devices under their own uuids,
no uuid twice, and is read back as it is, if and only if no step gives a device in the map a
uuid which is not its key. -/
theorem guarded_iff_mapRight {ops : List MapOp} (hrun : run mapStep .initial ops = some t) :
    Guarded mapStep KeepsKeys .initial ops ↔ Throughout mapStep MapRight .initial ops := by
  have hpres : ∀ u op v, MapWf u ∧ UnderOwnUuid u → KeepsKeys u op → mapStep u op = some v →
      MapWf v ∧ UnderOwnUuid v :=
    fun u op v hu hkeeps hstep =>
      ⟨hu.1.step hstep, (underOwnUuid_step_iff hu.1 hu.2 hstep).mpr hkeeps⟩
  have hgood : ∀ u op v, MapWf u ∧ UnderOwnUuid u → mapStep u op = some v →
      (MapRight v ↔ KeepsKeys u op) := by
    intro u op v hu hstep
    rw [mapRight_iff (hu.1.step hstep)]
    exact underOwnUuid_step_iff hu.1 hu.2 hstep
  exact guarded_iff_throughout hpres hgood hrun ⟨mapWf_initial, underOwnUuid_initial⟩
    ((mapRight_iff mapWf_initial).mpr underOwnUuid_initial)

end Run

/-- A lamp is removed, renamed, and added again. -/
def renamedOutside : List MapOp :=
  [.object .newClass3, .object (.newDevice .static "A0" (some 0) "" 1), .add 0, .remove "A0",
    .object (.setDevice 0 (.uuid "C0")), .add 0]

theorem guarded_iff_mapRight_outside : Throughout mapStep MapRight .initial renamedOutside := by
  refine (guarded_iff_mapRight rfl).mp ⟨trivial, fun u hu => ?_⟩
  cases hu
  refine ⟨trivial, fun u hu => ?_⟩
  cases hu
  refine ⟨trivial, fun u hu => ?_⟩
  cases hu
  refine ⟨trivial, fun u hu => ?_⟩
  cases hu
  -- at this moment the map is empty
  refine ⟨fun key hkey => ?_, fun u hu => ⟨trivial, fun _ _ => trivial⟩⟩
  have hempty : ((∅ : DeviceMap).addKey "A0" 0).remove "A0" = ∅ := by decide
  have hnone : (((∅ : DeviceMap).addKey "A0" 0).remove "A0")[key]? = none := by
    rw [hempty]
    exact Std.ExtTreeMap.getElem?_empty
  cases hnone.symm.trans hkey

/-- One of two lamps gets the uuid of the other while both are in the map. -/
def renamedInside : List MapOp :=
  [.object .newClass3, .object (.newDevice .static "A0" (some 0) "" 1),
    .object (.newDevice .dynamic "B0" (some 0) "" 2), .add 0, .add 1,
    .object (.setDevice 1 (.uuid "A0"))]

theorem not_mapRight_inside : ¬∀ t, Reaches mapStep .initial t → MapRight t := by
  intro h
  have hright := h _ ⟨renamedInside, rfl⟩
  exact absurd (hright.underOwnUuid "B0" 1 _ (by decide) rfl) (by decide)

end DevMgmt
end FireEvacuation
