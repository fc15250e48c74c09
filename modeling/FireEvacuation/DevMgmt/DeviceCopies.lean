import FireEvacuation.DevMgmt.DeviceObjects

/-!
# Copies of devices and classes

Next to the operations which the classes declare there are those which the compiler adds:
every class can be copied, assigned and moved.  A copy has the class it is made with, but the
class number of the object it is made from, and an assignment takes over the members of the
class through which it is made.  So a copy which cuts a class object down to one of its base
classes has the wrong number, an assignment between a static and a dynamic device the wrong
type, and a device which was moved from has no class object any more.

Parsing is an operation here as well.  A copy of a builder is a new builder and some of its
setters, and so is a copy of an object of the same kind.  Objects of `DeviceClass` and of
`Device` themselves, which only a copy of that sort can make, are left out.
-/

namespace FireEvacuation
namespace DevMgmt

open FireEvacuation.Core Platform

/-! ## Operations -/

/-- The class is the other one or derived from it. -/
def ClassKind.derives : ClassKind → ClassKind → Bool
  | .class1, _ => true
  | .class2, base => base ≠ .class1
  | .class3, base => base = .class3

/-- The static `parse` of one of the classes, or of `DeviceClass`. -/
def ClassObject.parseWith : Option ClassKind → Json → JsonM (Option ClassObject)
  | none, json => ClassObject.parse json
  | some .class1, json => some <$> ClassObject.parseClass1 json
  | some .class2, json => some <$> ClassObject.parseClass2 json
  | some .class3, json => some <$> ClassObject.parseClass3 json

/-- The static `parse` of `StaticDevice`, `DynamicDevice` or `Device`. -/
def DeviceObject.parseWith (kind : Option DeviceType) (classes : List ClassObject)
    (json : Json) : JsonM (List ClassObject × Option DeviceObject) :=
  match kind with
  | none => DeviceObject.parse classes json
  | some kind =>
      (fun parsed => (parsed.1, some parsed.2)) <$> DeviceObject.parseAs kind classes json

/-- The copy constructor of a class, for an object of the class or a derived one. -/
def ClassObject.copyAs (c : ClassObject) (kind : ClassKind) : ClassObject :=
  match kind with
  | .class3 => { c with kind := .class3, sensorType := "", sensorValue := "" }
  | .class2 | .class1 => { c with kind := kind }

/-- The assignment operator of a class, or of `DeviceClass`. -/
def ClassObject.assign (c source : ClassObject) : Option ClassKind → ClassObject
  | none | some .class3 =>
      { c with
        classId := source.classId
        alertState := source.alertState
        aliveState := source.aliveState }
  | some .class2 | some .class1 => { source with kind := c.kind }

/-- What is left of a class object which was moved from through a class.  The texts may be any. -/
def ClassObject.movedFrom (c : ClassObject) (sensorType sensorValue : String) :
    Option ClassKind → ClassObject
  | none | some .class3 => c
  | some .class2 | some .class1 => { c with sensorType := sensorType, sensorValue := sensorValue }

/-- The assignment operator of `Device`; those of its two classes add nothing to it. -/
def DeviceObject.assign (d source : DeviceObject) : DeviceObject := { source with kind := d.kind }

/-- What is left of a device which was moved from.  Its texts are not specified. -/
def DeviceObject.movedFrom (d : DeviceObject) : DeviceObject := { d with deviceClass := none }

/-- A public operation: one which is declared, a parser, or one which the compiler adds. -/
inductive PublicOp where
  | declared (op : DeviceOp)
  | parseClass (kind : Option ClassKind) (json : Json)
  | parseDevice (kind : Option DeviceType) (json : Json)
  | copyClass (source : Nat) (kind : ClassKind)
  | moveClass (source : Nat) (kind : ClassKind) (leftType leftValue : String)
  | assignClass (target source : Nat) (through : Option ClassKind)
  | moveAssignClass (target source : Nat) (through : Option ClassKind)
      (leftType leftValue : String)
  | copyDevice (source : Nat)
  | moveDevice (source : Nat)
  | assignDevice (target source : Nat)
  | moveAssignDevice (target source : Nat)

/-- The objects a parser made, or none when it has thrown. -/
def parsedOr {α : Type} (w : DeviceWorld) (parsed : JsonM α) (made : α → DeviceWorld) :
    Option DeviceWorld :=
  match parsed with
  | .ok objects => some (made objects)
  | .error (.exception _) => some w
  | .error .undefined => none
  | .error .blocked => none

/-- One operation; `none` when there are no such objects or one is not of the class. -/
def publicStep (w : DeviceWorld) : PublicOp → Option DeviceWorld
  | .declared op => deviceStep w op
  | .parseClass kind json =>
      parsedOr w (ClassObject.parseWith kind json) fun parsed =>
        { w with classes := w.classes ++ parsed.toList }
  | .parseDevice kind json =>
      parsedOr w (DeviceObject.parseWith kind w.classes json) fun parsed =>
        { w with classes := parsed.1, devices := w.devices ++ parsed.2.toList }
  | .copyClass source kind => do
      let c ← w.classes[source]?
      if c.kind.derives kind then some { w with classes := w.classes ++ [c.copyAs kind] }
      else none
  | .moveClass source kind leftType leftValue => do
      let c ← w.classes[source]?
      if c.kind.derives kind then
        some { w with
          classes := w.classes.set source (c.movedFrom leftType leftValue (some kind)) ++
            [c.copyAs kind] }
      else none
  | .assignClass target source through => do
      let c ← w.classes[target]?
      let other ← w.classes[source]?
      if through.all fun base => c.kind.derives base && other.kind.derives base then
        some { w with classes := w.classes.set target (c.assign other through) }
      else none
  -- an object which is moved to itself keeps what it has
  | .moveAssignClass target source through leftType leftValue => do
      let c ← w.classes[target]?
      let other ← w.classes[source]?
      if through.all fun base => c.kind.derives base && other.kind.derives base then
        some { w with
          classes := (w.classes.set source (other.movedFrom leftType leftValue through)).set target
            (c.assign other through) }
      else none
  | .copyDevice source => do
      let d ← w.devices[source]?
      some { w with devices := w.devices ++ [d] }
  | .moveDevice source => do
      let d ← w.devices[source]?
      some { w with devices := w.devices.set source d.movedFrom ++ [d] }
  | .assignDevice target source => do
      let d ← w.devices[target]?
      let other ← w.devices[source]?
      some { w with devices := w.devices.set target (d.assign other) }
  | .moveAssignDevice target source => do
      let d ← w.devices[target]?
      let other ← w.devices[source]?
      some { w with
        devices := (w.devices.set source other.movedFrom).set target (d.assign other) }

/-- The condition on an operation: a copy is of the kind of its source, an assignment between
objects of one kind, and nothing is moved out of a device. -/
def KeepsKinds (w : DeviceWorld) : PublicOp → Prop
  | .declared _ | .parseClass _ _ | .parseDevice _ _ | .copyDevice _ => True
  | .copyClass source kind | .moveClass source kind _ _ => ∀ c ∈ w.classes[source]?, c.kind = kind
  | .assignClass target source _ | .moveAssignClass target source _ _ _ =>
      ∀ c ∈ w.classes[target]?, ∀ other ∈ w.classes[source]?, c.kind = other.kind
  | .moveDevice _ | .moveAssignDevice _ _ => False
  | .assignDevice target source =>
      ∀ d ∈ w.devices[target]?, ∀ other ∈ w.devices[source]?, d.kind = other.kind

instance (w : DeviceWorld) : (op : PublicOp) → Decidable (KeepsKinds w op)
  | .declared _ | .parseClass _ _ | .parseDevice _ _ | .copyDevice _ => isTrue trivial
  | .copyClass source kind | .moveClass source kind _ _ =>
      inferInstanceAs (Decidable (∀ c ∈ w.classes[source]?, c.kind = kind))
  | .assignClass target source _ | .moveAssignClass target source _ _ _ =>
      inferInstanceAs (Decidable
        (∀ c ∈ w.classes[target]?, ∀ other ∈ w.classes[source]?, c.kind = other.kind))
  | .moveDevice _ | .moveAssignDevice _ _ => isFalse id
  | .assignDevice target source =>
      inferInstanceAs (Decidable
        (∀ d ∈ w.devices[target]?, ∀ other ∈ w.devices[source]?, d.kind = other.kind))

/-! ## What they keep -/

section Keeps

variable {w w' : DeviceWorld}

theorem parsedOr_eq_some {α : Type} {parsed : JsonM α} {made : α → DeviceWorld}
    (h : parsedOr w parsed made = some w') :
    w' = w ∨ ∃ objects, parsed = .ok objects ∧ w' = made objects := by
  unfold parsedOr at h
  split at h
  · cases h
    exact .inr ⟨_, rfl, rfl⟩
  · cases h
    exact .inl rfl
  · cases h
  · cases h

theorem parseClass1_wf {c : ClassObject} {json : Json}
    (h : ClassObject.parseClass1 json = .ok c) : c.Wf :=
  parseSensorClass_wf ⟨rfl, fun h3 => absurd h3 (by decide)⟩ (by decide) h

theorem parseClass2_wf {c : ClassObject} {json : Json}
    (h : ClassObject.parseClass2 json = .ok c) : c.Wf :=
  parseSensorClass_wf ⟨rfl, fun h3 => absurd h3 (by decide)⟩ (by decide) h

theorem parseClass3_wf {c : ClassObject} {json : Json}
    (h : ClassObject.parseClass3 json = .ok c) : c.Wf := by
  unfold ClassObject.parseClass3 at h
  simp only [JsonM.bind_eq_ok_iff] at h
  obtain ⟨alert, -, alive, -, hmake⟩ := h
  cases hmake
  exact ⟨rfl, fun _ => ⟨rfl, rfl⟩⟩

/-- Every parsed class object is well formed. -/
theorem parseWith_class_wf {kind : Option ClassKind} {json : Json} {c : ClassObject}
    (h : ClassObject.parseWith kind json = .ok (some c)) : c.Wf := by
  cases kind with
  | none => exact parse_class_wf h
  | some kind =>
      cases kind with
      | class1 =>
          obtain ⟨parsed, hparsed, heq⟩ := JsonM.map_eq_ok_iff.mp h
          cases heq
          exact parseClass1_wf hparsed
      | class2 =>
          obtain ⟨parsed, hparsed, heq⟩ := JsonM.map_eq_ok_iff.mp h
          cases heq
          exact parseClass2_wf hparsed
      | class3 =>
          obtain ⟨parsed, hparsed, heq⟩ := JsonM.map_eq_ok_iff.mp h
          cases heq
          exact parseClass3_wf hparsed

/-- What was added by a parser: class objects behind those there are, and a device which
points to one of them. -/
theorem parseAs_added {kind : DeviceType} {classes classes' : List ClassObject} {json : Json}
    {d : DeviceObject} (h : DeviceObject.parseAs kind classes json = .ok (classes', d)) :
    (∃ c, c.Wf ∧ classes' = classes ++ [c]) ∧ d.deviceType = d.kind.letter ∧
      ∃ pointer, d.deviceClass = some pointer ∧ pointer < classes'.length := by
  obtain ⟨cl, deviceClass, uuid, bluetoothMac, roomId, hclass, rfl, hdevice⟩ := parseAs_eq_ok h
  obtain ⟨rfl, pointer, hpointer⟩ := newDevice_eq_ok hdevice
  cases deviceClass with
  | none => cases hpointer
  | some c => exact ⟨⟨c, parse_class_wf hclass, rfl⟩, rfl, classes.length, rfl, by simp⟩

theorem WorldWf.parsed (h : WorldWf w) {kind : DeviceType} {json : Json}
    {classes : List ClassObject} {d : DeviceObject}
    (hparse : DeviceObject.parseAs kind w.classes json = .ok (classes, d)) :
    WorldWf { w with classes := classes, devices := w.devices ++ [d] } := by
  obtain ⟨⟨c, hc, rfl⟩, htype, hpointer⟩ := parseAs_added hparse
  have hclasses := h.newClass hc
  refine ⟨hclasses.classes, fun other hother => ?_, hclasses.builders⟩
  rcases List.mem_append.mp hother with hold | hnew
  · exact hclasses.devices other hold
  · rw [List.mem_singleton.mp hnew]
    exact ⟨htype, hpointer⟩

/-- A value of an unknown type makes no objects. -/
theorem parse_none_classes {classes classes' : List ClassObject} {json : Json}
    (h : DeviceObject.parse classes json = .ok (classes', none)) : classes' = classes := by
  unfold DeviceObject.parse at h
  simp only [JsonM.bind_eq_ok_iff] at h
  obtain ⟨-, -, deviceType, -, hparse⟩ := h
  split at hparse
  · obtain ⟨parsed, -, heq⟩ := JsonM.map_eq_ok_iff.mp hparse
    cases heq
  · split at hparse
    · obtain ⟨parsed, -, heq⟩ := JsonM.map_eq_ok_iff.mp hparse
      cases heq
    · cases hparse
      rfl

theorem WorldWf.parsedWith (h : WorldWf w) {kind : Option DeviceType} {json : Json}
    {parsed : List ClassObject × Option DeviceObject}
    (hparse : DeviceObject.parseWith kind w.classes json = .ok parsed) :
    WorldWf { w with classes := parsed.1, devices := w.devices ++ parsed.2.toList } := by
  obtain ⟨classes, device⟩ := parsed
  cases kind with
  | some kind =>
      obtain ⟨made, hmade, heq⟩ := JsonM.map_eq_ok_iff.mp hparse
      cases heq
      exact h.parsed hmade
  | none =>
      cases device with
      | some d =>
          obtain ⟨kind, hmade⟩ := parse_eq_ok hparse
          exact h.parsed hmade
      | none =>
          -- an unknown type: nothing was made
          have hclasses : classes = w.classes := parse_none_classes hparse
          subst hclasses
          simpa using h

theorem ClassObject.Wf.copyAs {c : ClassObject} (h : c.Wf) {kind : ClassKind}
    (hkind : c.kind = kind) : (c.copyAs kind).Wf := by
  subst hkind
  obtain ⟨kind, classId, alertState, aliveState, sensorType, sensorValue⟩ := c
  cases kind with
  | class1 | class2 => exact h
  | class3 => exact ⟨h.classId, fun _ => ⟨rfl, rfl⟩⟩

theorem ClassObject.Wf.assign {c source : ClassObject} (h : c.Wf) (hsource : source.Wf)
    (hkind : c.kind = source.kind) (through : Option ClassKind) : (c.assign source through).Wf := by
  have hnumber : source.classId = c.kind.number := by rw [hkind]; exact hsource.classId
  have hnone : c.kind = .class3 → source.sensorType = "" ∧ source.sensorValue = "" := by
    intro h3
    exact hsource.noSensor (hkind.symm.trans h3)
  cases through with
  | none => exact ⟨hnumber, h.noSensor⟩
  | some base =>
      cases base with
      | class3 => exact ⟨hnumber, h.noSensor⟩
      | class2 | class1 => exact ⟨hnumber, hnone⟩

theorem ClassObject.Wf.movedFrom {c : ClassObject} (h : c.Wf) {through : Option ClassKind}
    (hderives : ∀ base ∈ through, c.kind.derives base = true) (sensorType sensorValue : String) :
    (c.movedFrom sensorType sensorValue through).Wf := by
  cases through with
  | none => exact h
  | some base =>
      have hbase := hderives base rfl
      cases base with
      | class3 => exact h
      | class2 | class1 =>
          refine ⟨h.classId, fun h3 => ?_⟩
          rw [show c.kind = .class3 from h3] at hbase
          cases hbase

/-- A class object in the place of another. -/
theorem WorldWf.setClass (h : WorldWf w) {c : ClassObject} (hc : c.Wf) (index : Nat) :
    WorldWf { w with classes := w.classes.set index c } := by
  refine h.classes_changed (fun other hother => ?_) (by simp)
  rcases List.mem_or_eq_of_mem_set hother with hold | rfl
  · exact h.classes other hold
  · exact hc

/-- **One operation** under the condition keeps all objects well formed. -/
theorem WorldWf.publicStep {op : PublicOp} (h : WorldWf w) (hkeeps : KeepsKinds w op)
    (hstep : publicStep w op = some w') : WorldWf w' := by
  cases op with
  | declared op => exact h.step hstep
  | parseClass kind json =>
      obtain rfl | ⟨parsed, hparsed, rfl⟩ := parsedOr_eq_some hstep
      · exact h
      · cases parsed with
        | none => simpa using h
        | some c => exact h.newClass (parseWith_class_wf hparsed)
  | parseDevice kind json =>
      obtain rfl | ⟨parsed, hparsed, rfl⟩ := parsedOr_eq_some hstep
      · exact h
      · exact h.parsedWith hparsed
  | copyClass source kind =>
      obtain ⟨c, hc, hcopy⟩ := Option.bind_eq_some_iff.mp hstep
      obtain ⟨-, heq⟩ := Option.ite_none_right_eq_some.mp hcopy
      cases heq
      have hkind : c.kind = kind := hkeeps c hc
      exact h.newClass ((h.classes c (List.mem_of_getElem? hc)).copyAs hkind)
  | moveClass source kind leftType leftValue =>
      obtain ⟨c, hc, hmove⟩ := Option.bind_eq_some_iff.mp hstep
      obtain ⟨hderives, heq⟩ := Option.ite_none_right_eq_some.mp hmove
      cases heq
      have hkind : c.kind = kind := hkeeps c hc
      have hsource := h.classes c (List.mem_of_getElem? hc)
      have hleft : (c.movedFrom leftType leftValue (some kind)).Wf := by
        refine hsource.movedFrom (fun base hbase => ?_) leftType leftValue
        cases hbase
        exact hderives
      exact (h.setClass hleft source).newClass (hsource.copyAs hkind)
  | assignClass target source through =>
      obtain ⟨c, hc, hrest⟩ := Option.bind_eq_some_iff.mp hstep
      obtain ⟨other, hother, hassign⟩ := Option.bind_eq_some_iff.mp hrest
      obtain ⟨-, heq⟩ := Option.ite_none_right_eq_some.mp hassign
      cases heq
      have hkind : c.kind = other.kind := hkeeps c hc other hother
      exact h.setClass ((h.classes c (List.mem_of_getElem? hc)).assign
        (h.classes other (List.mem_of_getElem? hother)) hkind through) target
  | moveAssignClass target source through leftType leftValue =>
      obtain ⟨c, hc, hrest⟩ := Option.bind_eq_some_iff.mp hstep
      obtain ⟨other, hother, hassign⟩ := Option.bind_eq_some_iff.mp hrest
      obtain ⟨hderives, heq⟩ := Option.ite_none_right_eq_some.mp hassign
      cases heq
      have hkind : c.kind = other.kind := hkeeps c hc other hother
      have hothers := h.classes other (List.mem_of_getElem? hother)
      have hleft : (other.movedFrom leftType leftValue through).Wf := by
        refine hothers.movedFrom (fun base hbase => ?_) leftType leftValue
        have hboth := (Option.all_eq_true _ _).mp hderives base hbase
        exact (Bool.and_eq_true_iff.mp hboth).2
      exact (h.setClass hleft source).setClass
        ((h.classes c (List.mem_of_getElem? hc)).assign hothers hkind through) target
  | copyDevice source =>
      obtain ⟨d, hd, heq⟩ := Option.bind_eq_some_iff.mp hstep
      cases heq
      exact h.copyDevice (List.mem_of_getElem? hd)
  | moveDevice source => exact hkeeps.elim
  | moveAssignDevice target source => exact hkeeps.elim
  | assignDevice target source =>
      obtain ⟨d, hd, hrest⟩ := Option.bind_eq_some_iff.mp hstep
      obtain ⟨other, hother, heq⟩ := Option.bind_eq_some_iff.mp hrest
      cases heq
      have hkind : d.kind = other.kind := hkeeps d hd other hother
      obtain ⟨htype, hpointer⟩ := h.devices other (List.mem_of_getElem? hother)
      refine ⟨h.classes, fun d' hd' => ?_, h.builders⟩
      rcases List.mem_or_eq_of_mem_set hd' with hold | rfl
      · exact h.devices d' hold
      · refine ⟨?_, hpointer⟩
        rw [DeviceObject.assign, hkind]
        exact htype

end Keeps

/-! ## The round trip -/

section RoundTrip

/-- A device has a class object, with the number of its kind, and a type which is that of its
kind; and it is read back from its JSON value as the same device, with the same JSON value. -/
structure DeviceRight (w : DeviceWorld) (d : DeviceObject) : Prop where
  wf : d.Wf w.classes
  numbers : ∀ c ∈ w.classes, c.classId = c.kind.number
  roundTrip : ∃ json, d.toJson w.classes = .ok json ∧
    ∃ classes' d', DeviceObject.parse w.classes json = .ok (classes', some d') ∧
      SameDevice w.classes d classes' d' ∧ d'.toJson classes' = .ok json

theorem WorldWf.deviceRight {w : DeviceWorld} (h : WorldWf w) {d : DeviceObject}
    (hd : d ∈ w.devices) : DeviceRight w d := by
  have hwf := h.device hd
  obtain ⟨json, hjson, hread⟩ := hwf.readBack
  obtain ⟨classes', d', hparse, -, hsame, hjson'⟩ := hread w.classes
  exact ⟨hwf, fun c hc => (h.classes c hc).classId, json, hjson, classes', d', hparse, hsame,
    hjson'⟩

/-- **Device round trip.**  After every sequence of public operations which meet the condition,
every device is as it should be. -/
theorem deviceRight_of_guardedReaches {w : DeviceWorld}
    (h : GuardedReaches publicStep KeepsKinds .initial w) {d : DeviceObject}
    (hd : d ∈ w.devices) : DeviceRight w d := by
  have hinv : WorldWf w :=
    h.invariant (fun _ _ _ hs hkeeps hstep => hs.publicStep hkeeps hstep) worldWf_initial
  exact hinv.deviceRight hd

/-- A dynamic device of class 2 is built, its class set once more, and the device copied. -/
def builtOps : List PublicOp :=
  [.declared (.newClassBuilder .class2), .declared (.setClassBuilder 0 (.sensorType "TEMPER")),
    .declared (.setClassBuilder 0 (.sensorValue "21.5")), .declared (.buildClass 0),
    .declared .newDeviceBuilder, .declared (.setDeviceBuilder 0 (.uuid "A0")),
    .declared (.setDeviceBuilder 0 (.deviceClass (some 0))),
    .declared (.setDeviceBuilder 0 (.roomId 7)), .declared (.buildDevice 0 .dynamic),
    .declared (.setClass 0 (.alertState true)), .copyDevice 0]

def builtDevice : DeviceObject := ⟨.dynamic, "A0", "d", some 0, "", 7⟩

def builtWorld : DeviceWorld where
  classes := [⟨.class2, 2, true, true, "TEMPER", "21.5"⟩]
  devices := [builtDevice, builtDevice]
  classBuilders := [⟨.class2, false, true, "TEMPER", "21.5"⟩]
  deviceBuilders := [⟨"A0", some 0, "", 7⟩]

theorem builtWorld_reached : GuardedReaches publicStep KeepsKinds .initial builtWorld :=
  ⟨builtOps, by decide, by decide⟩

theorem deviceRight_of_guardedReaches_built : DeviceRight builtWorld builtDevice :=
  deviceRight_of_guardedReaches builtWorld_reached (by decide)

/-- A class object of class 1 is cut down to class 3, for a static device. -/
def slicedOps : List PublicOp :=
  [.declared (.newClass1 "TEMPER" "21.5"), .copyClass 0 .class3,
    .declared (.newDevice .static "A0" (some 1) "" 7)]

def slicedDevice : DeviceObject := ⟨.static, "A0", "s", some 1, "", 7⟩

def slicedWorld : DeviceWorld where
  classes := [⟨.class1, 1, false, true, "TEMPER", "21.5"⟩, ⟨.class3, 1, false, true, "", ""⟩]
  devices := [slicedDevice]
  classBuilders := []
  deviceBuilders := []

/-- The number of the copy is still 1, so `parse` asks its value for a sensor, and throws. -/
theorem sliced_copy_not_read_back :
    (¬∀ w, Reaches publicStep .initial w → ∀ d ∈ w.devices, DeviceRight w d) ∧
      ∃ json e, slicedDevice.toJson slicedWorld.classes = .ok json ∧
        DeviceObject.parse slicedWorld.classes json = .error (.exception e) := by
  constructor
  · intro h
    have hright := h slicedWorld ⟨slicedOps, by decide⟩ slicedDevice (by decide)
    exact absurd (hright.numbers ⟨.class3, 1, false, true, "", ""⟩ (by decide)) (by decide)
  · exact ⟨_, _, rfl, rfl⟩

/-- A dynamic device assigned to a static one leaves it with the type of the other. -/
example : run publicStep .initial
    [.declared .newClass3, .declared (.newDevice .static "A0" (some 0) "" 7),
      .declared (.newDevice .dynamic "B0" (some 0) "" 8), .assignDevice 0 1] =
    some ⟨[⟨.class3, 3, false, true, "", ""⟩],
      [⟨.static, "B0", "d", some 0, "", 8⟩, ⟨.dynamic, "B0", "d", some 0, "", 8⟩], [], []⟩ := by
  decide

/-- A device which was moved from has no class object. -/
example : run publicStep .initial
    [.declared .newClass3, .declared (.newDevice .static "A0" (some 0) "" 7), .moveDevice 0] =
    some ⟨[⟨.class3, 3, false, true, "", ""⟩],
      [⟨.static, "A0", "s", none, "", 7⟩, ⟨.static, "A0", "s", some 0, "", 7⟩], [], []⟩ := by
  decide

end RoundTrip

end DevMgmt
end FireEvacuation
