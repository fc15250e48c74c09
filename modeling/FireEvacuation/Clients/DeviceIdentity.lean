import FireEvacuation.DevMgmt.Device

/-!
# The identity of a device

A client asks the Bluetooth adapter for its address when it starts, and again for each
device it posts.  The uuid of all its devices is the digest of its resource type and the
first answer; the member `bm` is the later answer.  An adapter which cannot be asked counts
as one with an empty address, so all clients of a type which start without their adapter
have one uuid, and share one hash in Redis, which is named by the uuid.

What the device is posted with besides (the alert state, the reading of the sensor) comes
with the call; a call which throws posts nothing.
-/

namespace FireEvacuation
namespace Clients

open FireEvacuation.DevMgmt

/-! ## Addresses -/

/-- `bdaddr_t`, the bytes `b[0]` to `b[5]`. -/
structure BdAddr where
  b0 : UInt8
  b1 : UInt8
  b2 : UInt8
  b3 : UInt8
  b4 : UInt8
  b5 : UInt8
  deriving DecidableEq, Repr

/-- A digit of `%X`. -/
def hexDigit (n : Nat) : Char := if n < 10 then Char.ofNat (48 + n) else Char.ofNat (55 + n)

def highDigit (byte : UInt8) : Char := hexDigit (byte.toNat / 16)

def lowDigit (byte : UInt8) : Char := hexDigit (byte.toNat % 16)

/-- `ba2str`: the bytes as `%2.2X`, the last one first. -/
def ba2str (addr : BdAddr) : String :=
  String.ofList [highDigit addr.b5, lowDigit addr.b5, ':', highDigit addr.b4, lowDigit addr.b4,
    ':', highDigit addr.b3, lowDigit addr.b3, ':', highDigit addr.b2, lowDigit addr.b2, ':',
    highDigit addr.b1, lowDigit addr.b1, ':', highDigit addr.b0, lowDigit addr.b0]

/-- What the adapter answers: the device of the route, and the information on a device
unless there is an error. -/
structure Hci where
  getRoute : Int
  devInfo : Int → Option BdAddr

/-- `Bluetooth::getLocalMAC`. -/
def getLocalMAC (hci : Hci) : String :=
  match hci.devInfo hci.getRoute with
  -- the error is not told from an empty address
  | none => ""
  | some addr => ba2str addr

section Addresses

theorem hexDigit_injective : ∀ m n : Fin 16, hexDigit m = hexDigit n → m = n := by
  decide

theorem byte_eq_of_digits {a b : UInt8} (hhigh : highDigit a = highDigit b)
    (hlow : lowDigit a = lowDigit b) : a = b := by
  have ha : a.toNat < 256 := a.toNat_lt
  have hb : b.toNat < 256 := b.toNat_lt
  have hdiv : a.toNat / 16 = b.toNat / 16 :=
    congrArg Fin.val (hexDigit_injective ⟨a.toNat / 16, by omega⟩ ⟨b.toNat / 16, by omega⟩ hhigh)
  have hmod : a.toNat % 16 = b.toNat % 16 :=
    congrArg Fin.val (hexDigit_injective ⟨a.toNat % 16, by omega⟩ ⟨b.toNat % 16, by omega⟩ hlow)
  exact UInt8.toNat_inj.mp (by omega)

/-- Two addresses are never written alike. -/
theorem ba2str_injective : Function.Injective ba2str := by
  intro a b h
  have hchars := String.ofList_injective h
  simp only [List.cons.injEq, and_true, true_and] at hchars
  rcases hchars with ⟨h5, l5, h4, l4, h3, l3, h2, l2, h1, l1, h0, l0⟩
  rcases a with ⟨a0, a1, a2, a3, a4, a5⟩
  rcases b with ⟨b0, b1, b2, b3, b4, b5⟩
  rw [BdAddr.mk.injEq]
  exact ⟨byte_eq_of_digits h0 l0, byte_eq_of_digits h1 l1, byte_eq_of_digits h2 l2,
    byte_eq_of_digits h3 l3, byte_eq_of_digits h4 l4, byte_eq_of_digits h5 l5⟩

end Addresses

/-! ## Clients -/

/-- The two clients. -/
inductive ClientType where
  | led
  | speaker
  deriving DecidableEq, Repr

/-- `RESOURCE_TYPE`. -/
def ClientType.resourceType : ClientType → String
  | .led => "LED"
  | .speaker => "BTspeaker"

/-- `generate_serial_number`; the digest is MD5, written in hexadecimal digits. -/
def generateSerialNumber (digest : String → String) (type : ClientType) (hci : Hci) : String :=
  digest (type.resourceType ++ getLocalMAC hci)

/-- What a call of `getPostValue` meets: the alert state and the reading, each unless it
throws, and the adapter.  The LED does not put a reading into its device. -/
structure PostCall where
  alertState : Option Bool
  sensorValue : Option String
  hci : Hci

/-- `getPostValue` up to the text of the device. -/
def getPostValue (type : ClientType) (serialNumber : String) (call : PostCall) : Option Device :=
  match type with
  | .led =>
      call.alertState.map fun alertState =>
        ⟨serialNumber, .static, .class3 alertState true, getLocalMAC call.hci, 0⟩
  | .speaker =>
      call.alertState.bind fun alertState => call.sensorValue.map fun sensorValue =>
        ⟨serialNumber, .dynamic, .class2 alertState true type.resourceType sensorValue,
          getLocalMAC call.hci, 0⟩

/-- A client from its start on. -/
structure ClientRun where
  startUp : Hci
  calls : List PostCall

/-- The devices a client posts. -/
def ClientRun.posts (digest : String → String) (type : ClientType) (client : ClientRun) :
    List Device :=
  client.calls.filterMap (getPostValue type (generateSerialNumber digest type client.startUp))

/-! ## What is promised -/

/-- The uuid of a posted device is the digest of the address posted with it. -/
def IdentityKept (digest : String → String) (type : ClientType) (client : ClientRun) : Prop :=
  ∀ device ∈ client.posts digest type,
    device.uuid = digest (type.resourceType ++ device.bluetoothMac)

/-- Some device of each client was posted with an address of an adapter, and the two
addresses differ. -/
def RealAddressesDiffer (digest : String → String) (type : ClientType)
    (client other : ClientRun) : Prop :=
  ∃ device ∈ client.posts digest type, ∃ device' ∈ other.posts digest type,
    ∃ addr addr', device.bluetoothMac = ba2str addr ∧ device'.bluetoothMac = ba2str addr' ∧
      addr ≠ addr'

/-- Such clients never post the same uuid. -/
def NeverShared (digest : String → String) (type : ClientType) (client other : ClientRun) :
    Prop :=
  RealAddressesDiffer digest type client other →
    ∀ device ∈ client.posts digest type, ∀ device' ∈ other.posts digest type,
      device.uuid ≠ device'.uuid

/-- The calls which post a device. -/
def PostCall.Posts (type : ClientType) (call : PostCall) : Prop :=
  call.alertState.isSome = true ∧ (type = .speaker → call.sensorValue.isSome = true)

/-- The condition: whenever a device is posted the adapter gives the address it gave, or
fails as it failed, at the start. -/
def AddressKept (type : ClientType) (client : ClientRun) : Prop :=
  ∀ call ∈ client.calls, call.Posts type → getLocalMAC call.hci = getLocalMAC client.startUp

section Identity

variable {digest : String → String} {type : ClientType} {client other : ClientRun}

/-- What a posted device is made of. -/
theorem getPostValue_eq_some {serialNumber : String} {call : PostCall} {device : Device}
    (h : getPostValue type serialNumber call = some device) :
    call.Posts type ∧ device.uuid = serialNumber ∧
      device.bluetoothMac = getLocalMAC call.hci := by
  cases type with
  | led =>
      rcases Option.map_eq_some_iff.mp h with ⟨alertState, halert, rfl⟩
      exact ⟨⟨by rw [halert]; rfl, fun hspeaker => nomatch hspeaker⟩, rfl, rfl⟩
  | speaker =>
      rcases Option.bind_eq_some_iff.mp h with ⟨alertState, halert, hsensor⟩
      rcases Option.map_eq_some_iff.mp hsensor with ⟨sensorValue, hvalue, rfl⟩
      exact ⟨⟨by rw [halert]; rfl, fun _ => by rw [hvalue]; rfl⟩, rfl, rfl⟩

theorem exists_device_of_posts {call : PostCall} (h : call.Posts type) (serialNumber : String) :
    ∃ device, getPostValue type serialNumber call = some device := by
  rcases Option.isSome_iff_exists.mp h.1 with ⟨alertState, halert⟩
  cases type with
  | led =>
      unfold getPostValue
      rw [halert]
      exact ⟨_, rfl⟩
  | speaker =>
      rcases Option.isSome_iff_exists.mp (h.2 rfl) with ⟨sensorValue, hvalue⟩
      unfold getPostValue
      rw [halert, hvalue]
      exact ⟨_, rfl⟩

/-- Every device has the uuid of the start. -/
theorem uuid_of_mem_posts {device : Device} (h : device ∈ client.posts digest type) :
    device.uuid = generateSerialNumber digest type client.startUp := by
  rcases List.mem_filterMap.mp h with ⟨call, -, hcall⟩
  exact (getPostValue_eq_some hcall).2.1

theorem append_left_inj {text a b : String} (h : text ++ a = text ++ b) : a = b := by
  have hchars := congrArg String.toList h
  simp only [String.toList_append, List.append_cancel_left_eq] at hchars
  exact String.toList_inj.mp hchars

/-- The address kept means the identity kept, and the other way round when the digest tells
texts apart. -/
theorem identityKept_iff (hdigest : Function.Injective digest) :
    IdentityKept digest type client ↔ AddressKept type client := by
  constructor
  · intro h call hcall hposts
    rcases exists_device_of_posts hposts
      (generateSerialNumber digest type client.startUp) with ⟨device, hdevice⟩
    rcases getPostValue_eq_some hdevice with ⟨-, huuid, hmac⟩
    have hkept := h device (List.mem_filterMap.mpr ⟨call, hcall, hdevice⟩)
    rw [huuid, hmac] at hkept
    exact (append_left_inj (hdigest hkept)).symm
  · intro h device hdevice
    rcases List.mem_filterMap.mp hdevice with ⟨call, hcall, hmade⟩
    rcases getPostValue_eq_some hmade with ⟨hposts, huuid, hmac⟩
    rw [huuid, hmac, h call hcall hposts]
    rfl

/-- Two clients share a uuid exactly when their first answers were the same. -/
theorem neverShared_iff (hdigest : Function.Injective digest) :
    NeverShared digest type client other ↔
      (RealAddressesDiffer digest type client other →
        getLocalMAC client.startUp ≠ getLocalMAC other.startUp) := by
  constructor
  · intro h hreal hsame
    rcases hreal with ⟨device, hdevice, device', hdevice', haddr⟩
    refine h ⟨device, hdevice, device', hdevice', haddr⟩ device hdevice device' hdevice' ?_
    rw [uuid_of_mem_posts hdevice, uuid_of_mem_posts hdevice']
    unfold generateSerialNumber
    rw [hsame]
  · intro h hreal device hdevice device' hdevice' hsame
    rw [uuid_of_mem_posts hdevice, uuid_of_mem_posts hdevice'] at hsame
    exact h hreal (append_left_inj (hdigest hsame))

/-- When both keep their addresses, these are the ones they started with. -/
theorem neverShared_of_addressKept (hdigest : Function.Injective digest)
    (hclient : AddressKept type client) (hother : AddressKept type other) :
    NeverShared digest type client other := by
  refine (neverShared_iff hdigest).mpr fun hreal hsame => ?_
  rcases hreal with ⟨device, hdevice, device', hdevice', addr, addr', haddr, haddr', hne⟩
  rcases List.mem_filterMap.mp hdevice with ⟨call, hcall, hmade⟩
  rcases List.mem_filterMap.mp hdevice' with ⟨call', hcall', hmade'⟩
  rcases getPostValue_eq_some hmade with ⟨hposts, -, hmac⟩
  rcases getPostValue_eq_some hmade' with ⟨hposts', -, hmac'⟩
  refine hne (ba2str_injective ?_)
  -- both addresses are those of the start
  calc ba2str addr = getLocalMAC call.hci := by rw [← haddr, hmac]
    _ = getLocalMAC client.startUp := hclient call hcall hposts
    _ = getLocalMAC other.startUp := hsame
    _ = getLocalMAC call'.hci := (hother call' hcall' hposts').symm
    _ = ba2str addr' := by rw [← hmac', haddr']

/-- **Device identity.**  With a digest which tells texts apart the promise holds of two
clients exactly when both adapters answer every post as they answered at the start; and the
second half, on the shared uuid, exactly when two clients with different addresses did not
start with the same answer. -/
theorem identity_iff (hdigest : Function.Injective digest) (type : ClientType)
    (client other : ClientRun) :
    ((IdentityKept digest type client ∧ IdentityKept digest type other ∧
        NeverShared digest type client other) ↔
      AddressKept type client ∧ AddressKept type other) ∧
    (NeverShared digest type client other ↔
      (RealAddressesDiffer digest type client other →
        getLocalMAC client.startUp ≠ getLocalMAC other.startUp)) := by
  refine ⟨?_, neverShared_iff hdigest⟩
  rw [identityKept_iff hdigest, identityKept_iff hdigest]
  constructor
  · exact fun h => ⟨h.1, h.2.1⟩
  · exact fun h => ⟨h.1, h.2, neverShared_of_addressKept hdigest h.1 h.2⟩

end Identity

/-! ## Two LEDs -/

/-- A digest with the right values at three texts; the others it marks and leaves alone. -/
def sampleDigest (text : String) : String :=
  if text = "LED" then "53E0DBC06E48E3D381AC224FA8BAE3DF"
  else if text = "LEDB8:27:EB:04:C9:79" then "1C28E78CB8BB1C361D9438D12E5D48FE"
  else if text = "LED00:11:22:33:44:55" then "FED7C4E394BFA04C0FD687D5DD4A561F"
  else "#" ++ text

/-- The marked texts do not start with a hexadecimal digit. -/
theorem marked_ne {text digits : String} (h : digits.toList.head? ≠ some '#') :
    "#" ++ text ≠ digits := by
  rintro rfl
  simp at h

/-- The text of a digest. -/
def sampleText (digits : String) : String :=
  if digits = "53E0DBC06E48E3D381AC224FA8BAE3DF" then "LED"
  else if digits = "1C28E78CB8BB1C361D9438D12E5D48FE" then "LEDB8:27:EB:04:C9:79"
  else if digits = "FED7C4E394BFA04C0FD687D5DD4A561F" then "LED00:11:22:33:44:55"
  else String.ofList (digits.toList.drop 1)

theorem sampleDigest_injective : Function.Injective sampleDigest := by
  have hinverse : Function.LeftInverse sampleText sampleDigest := by
    intro text
    unfold sampleDigest
    split
    · rename_i htext
      exact htext.symm
    · split
      · rename_i htext
        exact htext.symm
      · split
        · rename_i htext
          exact htext.symm
        · unfold sampleText
          rw [if_neg (marked_ne (by decide)), if_neg (marked_ne (by decide)),
            if_neg (marked_ne (by decide))]
          simp
  exact hinverse.injective

/-- The addresses of two adapters. -/
def firstAddr : BdAddr := ⟨0x79, 0xC9, 0x04, 0xEB, 0x27, 0xB8⟩

def secondAddr : BdAddr := ⟨0x55, 0x44, 0x33, 0x22, 0x11, 0x00⟩

/-- An adapter which answers, and one which is not there. -/
def answers (addr : BdAddr) : Hci := ⟨0, fun _ => some addr⟩

def noAdapter : Hci := ⟨-1, fun _ => none⟩

/-- An LED which posts once. -/
def ledRun (startUp later : Hci) : ClientRun := ⟨startUp, [⟨some false, none, later⟩]⟩

theorem identity_iff_leds :
    ((IdentityKept sampleDigest .led (ledRun (answers firstAddr) (answers firstAddr)) ∧
        IdentityKept sampleDigest .led (ledRun (answers secondAddr) (answers secondAddr)) ∧
        NeverShared sampleDigest .led (ledRun (answers firstAddr) (answers firstAddr))
          (ledRun (answers secondAddr) (answers secondAddr))) ↔
      AddressKept .led (ledRun (answers firstAddr) (answers firstAddr)) ∧
        AddressKept .led (ledRun (answers secondAddr) (answers secondAddr))) ∧
    (NeverShared sampleDigest .led (ledRun (answers firstAddr) (answers firstAddr))
        (ledRun (answers secondAddr) (answers secondAddr)) ↔
      (RealAddressesDiffer sampleDigest .led (ledRun (answers firstAddr) (answers firstAddr))
          (ledRun (answers secondAddr) (answers secondAddr)) →
        getLocalMAC (answers firstAddr) ≠ getLocalMAC (answers secondAddr))) :=
  identity_iff sampleDigest_injective .led (ledRun (answers firstAddr) (answers firstAddr))
    (ledRun (answers secondAddr) (answers secondAddr))

/-- Two LEDs whose adapters come up after they have started post one uuid. -/
theorem late_adapters_share_uuid :
    ¬∀ client other, IdentityKept sampleDigest .led client ∧
      NeverShared sampleDigest .led client other := by
  intro h
  have hshared := (neverShared_iff sampleDigest_injective).mp
    (h (ledRun noAdapter (answers firstAddr)) (ledRun noAdapter (answers secondAddr))).2
  refine hshared ⟨_, List.mem_cons_self, _, List.mem_cons_self, firstAddr, secondAddr, rfl, rfl, ?_⟩
    rfl
  decide

end Clients
end FireEvacuation
