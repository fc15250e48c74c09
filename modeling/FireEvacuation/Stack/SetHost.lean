import FireEvacuation.Platform.CText

/-!
# The host of a resource

A resource keeps the address of its server as the pieces of an `OCDevAddr`: the transport
adapter, flags, a port and the text of the address.  `setHost` reads these from a text such
as `coap+tcp://[fe80::1%25eth0]:5683`, and `host` prints them again.

`setHost` throws for a text without one of six schemes, for an address which is none, and
for a link-local IPv6 address without a zone.  What is an address is decided by `inet_pton`
of the system.
-/

namespace FireEvacuation
namespace Stack

open FireEvacuation.Platform

/-- `OCTransportAdapter`.  An address has one adapter, although the values are bits. -/
inductive TransportAdapter where
  | default
  | ip
  | gattBtle
  | rfcommBtedr
  | remoteAccess
  | tcp
  | nfc
  deriving DecidableEq, Repr

/-- The value of the adapter. -/
def TransportAdapter.bits : TransportAdapter → UInt32
  | .default => 0
  | .ip => 0x1
  | .gattBtle => 0x2
  | .rfcommBtedr => 0x4
  | .remoteAccess => 0x8
  | .tcp => 0x10
  | .nfc => 0x20

/-- `OC_SECURE`, `OC_IP_USE_V6` and `OC_IP_USE_V4`. -/
def ocSecure : UInt32 := 0x10

def ocIpUseV6 : UInt32 := 0x20

def ocIpUseV4 : UInt32 := 0x40

/-- `CT_MASK_FLAGS` and `CT_MASK_ADAPTER`. -/
def ctMaskFlags : UInt32 := 0xFFFF

def ctMaskAdapter : UInt32 := 0xFFFF0000

/-- The fields of `OCDevAddr` which name a server.  `addr` is the text up to its end. -/
structure DevAddr where
  adapter : TransportAdapter
  flags : UInt32
  port : Nat
  addr : List Char
  deriving DecidableEq, Repr

/-- `OCResource::connectivityType`. -/
def DevAddr.connectivityType (devAddr : DevAddr) : UInt32 :=
  devAddr.adapter.bits <<< 16 ||| devAddr.flags &&& ctMaskFlags

/-- What `setHost` depends on: whether the stack is built with `OC_SECURE`, and `inet_pton`
for the two families.  For IPv6 it gives the bytes of the address. -/
structure AddressRules where
  secure : Bool
  inetPton4 : List Char → Bool
  inetPton6 : List Char → Option (List UInt8)

/-! ## Texts -/

/-- A scheme with the adapter it stands for. -/
structure HostScheme where
  text : String
  adapter : TransportAdapter
  secure : Bool
  usingIpAddr : Bool
  deriving DecidableEq, Repr

/-- The schemes in the order `setHost` tries them. -/
def hostSchemes : List HostScheme :=
  [⟨"coaps://", .ip, true, true⟩, ⟨"coap://", .ip, false, true⟩,
    ⟨"coap+tcp://", .tcp, false, true⟩, ⟨"coaps+tcp://", .tcp, true, true⟩,
    ⟨"coap+gatt://", .gattBtle, false, false⟩, ⟨"coap+rfcomm://", .rfcommBtedr, false, false⟩]

/-- The scheme a text begins with. -/
def hostScheme (host : String) : Option HostScheme :=
  hostSchemes.find? fun scheme => scheme.text.toList.isPrefixOf host.toList

/-- A port after the address. -/
def portNumber (text : List Char) : Option Nat :=
  match stoi text with
  | none => none
  | some port => if 0 ≤ port ∧ port ≤ 65535 then some port.toNat else none

/-! ## IPv6 addresses -/

/-- The size of `m_devAddr.addr` without the byte which ends the text. -/
def maxAddrText : Nat := 65

/-- `OCDecodeAddressForRFC6874`: `%25` before the zone becomes `%`. -/
def decodeAddress (address : List Char) : Option (List Char) :=
  match address.dropWhile (· ≠ '%') with
  | [] => some (address.take maxAddrText)
  | _ :: '2' :: '5' :: zone =>
      let before := address.takeWhile (· ≠ '%') ++ ['%']
      some (before.take maxAddrText ++ zone.take (maxAddrText - before.length))
  | _ => none

/-- `OCEncodeAddressForRFC6874`, which is the way back.  What fits into `addr` fits into the
128 bytes there is room for. -/
def encodeAddress (address : List Char) : Option (List Char) :=
  match address.dropWhile (· ≠ '%') with
  | [] => some address
  | _ :: zone =>
      if '%' ∈ zone ∨ zone = [] ∨ ['2', '5'].isPrefixOf zone then none
      else some (address.takeWhile (· ≠ '%') ++ ['%', '2', '5'] ++ zone)

/-- `OCGetIpv6AddrScope` answers `OC_SCOPE_LINK` (2): a multicast address with this scope, a
link-local one, or the loopback address. -/
def scopeIsLink (bytes : List UInt8) : Bool :=
  match bytes with
  | 0xFF :: second :: _ => second &&& 0xF = 0x2
  | 0xFE :: second :: _ => second &&& 0xC0 = 0x80
  | bytes => bytes = List.replicate 15 0 ++ [1]

/-- The address and the port of a text which begins with `[`. -/
def ipv6Address (rules : AddressRules) (token : List Char) : Option (List Char × Nat) :=
  if ']' ∉ token then none
  else
    let address := (token.takeWhile (· ≠ ']')).drop 1
    match rules.inetPton6 (cText (address.takeWhile (· ≠ '%'))) with
    | none => none
    | some _ =>
        -- `substr` throws when nothing follows the bracket
        match (token.dropWhile (· ≠ ']')).drop 1 with
        | [] => none
        | _ :: rest =>
            match portNumber rest with
            | none => none
            | some port =>
                if address.tails.any ['%', '2', '5'].isPrefixOf then
                  (decodeAddress (cText address)).map fun addr => (addr, port)
                else
                  match rules.inetPton6 (cText address) with
                  | none => none
                  | some bytes =>
                      if scopeIsLink bytes then none
                      else some ((cText address).take maxAddrText, port)

/-! ## Other addresses -/

/-- The first two of three characters are hexadecimal digits, the third is a colon. -/
def macBlocks : Nat → List Char → Bool
  | 0, _ => true
  | 1, block => block.all hexDigit
  | blocks + 1, first :: second :: delimiter :: rest =>
      hexDigit first && hexDigit second && delimiter = ':' && macBlocks blocks rest
  | _ + 1, _ => false
where
  hexDigit (c : Char) : Bool := c ∈ "0123456789ABCDEFabcdef".toList

/-- A MAC address: six blocks. -/
def macAddress (token : List Char) : Option (List Char × Nat) :=
  if token.length = 17 ∧ macBlocks 6 token then some (token, 0) else none

/-- An IPv4 address with a port. -/
def ipv4Address (rules : AddressRules) (token : List Char) : Option (List Char × Nat) :=
  if ':' ∉ token then none
  else
    let address := token.takeWhile (· ≠ ':')
    if rules.inetPton4 (cText address) then
      (portNumber ((token.dropWhile (· ≠ ':')).drop 1)).map fun port => (cText address, port)
    else none

/-- The address and the port of what follows the scheme. -/
def hostToken (rules : AddressRules) (token : List Char) : Option (List Char × Nat) :=
  match token with
  | '[' :: _ => ipv6Address rules token
  | ':' :: _ => none
  | token => if '.' ∉ token then macAddress token else ipv4Address rules token

/-! ## `setHost` and `host` -/

/-- The flags which follow from the scheme and from a bracket anywhere in the text. -/
def hostFlags (scheme : HostScheme) (host : String) (token : List Char) : UInt32 :=
  (if scheme.secure then ocSecure else 0) |||
    (if scheme.usingIpAddr then if '[' ∈ host.toList then ocIpUseV6 else ocIpUseV4 else 0) |||
    (if token.head? = some '[' then ocIpUseV6 else 0)

/-- What `setHost` makes of a text, or nothing when it throws. -/
def parseHost (rules : AddressRules) (host : String) : Option DevAddr :=
  match hostScheme host with
  | none => none
  | some scheme =>
      if scheme.secure ∧ rules.secure = false then none
      else
        let token := host.toList.drop scheme.text.length
        (hostToken rules token).map fun address =>
          ⟨scheme.adapter, hostFlags scheme host token, address.2, address.1⟩

/-- The scheme `host` prints. -/
def DevAddr.schemeText (devAddr : DevAddr) : String :=
  match devAddr.adapter with
  | .tcp => if devAddr.flags &&& ocSecure ≠ 0 then "coaps+tcp://" else "coap+tcp://"
  | .gattBtle => "coap+gatt://"
  | .rfcommBtedr => "coap+rfcomm://"
  | .default | .ip | .remoteAccess | .nfc =>
      if devAddr.flags &&& ocSecure ≠ 0 then "coaps://" else "coap://"

/-- `OCResource::host`, which throws when the address cannot be encoded. -/
def DevAddr.host (devAddr : DevAddr) : Option String :=
  let address :=
    if devAddr.flags &&& ocIpUseV6 ≠ 0 then
      (encodeAddress devAddr.addr).map fun address => '[' :: address ++ [']']
    else some devAddr.addr
  address.map fun address =>
    devAddr.schemeText ++ String.ofList address ++
      (if devAddr.port = 0 then "" else ":" ++ toString devAddr.port)

/-- `OCResource::setHost`: the new address, and the host it returns. -/
def setHost (rules : AddressRules) (host : String) : Option (DevAddr × String) :=
  match parseHost rules host with
  | none => none
  | some devAddr => devAddr.host.map fun text => (devAddr, text)

/-- The adapter of the new address is that of the scheme. -/
theorem setHost_adapter {rules : AddressRules} {host text : String} {devAddr : DevAddr}
    (h : setHost rules host = some (devAddr, text)) :
    ∃ scheme, hostScheme host = some scheme ∧ devAddr.adapter = scheme.adapter := by
  unfold setHost parseHost at h
  cases hscheme : hostScheme host with
  | none => simp [hscheme] at h
  | some scheme =>
      rw [hscheme] at h
      dsimp only at h
      split at h
      · cases h
      · rename_i parsed hparsed
        split at hparsed
        · cases hparsed
        · obtain ⟨address, -, rfl⟩ := Option.map_eq_some_iff.mp hparsed
          obtain ⟨text', -, heq⟩ := Option.map_eq_some_iff.mp h
          cases heq
          exact ⟨scheme, rfl, rfl⟩

theorem uint32_or_and (a b c : UInt32) : (a ||| b) &&& c = a &&& c ||| b &&& c :=
  UInt32.toBitVec_inj.mp BitVec.and_or_distrib_right

/-- The adapter can be read from the connectivity type. -/
theorem connectivityType_adapter (devAddr : DevAddr) :
    devAddr.connectivityType &&& ctMaskAdapter = devAddr.adapter.bits <<< 16 := by
  have hflags : devAddr.flags &&& ctMaskFlags &&& ctMaskAdapter = 0 := by
    rw [UInt32.and_assoc]
    apply UInt32.and_zero
  have hadapter : devAddr.adapter.bits <<< 16 &&& ctMaskAdapter = devAddr.adapter.bits <<< 16 := by
    cases devAddr.adapter <;> decide
  rw [DevAddr.connectivityType, uint32_or_and, hflags, hadapter, UInt32.or_zero]

end Stack
end FireEvacuation
