import FireEvacuation.Coap.OptionCode

/-!
# CoAP messages in memory

`coap_pdu_t` with the functions of `pdu.c` which build and parse a message, and the iterator over
its options, for CoAP over UDP and for the four headers of CoAP over TCP (the build with
`WITH_TCP`).  A message lies in memory from the address of its header on; addresses are counted
from there.

The header of UDP has its version, its type and the length of its token in the first byte, then
the code and the message id.  The headers of TCP have the length of the token in the low half of
the first byte, a length of the message in up to four bytes, and the code behind it.
-/

namespace FireEvacuation
namespace Coap

open FireEvacuation.Core

/-- `coap_transport_t`. -/
inductive CoapTransport where
  | udp
  | tcp
  | tcp8Bit
  | tcp16Bit
  | tcp32Bit
  deriving DecidableEq, Repr

/-- The bytes of the header without the token: `sizeof` of the header of UDP, and
`coap_get_tcp_header_length_for_transport`. -/
def CoapTransport.headerSize : CoapTransport → Nat
  | .udp => 4
  | .tcp => 2
  | .tcp8Bit => 3
  | .tcp16Bit => 4
  | .tcp32Bit => 6

/-- The address of the code. -/
def CoapTransport.codeIndex : CoapTransport → Nat
  | .udp => 1
  | .tcp => 1
  | .tcp8Bit => 2
  | .tcp16Bit => 3
  | .tcp32Bit => 5

/-- `coap_get_tcp_header_type_from_initbyte`, at the high half of the first byte. -/
def coapGetTcpHeaderTypeFromInitbyte : Nat → CoapTransport
  | 13 => .tcp8Bit
  | 14 => .tcp16Bit
  | 15 => .tcp32Bit
  | _ => .tcp

/-! ## Memory -/

/-- Memory with a byte written. -/
def setByte (mem : Memory) (address : Nat) (byte : UInt8) : Memory :=
  fun i => if i = address then byte else mem i

/-- `memcpy` of bytes to an address. -/
def store (mem : Memory) (start : Nat) (bytes : List UInt8) : Memory :=
  fun i => if start ≤ i ∧ i < start + bytes.length then bytes.getD (i - start) 0 else mem i

/-- An `unsigned int`. -/
def uint (n : Nat) : Nat := n % 2 ^ 32

/-- `coap_pdu_t`; `mem` is memory from `hdr` on, and `data` the address of the payload. -/
structure CoapPdu where
  maxSize : Nat
  mem : Memory
  maxDelta : UInt16
  length : Nat
  data : Option Nat

/-- The bytes of the message. -/
def CoapPdu.message (pdu : CoapPdu) : List UInt8 := span pdu.mem 0 pdu.length

/-! ## Building a message -/

/-- The first byte of an empty header: version 1 for UDP, the kind of the length for TCP. -/
def CoapTransport.initByte : CoapTransport → UInt8
  | .udp => 0x40
  | .tcp => 0x00
  | .tcp8Bit => 0xD0
  | .tcp16Bit => 0xE0
  | .tcp32Bit => 0xF0

/-- `coap_pdu_init2` with type and code 0 and `COAP_INVALID_TID` as the message id, as the stack
calls it.  Behind the `size` bytes of the message is whatever the heap has there. -/
def coapPduInit2 (heap : Memory) (size : Nat) (transport : CoapTransport) : CoapPdu where
  maxSize := size
  mem :=
    let cleared := setByte (fun i => if i < size then 0 else heap i) 0 transport.initByte
    if transport = .udp then setByte (setByte (setByte cleared 1 0) 2 0xFF) 3 0xFF
    else setByte cleared transport.codeIndex 0
  maxDelta := 0
  length := transport.headerSize
  data := none

/-- `COAP_RESPONSE_CODE`, as far as it goes into a byte. -/
def coapResponseCode (code : Nat) : UInt8 := UInt8.ofNat (code / 100 * 32 ||| code % 100)

/-- `coap_add_code`. -/
def coapAddCode (pdu : CoapPdu) (transport : CoapTransport) (code : Nat) : CoapPdu :=
  { pdu with mem := setByte pdu.mem transport.codeIndex (coapResponseCode code) }

/-- `coap_get_code`. -/
def coapGetCode (pdu : CoapPdu) (transport : CoapTransport) : UInt8 := pdu.mem transport.codeIndex

/-- `coap_add_token2`; `none` stands for the answer 0. -/
def coapAddToken2 (pdu : CoapPdu) (token : List UInt8) (transport : CoapTransport) :
    Option CoapPdu :=
  if 8 < token.length ∨ pdu.maxSize < token.length + 4 then none
  else
    let first := if transport = .udp then pdu.mem 0 &&& 0xF0 else pdu.mem 0
    some { pdu with
      mem := store (setByte pdu.mem 0 (first ||| UInt8.ofNat token.length))
        transport.headerSize token
      maxDelta := 0
      length := token.length + transport.headerSize
      data := none }

/-- `coap_add_option2`. -/
def coapAddOption2 (pdu : CoapPdu) (type : UInt16) (data : List UInt8) : Outcome CoapPdu :=
  if type < pdu.maxDelta then .refused
  else
    match coapOptEncode (pdu.maxSize - pdu.length) (type - pdu.maxDelta) data with
    | .refused => .refused
    | .assertion => .assertion
    | .done bytes =>
        .done { pdu with
          mem := store pdu.mem pdu.length bytes
          maxDelta := type
          length := uint (pdu.length + bytes.length)
          data := none }

/-- `coap_add_data`, with its answer.  The sum of the check is an `unsigned int`. -/
def coapAddData (pdu : CoapPdu) (data : List UInt8) : Bool × CoapPdu :=
  if data.length = 0 then (true, pdu)
  else if pdu.maxSize < uint (pdu.length + data.length + 1) then (false, pdu)
  else
    (true, { pdu with
      mem := store pdu.mem pdu.length (coapPayloadStart :: data)
      length := uint (pdu.length + data.length + 1)
      data := some (pdu.length + 1) })

/-! ## The length in the headers of TCP -/

/-- `coap_get_tcp_header_type_from_size`. -/
def coapGetTcpHeaderTypeFromSize (size : Nat) : CoapTransport :=
  if size < 13 then .tcp else if size < 269 then .tcp8Bit else if size < 65805 then .tcp16Bit
  else .tcp32Bit

/-- Two bytes of a number, the high one first. -/
def bigEndian2 (n : Nat) : List UInt8 := [UInt8.ofNat (n / 256), UInt8.ofNat n]

/-- Four bytes of a number, the high one first. -/
def bigEndian4 (n : Nat) : List UInt8 :=
  [UInt8.ofNat (n / 2 ^ 24), UInt8.ofNat (n / 2 ^ 16), UInt8.ofNat (n / 256), UInt8.ofNat n]

/-- `coap_add_length`.  A length which is all zeroes in its bytes is not written; they are zero. -/
def coapAddLength (pdu : CoapPdu) (transport : CoapTransport) (length : Nat) : CoapPdu :=
  match transport with
  | .udp => pdu
  | .tcp => { pdu with mem := setByte pdu.mem 0 (UInt8.ofNat (length * 16)) }
  | .tcp8Bit =>
      if 13 < length then { pdu with mem := setByte pdu.mem 1 (UInt8.ofNat (length - 13)) } else pdu
  | .tcp16Bit =>
      if 269 < length then { pdu with mem := store pdu.mem 1 (bigEndian2 (length - 269)) } else pdu
  | .tcp32Bit =>
      if 65805 < length then { pdu with mem := store pdu.mem 1 (bigEndian4 (length - 65805)) }
      else pdu

/-- `coap_get_length_from_header`, an `unsigned int`. -/
def coapGetLengthFromHeader (header : Memory) : CoapTransport → Nat
  | .udp => 0
  | .tcp => (header 0).toNat / 16
  | .tcp8Bit => (header 1).toNat + 13
  | .tcp16Bit => (header 1).toNat * 256 + (header 2).toNat + 269
  | .tcp32Bit =>
      uint ((header 1).toNat * 2 ^ 24 + (header 2).toNat * 2 ^ 16 + (header 3).toNat * 256 +
        (header 4).toNat + 65805)

/-- `coap_get_total_message_length`, and `CAGetTotalLengthFromHeader`, which does the same. -/
def coapGetTotalMessageLength (data : Memory) : Nat :=
  let transport := coapGetTcpHeaderTypeFromInitbyte ((data 0).toNat / 16)
  transport.headerSize + (data 0).toNat % 16 + coapGetLengthFromHeader data transport

/-- What `coap_get_opt_header_length` counts for a delta or a length. -/
def countedExtra (n : Nat) : Nat := if n ≤ 12 then 0 else if n ≤ 256 then 1 else 2

/-- `coap_get_opt_header_length`: the bytes of an option. -/
def coapGetOptHeaderLength (key : UInt16) (length : Nat) : Nat :=
  if 65536 < length then 0 else length + countedExtra key.toNat + countedExtra length + 1

/-! ## Reading a message -/

/-- The length of the token: the low half of the first byte, for all headers. -/
def tokenLength (mem : Memory) : Nat := (mem 0).toNat % 16

/-- `coap_get_token2`. -/
def coapGetToken2 (pdu : CoapPdu) (transport : CoapTransport) : List UInt8 :=
  span pdu.mem transport.headerSize (tokenLength pdu.mem)

/-- `coap_get_data`; `none` stands for the answer 0. -/
def coapGetData (pdu : CoapPdu) : Option (List UInt8) :=
  pdu.data.map fun data => span pdu.mem data (pdu.length - data)

/-- The loop of `coap_pdu_parse2` with `next_option_safe`: where the options end, and how many
bytes are left there. -/
def passOptions (mem : Memory) : Nat → Nat → Nat → Option (Nat × Nat)
  | fuel, opt, length =>
      if length = 0 ∨ mem opt = coapPayloadStart then some (opt, length)
      else
        match fuel with
        | 0 => none
        | fuel + 1 =>
            match coapOptParse mem opt length with
            | none => none
            | some (size, _) => passOptions mem fuel (opt + size) (length - size)

/-- The part of `coap_pdu_parse2` behind header and token. -/
def parseBody (pdu : CoapPdu) (start : Nat) : Option CoapPdu :=
  match passOptions pdu.mem (pdu.length - start) start (pdu.length - start) with
  | none => none
  | some (opt, left) =>
      if left = 0 then some pdu
      else if left - 1 = 0 then none
      else some { pdu with data := some (opt + 1) }

/-- What `coap_pdu_parse2` does with the bytes: those of the header are set one by one and the
rest is copied, which makes a copy of all of them. -/
def copyInto (pdu : CoapPdu) (data : Memory) (length : Nat) : CoapPdu :=
  { pdu with mem := store pdu.mem 0 (span data 0 length), length := length, data := none }

/-- `coap_pdu_parse2`; `none` stands for an answer which is not positive. -/
def coapPduParse2 (pdu : CoapPdu) (data : Memory) (length : Nat) (transport : CoapTransport) :
    Option CoapPdu :=
  if pdu.maxSize < length then none
  else if transport = .udp ∧ data 1 = 0 ∧
      (length ≠ transport.headerSize ∨ tokenLength data ≠ 0) then none
  else if length < transport.headerSize + tokenLength data ∨ 8 < tokenLength data then none
  else parseBody (copyInto pdu data length) (transport.headerSize + tokenLength data)

/-! ## The iterator over the options -/

/-- `coap_opt_iterator_t`; a filter is given by its bits. -/
structure CoapOptIterator where
  length : Nat
  type : UInt16
  bad : Bool
  nextOption : Nat
  filter : Option (Nat → Bool)

/-- `coap_option_iterator_init2`. -/
def coapOptionIteratorInit2 (pdu : CoapPdu) (filter : Option (Nat → Bool))
    (transport : CoapTransport) : CoapOptIterator :=
  let start := transport.headerSize + tokenLength pdu.mem
  if pdu.length ≤ start then ⟨0, 0, true, start, none⟩
  else ⟨pdu.length - start, 0, false, start, filter⟩

/-- `coap_option_getb`.  The number of the bit is passed on as a byte; `none` stands for -1. -/
def coapOptionGetb (filter : Nat → Bool) (type : UInt16) : Option Bool :=
  if 8 ≤ type.toNat % 256 / 8 then none else some (filter (type.toNat % 256))

/-- The loop of `coap_option_next`, with the address of the option. -/
def nextOptionLoop (mem : Memory) : Nat → CoapOptIterator → Option Nat × CoapOptIterator
  | fuel, oi =>
      match coapOptParse mem oi.nextOption oi.length with
      | none => (none, { oi with bad := true })
      | some (size, option) =>
          let after := { oi with
            nextOption := oi.nextOption + size
            length := oi.length - size
            type := oi.type + option.delta }
          match oi.filter with
          | none => (some oi.nextOption, after)
          | some filter =>
              match coapOptionGetb filter after.type with
              | none => (none, { after with bad := true })
              | some true => (some oi.nextOption, after)
              | some false =>
                  match fuel with
                  | 0 => (none, after)
                  | fuel + 1 => nextOptionLoop mem fuel after

/-- `coap_option_next`. -/
def coapOptionNext (mem : Memory) (oi : CoapOptIterator) : Option Nat × CoapOptIterator :=
  if oi.bad ∨ oi.length = 0 ∨ mem oi.nextOption = coapPayloadStart then
    (none, { oi with bad := true })
  else nextOptionLoop mem oi.length oi

/-- The value of an option by `COAP_OPT_VALUE` and `COAP_OPT_LENGTH`. -/
def valueAt (mem : Memory) (opt : Nat) : List UInt8 :=
  match coapOptValue mem opt with
  | none => []
  | some value => span mem value (coapOptLength mem opt).toNat

/-- The options a loop over `coap_option_next` sees, with their numbers. -/
def iterate (mem : Memory) : Nat → CoapOptIterator → List NumberedOption
  | 0, _ => []
  | fuel + 1, oi =>
      match coapOptionNext mem oi with
      | (none, _) => []
      | (some opt, oi) => ⟨oi.type, valueAt mem opt⟩ :: iterate mem fuel oi

/-! ## Pieces of memory -/

theorem span_congr {mem mem' : Memory} {start n : Nat}
    (h : ∀ i, start ≤ i → i < start + n → mem i = mem' i) : span mem start n = span mem' start n := by
  induction n generalizing start with
  | zero => rfl
  | succ n ih =>
      rw [span, span, h start (Nat.le_refl _) (by omega),
        ih fun i hle hlt => h i (by omega) (by omega)]

theorem store_apply {mem : Memory} {start i : Nat} {bytes : List UInt8} (hle : start ≤ i)
    (hlt : i < start + bytes.length) : store mem start bytes i = bytes.getD (i - start) 0 :=
  if_pos ⟨hle, hlt⟩

theorem span_getElem (mem : Memory) (start n i : Nat) (h : i < (span mem start n).length) :
    (span mem start n)[i] = mem (start + i) := by
  induction i generalizing start n with
  | zero =>
      cases n with
      | zero => simp [span] at h
      | succ n => rfl
  | succ i ih =>
      cases n with
      | zero => simp [span] at h
      | succ n =>
          simp only [span, List.getElem_cons_succ]
          rw [ih, Nat.add_right_comm, Nat.add_assoc]

/-- What was stored is there. -/
theorem span_store (mem : Memory) (start : Nat) (bytes : List UInt8) :
    span (store mem start bytes) start bytes.length = bytes := by
  apply List.ext_getElem
  · simp
  · intro i h h'
    rw [span_getElem, store_apply (by omega) (by omega), Nat.add_sub_cancel_left]
    simp [h']

/-- What lies in front of the stored bytes stays. -/
theorem span_store_before {mem : Memory} {start from' n : Nat} {bytes : List UInt8}
    (h : from' + n ≤ start) : span (store mem start bytes) from' n = span mem from' n := by
  apply span_congr
  intro i hle hlt
  exact if_neg (by omega)

theorem span_setByte_of_ne {mem : Memory} {address start n : Nat} {byte : UInt8}
    (h : address < start ∨ start + n ≤ address) :
    span (setByte mem address byte) start n = span mem start n := by
  apply span_congr
  intro i hle hlt
  exact if_neg (by omega)

@[simp] theorem setByte_same (mem : Memory) (address : Nat) (byte : UInt8) :
    setByte mem address byte address = byte := if_pos rfl

end Coap
end FireEvacuation
