import FireEvacuation.Coap.Parsing

/-!
# Messages from one device to the next

`CAGeneratePDUImpl` and `CAParsePDU` of `caprotocolmessage.c`.  The sender puts header, token,
options and payload together and hands `length` bytes from the header on to the adapter; the
receiver parses them.  `generated_udp` and `generated_tcp` say what the bytes are, and
`generated_udp_iff` and `generated_tcp_iff` which messages are built at all.

What is built may be less than what was asked for.  A token for which the check of
`coap_add_token2` finds no room is left out, and so is a payload which does not fit; the sender
is told neither.
-/

namespace FireEvacuation
namespace Coap

open FireEvacuation.Core

/-- `CAMessageType_t`. -/
inductive CAMessageType where
  | confirm
  | nonConfirm
  | acknowledge
  | reset
  deriving DecidableEq, Repr

/-- The two bits of the type. -/
def CAMessageType.bits : CAMessageType → Nat
  | .confirm => 0
  | .nonConfirm => 1
  | .acknowledge => 2
  | .reset => 3

/-- What `CAGeneratePDUImpl` reads of `CAInfo_t`; no payload is an empty one. -/
structure CAInfo where
  type : CAMessageType
  messageId : UInt16
  token : Option (List UInt8)
  payload : List UInt8
  deriving Repr

/-- `COAP_MAX_PDU_SIZE`. -/
def coapMaxPduSize : Nat := 1400

/-- `CA_EMPTY`. -/
def caEmpty : Nat := 0

/-- The loop which counts the options for the length of a message over TCP; `none` where the
sender gives up. -/
def optionsLength : UInt16 → List NumberedOption → Option Nat
  | _, [] => some 0
  | previous, option :: options =>
      if option.number < previous then none
      else if coapGetOptHeaderLength (option.number - previous) option.value.length = 0 then none
      else
        (optionsLength option.number options).map fun rest =>
          coapGetOptHeaderLength (option.number - previous) option.value.length + rest

/-- `msgLength`: options, marker and payload. -/
def msgLength (info : CAInfo) (options : List NumberedOption) : Option Nat :=
  (optionsLength 0 options).map fun length =>
    if info.payload.length = 0 then length else length + info.payload.length + 1

/-- The message id in memory, as a processor with little endian has it. -/
def messageIdBytes (messageId : UInt16) : List UInt8 :=
  [UInt8.ofNat messageId.toNat, UInt8.ofNat (messageId.toNat / 256)]

/-- The header of UDP with the type of the message and its id. -/
def setUdpHeader (pdu : CoapPdu) (type : CAMessageType) (messageId : UInt16) : CoapPdu :=
  { pdu with
    mem := store (setByte pdu.mem 0 ((pdu.mem 0 &&& 0xCF) ||| UInt8.ofNat (type.bits * 16))) 2
      (messageIdBytes messageId) }

/-- The message with its header and nothing else. -/
def startMessage (heap : Memory) (overTcp : Bool) (randomId : UInt16) (info : CAInfo)
    (length : Nat) : CoapTransport × CoapPdu :=
  if overTcp then
    let transport := coapGetTcpHeaderTypeFromSize (uint length)
    (transport, coapAddLength (coapPduInit2 heap
      (length + transport.headerSize + (info.token.getD []).length) transport) transport
        (uint length))
  else
    (.udp, setUdpHeader (coapPduInit2 heap coapMaxPduSize .udp) info.type
      (if info.messageId = 0 then randomId else info.messageId))

/-- The token is added if there is one and the message is not empty; that it could not be added is
only logged. -/
def addToken (pdu : CoapPdu) (transport : CoapTransport) (info : CAInfo) (code : Nat) : CoapPdu :=
  match info.token with
  | none => pdu
  | some token =>
      if code = caEmpty then pdu else (coapAddToken2 pdu token transport).getD pdu

/-- The loop which adds the options, of `CAGeneratePDUImpl` and of `CAAddOptionToPDU`. -/
def addOptions : CoapPdu → List NumberedOption → Outcome CoapPdu
  | pdu, [] => .done pdu
  | pdu, option :: options =>
      match coapAddOption2 pdu option.number option.value with
      | .refused => .refused
      | .assertion => .assertion
      | .done pdu => addOptions pdu options

/-- `CAGeneratePDUImpl`.  With the blockwise transfer built in, a message over UDP gets its options
later. -/
def CAGeneratePDUImpl (withBwt overTcp : Bool) (heap : Memory) (randomId : UInt16) (code : Nat)
    (info : CAInfo) (options : List NumberedOption) : Outcome (CoapTransport × CoapPdu) :=
  match
    if 2 ^ 32 ≤ info.payload.length then none
    else if overTcp then msgLength info options
    else some 0
  with
  | none => .refused
  | some length =>
      let start := startMessage heap overTcp randomId info length
      let pdu := addToken (coapAddCode start.2 start.1 code) start.1 info code
      if withBwt ∧ ¬ overTcp then .done (start.1, pdu)
      else
        match addOptions pdu options with
        | .refused => .refused
        | .assertion => .assertion
        | .done pdu => .done (start.1, (coapAddData pdu info.payload).2)

/-- `CA_RESPONSE_CODE`. -/
def caResponseCode (code : UInt8) : Nat := code.toNat / 32 * 100 + code.toNat % 32

/-- The header which the receiver takes the message to have. -/
def receivedTransport (overTcp : Bool) (data : Memory) : CoapTransport :=
  if overTcp then coapGetTcpHeaderTypeFromInitbyte ((data 0).toNat / 16) else .udp

/-- `CAParsePDU`, with the message and its code. -/
def CAParsePDU (overTcp : Bool) (heap data : Memory) (length : Nat) : Option (CoapPdu × Nat) :=
  match coapPduParse2 (coapPduInit2 heap length (receivedTransport overTcp data)) data length
      (receivedTransport overTcp data) with
  | none => none
  | some pdu =>
      if ¬ overTcp ∧ ((pdu.mem 0).toNat / 64 ≠ 1 ∨ 8 < tokenLength pdu.mem) then none
      else some (pdu, caResponseCode (coapGetCode pdu (receivedTransport overTcp data)))

/-! ## What is put behind the header -/

theorem coapOptEncode_done_iff {maxlen : Nat} {delta : UInt16} {val bytes : List UInt8} :
    coapOptEncode maxlen delta val = .done bytes ↔
      1 + extra delta.toNat + extra val.length + val.length ≤ maxlen ∧
        bytes = optionHead (sent delta.toNat) (sent val.length) ++ val := by
  rw [coapOptEncode_eq]
  split_ifs with h
  · simp [h, eq_comm]
  · simp [h]
  · simp [h]

theorem optionCode_write_length (number : UInt16) (option : NumberedOption) :
    (optionCode.write number option).length =
      1 + extra (option.number - number).toNat + extra option.value.length + option.value.length := by
  show (optionHead _ _ ++ option.value).length = _
  rw [List.length_append, optionHead_length]

theorem message_store (pdu : CoapPdu) (bytes : List UInt8) :
    span (store pdu.mem pdu.length bytes) 0 (pdu.length + bytes.length) = pdu.message ++ bytes := by
  rw [span_append, Nat.zero_add, span_store, span_store_before (by omega), CoapPdu.message]

/-- What is known of a message while it is put together: it fits, and what has been added is behind
the header and the token. -/
structure Building (pdu : CoapPdu) (size : Nat) (text : List UInt8) (number : UInt16) : Prop where
  maxSize : pdu.maxSize = size
  room : pdu.length ≤ size
  message : pdu.message = text
  maxDelta : pdu.maxDelta = number
  data : pdu.data = none

section Building

variable {pdu pdu' : CoapPdu} {size : Nat} {text : List UInt8} {number : UInt16}

/-- One option. -/
theorem Building.addOption (h : Building pdu size text number) (hsize : size < 2 ^ 32)
    {option : NumberedOption} (hadd : coapAddOption2 pdu option.number option.value = .done pdu') :
    Building pdu' size (text ++ optionCode.write number option) option.number := by
  obtain ⟨rfl, hroom, rfl, rfl, -⟩ := h
  rw [coapAddOption2] at hadd
  split_ifs at hadd
  cases hencode : coapOptEncode (pdu.maxSize - pdu.length) (option.number - pdu.maxDelta)
      option.value with
  | refused => simp [hencode] at hadd
  | assertion => simp [hencode] at hadd
  | done bytes =>
      obtain ⟨hfits, hbytes⟩ := coapOptEncode_done_iff.mp hencode
      have hwrite : bytes = optionCode.write pdu.maxDelta option := hbytes
      have hlength := optionCode_write_length pdu.maxDelta option
      rw [← hwrite] at hlength
      have hsum : uint (pdu.length + bytes.length) = pdu.length + bytes.length :=
        Nat.mod_eq_of_lt (by omega)
      simp only [hencode, Outcome.done.injEq] at hadd
      subst hadd
      refine ⟨rfl, ?_, ?_, rfl, rfl⟩
      · show uint (pdu.length + bytes.length) ≤ pdu.maxSize
        omega
      · rw [CoapPdu.message, hsum, message_store, hwrite]

theorem addOptions_cons_done {last : CoapPdu} {option : NumberedOption}
    {options : List NumberedOption} :
    Coap.addOptions pdu (option :: options) = .done last ↔
      ∃ next, coapAddOption2 pdu option.number option.value = .done next ∧
        Coap.addOptions next options = .done last := by
  rw [Coap.addOptions]
  cases coapAddOption2 pdu option.number option.value with
  | refused => simp
  | assertion => simp
  | done next => simp

/-- All options, in the order of their numbers. -/
theorem Building.addOptions (h : Building pdu size text number) (hsize : size < 2 ^ 32)
    {options : List NumberedOption} (hadd : addOptions pdu options = .done pdu') :
    Building pdu' size (text ++ optionCode.writeAll number options)
      (optionCode.nextAll number options) := by
  induction options generalizing pdu text number with
  | nil =>
      cases hadd
      simpa using h
  | cons option options ih =>
      obtain ⟨next, hone, hadd⟩ := addOptions_cons_done.mp hadd
      have hrest := ih (h.addOption hsize hone) hadd
      rw [List.append_assoc] at hrest
      exact hrest

/-- The text of a payload. -/
def payloadText (payload : List UInt8) : List UInt8 :=
  if payload = [] then [] else coapPayloadStart :: payload

/-- The payload, if there is room for it. -/
theorem Building.addData (h : Building pdu size text number) {data : List UInt8}
    (hsmall : pdu.length + data.length + 1 < 2 ^ 32) :
    (coapAddData pdu data).2.message =
      text ++ if text.length + data.length + 1 ≤ size then payloadText data else [] := by
  obtain ⟨rfl, hroom, rfl, -, -⟩ := h
  have hlength : pdu.message.length = pdu.length := span_length _ _ _
  have hsum : uint (pdu.length + data.length + 1) = pdu.length + data.length + 1 :=
    Nat.mod_eq_of_lt hsmall
  rw [coapAddData, hsum, hlength, payloadText]
  by_cases hnone : data.length = 0
  · rw [if_pos hnone, if_pos (List.length_eq_zero_iff.mp hnone)]
    simp
  · have hsome : data ≠ [] := mt List.length_eq_zero_iff.mpr hnone
    by_cases hfits : pdu.length + data.length + 1 ≤ pdu.maxSize
    · rw [if_neg hnone, if_neg (Nat.not_lt.mpr hfits), if_pos hfits, if_neg hsome]
      exact message_store pdu (coapPayloadStart :: data)
    · rw [if_neg hnone, if_pos (Nat.not_le.mp hfits), if_neg hfits, List.append_nil]

theorem Building.addData_room (h : Building pdu size text number) {data : List UInt8}
    (hsmall : pdu.length + data.length + 1 < 2 ^ 32) : (coapAddData pdu data).2.length ≤ size := by
  have hsum : uint (pdu.length + data.length + 1) = pdu.length + data.length + 1 :=
    Nat.mod_eq_of_lt hsmall
  have hroom := h.room
  have hmax := h.maxSize
  rw [coapAddData, hsum]
  split_ifs
  · exact hroom
  · exact hroom
  · show pdu.length + data.length + 1 ≤ size
    omega

end Building

/-! ## Header and token -/

/-- The token which is in the message. -/
def includedToken (size : Nat) (info : CAInfo) (code : Nat) : List UInt8 :=
  match info.token with
  | none => []
  | some token => if code = caEmpty ∨ 8 < token.length ∨ size < token.length + 4 then [] else token

theorem includedToken_length (size : Nat) (info : CAInfo) (code : Nat) :
    (includedToken size info code).length ≤ 8 := by
  unfold includedToken
  split
  · simp
  · split_ifs with h
    · simp
    · omega

theorem includedToken_length_le (size : Nat) (info : CAInfo) (code : Nat) :
    (includedToken size info code).length ≤ (info.token.getD []).length := by
  unfold includedToken
  cases info.token with
  | none => exact Nat.zero_le _
  | some token =>
      dsimp only
      split_ifs
      · exact Nat.zero_le _
      · exact Nat.le_refl _

/-- The low half of a byte is free for the length of the token. -/
theorem or_low_toNat {high low : Nat} (hhigh : high < 16) (hlow : low ≤ 8) :
    (UInt8.ofNat (high * 16) ||| UInt8.ofNat low) = UInt8.ofNat (high * 16 + low) := by
  have h : ∀ a : Fin 16, ∀ b : Fin 9,
      (UInt8.ofNat (a.val * 16) ||| UInt8.ofNat b.val) = UInt8.ofNat (a.val * 16 + b.val) := by
    decide
  exact h ⟨high, hhigh⟩ ⟨low, by omega⟩

theorem and_high_toNat {high : Nat} (hhigh : high < 16) :
    UInt8.ofNat (high * 16) &&& 0xF0 = UInt8.ofNat (high * 16) := by
  have h : ∀ a : Fin 16, UInt8.ofNat (a.val * 16) &&& 0xF0 = UInt8.ofNat (a.val * 16) := by decide
  exact h ⟨high, hhigh⟩

theorem low_half {high low : Nat} (hhigh : high < 16) (hlow : low < 16) :
    (UInt8.ofNat (high * 16 + low)).toNat / 16 = high ∧
      (UInt8.ofNat (high * 16 + low)).toNat % 16 = low := by
  rw [UInt8.toNat_ofNat']
  omega

section Token

variable {pdu : CoapPdu} {transport : CoapTransport} {size high : Nat} {header : List UInt8}

/-- A token which is added is put behind a header whose first byte has room for its length. -/
theorem Building.coapAddToken2 (h : Building pdu size (UInt8.ofNat (high * 16) :: header) 0)
    (hheader : header.length + 1 = transport.headerSize) (hhigh : high < 16) 
    (token : List UInt8) (hlength : token.length ≤ 8) (hcheck : token.length + 4 ≤ size)
    (hroom : token.length + transport.headerSize ≤ size) :
    ∃ next, Coap.coapAddToken2 pdu token transport = some next ∧
      Building next size (UInt8.ofNat (high * 16 + token.length) :: (header ++ token)) 0 := by
  obtain ⟨hmax, -, hmessage, -, -⟩ := h
  have hpdu : pdu.length = header.length + 1 := by
    have hlen := congrArg List.length hmessage
    rwa [CoapPdu.message, span_length] at hlen
  rw [CoapPdu.message, hpdu] at hmessage
  obtain ⟨hfirst, hbehind⟩ := List.cons.inj hmessage
  have hbyte : ((if transport = .udp then pdu.mem 0 &&& 0xF0 else pdu.mem 0) |||
      UInt8.ofNat token.length) = UInt8.ofNat (high * 16 + token.length) := by
    rw [hfirst, and_high_toNat hhigh, ite_self, or_low_toNat hhigh hlength]
  refine ⟨_, if_neg (by omega), hmax, hroom, ?_, rfl, rfl⟩
  show span (store _ _ token) 0 (token.length + transport.headerSize) = _
  rw [Nat.add_comm, span_append, Nat.zero_add, span_store, span_store_before (by omega), ← hheader,
    span, setByte_same, hbyte, span_setByte_of_ne (Or.inl (by omega)), hbehind, List.cons_append]

/-- **The token.**  It is there if the check of its room lets it pass. -/
theorem Building.addToken (h : Building pdu size (UInt8.ofNat (high * 16) :: header) 0)
    (hheader : header.length + 1 = transport.headerSize) (hhigh : high < 16) (info : CAInfo)
    (code : Nat) (hroom : ∀ token, info.token = some token → token.length + 4 ≤ size →
      token.length + transport.headerSize ≤ size) :
    Building (addToken pdu transport info code) size
      (UInt8.ofNat (high * 16 + (includedToken size info code).length) ::
        (header ++ includedToken size info code)) 0 := by
  have hnone : Building pdu size (UInt8.ofNat (high * 16 + ([] : List UInt8).length) ::
      (header ++ [])) 0 := by
    simpa using h
  unfold Coap.addToken includedToken
  cases htoken : info.token with
  | none => exact hnone
  | some token =>
      dsimp only
      by_cases hcode : code = caEmpty
      · rw [if_pos hcode, if_pos (Or.inl hcode)]
        exact hnone
      rw [if_neg hcode]
      by_cases hrefused : 8 < token.length ∨ size < token.length + 4
      · have hadd : Coap.coapAddToken2 pdu token transport = none := by
          rw [Coap.coapAddToken2, h.maxSize, if_pos hrefused]
        rw [hadd, if_pos (Or.inr hrefused)]
        exact hnone
      · obtain ⟨next, hadd, hnext⟩ := h.coapAddToken2 hheader hhigh token (by omega)
          (by omega) (hroom token htoken (by omega))
        rw [hadd, if_neg (by tauto)]
        exact hnext

end Token

/-- The first half byte of a header, and what stands between the first byte and the code. -/
def tcpLengthCode (length : Nat) : CoapTransport → Nat × List UInt8
  | .udp => (0, [])
  | .tcp => (length, [])
  | .tcp8Bit => (13, [UInt8.ofNat (length - 13)])
  | .tcp16Bit => (14, bigEndian2 (length - 269))
  | .tcp32Bit => (15, bigEndian4 (length - 65805))

theorem building_udp (heap : Memory) (randomId : UInt16) (info : CAInfo) (length code : Nat) :
    Building (coapAddCode (startMessage heap false randomId info length).2 .udp code) coapMaxPduSize
      (UInt8.ofNat ((4 + info.type.bits) * 16) :: coapResponseCode code ::
        messageIdBytes (if info.messageId = 0 then randomId else info.messageId)) 0 := by
  have hfirst : ((0x40 : UInt8) &&& 0xCF) ||| UInt8.ofNat (info.type.bits * 16) =
      UInt8.ofNat ((4 + info.type.bits) * 16) := by
    cases info.type <;> decide
  generalize hid : (if info.messageId = 0 then randomId else info.messageId) = id
  refine ⟨rfl, show 4 ≤ coapMaxPduSize by decide, ?_, rfl, rfl⟩
  rw [← hfirst]
  simp [CoapPdu.message, coapAddCode, startMessage, setUdpHeader, coapPduInit2, span, setByte,
    store, messageIdBytes, hid, CoapTransport.headerSize, CoapTransport.codeIndex,
    CoapTransport.initByte]

/-- The length of a message over TCP is written into its header. -/
theorem coapAddLength_message {heap : Memory} {size length : Nat} {transport : CoapTransport}
    (htransport : coapGetTcpHeaderTypeFromSize length = transport)
    (hsize : transport.headerSize ≤ size) (code : Nat) :
    (coapAddCode (coapAddLength (coapPduInit2 heap size transport) transport length) transport
        code).message =
      UInt8.ofNat ((tcpLengthCode length transport).1 * 16) ::
        ((tcpLengthCode length transport).2 ++ [coapResponseCode code]) := by
  subst htransport
  unfold coapGetTcpHeaderTypeFromSize at hsize ⊢
  split_ifs at hsize ⊢ with htcp h8 h16
  · simp [CoapPdu.message, coapAddCode, coapAddLength, coapPduInit2, span, setByte,
      CoapTransport.headerSize, CoapTransport.codeIndex, tcpLengthCode]
  · have hcleared : 1 < size := Nat.lt_of_lt_of_le (by decide) hsize
    obtain rfl | hmore := Nat.eq_or_lt_of_le (Nat.not_lt.mp htcp)
    · simp [CoapPdu.message, coapAddCode, coapAddLength, coapPduInit2, span, setByte,
        CoapTransport.headerSize, CoapTransport.codeIndex, CoapTransport.initByte, tcpLengthCode,
        hcleared]
    · simp [CoapPdu.message, coapAddCode, coapAddLength, coapPduInit2, span, setByte,
        CoapTransport.headerSize, CoapTransport.codeIndex, CoapTransport.initByte, tcpLengthCode,
        hmore]
  · have hcleared : 2 < size := Nat.lt_of_lt_of_le (by decide) hsize
    obtain rfl | hmore := Nat.eq_or_lt_of_le (Nat.not_lt.mp h8)
    · simp [CoapPdu.message, coapAddCode, coapAddLength, coapPduInit2, span, setByte,
        CoapTransport.headerSize, CoapTransport.codeIndex, CoapTransport.initByte, tcpLengthCode,
        bigEndian2, hcleared, Nat.lt_trans (by decide : 1 < 2) hcleared]
    · simp [CoapPdu.message, coapAddCode, coapAddLength, coapPduInit2, span, setByte, store,
        CoapTransport.headerSize, CoapTransport.codeIndex, CoapTransport.initByte, tcpLengthCode,
        bigEndian2, hmore]
  · have hcleared : 4 < size := Nat.lt_of_lt_of_le (by decide) hsize
    obtain rfl | hmore := Nat.eq_or_lt_of_le (Nat.not_lt.mp h16)
    · simp [CoapPdu.message, coapAddCode, coapAddLength, coapPduInit2, span, setByte,
        CoapTransport.headerSize, CoapTransport.codeIndex, CoapTransport.initByte, tcpLengthCode,
        bigEndian4, hcleared, Nat.lt_trans (by decide : 1 < 4) hcleared,
        Nat.lt_trans (by decide : 2 < 4) hcleared, Nat.lt_trans (by decide : 3 < 4) hcleared]
    · simp [CoapPdu.message, coapAddCode, coapAddLength, coapPduInit2, span, setByte, store,
        CoapTransport.headerSize, CoapTransport.codeIndex, CoapTransport.initByte, tcpLengthCode,
        bigEndian4, hmore]

theorem tcpLengthCode_length {length : Nat} {transport : CoapTransport}
    (htransport : coapGetTcpHeaderTypeFromSize length = transport) (code : Nat) :
    ((tcpLengthCode length transport).2 ++ [coapResponseCode code]).length + 1 =
      transport.headerSize := by
  subst htransport
  unfold coapGetTcpHeaderTypeFromSize
  split_ifs <;> rfl

/-- The first half byte gives the kind of header back. -/
theorem tcpLengthCode_nibble {length : Nat} {transport : CoapTransport}
    (htransport : coapGetTcpHeaderTypeFromSize length = transport) :
    (tcpLengthCode length transport).1 < 16 ∧
      coapGetTcpHeaderTypeFromInitbyte (tcpLengthCode length transport).1 = transport := by
  subst htransport
  unfold coapGetTcpHeaderTypeFromSize
  split_ifs with htcp
  · refine ⟨show length < 16 by omega, ?_⟩
    show coapGetTcpHeaderTypeFromInitbyte length = .tcp
    unfold coapGetTcpHeaderTypeFromInitbyte
    split <;> first | omega | rfl
  · exact ⟨show 13 < 16 by decide, rfl⟩
  · exact ⟨show 14 < 16 by decide, rfl⟩
  · exact ⟨show 15 < 16 by decide, rfl⟩

theorem coapAddLength_rest (pdu : CoapPdu) (transport : CoapTransport) (length : Nat) :
    (coapAddLength pdu transport length).maxSize = pdu.maxSize ∧
      (coapAddLength pdu transport length).length = pdu.length ∧
      (coapAddLength pdu transport length).maxDelta = pdu.maxDelta ∧
      (coapAddLength pdu transport length).data = pdu.data := by
  unfold coapAddLength
  split <;> try split
  all_goals exact ⟨rfl, rfl, rfl, rfl⟩

theorem building_tcp (heap : Memory) (randomId : UInt16) (info : CAInfo) {length : Nat}
    (hlength : length < 2 ^ 32) {transport : CoapTransport}
    (htransport : coapGetTcpHeaderTypeFromSize length = transport) (code : Nat) :
    (startMessage heap true randomId info length).1 = transport ∧
      Building (coapAddCode (startMessage heap true randomId info length).2 transport code)
        (length + transport.headerSize + (info.token.getD []).length)
        (UInt8.ofNat ((tcpLengthCode length transport).1 * 16) ::
          ((tcpLengthCode length transport).2 ++ [coapResponseCode code])) 0 := by
  have huint : uint length = length := Nat.mod_eq_of_lt hlength
  have hstart : startMessage heap true randomId info length = (transport,
      coapAddLength (coapPduInit2 heap
        (length + transport.headerSize + (info.token.getD []).length) transport) transport length) := by
    rw [startMessage, huint, htransport]
    rfl
  rw [hstart]
  obtain ⟨hmax, hlen, hdelta, hdata⟩ := coapAddLength_rest (coapPduInit2 heap
    (length + transport.headerSize + (info.token.getD []).length) transport) transport length
  refine ⟨rfl, hmax, ?_, coapAddLength_message htransport (by omega) code, hdelta, hdata⟩
  show (coapAddLength _ _ _).length ≤ _
  rw [hlen]
  show transport.headerSize ≤ _
  omega

/-! ## The length counted for TCP -/

/-- What is counted too much for a number: from 257 to 269 it takes one byte, and two are
counted. -/
def overcount (n : Nat) : Nat := if 257 ≤ n ∧ n ≤ 269 then 1 else 0

theorem countedExtra_eq (n : Nat) : countedExtra n = extra n + overcount n := by
  rw [extra_eq, countedExtra, overcount]
  split_ifs <;> omega

theorem coapGetOptHeaderLength_eq {previous : UInt16} {option : NumberedOption}
    (h : coapGetOptHeaderLength (option.number - previous) option.value.length ≠ 0) :
    coapGetOptHeaderLength (option.number - previous) option.value.length =
      (optionCode.write previous option).length + overcount (option.number - previous).toNat +
        overcount option.value.length := by
  rw [coapGetOptHeaderLength] at h ⊢
  split_ifs at h ⊢
  · exact absurd rfl h
  · rw [optionCode_write_length, countedExtra_eq, countedExtra_eq]
    omega

/-- What is counted too much for a list of options. -/
def optionsOvercount : UInt16 → List NumberedOption → Nat
  | _, [] => 0
  | previous, option :: options =>
      overcount (option.number - previous).toNat + overcount option.value.length +
        optionsOvercount option.number options

/-- The numbers of options do not fall. -/
def Ordered : UInt16 → List NumberedOption → Prop :=
  optionCode.Along fun previous option => previous ≤ option.number

theorem optionsLength_eq {previous : UInt16} {options : List NumberedOption} {length : Nat}
    (h : optionsLength previous options = some length) :
    Ordered previous options ∧
      length = (optionCode.writeAll previous options).length + optionsOvercount previous options := by
  induction options generalizing previous length with
  | nil =>
      cases h
      exact ⟨trivial, rfl⟩
  | cons option options ih =>
      obtain ⟨horder, h⟩ := Option.ite_none_left_eq_some.mp h
      obtain ⟨hcount, h⟩ := Option.ite_none_left_eq_some.mp h
      obtain ⟨rest, hrest, rfl⟩ := Option.map_eq_some_iff.mp h
      obtain ⟨hordered, rfl⟩ := ih hrest
      refine ⟨⟨UInt16.not_lt.mp horder, hordered⟩, ?_⟩
      rw [coapGetOptHeaderLength_eq hcount, PrefixCode.writeAll_cons, List.length_append,
        optionsOvercount]
      show _ = _ + (optionCode.writeAll option.number options).length + _
      omega

/-- One option is added if its number is not too low and there is room for it. -/
theorem Building.coapAddOption2_done_iff {pdu : CoapPdu} {size : Nat} {text : List UInt8}
    {number : UInt16} (h : Building pdu size text number) (option : NumberedOption) :
    (∃ next, coapAddOption2 pdu option.number option.value = .done next) ↔
      number ≤ option.number ∧ text.length + (optionCode.write number option).length ≤ size := by
  have hpdu : pdu.length = text.length := by
    rw [← h.message, CoapPdu.message, span_length]
  have hroom := h.room
  have hencode (bytes : List UInt8) :
      coapOptEncode (size - pdu.length) (option.number - number) option.value = .done bytes ↔ _ :=
    coapOptEncode_done_iff
  rw [coapAddOption2, h.maxDelta, h.maxSize, optionCode_write_length]
  constructor
  · rintro ⟨next, hnext⟩
    split_ifs at hnext with horder
    cases hbytes : coapOptEncode (size - pdu.length) (option.number - number) option.value with
    | refused => simp [hbytes] at hnext
    | assertion => simp [hbytes] at hnext
    | done bytes =>
        obtain ⟨hfits, -⟩ := (hencode bytes).mp hbytes
        exact ⟨UInt16.not_lt.mp horder, by omega⟩
  · rintro ⟨horder, hfits⟩
    rw [if_neg (UInt16.not_lt.mpr horder), (hencode _).mpr ⟨by omega, rfl⟩]
    exact ⟨_, rfl⟩

/-- **Which options are all added**: those which are in order and fit. -/
theorem Building.addOptions_done_iff {pdu : CoapPdu} {size : Nat} {text : List UInt8}
    {number : UInt16} (h : Building pdu size text number) (hsize : size < 2 ^ 32)
    (options : List NumberedOption) :
    (∃ next, Coap.addOptions pdu options = .done next) ↔
      Ordered number options ∧ text.length + (optionCode.writeAll number options).length ≤ size := by
  induction options generalizing pdu text number with
  | nil =>
      refine iff_of_true ⟨pdu, rfl⟩ ⟨trivial, ?_⟩
      rw [← h.message, CoapPdu.message, span_length]
      exact h.room
  | cons option options ih =>
      have hone := h.coapAddOption2_done_iff option
      have hnumber : optionCode.next number option = option.number := rfl
      rw [Ordered, PrefixCode.along_cons, PrefixCode.writeAll_cons, List.length_append, hnumber]
      constructor
      · rintro ⟨last, hlast⟩
        obtain ⟨next, hadd, hrest⟩ := addOptions_cons_done.mp hlast
        obtain ⟨horder, -⟩ := hone.mp ⟨next, hadd⟩
        obtain ⟨hordered, hfits⟩ := (ih (h.addOption hsize hadd)).mp ⟨last, hrest⟩
        rw [List.length_append] at hfits
        exact ⟨⟨horder, hordered⟩, by omega⟩
      · rintro ⟨⟨horder, hordered⟩, hfits⟩
        obtain ⟨next, hadd⟩ := hone.mpr ⟨horder, by omega⟩
        obtain ⟨last, hlast⟩ := (ih (h.addOption hsize hadd)).mpr
          ⟨hordered, by rw [List.length_append]; omega⟩
        exact ⟨last, addOptions_cons_done.mpr ⟨next, hadd, hlast⟩⟩

/-! ## The bytes of a message -/

/-- The bytes of a message with these parts; `high` is the first half byte. -/
structure Layout (transport : CoapTransport) (high : Nat) (header token : List UInt8)
    (options : List NumberedOption) (payload text : List UInt8) : Prop where
  highBound : high < 16
  headerSize : header.length + 1 = transport.headerSize
  tokenBound : token.length ≤ 8
  bytes : text = UInt8.ofNat (high * 16 + token.length) ::
    (header ++ (token ++ (optionCode.writeAll 0 options ++ payloadText payload)))

/-- The payload of a message over UDP: all of it or nothing. -/
def udpPayload (info : CAInfo) (token : List UInt8) (options : List NumberedOption) : List UInt8 :=
  if 4 + token.length + (optionCode.writeAll 0 options).length + info.payload.length + 1 ≤
    coapMaxPduSize then info.payload else []

theorem payloadText_ite (p : Prop) [Decidable p] (payload : List UInt8) :
    (if p then payloadText payload else []) = payloadText (if p then payload else []) := by
  split_ifs <;> rfl

/-- What is done once header and token are there. -/
theorem Building.finish {pdu last : CoapPdu} {size high : Nat} {header token : List UInt8}
    {options : List NumberedOption} {payload : List UInt8}
    (h : Building pdu size (UInt8.ofNat (high * 16 + token.length) :: (header ++ token)) 0)
    (hadd : Coap.addOptions pdu options = .done last) (hsmall : size + payload.length + 1 < 2 ^ 32) :
    (coapAddData last payload).2.message =
      UInt8.ofNat (high * 16 + token.length) ::
        (header ++ (token ++ (optionCode.writeAll 0 options ++
          payloadText (if 1 + header.length + token.length + (optionCode.writeAll 0 options).length +
            payload.length + 1 ≤ size then payload else [])))) := by
  have hlast := h.addOptions (by omega) hadd
  have hroom := hlast.room
  have hlength : 1 + header.length + token.length + (optionCode.writeAll 0 options).length =
      (UInt8.ofNat (high * 16 + token.length) :: (header ++ token) ++
        optionCode.writeAll 0 options).length := by
    simp only [List.length_cons, List.length_append]
    omega
  rw [hlast.addData (by omega), hlength, payloadText_ite]
  simp only [List.cons_append, List.append_assoc]

theorem addOptions_of_generated {withBwt overTcp : Bool} {heap : Memory} {randomId : UInt16}
    {code : Nat} {info : CAInfo} {options : List NumberedOption} {transport : CoapTransport}
    {pdu : CoapPdu} (hbwt : withBwt = false ∨ overTcp = true)
    (h : CAGeneratePDUImpl withBwt overTcp heap randomId code info options =
      .done (transport, pdu)) :
    ∃ length last, (if overTcp then msgLength info options else some 0) = some length ∧
      transport = (startMessage heap overTcp randomId info length).1 ∧
      Coap.addOptions (addToken (coapAddCode (startMessage heap overTcp randomId info length).2
        transport code) transport info code) options = .done last ∧
      pdu = (coapAddData last info.payload).2 := by
  unfold CAGeneratePDUImpl at h
  split at h
  · cases h
  · rename_i length hlength
    have hbuild : ¬ (withBwt = true ∧ ¬ overTcp = true) := by
      obtain rfl | rfl := hbwt <;> simp
    dsimp only at h
    rw [if_neg hbuild] at h
    cases hadd : Coap.addOptions (addToken (coapAddCode
        (startMessage heap overTcp randomId info length).2
        (startMessage heap overTcp randomId info length).1 code)
        (startMessage heap overTcp randomId info length).1 info code) options with
    | refused => simp [hadd] at h
    | assertion => simp [hadd] at h
    | done last =>
        simp only [hadd, Outcome.done.injEq, Prod.mk.injEq] at h
        obtain ⟨rfl, rfl⟩ := h
        exact ⟨length, last, (Option.ite_none_left_eq_some.mp hlength).2, rfl, hadd, rfl⟩

/-- **A message over UDP.** -/
theorem generated_udp {heap : Memory} {randomId : UInt16} {code : Nat} {info : CAInfo}
    {options : List NumberedOption} {transport : CoapTransport} {pdu : CoapPdu}
    (h : CAGeneratePDUImpl false false heap randomId code info options = .done (transport, pdu))
    (hsmall : coapMaxPduSize + info.payload.length + 1 < 2 ^ 32) :
    transport = .udp ∧ pdu.length ≤ coapMaxPduSize ∧
      Layout .udp (4 + info.type.bits)
        (coapResponseCode code ::
          messageIdBytes (if info.messageId = 0 then randomId else info.messageId))
        (includedToken coapMaxPduSize info code) options
        (udpPayload info (includedToken coapMaxPduSize info code) options) pdu.message := by
  obtain ⟨length, last, -, rfl, hadd, rfl⟩ := addOptions_of_generated (Or.inl rfl) h
  have hhigh : 4 + info.type.bits < 16 := by cases info.type <;> decide
  have hbuilding := (building_udp heap randomId info length code).addToken
    (show [_, _, _].length + 1 = CoapTransport.udp.headerSize from rfl) hhigh info code
    fun token _ hroom => hroom
  have hlast := hbuilding.addOptions (by decide) hadd
  have hroom := hlast.room
  refine ⟨rfl, hlast.addData_room (by omega), hhigh, rfl, includedToken_length _ _ _, ?_⟩
  rw [hbuilding.finish hadd hsmall]
  rfl

/-- **A message over TCP.**  The length which was counted says which header it has; the payload is
always there. -/
theorem generated_tcp {withBwt : Bool} {heap : Memory} {randomId : UInt16} {code : Nat}
    {info : CAInfo} {options : List NumberedOption} {transport : CoapTransport} {pdu : CoapPdu}
    (h : CAGeneratePDUImpl withBwt true heap randomId code info options = .done (transport, pdu)) :
    ∃ length, msgLength info options = some length ∧
      (2 * length + (info.token.getD []).length + 8 < 2 ^ 32 →
        coapGetTcpHeaderTypeFromSize length = transport ∧
        Layout transport (tcpLengthCode length transport).1
          ((tcpLengthCode length transport).2 ++ [coapResponseCode code])
          (includedToken (length + transport.headerSize + (info.token.getD []).length) info code)
          options info.payload pdu.message) := by
  obtain ⟨length, last, hlength, hstart, hadd, rfl⟩ := addOptions_of_generated (Or.inr rfl) h
  refine ⟨length, hlength, fun hsmall => ?_⟩
  obtain ⟨htransport, hbuilding⟩ := building_tcp heap randomId info
    (show length < 2 ^ 32 by omega) rfl code
  rw [htransport] at hstart
  subst hstart
  obtain ⟨hhigh, -⟩ := tcpLengthCode_nibble (rfl : coapGetTcpHeaderTypeFromSize length = _)
  have hheader := tcpLengthCode_length (rfl : coapGetTcpHeaderTypeFromSize length = _) code
  have htoken := hbuilding.addToken hheader hhigh info code fun token htoken hroom => by
    rw [htoken]
    show token.length + _ ≤ length + _ + token.length
    omega
  obtain ⟨count, hcount, hmsg⟩ := Option.map_eq_some_iff.mp hlength
  obtain ⟨-, rfl⟩ := optionsLength_eq hcount
  have hsix := (coapGetTcpHeaderTypeFromSize length).headerSize_le_six
  have hincluded := includedToken_length_le (length +
    (coapGetTcpHeaderTypeFromSize length).headerSize + (info.token.getD []).length) info code
  have hpayload : info.payload.length ≤ length := by
    split_ifs at hmsg <;> omega
  refine ⟨rfl, hhigh, hheader, includedToken_length _ _ _, ?_⟩
  rw [htoken.finish hadd (by omega)]
  congr 5
  by_cases hnone : info.payload.length = 0
  · rw [List.length_eq_zero_iff.mp hnone, ite_self]
  · rw [if_neg hnone] at hmsg
    rw [if_pos (by omega)]

/-! ## Which messages are built -/

theorem optionsLength_isSome_iff {previous : UInt16} {options : List NumberedOption} :
    (∃ length, optionsLength previous options = some length) ↔
      Ordered previous options ∧ ∀ option ∈ options, option.value.length ≤ 65536 := by
  induction options generalizing previous with
  | nil => simp [optionsLength, Ordered]
  | cons option options ih =>
      have hcount : coapGetOptHeaderLength (option.number - previous) option.value.length = 0 ↔
          65536 < option.value.length := by
        unfold coapGetOptHeaderLength
        split_ifs with hlong
        · exact iff_of_true rfl hlong
        · exact iff_of_false not_false hlong
      have hrest := @ih option.number
      rw [Ordered] at hrest ⊢
      rw [PrefixCode.along_cons, List.forall_mem_cons, optionsLength]
      show _ ↔ (previous ≤ option.number ∧ optionCode.Along _ option.number options) ∧ _
      constructor
      · rintro ⟨length, h⟩
        obtain ⟨horder, h⟩ := Option.ite_none_left_eq_some.mp h
        obtain ⟨hnot, h⟩ := Option.ite_none_left_eq_some.mp h
        obtain ⟨rest, hsome, -⟩ := Option.map_eq_some_iff.mp h
        obtain ⟨hordered, hshort⟩ := hrest.mp ⟨rest, hsome⟩
        exact ⟨⟨UInt16.not_lt.mp horder, hordered⟩, Nat.not_lt.mp (mt hcount.mpr hnot), hshort⟩
      · rintro ⟨⟨horder, hordered⟩, hone, hshort⟩
        obtain ⟨rest, hsome⟩ := hrest.mpr ⟨hordered, hshort⟩
        rw [if_neg (UInt16.not_lt.mpr horder), if_neg (mt hcount.mp (Nat.not_lt.mpr hone)), hsome]
        exact ⟨_, rfl⟩

theorem generated_iff_addOptions {withBwt overTcp : Bool} {heap : Memory} {randomId : UInt16}
    {code : Nat} {info : CAInfo} {options : List NumberedOption}
    (hbwt : withBwt = false ∨ overTcp = true) :
    (∃ message, CAGeneratePDUImpl withBwt overTcp heap randomId code info options = .done message) ↔
      info.payload.length < 2 ^ 32 ∧
        ∃ length, (if overTcp then msgLength info options else some 0) = some length ∧
          ∃ last, Coap.addOptions (addToken (coapAddCode
            (startMessage heap overTcp randomId info length).2
            (startMessage heap overTcp randomId info length).1 code)
            (startMessage heap overTcp randomId info length).1 info code) options = .done last := by
  have hbuild : ¬ (withBwt = true ∧ ¬ overTcp = true) := by
    obtain rfl | rfl := hbwt <;> simp
  unfold CAGeneratePDUImpl
  by_cases hpayload : 2 ^ 32 ≤ info.payload.length
  · rw [if_pos hpayload]
    exact iff_of_false (fun ⟨_, h⟩ => nomatch h) fun h => absurd h.1 (Nat.not_lt.mpr hpayload)
  rw [if_neg hpayload]
  cases hlength : (if overTcp then msgLength info options else some 0) with
  | none => simp
  | some length =>
      dsimp only
      rw [if_neg hbuild]
      cases hadd : Coap.addOptions (addToken (coapAddCode
          (startMessage heap overTcp randomId info length).2
          (startMessage heap overTcp randomId info length).1 code)
          (startMessage heap overTcp randomId info length).1 info code) options with
      | refused => simp [hadd]
      | assertion => simp [hadd]
      | done last => simpa [hadd] using hpayload

/-- **Which messages over UDP are built.**  The options have to be in order and to fit behind header
and token, unless the blockwise transfer adds them later; for the payload no room is needed. -/
theorem generated_udp_iff (withBwt : Bool) (heap : Memory) (randomId : UInt16) (code : Nat)
    (info : CAInfo) (options : List NumberedOption) :
    (∃ message, CAGeneratePDUImpl withBwt false heap randomId code info options = .done message) ↔
      info.payload.length < 2 ^ 32 ∧ (withBwt = false → Ordered 0 options ∧
        4 + (includedToken coapMaxPduSize info code).length +
          (optionCode.writeAll 0 options).length ≤ coapMaxPduSize) := by
  cases withBwt with
  | true =>
      -- only the length of the payload is looked at
      unfold CAGeneratePDUImpl
      by_cases hpayload : 2 ^ 32 ≤ info.payload.length
      · rw [if_pos hpayload]
        exact iff_of_false (fun ⟨_, h⟩ => nomatch h) fun h => absurd h.1 (Nat.not_lt.mpr hpayload)
      · rw [if_neg hpayload]
        exact iff_of_true ⟨_, rfl⟩ ⟨Nat.not_le.mp hpayload, fun h => nomatch h⟩
  | false =>
      have hhigh : 4 + info.type.bits < 16 := by cases info.type <;> decide
      have hbuilding := (building_udp heap randomId info 0 code).addToken
        (show [_, _, _].length + 1 = CoapTransport.udp.headerSize from rfl) hhigh info code
        fun token _ hroom => hroom
      have hadd := hbuilding.addOptions_done_iff (by decide) options
      simp only [List.length_cons, List.length_append, messageIdBytes, List.length_nil] at hadd
      rw [generated_iff_addOptions (Or.inl rfl)]
      apply and_congr_right
      intro _
      constructor
      · rintro ⟨length, hlength, hlast⟩ -
        obtain rfl : 0 = length := Option.some.inj hlength
        obtain ⟨hordered, hfits⟩ := hadd.mp hlast
        exact ⟨hordered, by omega⟩
      · intro h
        obtain ⟨hordered, hfits⟩ := h rfl
        exact ⟨0, rfl, hadd.mpr ⟨hordered, by omega⟩⟩

/-- **Which messages over TCP are built.**  There is always room; the options have to be in order
and none may be longer than can be counted. -/
theorem generated_tcp_iff (withBwt : Bool) (heap : Memory) (randomId : UInt16) (code : Nat)
    (info : CAInfo) (options : List NumberedOption)
    (hsmall : ∀ length, msgLength info options = some length →
      2 * length + (info.token.getD []).length + 8 < 2 ^ 32) :
    (∃ message, CAGeneratePDUImpl withBwt true heap randomId code info options = .done message) ↔
      info.payload.length < 2 ^ 32 ∧ Ordered 0 options ∧
        ∀ option ∈ options, option.value.length ≤ 65536 := by
  rw [generated_iff_addOptions (Or.inr rfl), ← optionsLength_isSome_iff]
  apply and_congr_right
  intro _
  constructor
  · rintro ⟨length, hlength, -⟩
    obtain ⟨count, hcount, -⟩ := Option.map_eq_some_iff.mp hlength
    exact ⟨count, hcount⟩
  · rintro ⟨count, hcount⟩
    obtain ⟨hordered, hsum⟩ := optionsLength_eq hcount
    obtain ⟨length, hlength⟩ : ∃ length, msgLength info options = some length := by
      rw [msgLength, hcount]
      exact ⟨_, rfl⟩
    have hbound := hsmall length hlength
    have hle : count ≤ length := by
      rw [msgLength, hcount] at hlength
      have hmsg : (if info.payload.length = 0 then count else count + info.payload.length + 1) =
        length := Option.some.inj hlength
      split_ifs at hmsg <;> omega
    obtain ⟨htransport, hbuilding⟩ := building_tcp heap randomId info
      (show length < 2 ^ 32 by omega) rfl code
    obtain ⟨hhigh, -⟩ := tcpLengthCode_nibble (rfl : coapGetTcpHeaderTypeFromSize length = _)
    have hheader := tcpLengthCode_length (rfl : coapGetTcpHeaderTypeFromSize length = _) code
    have htoken := hbuilding.addToken hheader hhigh info code fun token htoken hroom => by
      rw [htoken]
      show token.length + _ ≤ length + _ + token.length
      omega
    have hsix := (coapGetTcpHeaderTypeFromSize length).headerSize_le_six
    have hincluded := includedToken_length_le (length +
      (coapGetTcpHeaderTypeFromSize length).headerSize + (info.token.getD []).length) info code
    refine ⟨length, hlength, ?_⟩
    rw [htransport]
    apply (htoken.addOptions_done_iff (by omega) options).mpr
    refine ⟨hordered, ?_⟩
    rw [List.length_cons, List.length_append]
    omega

/-- A request for `/a` with a token. -/
def sampleInfo : CAInfo := ⟨.confirm, 7, some [1, 2], [65, 66, 67]⟩

def samplePath : List NumberedOption := [⟨11, [97]⟩]

theorem generated_tcp_iff_sample :
    ∃ message,
      CAGeneratePDUImpl true true (fun _ => 0) 0 1 sampleInfo samplePath = .done message := by
  have hsmall : ∀ length, msgLength sampleInfo samplePath = some length →
      2 * length + (sampleInfo.token.getD []).length + 8 < 2 ^ 32 := by
    intro length hlength
    cases hlength
    decide
  exact (generated_tcp_iff true (fun _ => 0) 0 1 sampleInfo samplePath hsmall).mpr
    ⟨by decide, ⟨by decide, trivial⟩, by decide⟩

end Coap
end FireEvacuation
