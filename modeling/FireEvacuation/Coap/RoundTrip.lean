import FireEvacuation.Coap.Message

/-!
# What arrives of a message

The receiver reads the parts which the sender has put together, in the same order and whole,
exactly if no option has a distance or a length of 269: these are put into one byte, where they do
not fit.  Over TCP messages follow each other on a stream, and the header says where the next one
begins; it is right exactly if no option has a distance or a length from 257 to 269, for which the
sender counts two bytes and writes one.
-/

namespace FireEvacuation
namespace Coap

open FireEvacuation.Core

/-! ## Reading a message which was built -/

/-- What was read as the accessors have it. -/
def Content.seen (content : Content) : Content :=
  { content with options := content.options.map NumberedOption.seen }

/-- The payload as `coap_get_data` has it. -/
def payloadOption (payload : List UInt8) : Option (List UInt8) :=
  if payload = [] then none else some payload

theorem readPayload_payloadText (payload : List UInt8) :
    readPayload (payloadText payload) = some (payloadOption payload) := by
  cases payload with
  | nil => rfl
  | cons byte payload => rfl

theorem payloadText_atEnd (payload : List UInt8) :
    PrefixCode.AtEnd atMarker (payloadText payload) := by
  cases payload with
  | nil => simp [payloadText, PrefixCode.AtEnd]
  | cons byte payload => simp [payloadText, PrefixCode.AtEnd, atMarker]

theorem along_of_forall {P : UInt16 → NumberedOption → Prop} (h : ∀ number option, P number option)
    (number : UInt16) (options : List NumberedOption) : optionCode.Along P number options := by
  induction options generalizing number with
  | nil => trivial
  | cons option options ih => exact ⟨h _ _, ih _⟩

theorem writeAll_length_ge (number : UInt16) (options : List NumberedOption) :
    options.length ≤ (optionCode.writeAll number options).length := by
  induction options generalizing number with
  | nil => simp
  | cons option options ih =>
      have hone := optionCode_write_length number option
      have hrest := ih (optionCode.next number option)
      simp only [PrefixCode.writeAll_cons, List.length_append, List.length_cons]
      omega

section Layout

variable {transport : CoapTransport} {high : Nat} {header token : List UInt8}
  {options : List NumberedOption} {payload text : List UInt8}

theorem Layout.first (h : Layout transport high header token options payload text) :
    (text.getD 0 0).toNat / 16 = high ∧ (text.getD 0 0).toNat % 16 = token.length := by
  obtain ⟨hhigh, -, htoken, rfl⟩ := h
  exact low_half hhigh (by omega)

/-- **What is read of a message which was built.** -/
theorem Layout.readMessage_iff (h : Layout transport high header token options payload text)
    (hcode : transport = .udp → header.getD 0 0 ≠ 0) (token' : List UInt8)
    (payload' : Option (List UInt8)) :
    (readMessage transport text).map Content.seen = some ⟨token', options, payload'⟩ ↔
      optionCode.Along Arrives 0 options ∧ token' = token ∧ payload' = payloadOption payload := by
  have hfirst := h.first.2
  obtain ⟨-, hheader, htoken, htext⟩ := h
  have hsplit : text = (UInt8.ofNat (high * 16 + token.length) :: header) ++
      (token ++ (optionCode.writeAll 0 options ++ payloadText payload)) := htext
  have hsize : (UInt8.ofNat (high * 16 + token.length) :: header).length = transport.headerSize :=
    hheader
  have hbody : text.drop (transport.headerSize + token.length) =
      optionCode.writeAll 0 options ++ payloadText payload := by
    rw [hsplit, ← List.drop_drop, List.drop_left' hsize, List.drop_left]
  have hback : (text.drop transport.headerSize).take token.length = token := by
    rw [hsplit, List.drop_left' hsize, List.take_left]
  have hlength : transport.headerSize + token.length ≤ text.length := by
    rw [hsplit, List.length_append, List.length_append, hsize]
    omega
  have hempty : ¬ (transport = .udp ∧ text.getD 1 0 = 0 ∧
      (text.length ≠ transport.headerSize ∨ (text.getD 0 0).toNat % 16 ≠ 0)) := by
    rintro ⟨hudp, hone, -⟩
    apply hcode hudp
    rw [htext] at hone
    rw [hudp] at hheader
    obtain ⟨code, header, rfl⟩ := List.exists_cons_of_length_pos (l := header)
      (by simp only [CoapTransport.headerSize] at hheader; omega)
    exact hone
  rw [readMessage, if_neg hempty, hfirst, if_neg (by omega), hbody, hback]
  have hfuel : options.length ≤ text.length := by
    have hone := congrArg List.length hbody
    have htwo := writeAll_length_ge 0 options
    rw [List.length_drop, List.length_append] at hone
    omega
  have hbegins : optionCode.Along (optionCode.Begins atMarker) 0 options :=
    along_of_forall optionCode_begins 0 _
  have hall := optionCode.readAll_writeAll_iff atMarker readsBack_of_arrives
    misread_of_not_arrives (fun _ _ => seen_of_arrives) hbegins (payloadText_atEnd payload) hfuel
  rw [← hall]
  cases hread : optionCode.readAll atMarker text.length 0
      (optionCode.writeAll 0 options ++ payloadText payload) with
  | none => simp
  | some read =>
      obtain ⟨read, rest⟩ := read
      rw [hread] at hall
      constructor
      · intro h
        obtain ⟨content, hcontent, hseen⟩ := Option.map_eq_some_iff.mp h
        obtain ⟨payload'', hpayload, rfl⟩ := Option.map_eq_some_iff.mp hcontent
        have hoptions := congrArg Content.options hseen
        have hwhole := optionCode.along_of_readAll atMarker readsBack_of_arrives
          misread_of_not_arrives hread hoptions
        obtain ⟨-, rfl⟩ := Prod.ext_iff.mp (Option.some.inj (hall.mpr hwhole))
        rw [readPayload_payloadText] at hpayload
        cases hpayload
        exact ⟨hall.mpr hwhole, (congrArg Content.token hseen).symm,
          (congrArg Content.payload hseen).symm⟩
      · rintro ⟨hwhole, rfl, rfl⟩
        obtain ⟨hoptions, rfl⟩ := Prod.ext_iff.mp (Option.some.inj hwhole)
        show ((readPayload (payloadText payload)).map _).map Content.seen = _
        rw [readPayload_payloadText]
        show some (Content.mk _ (read.map NumberedOption.seen) _) = _
        rw [show read.map NumberedOption.seen = options from hoptions]

end Layout

/-! ## The receiver -/

/-- What the receiver makes of a message: its code, token, options and payload. -/
def receive (overTcp : Bool) (heap data : Memory) (length : Nat) : Option (Nat × Content) :=
  (CAParsePDU overTcp heap data length).map fun parsed =>
    (parsed.2, ⟨coapGetToken2 parsed.1 (receivedTransport overTcp data),
      iterate parsed.1.mem (parsed.1.length + 1)
        (coapOptionIteratorInit2 parsed.1 none (receivedTransport overTcp data)),
      coapGetData parsed.1⟩)

theorem readMessage_bounds {transport : CoapTransport} {text : List UInt8} {content : Content}
    (h : readMessage transport text = some content) :
    transport.headerSize ≤ text.length ∧ content.options.length ≤ text.length := by
  obtain ⟨-, h⟩ := Option.ite_none_left_eq_some.mp h
  obtain ⟨hlength, h⟩ := Option.ite_none_left_eq_some.mp h
  obtain ⟨⟨options, rest⟩, hread, h⟩ := Option.bind_eq_some_iff.mp h
  obtain ⟨payload, -, rfl⟩ := Option.map_eq_some_iff.mp h
  have hcount := optionCode.readAll_length atMarker optionCode_consumes hread
  rw [List.length_drop] at hcount
  exact ⟨by omega, show options.length ≤ _ by omega⟩

theorem mem_of_message {mem data : Memory} {n i : Nat} (h : span mem 0 n = span data 0 n)
    (hi : i < n) : mem i = data i := by
  have hget := List.getElem_of_eq h (by simpa using hi)
  rw [span_getElem, span_getElem, Nat.zero_add] at hget
  exact hget

theorem CoapTransport.codeIndex_lt (transport : CoapTransport) :
    transport.codeIndex < transport.headerSize := by
  cases transport <;> decide

theorem tokenLength_of_parsed {pdu parsed : CoapPdu} {data : Memory} {length : Nat}
    {transport : CoapTransport} (h : coapPduParse2 pdu data length transport = some parsed) :
    ¬ 8 < tokenLength data := by
  obtain ⟨-, h⟩ := Option.ite_none_left_eq_some.mp h
  obtain ⟨-, h⟩ := Option.ite_none_left_eq_some.mp h
  obtain ⟨htoken, -⟩ := Option.ite_none_left_eq_some.mp h
  tauto

/-- **The receiver reads the bytes of the message.**  What lies behind them in memory does not
matter. -/
theorem receive_eq (overTcp : Bool) (heap data : Memory) (length : Nat) :
    receive overTcp heap data length =
      (readMessage (receivedTransport overTcp data) (span data 0 length)).bind fun content =>
        if ¬ overTcp ∧ (data 0).toNat / 64 ≠ 1 then none
        else
          some (caResponseCode (data (receivedTransport overTcp data).codeIndex), content.seen) := by
  have hparse := coapPduParse2_eq (coapPduInit2 heap length (receivedTransport overTcp data)) data
    (receivedTransport overTcp data) (Nat.le_refl length)
  rw [receive, CAParsePDU]
  cases hread : readMessage (receivedTransport overTcp data) (span data 0 length) with
  | none =>
      rw [hread] at hparse
      rw [hparse]
      rfl
  | some content =>
      rw [hread] at hparse
      obtain ⟨parsed, hparsed, hmessage, htoken, hpayload, hoptions⟩ := hparse
      obtain ⟨hsize, hcount⟩ := readMessage_bounds hread
      rw [span_length] at hsize hcount
      have hlength : parsed.length = length := by
        rw [← span_length parsed.mem 0 parsed.length, ← span_length data 0 length, ← hmessage]
        rfl
      rw [CoapPdu.message, hlength] at hmessage
      have hheader := (receivedTransport overTcp data).two_le_headerSize
      have hfirst := mem_of_message hmessage (i := 0) (by omega)
      have hcode := mem_of_message hmessage
        (Nat.lt_of_lt_of_le (receivedTransport overTcp data).codeIndex_lt hsize)
      have htkl : ¬ 8 < tokenLength parsed.mem := by
        rw [tokenLength, hfirst]
        exact tokenLength_of_parsed hparsed
      have hall := hoptions (length + 1) (by omega)
      rw [hparsed]
      simp only [hfirst, htkl, or_false, coapGetCode, hcode, Option.bind_some]
      split_ifs
      · rfl
      · show some (_, Content.mk _ _ _) = _
        rw [htoken, hlength, hall, hpayload]
        rfl

/-! ## Messages which arrive -/

/-- A code of a request or a response: a class and a detail. -/
def IsCode (code : Nat) : Prop := 0 < code ∧ code / 100 < 8 ∧ code % 100 < 32

theorem coapResponseCode_toNat {code : Nat} (h : IsCode code) :
    (coapResponseCode code).toNat = code / 100 * 32 + code % 100 := by
  obtain ⟨-, hclass, hdetail⟩ := h
  have hor : code / 100 * 32 ||| code % 100 = code / 100 * 32 + code % 100 := by
    have h := Nat.two_pow_add_eq_or_of_lt (i := 5) hdetail (code / 100)
    rw [Nat.mul_comm (code / 100) 32]
    exact h.symm
  rw [coapResponseCode, hor, UInt8.toNat_ofNat']
  omega

theorem caResponseCode_coapResponseCode {code : Nat} (h : IsCode code) :
    caResponseCode (coapResponseCode code) = code := by
  have hbyte := coapResponseCode_toNat h
  obtain ⟨-, hclass, hdetail⟩ := h
  rw [caResponseCode, hbyte]
  omega

theorem coapResponseCode_ne_zero {code : Nat} (h : IsCode code) : coapResponseCode code ≠ 0 := by
  intro hzero
  have hbyte := coapResponseCode_toNat h
  obtain ⟨hpos, hclass, hdetail⟩ := h
  rw [hzero] at hbyte
  have hnil : (0 : UInt8).toNat = 0 := rfl
  omega

/-- The token which was asked for; no token is an empty one. -/
def CAInfo.tokenBytes (info : CAInfo) : List UInt8 := info.token.getD []

theorem payloadOption_inj {payload payload' : List UInt8} :
    payloadOption payload = payloadOption payload' ↔ payload = payload' := by
  unfold payloadOption
  constructor
  · intro h
    split_ifs at h with hone htwo
    · rw [hone, htwo]
    · exact Option.some.inj h
  · rintro rfl
    rfl

/-- The bytes of a message which has a layout, in the memory of the receiver. -/
theorem Layout.receive_iff {overTcp : Bool} {transport : CoapTransport} {high length code : Nat}
    {header token : List UInt8} {options : List NumberedOption} {payload : List UInt8}
    {heap data : Memory}
    (h : Layout transport high header token options payload (span data 0 length))
    (htransport : receivedTransport overTcp data = transport)
    (hversion : overTcp = false → (data 0).toNat / 64 = 1)
    (hindex : data transport.codeIndex = coapResponseCode code) (hcode : IsCode code)
    (hudp : transport = .udp → header.getD 0 0 = coapResponseCode code) {token' : List UInt8}
    {payload' : List UInt8} :
    receive overTcp heap data length = some (code, ⟨token', options, payloadOption payload'⟩) ↔
      optionCode.Along Arrives 0 options ∧ token' = token ∧ payload' = payload := by
  have hnonzero (hone : transport = .udp) : header.getD 0 0 ≠ 0 := by
    rw [hudp hone]
    exact coapResponseCode_ne_zero hcode
  have hread := h.readMessage_iff hnonzero token' (payloadOption payload')
  rw [payloadOption_inj] at hread
  have hheader : ¬ (¬ overTcp = true ∧ (data 0).toNat / 64 ≠ 1) := by
    rintro ⟨hnot, hbad⟩
    exact hbad (hversion (by simpa using hnot))
  rw [receive_eq, htransport, ← hread]
  cases readMessage transport (span data 0 length) with
  | none => simp
  | some content =>
      rw [Option.bind_some, if_neg hheader, hindex, caResponseCode_coapResponseCode hcode]
      simp

/-- What is received of a message over UDP, whatever the receiver has in its memory behind it. -/
theorem receive_udp_iff {heap : Memory} {randomId : UInt16} {code : Nat} {info : CAInfo}
    {options : List NumberedOption} {transport : CoapTransport} {pdu : CoapPdu}
    (h : CAGeneratePDUImpl false false heap randomId code info options = .done (transport, pdu))
    (hsmall : coapMaxPduSize + info.payload.length + 1 < 2 ^ 32) (hcode : IsCode code)
    (heap' data : Memory) (hdata : span data 0 pdu.length = pdu.message)
    {token' payload' : List UInt8} :
    receive false heap' data pdu.length =
        some (code, ⟨token', options, payloadOption payload'⟩) ↔
      optionCode.Along Arrives 0 options ∧ token' = includedToken coapMaxPduSize info code ∧
        payload' = udpPayload info (includedToken coapMaxPduSize info code) options := by
  obtain ⟨rfl, -, hlayout⟩ := generated_udp h hsmall
  have hsize : 4 ≤ pdu.length := by
    have hlength := congrArg List.length hlayout.bytes
    rw [CoapPdu.message, span_length] at hlength
    simp only [messageIdBytes, List.length_cons, List.length_append] at hlength
    omega
  rw [← hdata] at hlayout
  obtain ⟨hfirst, -⟩ := hlayout.first
  have hbyte (i : Nat) (hi : i < pdu.length) : (span data 0 pdu.length).getD i 0 = data i := by
    simp [List.getD_eq_getElem?_getD, span_getElem, hi]
  rw [hbyte 0 (by omega)] at hfirst
  have hversion : (data 0).toNat / 64 = 1 := by
    have hbits : info.type.bits < 4 := by cases info.type <;> decide
    omega
  have hindex : data CoapTransport.udp.codeIndex = coapResponseCode code := by
    show data 1 = _
    rw [← hbyte 1 (by omega), hlayout.bytes]
    rfl
  exact hlayout.receive_iff rfl (fun _ => hversion) hindex hcode fun _ => rfl

/-- The length which the header says. -/
theorem coapGetLengthFromHeader_eq {length : Nat} {transport : CoapTransport}
    (htransport : coapGetTcpHeaderTypeFromSize length = transport) (hlength : length < 2 ^ 32)
    {data : Memory} (hfirst : (data 0).toNat / 16 = (tcpLengthCode length transport).1)
    (hbytes : span data 1 (tcpLengthCode length transport).2.length =
      (tcpLengthCode length transport).2) :
    coapGetLengthFromHeader data transport = length := by
  subst htransport
  unfold coapGetTcpHeaderTypeFromSize at hfirst hbytes ⊢
  split_ifs at hfirst hbytes ⊢ with htcp h8 h16
  · exact hfirst
  · have hone : data 1 = UInt8.ofNat (length - 13) := (List.cons.inj hbytes).1
    show (data 1).toNat + 13 = length
    rw [hone, UInt8.toNat_ofNat']
    omega
  · simp only [tcpLengthCode, bigEndian2, List.length_cons, List.length_nil, span] at hbytes
    obtain ⟨hone, htwo, -⟩ := (by simpa using hbytes : data 1 = _ ∧ data 2 = _ ∧ True)
    show (data 1).toNat * 256 + (data 2).toNat + 269 = length
    rw [hone, htwo, UInt8.toNat_ofNat', UInt8.toNat_ofNat']
    omega
  · simp only [tcpLengthCode, bigEndian4, List.length_cons, List.length_nil, span] at hbytes
    obtain ⟨hone, htwo, hthree, hfour⟩ :=
      (by simpa using hbytes : data 1 = _ ∧ data 2 = _ ∧ data 3 = _ ∧ data 4 = _)
    show uint ((data 1).toNat * 2 ^ 24 + (data 2).toNat * 2 ^ 16 + (data 3).toNat * 256 +
      (data 4).toNat + 65805) = length
    rw [hone, htwo, hthree, hfour, UInt8.toNat_ofNat', UInt8.toNat_ofNat', UInt8.toNat_ofNat',
      UInt8.toNat_ofNat', uint]
    omega

/-- What `coap_get_opt_header_length` counts as it is written. -/
def Counted (number : UInt16) (option : NumberedOption) : Prop :=
  overcount (option.number - number).toNat = 0 ∧ overcount option.value.length = 0

theorem optionsOvercount_eq_zero_iff {previous : UInt16} {options : List NumberedOption} :
    optionsOvercount previous options = 0 ↔ optionCode.Along Counted previous options := by
  induction options generalizing previous with
  | nil => simp [optionsOvercount]
  | cons option options ih =>
      rw [optionsOvercount, PrefixCode.along_cons, Counted, ← ih]
      show _ ↔ _ ∧ optionsOvercount option.number options = 0
      omega

/-- **The length in the header of TCP** is too large by one byte for each distance and each length
which is counted with two bytes and written with one. -/
theorem coapGetTotalMessageLength_generated {withBwt : Bool} {heap : Memory} {randomId : UInt16}
    {code : Nat} {info : CAInfo} {options : List NumberedOption} {transport : CoapTransport}
    {pdu : CoapPdu} {length : Nat}
    (h : CAGeneratePDUImpl withBwt true heap randomId code info options = .done (transport, pdu))
    (hlength : msgLength info options = some length)
    (hsmall : 2 * length + info.tokenBytes.length + 8 < 2 ^ 32)
    (data : Memory) (hdata : span data 0 pdu.length = pdu.message) :
    coapGetTotalMessageLength data = pdu.length + optionsOvercount 0 options := by
  obtain ⟨counted, hcounted, hlayout⟩ := generated_tcp h
  obtain rfl := Option.some.inj (hlength.symm.trans hcounted)
  obtain ⟨htransport, hlayout⟩ := hlayout hsmall
  have hheader := hlayout.headerSize
  have hsize := congrArg List.length hlayout.bytes
  rw [CoapPdu.message, span_length] at hsize
  simp only [List.length_cons, List.length_append, List.length_nil] at hsize hheader
  rw [← hdata] at hlayout
  obtain ⟨hfirst, htkl⟩ := hlayout.first
  have hzero : (span data 0 pdu.length).getD 0 0 = data 0 := by
    simp [List.getD_eq_getElem?_getD, span_getElem, show 0 < pdu.length by omega]
  rw [hzero] at hfirst htkl
  have hbytes : span data 1 (tcpLengthCode length transport).2.length =
      (tcpLengthCode length transport).2 := by
    have hrest := congrArg (fun t => (t.drop 1).take (tcpLengthCode length transport).2.length)
      hlayout.bytes
    rw [span_drop, span_take _ _ _ _ (by omega)] at hrest
    rw [hrest]
    simp
  rw [coapGetTotalMessageLength, hfirst, (tcpLengthCode_nibble htransport).2, htkl,
    coapGetLengthFromHeader_eq htransport (by omega) hfirst hbytes]
  obtain ⟨count, hcount, hmsg⟩ := Option.map_eq_some_iff.mp hlength
  obtain ⟨-, rfl⟩ := optionsLength_eq hcount
  have hpayload : (payloadText info.payload).length =
      if info.payload.length = 0 then 0 else info.payload.length + 1 := by
    cases info.payload <;> rfl
  split_ifs at hmsg hpayload <;> omega

end Coap
end FireEvacuation
