import FireEvacuation.Coap.Pdu

/-!
# What the parser of messages accepts

`readMessage` says on the bytes alone what a message is: a header, a token of at most eight bytes,
options, and a payload behind the marker which is not empty.  `coapPduParse2_eq` connects it to
the code: the parser accepts the same messages, whatever lies in memory behind them, and what the
accessors and the iterator find afterwards is what `readMessage` has read.
-/

namespace FireEvacuation
namespace Coap

open FireEvacuation.Core

/-! ## Options in memory -/

/-- Where the option at the beginning of a piece of memory ends, and where its value is. -/
theorem readOption_span {mem : Memory} {opt length : Nat} {option : OptionText}
    {rest : List UInt8} (h : readOption (span mem opt length) = some (option, rest)) :
    rest.length + option.value.length < length ∧
      rest = span mem (opt + (length - rest.length)) rest.length ∧
      option.value =
        span mem (opt + (length - rest.length) - option.value.length) option.value.length := by
  have hlength := readOption_length h
  rw [span_length] at hlength
  obtain ⟨delta, -, -, -, htext⟩ := readOption_eq_some_iff.mp h
  have hsize := congrArg List.length htext
  simp only [span_length, List.length_append] at hsize
  refine ⟨hlength, ?_, ?_⟩
  · have hdrop := congrArg (List.drop (length - rest.length)) htext
    rw [span_drop, ← List.append_assoc, List.drop_left' (by simp; omega)] at hdrop
    rw [Nat.sub_sub_self (by omega)] at hdrop
    exact hdrop.symm
  · have hvalue := congrArg
      (fun t => (t.drop (length - rest.length - option.value.length)).take option.value.length) htext
    rw [span_drop, span_take _ _ _ _ (by omega), List.drop_left' (by omega), List.take_left,
      ← Nat.add_sub_assoc (by omega)] at hvalue
    exact hvalue.symm

section Spans

variable {mem : Memory} {opt length : Nat}

theorem atEnd_span : PrefixCode.AtEnd atMarker (span mem opt length) ↔
    length = 0 ∨ mem opt = coapPayloadStart := by
  cases length with
  | zero => simp [span, PrefixCode.AtEnd]
  | succ m => simp [span, PrefixCode.AtEnd, atMarker]

/-- One option is parsed where one is read, and the reading goes on behind it. -/
theorem readAll_span_step (hmore : ¬ (length = 0 ∨ mem opt = coapPayloadStart)) (fuel : Nat)
    (number : UInt16) :
    optionCode.readAll atMarker (fuel + 1) number (span mem opt length) =
      (coapOptParse mem opt length).bind fun one =>
        (optionCode.readAll atMarker fuel (number + one.2.delta)
            (span mem (opt + one.1) (length - one.1))).map fun read =>
          (⟨number + one.2.delta, span mem one.2.value one.2.length⟩ :: read.1, read.2) := by
  rw [not_or] at hmore
  obtain ⟨m, rfl⟩ := Nat.exists_eq_succ_of_ne_zero hmore.1
  have hstop : atMarker (mem opt) = false := by simp [atMarker, hmore.2]
  have hstep := optionCode.readAll_step atMarker hstop fuel number (span mem (opt + 1) m)
  have hspan : mem opt :: span mem (opt + 1) m = span mem opt (m + 1) := rfl
  rw [hspan] at hstep
  rw [hstep, coapOptParse_eq]
  show ((readOption _).map _).bind _ = _
  cases hread : readOption (span mem opt (m + 1)) with
  | none => rfl
  | some one =>
      obtain ⟨option, rest⟩ := one
      obtain ⟨hshort, hrest, hvalue⟩ := readOption_span hread
      have hleft : m + 1 - (m + 1 - rest.length) = rest.length := by omega
      show Option.map _ (optionCode.readAll atMarker fuel (number + option.delta) rest) =
        Option.map _ (optionCode.readAll atMarker fuel (number + option.delta)
          (span mem (opt + (m + 1 - rest.length)) (m + 1 - (m + 1 - rest.length))))
      rw [hleft, ← hrest]
      exact congrArg (fun value =>
        (optionCode.readAll atMarker fuel (number + option.delta) rest).map
          fun read : List NumberedOption × List UInt8 =>
            (NumberedOption.mk (number + option.delta) value :: read.1, read.2)) hvalue

theorem coapOptParse_size {size : Nat} {option : CoapOption}
    (h : coapOptParse mem opt length = some (size, option)) : 0 < size ∧ size ≤ length := by
  rw [coapOptParse_eq] at h
  obtain ⟨⟨text, rest⟩, hread, heq⟩ := Option.map_eq_some_iff.mp h
  obtain ⟨hshort, -, -⟩ := readOption_span hread
  have hsize : size = length - rest.length := (congrArg Prod.fst heq).symm
  omega

/-- The parser's loop stops where a reader of options does. -/
theorem passOptions_eq (fuel : Nat) (number : UInt16) :
    passOptions mem fuel opt length =
      (optionCode.readAll atMarker fuel number (span mem opt length)).map fun read =>
        (opt + (length - read.2.length), read.2.length) := by
  induction fuel generalizing opt length number with
  | zero =>
      rw [passOptions]
      by_cases hend : length = 0 ∨ mem opt = coapPayloadStart
      · rw [if_pos hend, optionCode.readAll_atEnd atMarker (atEnd_span.mpr hend)]
        simp
      · rw [if_neg hend, optionCode.readAll_zero atMarker (mt atEnd_span.mp hend)]
        rfl
  | succ fuel ih =>
      rw [passOptions]
      by_cases hend : length = 0 ∨ mem opt = coapPayloadStart
      · rw [if_pos hend, optionCode.readAll_atEnd atMarker (atEnd_span.mpr hend)]
        simp
      · rw [if_neg hend, readAll_span_step hend]
        cases hparse : coapOptParse mem opt length with
        | none => rfl
        | some one =>
            obtain ⟨size, option⟩ := one
            obtain ⟨-, hsize⟩ := coapOptParse_size hparse
            show passOptions mem fuel (opt + size) (length - size) = _
            rw [ih (number + option.delta)]
            show _ = Option.map _ (Option.map _ (optionCode.readAll atMarker fuel
              (number + option.delta) (span mem (opt + size) (length - size))))
            cases hread : optionCode.readAll atMarker fuel (number + option.delta)
                (span mem (opt + size) (length - size)) with
            | none => rfl
            | some read =>
                have hleft := optionCode.readAll_length atMarker optionCode_consumes hread
                rw [span_length] at hleft
                have hopt : opt + size + (length - size - read.2.length) =
                    opt + (length - read.2.length) := by omega
                show some (opt + size + (length - size - read.2.length), read.2.length) = _
                rw [hopt]
                rfl

/-- Without a filter the iterator parses the option it stands at, unless it has come to the end. -/
theorem coapOptionNext_eq {type : UInt16} :
    coapOptionNext mem ⟨length, type, false, opt, none⟩ =
      if length = 0 ∨ mem opt = coapPayloadStart then (none, ⟨length, type, true, opt, none⟩)
      else
        match coapOptParse mem opt length with
        | none => (none, ⟨length, type, true, opt, none⟩)
        | some (size, option) =>
            (some opt, ⟨length - size, type + option.delta, false, opt + size, none⟩) := by
  rw [coapOptionNext]
  by_cases hend : length = 0 ∨ mem opt = coapPayloadStart
  · rw [if_pos hend, if_pos (Or.inr hend)]
  · rewrite [if_neg hend, if_neg (by simpa using hend), nextOptionLoop.eq_def]
    cases hparse : coapOptParse mem opt length with
    | none => simp [hparse]
    | some one => simp [hparse]

/-- The value by the accessors is the value of the parser, as far as an `unsigned short` counts. -/
theorem valueAt_of_parsed {size : Nat} {option : CoapOption}
    (h : coapOptParse mem opt length = some (size, option)) :
    valueAt mem opt = (span mem option.value option.length).take (option.length % 65536) := by
  obtain ⟨-, hvalue, hlength⟩ := accessors_of_parsed h
  rw [valueAt, hvalue, hlength]
  show span mem option.value (UInt16.ofNat option.length).toNat = _
  rw [UInt16.toNat_ofNat', span_take _ _ _ _ (Nat.mod_le _ _)]

/-- The iterator sees the options which a reader reads. -/
theorem iterate_eq {fuel more : Nat} {type : UInt16} {options : List NumberedOption}
    {rest : List UInt8}
    (h : optionCode.readAll atMarker fuel type (span mem opt length) = some (options, rest))
    (hmore : options.length < more) :
    iterate mem more ⟨length, type, false, opt, none⟩ = options.map NumberedOption.seen := by
  induction options generalizing fuel more type opt length with
  | nil =>
      obtain ⟨-, -, hend⟩ | ⟨n, a, tail, left, -, hnil, -⟩ := optionCode.readAll_cases atMarker h
      · obtain ⟨m, rfl⟩ := Nat.exists_eq_succ_of_ne_zero (by omega : more ≠ 0)
        rw [iterate, coapOptionNext_eq, if_pos (atEnd_span.mp hend)]
        rfl
      · cases hnil
  | cons first options ih =>
      obtain ⟨hnil, -⟩ | ⟨n, a, tail, left, rfl, -, hmany, -⟩ := optionCode.readAll_cases atMarker h
      · cases hnil
      · have hgo := mt atEnd_span.mpr hmany
        rw [readAll_span_step hgo] at h
        obtain ⟨⟨size, option⟩, hparse, h⟩ := Option.bind_eq_some_iff.mp h
        obtain ⟨⟨behind, rest'⟩, hread, heq⟩ := Option.map_eq_some_iff.mp h
        cases heq
        obtain ⟨m, rfl⟩ := Nat.exists_eq_succ_of_ne_zero (by omega : more ≠ 0)
        rw [iterate, coapOptionNext_eq, if_neg hgo, hparse]
        show NumberedOption.mk _ (valueAt mem opt) :: iterate mem m _ = _
        rw [valueAt_of_parsed hparse, ih hread (Nat.lt_of_succ_lt_succ hmore), List.map_cons,
          NumberedOption.seen, span_length]

end Spans

/-! ## Messages -/

/-- What a message says behind its header. -/
structure Content where
  token : List UInt8
  options : List NumberedOption
  payload : Option (List UInt8)
  deriving DecidableEq, Repr

/-- The payload behind the options: nothing, or the marker and at least one byte. -/
def readPayload : List UInt8 → Option (Option (List UInt8))
  | [] => some none
  | [_] => none
  | _ :: payload => some (some payload)

/-- A message, read off its bytes. -/
def readMessage (transport : CoapTransport) (text : List UInt8) : Option Content :=
  let tkl := (text.getD 0 0).toNat % 16
  if transport = .udp ∧ text.getD 1 0 = 0 ∧ (text.length ≠ transport.headerSize ∨ tkl ≠ 0) then none
  else if text.length < transport.headerSize + tkl ∨ 8 < tkl then none
  else
    (optionCode.readAll atMarker text.length 0 (text.drop (transport.headerSize + tkl))).bind
      fun read => (readPayload read.2).map fun payload =>
        ⟨(text.drop transport.headerSize).take tkl, read.1, payload⟩

/-- What the code finds in a parsed message. -/
structure Shows (pdu : CoapPdu) (transport : CoapTransport) (text : List UInt8)
    (content : Content) : Prop where
  message : pdu.message = text
  token : coapGetToken2 pdu transport = content.token
  payload : coapGetData pdu = content.payload
  options : ∀ more, content.options.length < more →
    iterate pdu.mem more (coapOptionIteratorInit2 pdu none transport) =
      content.options.map NumberedOption.seen

theorem CoapTransport.two_le_headerSize (transport : CoapTransport) : 2 ≤ transport.headerSize := by
  cases transport <;> decide

theorem CoapTransport.headerSize_le_six (transport : CoapTransport) : transport.headerSize ≤ 6 := by
  cases transport <;> decide

/-- The part behind the token. -/
theorem parseBody_spec {pdu : CoapPdu} {start : Nat} (hstart : start ≤ pdu.length)
    (hdata : pdu.data = none) :
    match (optionCode.readAll atMarker pdu.length 0 (pdu.message.drop start)).bind
        fun read => (readPayload read.2).map fun payload => (read.1, payload) with
    | none => parseBody pdu start = none
    | some (_, payload) => ∃ data, parseBody pdu start = some { pdu with data := data } ∧
        data.map (fun data => span pdu.mem data (pdu.length - data)) = payload := by
  have hdrop : pdu.message.drop start = span pdu.mem start (pdu.length - start) := by
    rw [CoapPdu.message, span_drop, Nat.zero_add]
  have hfuel : optionCode.readAll atMarker pdu.length 0 (span pdu.mem start (pdu.length - start)) =
      optionCode.readAll atMarker (pdu.length - start) 0
        (span pdu.mem start (pdu.length - start)) :=
    optionCode.readAll_fuel atMarker optionCode_consumes (by simp) (by simp)
  rw [hdrop, hfuel, parseBody, passOptions_eq _ 0]
  cases hread : optionCode.readAll atMarker (pdu.length - start) 0
      (span pdu.mem start (pdu.length - start)) with
  | none => rfl
  | some read =>
      obtain ⟨options, rest⟩ := read
      have hrest := List.suffix_iff_eq_drop.mp
        (optionCode.readAll_suffix atMarker optionCode_consumes hread)
      have hshort := (optionCode.readAll_suffix atMarker optionCode_consumes hread).length_le
      rw [span_length] at hrest hshort
      rw [span_drop, Nat.sub_sub_self hshort] at hrest
      match rest, hrest, hshort with
      | [], _, _ =>
          refine ⟨none, ?_, rfl⟩
          rw [← hdata]
          rfl
      | [_], _, _ => rfl
      | marker :: byte :: payload, hrest, hshort =>
          simp only [List.length_cons] at hrest hshort
          refine ⟨_, rfl, ?_⟩
          have htail := congrArg List.tail hrest
          rw [span, List.tail_cons, List.tail_cons] at htail
          have hend : pdu.length - (start + (pdu.length - start - (payload.length + 1 + 1)) + 1) =
              payload.length + 1 := by omega
          exact congrArg some ((congrArg (span pdu.mem _) hend).trans htail.symm)

theorem copyInto_message (pdu : CoapPdu) (data : Memory) (length : Nat) :
    (copyInto pdu data length).message = span data 0 length := by
  have h := span_store pdu.mem 0 (span data 0 length)
  rw [span_length] at h
  exact h

theorem tokenLength_copyInto {pdu : CoapPdu} {data : Memory} {length : Nat} (h : 0 < length) :
    tokenLength (copyInto pdu data length).mem = tokenLength data := by
  have hfirst : (copyInto pdu data length).mem 0 = data 0 := by
    show store pdu.mem 0 (span data 0 length) 0 = data 0
    rw [store_apply (Nat.le_refl 0) (by simpa using h)]
    simp [List.getD_eq_getElem?_getD, span_getElem, h]
  rw [tokenLength, hfirst, tokenLength]

theorem span_of_message {pdu : CoapPdu} {start : Nat} (n : Nat) (h : start + n ≤ pdu.length) :
    span pdu.mem start n = (pdu.message.drop start).take n := by
  rw [CoapPdu.message, span_drop, Nat.zero_add, span_take _ _ _ _ (by omega)]

/-- The iterator which `coap_option_iterator_init2` sets up. -/
theorem iterate_of_read {pdu : CoapPdu} {transport : CoapTransport} {tkl : Nat} {address : Option Nat}
    {options : List NumberedOption} {rest : List UInt8} {more : Nat}
    (htkl : tokenLength pdu.mem = tkl)
    (h : optionCode.readAll atMarker pdu.length 0 (pdu.message.drop (transport.headerSize + tkl)) =
      some (options, rest))
    (hmore : options.length < more) :
    iterate pdu.mem more (coapOptionIteratorInit2 { pdu with data := address } none transport) =
      options.map NumberedOption.seen := by
  rw [CoapPdu.message, span_drop, Nat.zero_add] at h
  rw [coapOptionIteratorInit2]
  dsimp only
  rw [htkl]
  by_cases hnone : pdu.length ≤ transport.headerSize + tkl
  · rw [if_pos hnone]
    rw [Nat.sub_eq_zero_of_le hnone, span, PrefixCode.readAll_nil] at h
    cases h
    obtain ⟨m, rfl⟩ := Nat.exists_eq_succ_of_ne_zero (Nat.ne_of_gt hmore)
    simp [iterate, coapOptionNext]
  · rw [if_neg hnone]
    exact iterate_eq h hmore

/-- **The parser of messages reads its bytes.**  It accepts what `readMessage` accepts, whatever is
behind the message, and leaves what was read. -/
theorem coapPduParse2_eq (pdu : CoapPdu) (data : Memory) {length : Nat}
    (transport : CoapTransport) (hroom : length ≤ pdu.maxSize) :
    match readMessage transport (span data 0 length) with
    | none => coapPduParse2 pdu data length transport = none
    | some content => ∃ parsed, coapPduParse2 pdu data length transport = some parsed ∧
        Shows parsed transport (span data 0 length) content := by
  have hheader := transport.two_le_headerSize
  by_cases hlow : length < transport.headerSize
  · -- too short for a header: both refuse, whatever the bytes behind it are
    have hread : readMessage transport (span data 0 length) = none := by
      rw [readMessage]
      split_ifs with h h'
      · rfl
      · rfl
      · rw [span_length] at h'
        omega
    rw [hread]
    show coapPduParse2 _ _ _ _ = none
    rw [coapPduParse2]
    split_ifs with h h' h''
    · rfl
    · rfl
    · rfl
    · omega
  · have hzero : (span data 0 length).getD 0 0 = data 0 := by
      simp [List.getD_eq_getElem?_getD, span_getElem, show 0 < length by omega]
    have hone : (span data 0 length).getD 1 0 = data 1 := by
      simp [List.getD_eq_getElem?_getD, span_getElem, show 1 < length by omega]
    rw [readMessage, hzero, hone, span_length, coapPduParse2, if_neg (Nat.not_lt.mpr hroom)]
    have htkl : (data 0).toNat % 16 = tokenLength data := rfl
    rw [htkl]
    by_cases hempty : transport = .udp ∧ data 1 = 0 ∧
        (length ≠ transport.headerSize ∨ tokenLength data ≠ 0)
    · rw [if_pos hempty, if_pos hempty]
    rw [if_neg hempty, if_neg hempty]
    by_cases htoken : length < transport.headerSize + tokenLength data ∨ 8 < tokenLength data
    · rw [if_pos htoken, if_pos htoken]
    rw [if_neg htoken, if_neg htoken]
    have hbody := @parseBody_spec (copyInto pdu data length)
      (transport.headerSize + tokenLength data)
      (show transport.headerSize + tokenLength data ≤ length by omega) rfl
    have hlength : (copyInto pdu data length).length = length := rfl
    have htoken' : tokenLength (copyInto pdu data length).mem = tokenLength data :=
      tokenLength_copyInto (by omega)
    rw [copyInto_message, hlength] at hbody
    cases hread : optionCode.readAll atMarker length 0
        ((span data 0 length).drop (transport.headerSize + tokenLength data)) with
    | none =>
        rw [hread] at hbody
        exact hbody
    | some read =>
        rw [hread] at hbody
        obtain ⟨options, rest⟩ := read
        cases hpayload : readPayload rest with
        | none =>
            simp only [Option.bind_some, hpayload, Option.map_none] at hbody ⊢
            exact hbody
        | some payload =>
            simp only [Option.bind_some, hpayload, Option.map_some] at hbody ⊢
            obtain ⟨address, hparse, hdata⟩ := hbody
            refine ⟨_, hparse, copyInto_message pdu data length, ?_, hdata, ?_⟩
            · show span (copyInto pdu data length).mem _ (tokenLength (copyInto pdu data length).mem) = _
              rw [htoken', span_of_message _ (by rw [hlength]; omega), copyInto_message]
            · intro more hmore
              have h := hread
              rw [← copyInto_message pdu data length] at h
              exact iterate_of_read htoken' h hmore

end Coap
end FireEvacuation
