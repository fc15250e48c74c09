import Mathlib.Algebra.Group.Nat.Defs
import FireEvacuation.Core.PrefixCode

/-!
# How an option of a CoAP message is written and read

The functions on single options of `option.c`.  An option begins with two nibbles, for the
distance of its number from that of the option before it (the delta) and for the length of its
value.  A nibble below 13 is the number itself; 13 and 14 say that one or two bytes follow, 15 is
reserved.

The parser works on memory and looks at bytes one by one, and may look at one byte more than it
was given.  `coapOptParse_eq` says that its answer is that of a reader of the bytes it was given,
so what lies behind them never matters.  The writer agrees with that reader except for one number:
it puts 269 in one byte, where it does not fit, and 269 is read back as 13.
-/

namespace FireEvacuation
namespace Coap

open FireEvacuation.Core

/-- Memory from some address on. -/
abbrev Memory := Nat → UInt8

/-- The bytes of a piece of memory. -/
def span (mem : Memory) (start : Nat) : Nat → List UInt8
  | 0 => []
  | n + 1 => mem start :: span mem (start + 1) n

/-! ## The parser -/

/-- `coap_option_t`; `value` is the address of the first byte of the value. -/
structure CoapOption where
  delta : UInt16
  length : Nat
  value : Nat
  deriving DecidableEq, Repr

/-- `ADVANCE_OPT`: the address and the number of bytes from there on. -/
def advanceOpt (opt length step : Nat) : Option (Nat × Nat) :=
  if length < step then none else some (opt + step, length - step)

/-- The switch on the nibble of the delta.  The delta is an `unsigned short`; only its first part
is checked for a wrap. -/
def parseDelta (mem : Memory) (nibble opt length : Nat) : Option (UInt16 × Nat × Nat) :=
  match nibble with
  | 15 => none
  | 14 =>
      (advanceOpt opt length 1).bind fun one =>
        if UInt16.ofNat ((mem one.1).toNat * 256 + 269) < 269 then none
        else
          (advanceOpt one.1 one.2 1).map fun two =>
            (UInt16.ofNat ((mem one.1).toNat * 256 + 269) + UInt16.ofNat (mem two.1).toNat, two)
  | 13 =>
      (advanceOpt opt length 1).map fun one => (13 + UInt16.ofNat (mem one.1).toNat, one)
  | nibble => some (UInt16.ofNat nibble, opt, length)

/-- The switch on the nibble of the length, a `size_t`. -/
def parseLength (mem : Memory) (nibble opt length : Nat) : Option (Nat × Nat × Nat) :=
  match nibble with
  | 15 => none
  | 14 =>
      (advanceOpt opt length 1).bind fun one =>
        (advanceOpt one.1 one.2 1).map fun two =>
          ((mem one.1).toNat * 256 + 269 + (mem two.1).toNat, two)
  | 13 =>
      (advanceOpt opt length 1).map fun one => (13 + (mem one.1).toNat, one)
  | nibble => some (nibble, opt, length)

/-- `coap_opt_parse`, with the number of bytes parsed; `none` stands for the answer 0. -/
def coapOptParse (mem : Memory) (opt length : Nat) : Option (Nat × CoapOption) :=
  if length < 1 then none
  else
    (parseDelta mem ((mem opt).toNat / 16) opt length).bind fun delta =>
      (parseLength mem ((mem opt).toNat % 16) delta.2.1 delta.2.2).bind fun len =>
        (advanceOpt len.2.1 len.2.2 1).bind fun value =>
          if value.2 < len.1 then none
          else some (value.1 + len.1 - opt, ⟨delta.1, len.1, value.1⟩)

/-! ## The accessors -/

/-- `coap_opt_delta`. -/
def coapOptDelta (mem : Memory) (opt : Nat) : UInt16 :=
  match (mem opt).toNat / 16 with
  | 15 => 0
  | 14 =>
      UInt16.ofNat ((mem (opt + 1)).toNat * 256 + 269) + UInt16.ofNat (mem (opt + 2)).toNat
  | 13 => 13 + UInt16.ofNat (mem (opt + 1)).toNat
  | n => UInt16.ofNat n

/-- The bytes which the nibble of the delta says to skip. -/
def deltaBytes : Nat → Nat
  | 14 => 2
  | 13 => 1
  | _ => 0

/-- The second switch of `coap_opt_length`, on the nibble of the length. -/
def lengthAt (mem : Memory) (opt : Nat) : Nat → UInt16
  | 15 => 0
  | 14 => UInt16.ofNat ((mem opt).toNat * 256 + 269) + UInt16.ofNat (mem (opt + 1)).toNat
  | 13 => 13 + UInt16.ofNat (mem opt).toNat
  | n => UInt16.ofNat n

/-- `coap_opt_length`.  The answer is an `unsigned short`. -/
def coapOptLength (mem : Memory) (opt : Nat) : UInt16 :=
  if (mem opt).toNat / 16 = 15 then 0
  else lengthAt mem (opt + 1 + deltaBytes ((mem opt).toNat / 16)) ((mem opt).toNat % 16)

/-- `coap_opt_value`; `none` stands for the null pointer. -/
def coapOptValue (mem : Memory) (opt : Nat) : Option Nat :=
  if (mem opt).toNat / 16 = 15 ∨ (mem opt).toNat % 16 = 15 then none
  else some (opt + (1 + deltaBytes ((mem opt).toNat / 16) + deltaBytes ((mem opt).toNat % 16)))

/-! ## The writer -/

/-- What is written for a delta: the nibble and the bytes behind it, if there is room. -/
def setDelta (maxlen : Nat) (delta : UInt16) : Option (Nat × List UInt8) :=
  if delta < 13 then some (delta.toNat, [])
  else if delta < 270 then
    if maxlen < 2 then none else some (13, [UInt8.ofNat (delta.toNat - 13)])
  else
    if maxlen < 3 then none
    else some (14, [UInt8.ofNat ((delta.toNat - 269) / 256), UInt8.ofNat (delta.toNat - 269)])

/-- What is written for a length behind `skip` bytes.  The room is compared with the index of the
last byte, not with the number of bytes. -/
def setLength (maxlen skip length : Nat) : Option (Nat × List UInt8) :=
  if length < 13 then some (length, [])
  else if length < 270 then
    if maxlen < skip + 1 then none else some (13, [UInt8.ofNat (length - 13)])
  else
    if maxlen < skip + 2 then none
    else some (14, [UInt8.ofNat ((length - 269) / 256), UInt8.ofNat (length - 269)])

/-- `coap_opt_setheader`: the bytes from `opt` on, none of them where the answer is 0.  What a
refused call has put into the buffer by then is behind the end of the message. -/
def coapOptSetheader (maxlen : Nat) (delta : UInt16) (length : Nat) : List UInt8 :=
  if maxlen = 0 then []
  else
    match setDelta maxlen delta with
    | none => []
    | some (high, skipped) =>
        match setLength maxlen skipped.length length with
        | none => []
        | some (low, more) => UInt8.ofNat (high * 16 + low) :: (skipped ++ more)

/-- What a call of the library comes to. -/
inductive Outcome (α : Type) where
  /-- The answer is 0 or the null pointer. -/
  | refused
  /-- Something has been written past its room, and an assertion stops the program. -/
  | assertion
  | done (value : α)
  deriving DecidableEq, Repr

/-- `coap_opt_encode`, with the bytes it writes. -/
def coapOptEncode (maxlen : Nat) (delta : UInt16) (val : List UInt8) : Outcome (List UInt8) :=
  if maxlen < (coapOptSetheader maxlen delta val.length).length then .assertion
  else if coapOptSetheader maxlen delta val.length = [] then .refused
  else if maxlen - (coapOptSetheader maxlen delta val.length).length < val.length then .refused
  else .done (coapOptSetheader maxlen delta val.length ++ val)

/-! ## Numbers in a nibble and the bytes behind it -/

/-- How a number below 65805 is to be written: the nibble and the bytes behind it. -/
def nibbleCode (n : Nat) : Nat × List UInt8 :=
  if n < 13 then (n, [])
  else if n < 269 then (13, [UInt8.ofNat (n - 13)])
  else (14, [UInt8.ofNat ((n - 269) / 256), UInt8.ofNat (n - 269)])

/-- The number which a nibble and the bytes behind it stand for, and the bytes after that. -/
def readNibble (nibble : Nat) (text : List UInt8) : Option (Nat × List UInt8) :=
  match nibble with
  | 15 => none
  | 14 =>
      match text with
      | high :: low :: rest => some (high.toNat * 256 + 269 + low.toNat, rest)
      | _ => none
  | 13 =>
      match text with
      | byte :: rest => some (13 + byte.toNat, rest)
      | [] => none
  | nibble => some (nibble, text)

theorem readNibble_low {nibble : Nat} (h : nibble < 13) (rest : List UInt8) :
    readNibble nibble rest = some (nibble, rest) := by
  unfold readNibble
  split <;> first | omega | rfl

theorem nibbleCode_lt (n : Nat) : (nibbleCode n).1 < 15 := by
  unfold nibbleCode
  split
  · show n < 15
    omega
  · split <;> simp

/-- Each number below the bound is read back. -/
theorem readNibble_nibbleCode {n : Nat} (h : n < 65805) (rest : List UInt8) :
    readNibble (nibbleCode n).1 ((nibbleCode n).2 ++ rest) = some (n, rest) := by
  unfold nibbleCode
  split
  · exact readNibble_low ‹_› rest
  · split
    · have hn : 13 + (UInt8.ofNat (n - 13)).toNat = n := by
        rw [UInt8.toNat_ofNat']
        omega
      show some (13 + (UInt8.ofNat (n - 13)).toNat, rest) = _
      rw [hn]
    · have hn : (UInt8.ofNat ((n - 269) / 256)).toNat * 256 + 269 +
          (UInt8.ofNat (n - 269)).toNat = n := by
        rw [UInt8.toNat_ofNat', UInt8.toNat_ofNat']
        omega
      show some ((UInt8.ofNat ((n - 269) / 256)).toNat * 256 + 269 +
        (UInt8.ofNat (n - 269)).toNat, rest) = _
      rw [hn]

/-- And each number which is read has been written in the one way there is. -/
theorem eq_nibbleCode_of_readNibble {nibble n : Nat} {text rest : List UInt8}
    (hnibble : nibble < 16) (h : readNibble nibble text = some (n, rest)) :
    n < 65805 ∧ nibble = (nibbleCode n).1 ∧ text = (nibbleCode n).2 ++ rest := by
  unfold readNibble at h
  split at h
  · cases h
  · split at h
    · rename_i high low left
      cases h
      have hhigh := high.toNat_lt
      have hlow := low.toNat_lt
      have hone : (high.toNat * 256 + 269 + low.toNat - 269) / 256 = high.toNat := by omega
      have hbyte : UInt8.ofNat (high.toNat * 256 + 269 + low.toNat - 269) = low := by
        apply UInt8.toNat_inj.mp
        rw [UInt8.toNat_ofNat']
        omega
      rw [nibbleCode, if_neg (by omega), if_neg (by omega), hone, hbyte, UInt8.ofNat_toNat]
      exact ⟨by omega, rfl, rfl⟩
    · cases h
  · split at h
    · rename_i byte left
      cases h
      have hbyte := byte.toNat_lt
      have hone : 13 + byte.toNat - 13 = byte.toNat := by omega
      rw [nibbleCode, if_neg (by omega), if_pos (by omega), hone, UInt8.ofNat_toNat]
      exact ⟨by omega, rfl, rfl⟩
    · cases h
  · rename_i h15 h14 h13
    cases h
    have hlow : nibble < 13 := by
      have hne : nibble ≠ 15 ∧ nibble ≠ 14 ∧ nibble ≠ 13 := ⟨h15, h14, h13⟩
      omega
    rw [nibbleCode, if_pos hlow]
    exact ⟨by omega, rfl, rfl⟩

/-! ## The parser as a reader of bytes -/

/-- What an option says. -/
structure OptionText where
  delta : UInt16
  value : List UInt8
  deriving DecidableEq, Repr

/-- The delta at a nibble.  The bound is where the first part of the parser's sum wraps. -/
def readDelta (nibble : Nat) (text : List UInt8) : Option (UInt16 × List UInt8) :=
  (readNibble nibble text).bind fun delta =>
    if 65549 ≤ delta.1 then none else some (UInt16.ofNat delta.1, delta.2)

/-- The option at the beginning of a text, and the text behind it. -/
def readOption : List UInt8 → Option (OptionText × List UInt8)
  | [] => none
  | first :: text =>
      (readDelta (first.toNat / 16) text).bind fun delta =>
        (readNibble (first.toNat % 16) delta.2).bind fun len =>
          if len.2.length < len.1 then none
          else some (⟨delta.1, len.2.take len.1⟩, len.2.drop len.1)

@[simp] theorem span_length (mem : Memory) (start n : Nat) : (span mem start n).length = n := by
  induction n generalizing start with
  | zero => rfl
  | succ n ih => simp [span, ih]

theorem span_drop (mem : Memory) (start n k : Nat) :
    (span mem start n).drop k = span mem (start + k) (n - k) := by
  induction k generalizing start n with
  | zero => simp
  | succ k ih =>
      cases n with
      | zero => simp [span]
      | succ n =>
          rw [span, List.drop_succ_cons, ih, Nat.add_sub_add_right]
          congr 1
          omega

theorem span_take (mem : Memory) (start n k : Nat) (h : k ≤ n) :
    (span mem start n).take k = span mem start k := by
  induction k generalizing start n with
  | zero => simp [span]
  | succ k ih =>
      obtain ⟨m, rfl⟩ := Nat.exists_eq_add_of_le' (Nat.le_trans (Nat.succ_pos k) h)
      rw [span, span, List.take_succ_cons, ih (start + 1) m (by omega)]

theorem span_append (mem : Memory) (start n k : Nat) :
    span mem start (n + k) = span mem start n ++ span mem (start + n) k := by
  rw [← List.take_append_drop n (span mem start (n + k)), span_take _ _ _ _ (by omega), span_drop,
    Nat.add_sub_cancel_left]

theorem advanceOpt_position {opt length : Nat} {one : Nat × Nat}
    (h : advanceOpt opt length 1 = some one) : one.1 = opt + 1 ∧ one.2 + 1 = length := by
  obtain ⟨hroom, rfl⟩ := (Option.ite_none_left_eq_some.mp h).imp_right Option.some.inj
  exact ⟨rfl, by omega⟩

/-- The nibble of the length, read by address and read off the bytes. -/
theorem readNibble_eq_parseLength (mem : Memory) (nibble opt m : Nat) :
    readNibble nibble (span mem (opt + 1) m) =
      (parseLength mem nibble opt (m + 1)).bind fun len =>
        if len.2.2 = 0 then none else some (len.1, span mem (len.2.1 + 1) (len.2.2 - 1)) := by
  unfold readNibble parseLength
  split
  · rfl
  · obtain _ | _ | m := m
    · rfl
    · rfl
    · rfl
  · obtain _ | m := m
    · rfl
    · rfl
  · rfl

/-- The parser's check on the first part of a delta finds the sums from 65549 on. -/
theorem wraps_iff (high low : UInt8) :
    UInt16.ofNat (high.toNat * 256 + 269) < 269 ↔ 65549 ≤ high.toNat * 256 + 269 + low.toNat := by
  have hhigh := high.toNat_lt
  have hlow := low.toNat_lt
  rw [UInt16.lt_iff_toNat_lt, UInt16.toNat_ofNat']
  show (high.toNat * 256 + 269) % 65536 < 269 ↔ _
  omega

/-- The nibble of the delta likewise. -/
theorem readDelta_eq_parseDelta (mem : Memory) {nibble : Nat} (hnibble : nibble < 16)
    (opt m : Nat) :
    readDelta nibble (span mem (opt + 1) m) =
      (parseDelta mem nibble opt (m + 1)).bind fun delta =>
        if delta.2.2 = 0 then none
        else some (delta.1, span mem (delta.2.1 + 1) (delta.2.2 - 1)) := by
  unfold readDelta readNibble parseDelta
  split
  · rfl
  · obtain _ | _ | m := m
    · show none = Option.bind (if _ then none else _) _
      split_ifs <;> rfl
    · show none = Option.bind (if _ then none else _) _
      split_ifs <;> rfl
    · have hwraps := wraps_iff (mem (opt + 1)) (mem (opt + 1 + 1))
      show (if _ then none else _) = Option.bind (if _ then none else _) _
      by_cases h : UInt16.ofNat ((mem (opt + 1)).toNat * 256 + 269) < 269
      · rw [if_pos h, if_pos (hwraps.mp h)]
        rfl
      · rw [if_neg h, if_neg (mt hwraps.mpr h), UInt16.ofNat_add]
        rfl
  · obtain _ | m := m
    · rfl
    · have hbyte := (mem (opt + 1)).toNat_lt
      show (if 65549 ≤ 13 + (mem (opt + 1)).toNat then none else _) = _
      rw [if_neg (by omega), UInt16.ofNat_add]
      rfl
  · show (if 65549 ≤ nibble then none else _) = _
    rw [if_neg (by omega)]
    rfl

/-- No address is passed twice, and none beyond the end is taken for one inside. -/
theorem parseLength_position {mem : Memory} {nibble opt length : Nat} {len : Nat × Nat × Nat}
    (h : parseLength mem nibble opt length = some len) :
    opt ≤ len.2.1 ∧ len.2.1 + len.2.2 = opt + length := by
  unfold parseLength at h
  split at h
  · cases h
  · obtain ⟨one, hone, h⟩ := Option.bind_eq_some_iff.mp h
    obtain ⟨two, htwo, rfl⟩ := Option.map_eq_some_iff.mp h
    have hfirst := advanceOpt_position hone
    have hsecond := advanceOpt_position htwo
    show opt ≤ two.1 ∧ two.1 + two.2 = opt + length
    omega
  · obtain ⟨one, hone, rfl⟩ := Option.map_eq_some_iff.mp h
    have hfirst := advanceOpt_position hone
    show opt ≤ one.1 ∧ one.1 + one.2 = opt + length
    omega
  · cases h
    exact ⟨Nat.le_refl _, rfl⟩

theorem parseDelta_position {mem : Memory} {nibble opt length : Nat} {delta : UInt16 × Nat × Nat}
    (h : parseDelta mem nibble opt length = some delta) :
    opt ≤ delta.2.1 ∧ delta.2.1 + delta.2.2 = opt + length := by
  unfold parseDelta at h
  split at h
  · cases h
  · obtain ⟨one, hone, h⟩ := Option.bind_eq_some_iff.mp h
    obtain ⟨-, h⟩ := Option.ite_none_left_eq_some.mp h
    obtain ⟨two, htwo, rfl⟩ := Option.map_eq_some_iff.mp h
    have hfirst := advanceOpt_position hone
    have hsecond := advanceOpt_position htwo
    show opt ≤ two.1 ∧ two.1 + two.2 = opt + length
    omega
  · obtain ⟨one, hone, rfl⟩ := Option.map_eq_some_iff.mp h
    have hfirst := advanceOpt_position hone
    show opt ≤ one.1 ∧ one.1 + one.2 = opt + length
    omega
  · cases h
    exact ⟨Nat.le_refl _, rfl⟩

/-- Where a reader of bytes has stopped, and what it has read, by address. -/
def located (opt length : Nat) (read : OptionText × List UInt8) : Nat × CoapOption :=
  (length - read.2.length, ⟨read.1.delta, read.1.value.length,
    opt + (length - read.2.length) - read.1.value.length⟩)

/-- **The parser reads the bytes it was given.**  Its answer is that of a reader of these bytes,
whatever is behind them. -/
theorem coapOptParse_eq (mem : Memory) (opt length : Nat) :
    coapOptParse mem opt length = (readOption (span mem opt length)).map (located opt length) := by
  obtain _ | m := length
  · rfl
  rw [coapOptParse, if_neg (by omega), span, readOption,
    readDelta_eq_parseDelta mem (by have := (mem opt).toNat_lt; omega)]
  cases hdelta : parseDelta mem ((mem opt).toNat / 16) opt (m + 1) with
  | none => rfl
  | some delta =>
      obtain ⟨d, o, e⟩ := delta
      obtain ⟨hle, hsum⟩ := parseDelta_position hdelta
      dsimp only at hle hsum
      show Option.bind (parseLength mem _ o e) _ =
        (Option.bind (if e = 0 then none else some (d, span mem (o + 1) (e - 1))) _).map _
      obtain _ | e := e
      · -- the byte last looked at is already behind the end
        cases hlen : parseLength mem ((mem opt).toNat % 16) o 0 with
        | none => rfl
        | some len =>
            have hpos := parseLength_position hlen
            have hend : len.2.2 = 0 := by omega
            show Option.bind (advanceOpt _ len.2.2 1) _ = none
            rw [hend]
            rfl
      · rw [if_neg (by omega), Nat.add_sub_cancel]
        show _ = ((readNibble _ (span mem (o + 1) e)).bind _).map _
        rw [readNibble_eq_parseLength]
        cases hlen : parseLength mem ((mem opt).toNat % 16) o (e + 1) with
        | none => rfl
        | some len =>
            obtain ⟨l, o', e'⟩ := len
            obtain ⟨hle', hsum'⟩ := parseLength_position hlen
            dsimp only at hle' hsum'
            show Option.bind (advanceOpt o' e' 1) _ =
              (Option.bind (if e' = 0 then none else some (l, span mem (o' + 1) (e' - 1))) _).map _
            obtain _ | e' := e'
            · rfl
            · rw [if_neg (by omega), Nat.add_sub_cancel]
              show (if e' < l then none else _) =
                (if (span mem (o' + 1) e').length < l then none else _).map _
              rw [span_length]
              by_cases hl : e' < l
              · rw [if_pos hl, if_pos hl]
                rfl
              · rw [if_neg hl, if_neg hl, span_drop, span_take _ _ _ _ (by omega)]
                show _ = some (located _ _ _)
                rw [located, span_length, span_length]
                have hsize : o' + 1 + l - opt = m + 1 - (e' - l) := by omega
                have hvalue : o' + 1 = opt + (m + 1 - (e' - l)) - l := by omega
                show some (o' + 1 + l - opt, CoapOption.mk d l (o' + 1)) =
                  some (m + 1 - (e' - l), CoapOption.mk d l (opt + (m + 1 - (e' - l)) - l))
                rw [← hvalue, hsize]

/-! ## What the parser accepts -/

/-- The header of an option whose delta and length are to be read as these numbers. -/
def optionHead (delta length : Nat) : List UInt8 :=
  UInt8.ofNat ((nibbleCode delta).1 * 16 + (nibbleCode length).1) ::
    ((nibbleCode delta).2 ++ (nibbleCode length).2)

theorem readDelta_nibbleCode {delta : Nat} (h : delta < 65549) (rest : List UInt8) :
    readDelta (nibbleCode delta).1 ((nibbleCode delta).2 ++ rest) =
      some (UInt16.ofNat delta, rest) := by
  rw [readDelta, readNibble_nibbleCode (by omega)]
  exact if_neg (by dsimp only; omega)

theorem readOption_optionHead {delta : Nat} (hdelta : delta < 65549) {length : Nat}
    (hlength : length < 65805) (text : List UInt8) :
    readOption (optionHead delta length ++ text) =
      if text.length < length then none
      else some (⟨UInt16.ofNat delta, text.take length⟩, text.drop length) := by
  have hfirst := nibbleCode_lt delta
  have hsecond := nibbleCode_lt length
  rw [optionHead, List.cons_append, readOption, UInt8.toNat_ofNat', List.append_assoc]
  have hhigh : ((nibbleCode delta).1 * 16 + (nibbleCode length).1) % 2 ^ 8 / 16 =
      (nibbleCode delta).1 := by omega
  have hlow : ((nibbleCode delta).1 * 16 + (nibbleCode length).1) % 2 ^ 8 % 16 =
      (nibbleCode length).1 := by omega
  rw [hhigh, hlow, readDelta_nibbleCode hdelta]
  show (readNibble _ ((nibbleCode length).2 ++ text)).bind _ = _
  rw [readNibble_nibbleCode hlength]
  rfl

/-- **What is an option.**  The parser accepts exactly the texts which begin with a header and as
many bytes as it says, and the delta is the number of the header as an `unsigned short`. -/
theorem readOption_eq_some_iff {text : List UInt8} {option : OptionText} {rest : List UInt8} :
    readOption text = some (option, rest) ↔
      ∃ delta, delta < 65549 ∧ option.delta = UInt16.ofNat delta ∧ option.value.length < 65805 ∧
        text = optionHead delta option.value.length ++ (option.value ++ rest) := by
  constructor
  · intro h
    obtain _ | ⟨first, text⟩ := text
    · cases h
    obtain ⟨⟨d, after⟩, hdelta, h⟩ := Option.bind_eq_some_iff.mp h
    obtain ⟨⟨n, after'⟩, hn, h'⟩ := Option.bind_eq_some_iff.mp hdelta
    obtain ⟨hbound, heq⟩ := Option.ite_none_left_eq_some.mp h'
    cases heq
    obtain ⟨⟨l, value⟩, hl, h⟩ := Option.bind_eq_some_iff.mp h
    obtain ⟨hroom, heq⟩ := Option.ite_none_left_eq_some.mp h
    cases heq
    have hfirst := first.toNat_lt
    obtain ⟨-, hhigh, rfl⟩ := eq_nibbleCode_of_readNibble (by omega) hn
    obtain ⟨hlength, hlow, rfl⟩ := eq_nibbleCode_of_readNibble (by omega) hl
    dsimp only at hbound hlength hroom hhigh hlow
    have htake : (value.take l).length = l := by
      rw [List.length_take]
      omega
    refine ⟨n, by omega, rfl, by rw [htake]; exact hlength, ?_⟩
    rw [htake, List.take_append_drop, optionHead, ← hhigh, ← hlow, Nat.div_add_mod' first.toNat 16,
      UInt8.ofNat_toNat, List.cons_append, List.append_assoc]
  · rintro ⟨delta, hdelta, heq, hlength, rfl⟩
    rw [readOption_optionHead hdelta hlength, if_neg (by simp), List.take_left, List.drop_left,
      ← heq]

/-- An accepted option takes at least one byte. -/
theorem readOption_length {text : List UInt8} {option : OptionText} {rest : List UInt8}
    (h : readOption text = some (option, rest)) :
    rest.length + option.value.length < text.length := by
  obtain ⟨delta, -, -, -, rfl⟩ := readOption_eq_some_iff.mp h
  simp only [optionHead, List.cons_append, List.length_cons, List.length_append]
  omega

theorem coapOptDelta_of_parseDelta {mem : Memory} {opt length : Nat} {delta : UInt16 × Nat × Nat}
    (h : parseDelta mem ((mem opt).toNat / 16) opt length = some delta) :
    (mem opt).toNat / 16 ≠ 15 ∧ coapOptDelta mem opt = delta.1 ∧
      delta.2.1 = opt + deltaBytes ((mem opt).toNat / 16) := by
  unfold coapOptDelta
  generalize (mem opt).toNat / 16 = nibble at h ⊢
  unfold parseDelta at h
  split at h
  · cases h
  · obtain ⟨one, hone, h⟩ := Option.bind_eq_some_iff.mp h
    obtain ⟨-, h⟩ := Option.ite_none_left_eq_some.mp h
    obtain ⟨two, htwo, rfl⟩ := Option.map_eq_some_iff.mp h
    have hfirst := (advanceOpt_position hone).1
    have hsecond := (advanceOpt_position htwo).1
    rw [hfirst] at hsecond
    show 14 ≠ 15 ∧ _ = UInt16.ofNat ((mem one.1).toNat * 256 + 269) + UInt16.ofNat (mem two.1).toNat
      ∧ two.1 = opt + 2
    rw [hfirst, hsecond]
    exact ⟨by decide, rfl, rfl⟩
  · obtain ⟨one, hone, rfl⟩ := Option.map_eq_some_iff.mp h
    have hfirst := (advanceOpt_position hone).1
    show 13 ≠ 15 ∧ _ = 13 + UInt16.ofNat (mem one.1).toNat ∧ one.1 = opt + 1
    rw [hfirst]
    exact ⟨by decide, rfl, rfl⟩
  · rename_i h15 h14 h13
    cases h
    refine ⟨h15, rfl, ?_⟩
    show opt = opt + deltaBytes nibble
    unfold deltaBytes
    split <;> first | contradiction | rfl

theorem lengthAt_of_parseLength {mem : Memory} {nibble opt length : Nat} {len : Nat × Nat × Nat}
    (h : parseLength mem nibble opt length = some len) :
    nibble ≠ 15 ∧ len.2.1 = opt + deltaBytes nibble ∧
      lengthAt mem (opt + 1) nibble = UInt16.ofNat len.1 := by
  unfold parseLength at h
  split at h
  · cases h
  · obtain ⟨one, hone, h⟩ := Option.bind_eq_some_iff.mp h
    obtain ⟨two, htwo, rfl⟩ := Option.map_eq_some_iff.mp h
    have hfirst := (advanceOpt_position hone).1
    have hsecond := (advanceOpt_position htwo).1
    rw [hfirst] at hsecond
    refine ⟨by decide, hsecond, ?_⟩
    show _ = UInt16.ofNat ((mem one.1).toNat * 256 + 269 + (mem two.1).toNat)
    rw [hfirst, hsecond, UInt16.ofNat_add _ (mem (opt + 1 + 1)).toNat]
    rfl
  · obtain ⟨one, hone, rfl⟩ := Option.map_eq_some_iff.mp h
    have hfirst := (advanceOpt_position hone).1
    refine ⟨by decide, hfirst, ?_⟩
    show _ = UInt16.ofNat (13 + (mem one.1).toNat)
    rw [hfirst, UInt16.ofNat_add]
    rfl
  · rename_i h15 h14 h13
    cases h
    refine ⟨h15, ?_, ?_⟩
    · show opt = opt + deltaBytes nibble
      unfold deltaBytes
      split <;> first | contradiction | rfl
    · unfold lengthAt
      split <;> first | contradiction | rfl

/-- **The accessors agree with the parser.**  On an option which has been parsed they give its
delta, its value and its length, the length as an `unsigned short`. -/
theorem accessors_of_parsed {mem : Memory} {opt length size : Nat} {option : CoapOption}
    (h : coapOptParse mem opt length = some (size, option)) :
    coapOptDelta mem opt = option.delta ∧ coapOptValue mem opt = some option.value ∧
      coapOptLength mem opt = UInt16.ofNat option.length := by
  obtain ⟨-, h⟩ := Option.ite_none_left_eq_some.mp h
  obtain ⟨delta, hdelta, h⟩ := Option.bind_eq_some_iff.mp h
  obtain ⟨len, hlen, h⟩ := Option.bind_eq_some_iff.mp h
  obtain ⟨value, hvalue, h⟩ := Option.bind_eq_some_iff.mp h
  obtain ⟨-, heq⟩ := Option.ite_none_left_eq_some.mp h
  cases heq
  obtain ⟨hhigh, hd, hbehind⟩ := coapOptDelta_of_parseDelta hdelta
  obtain ⟨hlow, hend, hl⟩ := lengthAt_of_parseLength hlen
  have hstart := (advanceOpt_position hvalue).1
  refine ⟨hd, ?_, ?_⟩
  · have hsum : opt + deltaBytes ((mem opt).toNat / 16) + deltaBytes ((mem opt).toNat % 16) + 1 =
        opt + (1 + deltaBytes ((mem opt).toNat / 16) + deltaBytes ((mem opt).toNat % 16)) := by omega
    rw [coapOptValue, if_neg (by tauto), hstart, hend, hbehind, hsum]
  · rw [coapOptLength, if_neg hhigh, ← hl, hbehind, Nat.add_right_comm opt 1]

end Coap
end FireEvacuation
