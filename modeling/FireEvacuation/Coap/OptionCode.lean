import FireEvacuation.Coap.Options

/-!
# Options written one after the other

What `coap_opt_setheader` and `coap_opt_encode` do with the room they are given, and what the
parser makes of what they write.  The options of a message form a code whose context is the number
of the option before: the writer puts down the distance, and the iterator adds it up again.

Two slips of the writer show here.  The bound between one byte and two is 270 in the code, and has
to be 269; and the room for the bytes of a length is compared with an index, one too low.
-/

namespace FireEvacuation
namespace Coap

open FireEvacuation.Core

/-! ## The bytes of the header -/

/-- What a number is read as once `coap_opt_setheader` has written it. -/
def sent (n : Nat) : Nat :=
  if n = 269 then 13 else if n < 269 then n else 269 + (n - 269) % 65536

theorem sent_lt (n : Nat) : sent n < 65805 := by
  unfold sent
  split
  · omega
  · split <;> omega

theorem sent_eq_iff {n : Nat} : sent n = n ↔ n ≠ 269 ∧ n < 65805 := by
  unfold sent
  split
  · omega
  · split <;> omega

/-- The bytes behind the nibble of a number. -/
def extra (n : Nat) : Nat := (nibbleCode (sent n)).2.length

theorem extra_eq (n : Nat) : extra n = if n < 13 then 0 else if n < 270 then 1 else 2 := by
  unfold extra sent nibbleCode
  split_ifs <;> first | rfl | omega

/-- How `coap_opt_setheader` writes a number for which there is room. -/
theorem nibbleCode_sent (n : Nat) :
    nibbleCode (sent n) =
      if n < 13 then (n, [])
      else if n < 270 then (13, [UInt8.ofNat (n - 13)])
      else (14, [UInt8.ofNat ((n - 269) / 256), UInt8.ofNat (n - 269)]) := by
  rcases Nat.lt_trichotomy n 269 with hlow | rfl | hhigh
  · have hsent : sent n = n := sent_eq_iff.mpr ⟨by omega, by omega⟩
    rw [hsent, nibbleCode]
    split_ifs <;> first | rfl | omega
  · rfl
  · have hsent : sent n = 269 + (n - 269) % 65536 := by
      rw [sent, if_neg (by omega), if_neg (by omega)]
    have hone : UInt8.ofNat ((n - 269) % 65536 / 256) = UInt8.ofNat ((n - 269) / 256) := by
      apply UInt8.toNat_inj.mp
      rw [UInt8.toNat_ofNat', UInt8.toNat_ofNat']
      omega
    have htwo : UInt8.ofNat ((n - 269) % 65536) = UInt8.ofNat (n - 269) := by
      apply UInt8.toNat_inj.mp
      rw [UInt8.toNat_ofNat', UInt8.toNat_ofNat']
      omega
    rw [hsent, nibbleCode, if_neg (by omega), if_neg (by omega), Nat.add_sub_cancel_left, hone, htwo,
      if_neg (by omega), if_neg (by omega)]

theorem setDelta_eq {maxlen : Nat} (hroom : maxlen ≠ 0) (delta : UInt16) :
    setDelta maxlen delta =
      if maxlen < 1 + extra delta.toNat then none else some (nibbleCode (sent delta.toNat)) := by
  have hthirteen : delta < 13 ↔ delta.toNat < 13 := UInt16.lt_iff_toNat_lt
  have hbound : delta < 270 ↔ delta.toNat < 270 := UInt16.lt_iff_toNat_lt
  rw [setDelta, nibbleCode_sent, extra_eq]
  simp only [hthirteen, hbound]
  split_ifs <;> first | rfl | omega

theorem setLength_eq {maxlen skip : Nat} (hroom : skip < maxlen) (length : Nat) :
    setLength maxlen skip length =
      if maxlen < skip + extra length then none else some (nibbleCode (sent length)) := by
  rw [setLength, nibbleCode_sent, extra_eq]
  split_ifs <;> first | rfl | omega

theorem optionHead_length (delta length : Nat) :
    (optionHead (sent delta) (sent length)).length = 1 + extra delta + extra length := by
  simp only [optionHead, List.length_cons, List.length_append, extra]
  omega

/-- The header is written where the room reaches its last index but one. -/
theorem coapOptSetheader_eq (maxlen : Nat) (delta : UInt16) (length : Nat) :
    coapOptSetheader maxlen delta length =
      if maxlen < 1 + extra delta.toNat ∨ maxlen < extra delta.toNat + extra length then []
      else optionHead (sent delta.toNat) (sent length) := by
  unfold coapOptSetheader
  by_cases hzero : maxlen = 0
  · rw [if_pos hzero, if_pos (Or.inl (by omega))]
  rw [if_neg hzero, setDelta_eq hzero]
  by_cases hdelta : maxlen < 1 + extra delta.toNat
  · rw [if_pos hdelta, if_pos (Or.inl hdelta)]
  have hnext : setLength maxlen (nibbleCode (sent delta.toNat)).2.length length = _ :=
    setLength_eq (show extra delta.toNat < maxlen by omega) length
  rw [if_neg hdelta]
  dsimp only
  rw [hnext]
  by_cases hlength : maxlen < extra delta.toNat + extra length
  · rw [if_pos hlength, if_pos (Or.inr hlength)]
  · rw [if_neg hlength, if_neg (not_or.mpr ⟨hdelta, hlength⟩)]
    rfl

/-- **What `coap_opt_encode` does with its room.**  The option is written whole where it fits, and
refused where it does not, except that a header which is one byte too long for the room is written
past it if the length of the value takes a byte of its own. -/
theorem coapOptEncode_eq (maxlen : Nat) (delta : UInt16) (val : List UInt8) :
    coapOptEncode maxlen delta val =
      if 1 + extra delta.toNat + extra val.length + val.length ≤ maxlen then
        .done (optionHead (sent delta.toNat) (sent val.length) ++ val)
      else if maxlen = extra delta.toNat + extra val.length ∧ 13 ≤ val.length then .assertion
      else .refused := by
  have hextra := extra_eq val.length
  unfold coapOptEncode
  rw [coapOptSetheader_eq]
  by_cases hroom : maxlen < 1 + extra delta.toNat ∨
      maxlen < extra delta.toNat + extra val.length
  · rw [if_pos hroom, List.length_nil, if_neg (Nat.not_lt_zero _), if_pos rfl, if_neg (by omega)]
    refine (if_neg ?_).symm
    rintro ⟨hmax, hlong⟩
    rw [if_neg (by omega)] at hextra
    split at hextra <;> omega
  · rw [if_neg hroom, optionHead_length]
    by_cases hpast : maxlen < 1 + extra delta.toNat + extra val.length
    · have hlong : 13 ≤ val.length := by
        by_contra hshort
        rw [if_pos (by omega)] at hextra
        omega
      rw [if_pos hpast, if_neg (by omega), if_pos ⟨by omega, hlong⟩]
    · have hhead : optionHead (sent delta.toNat) (sent val.length) ≠ [] := by simp [optionHead]
      rw [if_neg hpast, if_neg hhead]
      by_cases hfits : 1 + extra delta.toNat + extra val.length + val.length ≤ maxlen
      · rw [if_pos hfits, if_neg (by omega)]
      · rw [if_neg hfits, if_pos (by omega), if_neg (by omega)]

/-! ## The code -/

/-- An option with its number. -/
structure NumberedOption where
  number : UInt16
  value : List UInt8
  deriving DecidableEq, Repr

/-- Options as `coap_opt_encode` writes and `coap_option_next` reads them; the context is the
number so far. -/
def optionCode : PrefixCode UInt16 NumberedOption UInt8 where
  write number option :=
    optionHead (sent (option.number - number).toNat) (sent option.value.length) ++ option.value
  read number text :=
    (readOption text).map fun read => (⟨number + read.1.delta, read.1.value⟩, read.2)
  next _ option := option.number

/-- An option as the accessors have it, for which a length is an `unsigned short`. -/
def NumberedOption.seen (option : NumberedOption) : NumberedOption :=
  { option with value := option.value.take (option.value.length % 65536) }

/-- An option which comes back behind one with this number: its distance and its length are
numbers which the writer writes as it should, and the accessors know lengths of its size. -/
def Arrives (number : UInt16) (option : NumberedOption) : Prop :=
  (option.number - number).toNat ≠ 269 ∧ option.value.length ≠ 269 ∧ option.value.length < 65536

instance (number : UInt16) (option : NumberedOption) : Decidable (Arrives number option) :=
  inferInstanceAs (Decidable (_ ∧ _ ∧ _))

theorem seen_length (option : NumberedOption) :
    option.seen.value.length = option.value.length % 65536 := by
  show (option.value.take _).length = _
  rw [List.length_take, Nat.min_eq_left (Nat.mod_le _ _)]

theorem seen_of_arrives {number : UInt16} {option : NumberedOption} (h : Arrives number option) :
    option.seen = option := by
  rw [NumberedOption.seen, Nat.mod_eq_of_lt h.2.2, List.take_length]

theorem optionCode_consumes : optionCode.Consumes := by
  intro number text option rest h
  obtain ⟨⟨read, left⟩, hread, heq⟩ := Option.map_eq_some_iff.mp h
  cases heq
  obtain ⟨delta, -, -, -, rfl⟩ := readOption_eq_some_iff.mp hread
  refine ⟨optionHead delta read.value.length ++ read.value, ?_, by simp⟩
  simp [optionHead]

theorem sent_delta (delta : UInt16) : sent delta.toNat < 65536 := by
  have hdelta := delta.toNat_lt
  unfold sent
  split
  · omega
  · split <;> omega

/-- What is read where an option has been written. -/
theorem optionCode_read_write (number : UInt16) (option : NumberedOption) (rest : List UInt8) :
    optionCode.read number (optionCode.write number option ++ rest) =
      if (option.value ++ rest).length < sent option.value.length then none
      else
        some (⟨number + UInt16.ofNat (sent (option.number - number).toNat),
            (option.value ++ rest).take (sent option.value.length)⟩,
          (option.value ++ rest).drop (sent option.value.length)) := by
  have hdelta := sent_delta (option.number - number)
  show (readOption (optionHead _ _ ++ option.value ++ rest)).map _ = _
  rw [List.append_assoc, readOption_optionHead (by omega) (sent_lt _)]
  split_ifs <;> rfl

theorem readsBack_of_arrives (number : UInt16) (option : NumberedOption)
    (h : Arrives number option) : optionCode.ReadsBack number option := by
  obtain ⟨hdelta, hlength, hbound⟩ := h
  intro rest
  have hd : sent (option.number - number).toNat = (option.number - number).toNat :=
    sent_eq_iff.mpr ⟨hdelta, by have := (option.number - number).toNat_lt; omega⟩
  have hl : sent option.value.length = option.value.length :=
    sent_eq_iff.mpr ⟨hlength, by omega⟩
  have hnumber : number + (option.number - number) = option.number := by
    rw [UInt16.add_comm, UInt16.sub_add_cancel]
  rw [optionCode_read_write, hd, hl, if_neg (by simp), List.take_left, List.drop_left,
    UInt16.ofNat_toNat, hnumber]

/-- Any other option comes out with another number or with another length. -/
theorem misread_of_not_arrives (number : UInt16) (option : NumberedOption)
    (h : ¬ Arrives number option) : optionCode.Misread NumberedOption.seen number option := by
  intro rest b left hread hseen
  rw [optionCode_read_write] at hread
  obtain ⟨hroom, heq⟩ := Option.ite_none_left_eq_some.mp hread
  obtain ⟨rfl, -⟩ := Prod.ext_iff.mp (Option.some.inj heq)
  have hnumber := congrArg NumberedOption.number hseen
  have hvalue := congrArg (fun o => o.value.length) hseen
  dsimp only at hvalue
  rw [seen_length, List.length_take, Nat.min_eq_left (by omega)] at hvalue
  have hsmall : option.value.length < 65536 := by omega
  have hlength : option.value.length ≠ 269 := by
    intro hbad
    rw [hbad] at hvalue
    exact absurd hvalue (by decide)
  have hdelta : (option.number - number).toNat = 269 := by
    by_contra hne
    exact h ⟨hne, hlength, hsmall⟩
  have hthirteen : option.number = number + 13 := by
    rw [← hnumber]
    show number + UInt16.ofNat (sent (option.number - number).toNat) = _
    rw [hdelta]
    rfl
  rw [hthirteen, UInt16.add_comm, UInt16.add_sub_cancel] at hdelta
  exact absurd hdelta (by decide)

/-- The payload marker. -/
def coapPayloadStart : UInt8 := 0xFF

/-- The parser of a message stops at the marker. -/
def atMarker (byte : UInt8) : Bool := byte == coapPayloadStart

/-- No option looks like the payload marker. -/
theorem optionCode_begins (number : UInt16) (option : NumberedOption) :
    optionCode.Begins atMarker number option := by
  refine ⟨_, _, rfl, ?_⟩
  have hhigh := nibbleCode_lt (sent (option.number - number).toNat)
  have hlow := nibbleCode_lt (sent option.value.length)
  apply beq_false_of_ne
  intro heq
  have hbyte := congrArg UInt8.toNat heq
  rw [UInt8.toNat_ofNat'] at hbyte
  have hmarker : coapPayloadStart.toNat = 255 := rfl
  omega

/-- **An option of its own.**  What `coap_opt_encode` has put into memory is parsed as the same
delta and value, with any room behind it, unless the delta or the length is 269 or the length has
no header at all. -/
theorem coapOptParse_encoded_iff {maxlen : Nat} {delta : UInt16} {val bytes : List UInt8}
    (hencode : coapOptEncode maxlen delta val = .done bytes) (mem : Memory) (opt more : Nat)
    (hmem : span mem opt bytes.length = bytes) :
    coapOptParse mem opt (bytes.length + more) =
        some (bytes.length, ⟨delta, val.length, opt + (bytes.length - val.length)⟩) ↔
      delta ≠ 269 ∧ val.length ≠ 269 ∧ val.length < 65805 := by
  have hbytes : bytes = optionHead (sent delta.toNat) (sent val.length) ++ val := by
    rw [coapOptEncode_eq] at hencode
    split_ifs at hencode
    cases hencode
    rfl
  have hsent := sent_delta delta
  have hcode : (delta = 269 ↔ delta.toNat = 269) := UInt16.toNat_inj.symm
  rw [coapOptParse_eq, span_append, hmem, hbytes, List.append_assoc,
    readOption_optionHead (by omega) (sent_lt _)]
  constructor
  · intro h
    obtain ⟨read, hread, hlocated⟩ := Option.map_eq_some_iff.mp h
    obtain ⟨hroom, rfl⟩ := (Option.ite_none_left_eq_some.mp hread).imp_right Option.some.inj
    obtain ⟨-, hoption⟩ := Prod.ext_iff.mp hlocated
    have hdelta := congrArg (fun o => o.delta.toNat) hoption
    have hlength := congrArg CoapOption.length hoption
    simp only [located, UInt16.toNat_ofNat', List.length_take] at hdelta hlength
    rw [Nat.mod_eq_of_lt hsent] at hdelta
    rw [Nat.min_eq_left (by omega)] at hlength
    exact ⟨fun hbad => (sent_eq_iff.mp hdelta).1 (hcode.mp hbad), sent_eq_iff.mp hlength⟩
  · rintro ⟨hdelta, hlength⟩
    have hd : sent delta.toNat = delta.toNat :=
      sent_eq_iff.mpr ⟨mt hcode.mpr hdelta, by have := delta.toNat_lt; omega⟩
    have hl : sent val.length = val.length := sent_eq_iff.mpr hlength
    rw [hd, hl, if_neg (by simp), List.take_left, List.drop_left, UInt16.ofNat_toNat]
    show some (located _ _ _) = _
    rw [located, span_length]
    dsimp only
    rw [Nat.add_sub_cancel]
    congr 3
    simp only [List.length_append]
    omega

/-- The option of a port. -/
theorem coapOptParse_encoded_iff_port :
    coapOptParse (fun i => [114, 22, 51].getD i 0) 0 (3 + 5) = some (3, ⟨7, 2, 1⟩) :=
  (coapOptParse_encoded_iff (show coapOptEncode 16 7 [22, 51] = .done [114, 22, 51] from rfl)
    (fun i => [114, 22, 51].getD i 0) 0 5 rfl).mpr (by decide)

end Coap
end FireEvacuation
