import FireEvacuation.Coap.RoundTrip

/-!
# The option which says which block a message brings

A block option is a number of up to three bytes.  `CAAddBlockOptionImpl` packs the number of the
block, the bit for more blocks and the size into it and inserts it among the other options;
`coap_check_option` of `option.c` looks for it with a filter of 64 bits, of which a number picks
one by its last byte.
-/

namespace FireEvacuation
namespace Coap

open FireEvacuation.Core

/-! ## Numbers without leading zeros -/

/-- The first loop of `coap_encode_var_bytes`: how many bytes are needed. -/
def varLength : Nat → Nat → Nat
  | 0, _ => 0
  | fuel + 1, i => if i = 0 then 0 else varLength fuel (i / 256) + 1

/-- The second loop: the last bytes of a number, the highest first. -/
def lastBytes : Nat → Nat → List UInt8
  | 0, _ => []
  | n + 1, val => lastBytes n (val / 256) ++ [UInt8.ofNat val]

/-- `coap_encode_var_bytes`, with the bytes it writes. -/
def coapEncodeVarBytes (val : UInt32) : List UInt8 :=
  lastBytes (varLength 4 val.toNat) val.toNat

/-- `coap_decode_var_bytes`. -/
def coapDecodeVarBytes (buf : List UInt8) : UInt32 :=
  buf.foldl (fun n byte => (n <<< 8) + byte.toUInt32) 0

theorem lastBytes_length (n val : Nat) : (lastBytes n val).length = n := by
  induction n generalizing val with
  | zero => rfl
  | succ n ih => rw [lastBytes, List.length_append, ih, List.length_singleton]

theorem varLength_le (fuel i : Nat) : varLength fuel i ≤ fuel := by
  induction fuel generalizing i with
  | zero => exact Nat.le_refl 0
  | succ fuel ih =>
      rw [varLength]
      split_ifs
      · exact Nat.zero_le _
      · exact Nat.succ_le_succ (ih _)

/-- A number fits into the bytes which are taken for it. -/
theorem lt_of_varLength {fuel i : Nat} (h : i < 256 ^ fuel) : i < 256 ^ varLength fuel i := by
  induction fuel generalizing i with
  | zero => exact h
  | succ fuel ih =>
      rw [varLength]
      split_ifs with hzero
      · rw [hzero]
        exact Nat.one_pos
      · rw [Nat.pow_succ] at h ⊢
        have hless := ih (Nat.div_lt_of_lt_mul (by rwa [Nat.mul_comm] at h))
        exact (Nat.div_lt_iff_lt_mul (by decide)).mp hless

/-- The step of `coap_decode_var_bytes`. -/
theorem decodeStep_toNat (n : UInt32) (byte : UInt8) :
    ((n <<< 8) + byte.toUInt32).toNat = (n.toNat * 256 + byte.toNat) % 2 ^ 32 := by
  rw [UInt32.toNat_add, UInt32.toNat_shiftLeft, UInt8.toNat_toUInt32]
  show (n.toNat <<< 8 % 2 ^ 32 + byte.toNat) % 2 ^ 32 = _
  rw [Nat.shiftLeft_eq, Nat.mod_add_mod]

theorem coapDecodeVarBytes_append (buf : List UInt8) (byte : UInt8) :
    (coapDecodeVarBytes (buf ++ [byte])).toNat =
      ((coapDecodeVarBytes buf).toNat * 256 + byte.toNat) % 2 ^ 32 := by
  rw [coapDecodeVarBytes, List.foldl_append]
  exact decodeStep_toNat _ _

theorem coapDecodeVarBytes_lastBytes {n val : Nat} (hval : val < 256 ^ n) (hn : n ≤ 4) :
    (coapDecodeVarBytes (lastBytes n val)).toNat = val := by
  induction n generalizing val with
  | zero =>
      obtain rfl : val = 0 := by simpa using hval
      rfl
  | succ n ih =>
      have hbound : val < 2 ^ 32 := Nat.lt_of_lt_of_le hval
        (Nat.pow_le_pow_right (by decide : 0 < 256) hn)
      have hrest : val / 256 < 256 ^ n := Nat.div_lt_of_lt_mul (by rwa [Nat.pow_succ'] at hval)
      rw [lastBytes, coapDecodeVarBytes_append, ih hrest (by omega), UInt8.toNat_ofNat']
      omega

/-- **A number comes back from its bytes.** -/
theorem coapDecodeVarBytes_coapEncodeVarBytes (val : UInt32) :
    coapDecodeVarBytes (coapEncodeVarBytes val) = val := by
  apply UInt32.toNat_inj.mp
  exact coapDecodeVarBytes_lastBytes (lt_of_varLength val.toNat_lt) (varLength_le _ _)

/-! ## The option -/

/-- `coap_block_t`, a bit field. -/
structure CoapBlock where
  num : BitVec 20
  m : Bool
  szx : BitVec 3
  deriving DecidableEq, Repr

/-- The number which `CAAddBlockOptionImpl` writes. -/
def CoapBlock.bits (block : CoapBlock) : UInt32 :=
  UInt32.ofNat (block.num.toNat <<< 4 ||| block.m.toNat <<< 3 ||| block.szx.toNat)

/-- `coap_opt_block_num`. -/
def coapOptBlockNum (value : List UInt8) : UInt32 :=
  match value.getLast? with
  | none => 0
  | some last =>
      (if 1 < value.length then coapDecodeVarBytes value.dropLast else 0) <<< 4 |||
        UInt32.ofNat (last.toNat / 16)

/-- What `coap_get_block` makes of the value of an option. -/
def blockOfValue (value : List UInt8) : CoapBlock where
  num := BitVec.ofNat 20 (coapOptBlockNum value).toNat
  m := match value.getLast? with
    | none => false
    | some last => last.toNat / 8 % 2 = 1
  szx := match value.getLast? with
    | none => 0
    | some last => BitVec.ofNat 3 last.toNat

theorem CoapBlock.bits_toNat (block : CoapBlock) :
    block.bits.toNat = block.num.toNat * 16 + block.m.toNat * 8 + block.szx.toNat := by
  have hnum := block.num.isLt
  have hszx := block.szx.isLt
  have hm : block.m.toNat < 2 := Bool.toNat_lt block.m
  have hlow : block.m.toNat <<< 3 ||| block.szx.toNat = block.m.toNat * 8 + block.szx.toNat := by
    rw [Nat.shiftLeft_eq, ← Nat.mul_comm (2 ^ 3), ← Nat.two_pow_add_eq_or_of_lt hszx]
  have hboth : block.num.toNat <<< 4 ||| (block.m.toNat * 8 + block.szx.toNat) =
      block.num.toNat * 16 + (block.m.toNat * 8 + block.szx.toNat) := by
    rw [Nat.shiftLeft_eq, ← Nat.mul_comm (2 ^ 4), ← Nat.two_pow_add_eq_or_of_lt (by omega)]
  rw [CoapBlock.bits, Nat.or_assoc, hlow, hboth, UInt32.toNat_ofNat']
  omega

theorem varLength_succ {fuel i : Nat} (h : i < 256 ^ fuel) :
    varLength (fuel + 1) i = varLength fuel i := by
  induction fuel generalizing i with
  | zero =>
      obtain rfl : i = 0 := by simpa using h
      rfl
  | succ fuel ih =>
      have hless : i / 256 < 256 ^ fuel := Nat.div_lt_of_lt_mul (by rwa [Nat.pow_succ'] at h)
      rw [varLength, ih hless, varLength]

/-- The last byte of a number, and the bytes before it. -/
theorem coapEncodeVarBytes_eq_append {val : UInt32} (h : val.toNat ≠ 0) :
    coapEncodeVarBytes val =
      coapEncodeVarBytes (UInt32.ofNat (val.toNat / 256)) ++ [UInt8.ofNat val.toNat] := by
  have hval := val.toNat_lt
  have hrest : (UInt32.ofNat (val.toNat / 256)).toNat = val.toNat / 256 := by
    rw [UInt32.toNat_ofNat']
    omega
  have hless : val.toNat / 256 < 256 ^ 3 := by omega
  rw [coapEncodeVarBytes, coapEncodeVarBytes, hrest, varLength_succ hless, varLength, if_neg h,
    lastBytes]

theorem coapEncodeVarBytes_ne_nil {val : UInt32} (h : val.toNat ≠ 0) :
    coapEncodeVarBytes val ≠ [] := by
  rw [coapEncodeVarBytes_eq_append h]
  simp

/-- **A block comes back from its option.** -/
theorem blockOfValue_bits (block : CoapBlock) :
    blockOfValue (coapEncodeVarBytes block.bits) = block := by
  obtain ⟨num, m, szx⟩ := block
  have hbits := CoapBlock.bits_toNat ⟨num, m, szx⟩
  generalize CoapBlock.bits ⟨num, m, szx⟩ = bits at hbits
  have hnum := num.isLt
  have hszx := szx.isLt
  have hm : m.toNat < 2 := Bool.toNat_lt m
  dsimp only at hbits
  by_cases hzero : bits.toNat = 0
  · obtain rfl : bits = 0 := UInt32.toNat_inj.mp hzero
    obtain rfl : num = 0 := BitVec.eq_of_toNat_eq (show num.toNat = 0 by omega)
    obtain rfl : szx = 0 := BitVec.eq_of_toNat_eq (show szx.toNat = 0 by omega)
    obtain rfl : m = false := Bool.toNat_eq_zero.mp (by omega)
    rfl
  · have hrest : (UInt32.ofNat (bits.toNat / 256)).toNat = bits.toNat / 256 := by
      rw [UInt32.toNat_ofNat']
      omega
    have hlast : (UInt8.ofNat bits.toNat).toNat = bits.toNat % 256 := UInt8.toNat_ofNat'
    have hhigh : (if 1 < (coapEncodeVarBytes bits).length then
        coapDecodeVarBytes (coapEncodeVarBytes bits).dropLast else 0).toNat = bits.toNat / 256 := by
      rw [coapEncodeVarBytes_eq_append hzero, List.dropLast_concat,
        coapDecodeVarBytes_coapEncodeVarBytes]
      split_ifs with hmany
      · exact hrest
      · -- one byte is enough, and nothing is above it
        show 0 = bits.toNat / 256
        by_contra hne
        apply hmany
        have hbefore := coapEncodeVarBytes_ne_nil (show _ ≠ 0 from hrest.trans_ne (Ne.symm hne))
        have hpos := List.length_pos_iff.mpr hbefore
        rw [List.length_append, List.length_singleton]
        omega
    have hget : (coapEncodeVarBytes bits).getLast? = some (UInt8.ofNat bits.toNat) := by
      rw [coapEncodeVarBytes_eq_append hzero, List.getLast?_concat]
    have hnumber : (coapOptBlockNum (coapEncodeVarBytes bits)).toNat = num.toNat := by
      rw [coapOptBlockNum, hget]
      dsimp only
      rw [UInt32.toNat_or, UInt32.toNat_shiftLeft, hhigh, UInt32.toNat_ofNat', hlast]
      have hor := Nat.two_pow_add_eq_or_of_lt (show bits.toNat % 256 / 16 < 2 ^ 4 by omega)
        (bits.toNat / 256)
      have hshift : (bits.toNat / 256) <<< ((4 : UInt32).toNat % 32) % 2 ^ 32 =
          2 ^ 4 * (bits.toNat / 256) := by
        show (bits.toNat / 256) <<< 4 % 2 ^ 32 = _
        rw [Nat.shiftLeft_eq]
        omega
      rw [hshift, Nat.mod_eq_of_lt (show bits.toNat % 256 / 16 < 2 ^ 32 by omega), ← hor]
      omega
    rw [blockOfValue, hget, hnumber]
    dsimp only
    rw [hlast]
    have hmore : decide (bits.toNat % 256 / 8 % 2 = 1) = m := by
      cases m with
      | false => simp only [Bool.toNat_false] at hbits; simp; omega
      | true => simp only [Bool.toNat_true] at hbits; simp; omega
    have hsize : BitVec.ofNat 3 (bits.toNat % 256) = szx := by
      apply BitVec.eq_of_toNat_eq
      rw [BitVec.toNat_ofNat]
      omega
    rw [hmore, hsize, BitVec.ofNat_toNat, BitVec.setWidth_eq]

/-! ## Looking for an option -/

/-- `coap_check_option` of `option.c`, with the value of the option. -/
def coapCheckOption (pdu : CoapPdu) (type : UInt8) : Option (List UInt8) :=
  (coapOptionNext pdu.mem
    (coapOptionIteratorInit2 pdu (some fun i => i = type.toNat) .udp)).1.map (valueAt pdu.mem)

/-- The option which a filter for one type lets through.  The filter goes by the last byte of a
number and gives up at one for which it has no bit. -/
def findOption (type : UInt8) : List NumberedOption → Option (List UInt8)
  | [] => none
  | option :: options =>
      if 64 ≤ option.number.toNat % 256 then none
      else if option.number.toNat % 256 = type.toNat then some option.value
      else findOption type options

theorem coapOptParse_atEnd {mem : Memory} {opt length : Nat}
    (h : length = 0 ∨ mem opt = coapPayloadStart) : coapOptParse mem opt length = none := by
  rw [coapOptParse_eq]
  cases length with
  | zero => rfl
  | succ n =>
      obtain h | h := h
      · cases h
      · rw [span, readOption, h]
        rfl

/-- The loop of `coap_option_next` under a filter passes over the options which the iterator
would show without one. -/
theorem nextOptionLoop_filtered {mem : Memory} (type : UInt8) {fuel more length : Nat}
    (hfuel : length ≤ fuel) (hmore : length < more) (number : UInt16) (opt : Nat) :
    (nextOptionLoop mem fuel ⟨length, number, false, opt, some fun i => i = type.toNat⟩).1.map
        (valueAt mem) =
      findOption type (iterate mem more ⟨length, number, false, opt, none⟩) := by
  induction length using Nat.strongRecOn generalizing fuel more number opt with
  | ind length ih =>
      obtain ⟨m, rfl⟩ := Nat.exists_eq_succ_of_ne_zero (Nat.ne_of_gt (Nat.zero_lt_of_lt hmore))
      rw [iterate, coapOptionNext_eq, nextOptionLoop.eq_def]
      by_cases hend : length = 0 ∨ mem opt = coapPayloadStart
      · rw [if_pos hend]
        dsimp only
        rw [coapOptParse_atEnd hend]
        rfl
      · rw [if_neg hend]
        cases hparse : coapOptParse mem opt length with
        | none => simp [hparse, findOption]
        | some one =>
            obtain ⟨size, option⟩ := one
            obtain ⟨hpos, hsize⟩ := coapOptParse_size hparse
            dsimp only
            rw [hparse, findOption]
            dsimp only
            have hbit : 8 ≤ (number + option.delta).toNat % 256 / 8 ↔
                64 ≤ (number + option.delta).toNat % 256 := by omega
            rw [coapOptionGetb]
            simp only [hbit]
            by_cases hlarge : 64 ≤ (number + option.delta).toNat % 256
            · rw [if_pos hlarge, if_pos hlarge]
              rfl
            · rw [if_neg hlarge, if_neg hlarge]
              by_cases hfound : (number + option.delta).toNat % 256 = type.toNat
              · rw [if_pos hfound, decide_eq_true hfound]
                rfl
              · rw [if_neg hfound, decide_eq_false hfound]
                obtain ⟨f, rfl⟩ := Nat.exists_eq_succ_of_ne_zero (show fuel ≠ 0 by omega)
                exact ih (length - size) (by omega) (by omega) (by omega) _ _

/-- **Looking for an option** finds what is the first among the options which the iterator shows. -/
theorem coapCheckOption_eq (pdu : CoapPdu) (type : UInt8) :
    coapCheckOption pdu type =
      findOption type (iterate pdu.mem (pdu.length + 1) (coapOptionIteratorInit2 pdu none .udp)) := by
  rw [coapCheckOption, coapOptionIteratorInit2, coapOptionIteratorInit2]
  generalize CoapTransport.udp.headerSize + tokenLength pdu.mem = start
  by_cases hnone : pdu.length ≤ start
  · simp [hnone, iterate, coapOptionNext, findOption]
  · simp only [hnone, if_false]
    by_cases hend : pdu.length - start = 0 ∨ pdu.mem start = coapPayloadStart
    · simp [coapOptionNext, iterate, hend, findOption]
    · have hmore : pdu.length - start < pdu.length + 1 := by omega
      rw [← nextOptionLoop_filtered type (Nat.le_refl _) hmore, coapOptionNext,
        if_neg (by simpa using hend)]

/-! ## Adding the option -/

/-- How many bytes the options which `coap_option_def` has as numbers may take. -/
def varBytesMax (key : UInt16) : Option Nat :=
  if key = 7 ∨ key = 12 ∨ key = 17 then some 2
  else if key = 6 ∨ key = 23 ∨ key = 27 then some 3
  else if key = 14 ∨ key = 28 ∨ key = 60 then some 4
  else none

/-- `CACreateNewOptionNode`: a number keeps its last bytes, without leading zeros. -/
def CACreateNewOptionNode (key : UInt16) (data : List UInt8) : NumberedOption :=
  match varBytesMax key with
  | none => ⟨key, data⟩
  | some max => ⟨key, coapEncodeVarBytes (coapDecodeVarBytes (data.drop (data.length - max)))⟩

/-- `coap_insert` in the order of `CAOrderOpts`. -/
def coapInsert (node : NumberedOption) : List NumberedOption → List NumberedOption
  | [] => [node]
  | q :: queue =>
      if node.number < q.number then node :: q :: queue else q :: coapInsert node queue

/-- `COAP_OPTION_BLOCK1` and `COAP_OPTION_BLOCK2`. -/
inductive BlockType where
  | block1
  | block2
  deriving DecidableEq, Repr

/-- The number of the option. -/
def BlockType.number : BlockType → UInt8
  | block1 => 27
  | block2 => 23

/-- `CAAddBlockOptionImpl`. -/
def CAAddBlockOptionImpl (block : CoapBlock) (type : BlockType) (options : List NumberedOption) :
    List NumberedOption :=
  coapInsert (CACreateNewOptionNode type.number.toUInt16 (coapEncodeVarBytes block.bits)) options

/-- The number of the option for the size of all blocks: `COAP_OPTION_SIZE1` and
`COAP_OPTION_SIZE2`. -/
def BlockType.sizeNumber : BlockType → UInt8
  | block1 => 60
  | block2 => 28

/-- `CAAddBlockSizeOption`. -/
def CAAddBlockSizeOption (sizeType : BlockType) (dataLength : Nat) (options : List NumberedOption) :
    List NumberedOption :=
  coapInsert (CACreateNewOptionNode sizeType.sizeNumber.toUInt16
    (coapEncodeVarBytes (UInt32.ofNat dataLength))) options

/-- `CAIsPayloadLengthInPduWithBlockSizeOption`, with the length. -/
def CAIsPayloadLengthInPduWithBlockSizeOption (pdu : CoapPdu) (sizeType : BlockType) : Option Nat :=
  (coapCheckOption pdu sizeType.sizeNumber).map fun value => (coapDecodeVarBytes value).toNat

/-- `coap_get_block`. -/
def coapGetBlock (pdu : CoapPdu) (type : BlockType) : Option CoapBlock :=
  (coapCheckOption pdu type.number).map blockOfValue

/-- An option among ordered ones is found if no other has its number. -/
theorem findOption_coapInsert {type : UInt8} (htype : type.toNat < 64) (value : List UInt8)
    {number : UInt16} {options : List NumberedOption} (hordered : Ordered number options)
    (hnone : ∀ option ∈ options, option.number ≠ type.toUInt16) :
    findOption type (coapInsert ⟨type.toUInt16, value⟩ options) = some value := by
  have hsmall : type.toUInt16.toNat % 256 = type.toNat := by
    rw [UInt8.toNat_toUInt16]
    omega
  have hfirst (behind : List NumberedOption) :
      findOption type (⟨type.toUInt16, value⟩ :: behind) = some value := by
    rw [findOption]
    dsimp only
    rw [if_neg (by omega), if_pos hsmall]
  induction options generalizing number with
  | nil => exact hfirst []
  | cons q queue ih =>
      rw [Ordered, PrefixCode.along_cons] at hordered
      rw [coapInsert]
      split_ifs with hbefore
      · exact hfirst _
      · -- what stands before it has a lower number
        have hne := hnone q List.mem_cons_self
        have hle : q.number.toNat ≤ type.toUInt16.toNat := Nat.not_lt.mp hbefore
        have hnat : q.number.toNat ≠ type.toUInt16.toNat := fun h => hne (UInt16.toNat_inj.mp h)
        rw [UInt8.toNat_toUInt16] at hle hnat
        rw [findOption, if_neg (by omega), if_neg (by omega)]
        exact ih hordered.2 fun option hoption => hnone option (List.mem_cons_of_mem _ hoption)

theorem CACreateNewOptionNode_bits (type : BlockType) (block : CoapBlock) :
    CACreateNewOptionNode type.number.toUInt16 (coapEncodeVarBytes block.bits) =
      ⟨type.number.toUInt16, coapEncodeVarBytes block.bits⟩ := by
  have hmax : varBytesMax type.number.toUInt16 = some 3 := by cases type <;> rfl
  have hbits := block.bits_toNat
  have hnum := block.num.isLt
  have hszx := block.szx.isLt
  have hm : block.m.toNat < 2 := Bool.toNat_lt block.m
  have hlength : (coapEncodeVarBytes block.bits).length ≤ 3 := by
    rw [coapEncodeVarBytes, lastBytes_length, varLength_succ (by omega)]
    exact varLength_le _ _
  rw [CACreateNewOptionNode, hmax]
  dsimp only
  rw [Nat.sub_eq_zero_of_le hlength, List.drop_zero, coapDecodeVarBytes_coapEncodeVarBytes]

theorem CACreateNewOptionNode_size (type : BlockType) (val : UInt32) :
    CACreateNewOptionNode type.sizeNumber.toUInt16 (coapEncodeVarBytes val) =
      ⟨type.sizeNumber.toUInt16, coapEncodeVarBytes val⟩ := by
  have hmax : varBytesMax type.sizeNumber.toUInt16 = some 4 := by cases type <;> rfl
  have hlength : (coapEncodeVarBytes val).length ≤ 4 := by
    rw [coapEncodeVarBytes, lastBytes_length]
    exact varLength_le _ _
  rw [CACreateNewOptionNode, hmax]
  dsimp only
  rw [Nat.sub_eq_zero_of_le hlength, List.drop_zero, coapDecodeVarBytes_coapEncodeVarBytes]

/-- An option which is added does not hide another one. -/
theorem findOption_coapInsert_of_ne {type : UInt8} {node : NumberedOption}
    (hsmall : node.number.toNat < 64) (hne : node.number.toNat ≠ type.toNat)
    (options : List NumberedOption) :
    findOption type (coapInsert node options) = findOption type options := by
  have hskip (behind : List NumberedOption) :
      findOption type (node :: behind) = findOption type behind := by
    rw [findOption, if_neg (by omega), if_neg (by omega)]
  induction options with
  | nil => exact hskip []
  | cons q queue ih =>
      rw [coapInsert]
      split_ifs
      · exact hskip _
      · rw [findOption, findOption, ih]

theorem ordered_coapInsert {number : UInt16} {node : NumberedOption} {options : List NumberedOption}
    (hnode : number ≤ node.number) (h : Ordered number options) :
    Ordered number (coapInsert node options) := by
  induction options generalizing number with
  | nil => exact ⟨hnode, trivial⟩
  | cons q queue ih =>
      obtain ⟨hfirst, hrest⟩ := h
      rw [coapInsert]
      split_ifs with hbefore
      · exact ⟨hnode, UInt16.le_of_lt hbefore, hrest⟩
      · exact ⟨hfirst, ih (UInt16.not_lt.mp hbefore) hrest⟩

theorem mem_coapInsert {node option : NumberedOption} {options : List NumberedOption} :
    option ∈ coapInsert node options ↔ option = node ∨ option ∈ options := by
  induction options with
  | nil => simp [coapInsert]
  | cons q queue ih =>
      rw [coapInsert]
      split_ifs
      · simp
      · rw [List.mem_cons, List.mem_cons, ih]
        tauto

section Read

variable {heap : Memory} {randomId : UInt16} {code : Nat} {info : CAInfo}
  {options later : List NumberedOption} {transport : CoapTransport} {start last : CoapPdu}

/-- The options which are added later give the message which is built without the blockwise
transfer. -/
theorem generated_later
    (hstart : CAGeneratePDUImpl true false heap randomId code info options =
      .done (transport, start))
    (hadd : addOptions start later = .done last) (bytes : List UInt8)
    (hbytes : bytes.length < 2 ^ 32) :
    CAGeneratePDUImpl false false heap randomId code { info with payload := bytes } later =
      .done (transport, (coapAddData last bytes).2) := by
  unfold CAGeneratePDUImpl at hstart ⊢
  rw [if_neg (Nat.not_le.mpr hbytes)]
  split at hstart
  · cases hstart
  · rename_i length hlength
    obtain ⟨-, hlength⟩ := Option.ite_none_left_eq_some.mp hlength
    cases hlength
    cases hstart
    -- over UDP nothing before the options looks at the payload
    have hadd : addOptions (addToken (coapAddCode
        (startMessage heap false randomId { info with payload := bytes } 0).2 .udp code) .udp
        { info with payload := bytes } code) later = .done last := hadd
    have hudp (info : CAInfo) : (startMessage heap false randomId info 0).1 = .udp := rfl
    simp only [Bool.false_eq_true, if_false, false_and, hudp, hadd]

/-- The receiver reads a message over UDP whose options were added later. -/
theorem receive_later
    (hstart : CAGeneratePDUImpl true false heap randomId code info options =
      .done (transport, start))
    (hadd : addOptions start later = .done last) {bytes : List UInt8}
    (hsmall : coapMaxPduSize + bytes.length + 1 < 2 ^ 32) (hcode : IsCode code)
    (harrives : optionCode.Along Arrives 0 later) (heap' data : Memory)
    (hdata : span data 0 (coapAddData last bytes).2.length = (coapAddData last bytes).2.message) :
    ∃ parsed, CAParsePDU false heap' data (coapAddData last bytes).2.length = some (parsed, code) ∧
      iterate parsed.mem (parsed.length + 1) (coapOptionIteratorInit2 parsed none .udp) = later := by
  have hgenerated := generated_later hstart hadd bytes (by omega)
  have hreceive := (receive_udp_iff hgenerated hsmall hcode heap' data hdata).mpr
    ⟨harrives, rfl, rfl⟩
  obtain ⟨⟨parsed, received⟩, hparsed, hcontent⟩ := Option.map_eq_some_iff.mp hreceive
  obtain ⟨rfl, hcontent⟩ := Prod.ext_iff.mp hcontent
  exact ⟨parsed, hparsed, congrArg Content.options hcontent⟩

end Read

/-- A block option is read as it was added. -/
theorem coapGetBlock_added {pdu : CoapPdu} {options : List NumberedOption} {number : UInt16}
    (hordered : Ordered number options) (block : CoapBlock) (type : BlockType)
    (hnone : ∀ option ∈ options, option.number ≠ type.number.toUInt16)
    (hshown : iterate pdu.mem (pdu.length + 1) (coapOptionIteratorInit2 pdu none .udp) =
      CAAddBlockOptionImpl block type options) :
    coapGetBlock pdu type = some block := by
  have htype : type.number.toNat < 64 := by cases type <;> decide
  rw [coapGetBlock, coapCheckOption_eq, hshown, CAAddBlockOptionImpl, CACreateNewOptionNode_bits,
    findOption_coapInsert htype _ hordered hnone, Option.map_some, blockOfValue_bits]

/-- The options of a first block, where the receiver iterates over them. -/
theorem blockOptions_shown {pdu : CoapPdu} {options : List NumberedOption}
    (hordered : Ordered 0 options) (block : CoapBlock) (type : BlockType) {dataLength : Nat}
    (hlength : dataLength < 2 ^ 32)
    (hnone : ∀ option ∈ options, option.number ≠ type.number.toUInt16 ∧
      option.number ≠ type.sizeNumber.toUInt16)
    (hshown : iterate pdu.mem (pdu.length + 1) (coapOptionIteratorInit2 pdu none .udp) =
      CAAddBlockOptionImpl block type (CAAddBlockSizeOption type dataLength options)) :
    coapGetBlock pdu type = some block ∧
      CAIsPayloadLengthInPduWithBlockSizeOption pdu type = some dataLength := by
  have hsmall : type.number.toNat < 64 ∧ type.sizeNumber.toNat < 64 ∧
      type.number.toNat ≠ type.sizeNumber.toNat := by cases type <;> decide
  obtain ⟨hblock, hsize, hdistinct⟩ := hsmall
  have hapart : type.sizeNumber.toUInt16 ≠ type.number.toUInt16 := by cases type <;> decide
  have hsized : Ordered 0 (CAAddBlockSizeOption type dataLength options) := by
    rw [CAAddBlockSizeOption, CACreateNewOptionNode_size]
    exact ordered_coapInsert UInt16.zero_le hordered
  constructor
  · apply coapGetBlock_added hsized block type _ hshown
    intro option hoption
    rw [CAAddBlockSizeOption, CACreateNewOptionNode_size] at hoption
    obtain rfl | hoption := mem_coapInsert.mp hoption
    · exact hapart
    · exact (hnone option hoption).1
  · rw [CAIsPayloadLengthInPduWithBlockSizeOption, coapCheckOption_eq, hshown,
      CAAddBlockOptionImpl, CACreateNewOptionNode_bits,
      findOption_coapInsert_of_ne (by simpa using hblock) (by simpa using hdistinct),
      CAAddBlockSizeOption, CACreateNewOptionNode_size,
      findOption_coapInsert hsize _ hordered fun option hoption => (hnone option hoption).2,
      Option.map_some, coapDecodeVarBytes_coapEncodeVarBytes, UInt32.toNat_ofNat',
      Nat.mod_eq_of_lt hlength]

/-- **The options of a first block are read as they were added.**  They are put among any options in
their order which have other numbers; the message is built, its options and the payload are added,
and if all the options arrive the receiver finds the block and the whole size. -/
theorem blockOptions_read {heap : Memory} {randomId : UInt16} {code : Nat} {info : CAInfo}
    {options : List NumberedOption} {transport : CoapTransport} {start last : CoapPdu}
    (hordered : Ordered 0 options) (block : CoapBlock) (type : BlockType) {dataLength : Nat}
    (hlength : dataLength < 2 ^ 32)
    (hnone : ∀ option ∈ options, option.number ≠ type.number.toUInt16 ∧
      option.number ≠ type.sizeNumber.toUInt16)
    (hstart : CAGeneratePDUImpl true false heap randomId code info options =
      .done (transport, start))
    (hadd : addOptions start
      (CAAddBlockOptionImpl block type (CAAddBlockSizeOption type dataLength options)) = .done last)
    {bytes : List UInt8} (hsmall : coapMaxPduSize + bytes.length + 1 < 2 ^ 32)
    (hcode : IsCode code)
    (harrives : optionCode.Along Arrives 0
      (CAAddBlockOptionImpl block type (CAAddBlockSizeOption type dataLength options)))
    (heap' data : Memory)
    (hdata : span data 0 (coapAddData last bytes).2.length = (coapAddData last bytes).2.message) :
    ∃ parsed, CAParsePDU false heap' data (coapAddData last bytes).2.length = some (parsed, code) ∧
      coapGetBlock parsed type = some block ∧
      CAIsPayloadLengthInPduWithBlockSizeOption parsed type = some dataLength := by
  obtain ⟨parsed, hparsed, hshown⟩ :=
    receive_later hstart hadd hsmall hcode harrives heap' data hdata
  exact ⟨parsed, hparsed, blockOptions_shown hordered block type hlength hnone hshown⟩

/-- The first of the blocks of 2000 bytes, sent to `/a`. -/
theorem blockOptions_read_first :
    ∃ data length parsed, CAParsePDU false (fun _ => 0) data length = some (parsed, 2) ∧
      coapGetBlock parsed .block1 = some ⟨0, true, 6⟩ ∧
      CAIsPayloadLengthInPduWithBlockSizeOption parsed .block1 = some 2000 := by
  have hstart : CAGeneratePDUImpl true false (fun _ => 0) 0 2 sampleInfo samplePath =
      .done (.udp, _) := rfl
  have hordered : Ordered 0 samplePath := ⟨by decide, trivial⟩
  have harrives : optionCode.Along Arrives 0 (CAAddBlockOptionImpl ⟨0, true, 6⟩ .block1
      (CAAddBlockSizeOption .block1 2000 samplePath)) :=
    ⟨by decide, by decide, by decide, trivial⟩
  exact ⟨_, _, @blockOptions_read _ _ _ _ _ _ _ _ hordered ⟨0, true, 6⟩ .block1 2000 (by decide)
    (by decide) hstart rfl [65, 66, 67] (by decide) ⟨by decide, by decide, by decide⟩ harrives
    (fun _ => 0) (CoapPdu.mem _) rfl⟩

end Coap
end FireEvacuation
