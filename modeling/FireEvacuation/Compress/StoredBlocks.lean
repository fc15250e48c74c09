import FireEvacuation.Compress.Zlib

/-!
# A library which stores

The contract of zlib can be kept: here is a library which does, without compression.  Its
format is that of level 0: the two bytes of the header, stored blocks, and the checksum.  A
block holds one byte at most, so that the blocks of a text are read off its bytes; the output
for a text of one byte or none is that of zlib at level 0.

Both functions take the whole input with the first call, and hand the output out as there is
room for it.
-/

namespace FireEvacuation
namespace Compress

open FireEvacuation.Core

/-! ## The format -/

/-- A block without bytes, the last one. -/
def emptyBlock : List UInt8 := [0x01, 0x00, 0x00, 0xFF, 0xFF]

/-- The head of a block with one byte: the bit for the last block, the length, and its
complement. -/
def blockHead (last : Bool) : List UInt8 := [if last then 0x01 else 0x00, 0x01, 0x00, 0xFE, 0xFF]

def blocks : List UInt8 → List UInt8
  | [] => emptyBlock
  | [byte] => blockHead true ++ [byte]
  | byte :: next :: rest => blockHead false ++ byte :: blocks (next :: rest)

/-- The two sums of Adler-32. -/
def adlerSums (bytes : List UInt8) : Nat × Nat :=
  bytes.foldl (fun sums byte =>
    ((sums.1 + byte.toNat) % 65521, (sums.2 + (sums.1 + byte.toNat) % 65521) % 65521)) (1, 0)

/-- The checksum behind the blocks. -/
def trailer (bytes : List UInt8) : List UInt8 :=
  [UInt8.ofNat ((adlerSums bytes).2 / 256), UInt8.ofNat (adlerSums bytes).2,
    UInt8.ofNat ((adlerSums bytes).1 / 256), UInt8.ofNat (adlerSums bytes).1]

/-- The header of zlib for level 0. -/
def zlibHead : List UInt8 := [0x78, 0x01]

def encode (bytes : List UInt8) : List UInt8 := zlibHead ++ (blocks bytes ++ trailer bytes)

/-- The bytes in the blocks at the beginning, and what comes behind the last block. -/
def readBlocks : List UInt8 → Option (List UInt8 × List UInt8)
  | bits :: low :: high :: low' :: high' :: rest =>
      if [bits, low, high, low', high'] = emptyBlock then some ([], rest)
      else
        match rest with
        | [] => none
        | byte :: rest =>
            if [bits, low, high, low', high'] = blockHead true then some ([byte], rest)
            else if [bits, low, high, low', high'] = blockHead false then
              (readBlocks rest).map fun read => (byte :: read.1, read.2)
            else none
  | _ => none

/-- The bytes of a text in the format, with nothing behind it. -/
def decode (text : List UInt8) : Option (List UInt8) :=
  if text.take 2 = zlibHead then
    match readBlocks (text.drop 2) with
    | none => none
    | some (bytes, rest) => if rest = trailer bytes then some bytes else none
  else none

theorem readBlocks_cons (bits low high low' high' : UInt8) (rest : List UInt8) :
    readBlocks (bits :: low :: high :: low' :: high' :: rest) =
      if [bits, low, high, low', high'] = emptyBlock then some ([], rest)
      else
        match rest with
        | [] => none
        | byte :: rest =>
            if [bits, low, high, low', high'] = blockHead true then some ([byte], rest)
            else if [bits, low, high, low', high'] = blockHead false then
              (readBlocks rest).map fun read => (byte :: read.1, read.2)
            else none := by
  rw [readBlocks.eq_def]

theorem readBlocks_blocks (bytes behind : List UInt8) :
    readBlocks (blocks bytes ++ behind) = some (bytes, behind) := by
  induction bytes using blocks.induct with
  | case1 => exact readBlocks_cons _ _ _ _ _ _
  | case2 byte => exact readBlocks_cons _ _ _ _ _ _
  | case3 byte next rest ih =>
      show readBlocks (0x00 :: 0x01 :: 0x00 :: 0xFE :: 0xFF :: byte ::
        (blocks (next :: rest) ++ behind)) = _
      rw [readBlocks_cons]
      show (readBlocks (blocks (next :: rest) ++ behind)).map _ = _
      rw [ih]
      rfl

/-- Bytes behind what was read change nothing. -/
theorem readBlocks_append {text bytes rest : List UInt8}
    (h : readBlocks text = some (bytes, rest)) (behind : List UInt8) :
    readBlocks (text ++ behind) = some (bytes, rest ++ behind) := by
  fun_induction readBlocks text generalizing bytes rest with
  | case1 bits low high low' high' after hempty =>
      cases h
      simp only [List.cons_append]
      rw [readBlocks_cons, if_pos hempty]
  | case2 bits low high low' high' hempty => cases h
  | case3 bits low high low' high' hempty byte after hlast =>
      cases h
      simp only [List.cons_append]
      rw [readBlocks_cons, if_neg hempty]
      exact if_pos hlast
  | case4 bits low high low' high' hempty byte after hlast hnext ih =>
      obtain ⟨⟨read, left⟩, hread, heq⟩ := Option.map_eq_some_iff.mp h
      cases heq
      simp only [List.cons_append]
      rw [readBlocks_cons, if_neg hempty]
      dsimp only
      rw [if_neg hlast, if_pos hnext, ih hread]
      rfl
  | case5 bits low high low' high' hempty byte after hlast hnext => cases h
  | case6 text hshort => cases h

theorem decode_eq_some_iff {text bytes : List UInt8} :
    decode text = some bytes ↔
      ∃ body, text = zlibHead ++ body ∧ readBlocks body = some (bytes, trailer bytes) := by
  unfold decode
  constructor
  · intro h
    split at h
    · rename_i hhead
      refine ⟨text.drop 2, ?_, ?_⟩
      · rw [← hhead, List.take_append_drop]
      · split at h
        · cases h
        · rename_i read rest hread
          split at h
          · rename_i hrest
            cases h
            rw [hread, hrest]
          · cases h
    · cases h
  · rintro ⟨body, rfl, hread⟩
    have hhead : (zlibHead ++ body).take 2 = zlibHead := rfl
    have hbody : (zlibHead ++ body).drop 2 = body := rfl
    rw [if_pos hhead, hbody, hread]
    dsimp only
    rw [if_pos rfl]

/-- **Round trip.** -/
theorem decode_encode (bytes : List UInt8) : decode (encode bytes) = some bytes :=
  decode_eq_some_iff.mpr ⟨_, rfl, readBlocks_blocks bytes (trailer bytes)⟩

/-- What is encoded cannot be decoded when its end is missing. -/
theorem decode_eq_none_of_missing {bytes before : List UInt8} (hpart : before <+: encode bytes)
    (hne : before ≠ encode bytes) : decode before = none := by
  cases hdecode : decode before with
  | none => rfl
  | some read =>
      exfalso
      obtain ⟨body, rfl, hread⟩ := decode_eq_some_iff.mp hdecode
      obtain ⟨behind, hbehind⟩ := hpart
      rw [encode, List.append_assoc] at hbehind
      have hbody : body ++ behind = blocks bytes ++ trailer bytes :=
        List.append_cancel_left hbehind
      have hboth := readBlocks_append hread behind
      rw [hbody, readBlocks_blocks] at hboth
      have hpair := Option.some.inj hboth
      have hbytes : bytes = read := congrArg Prod.fst hpair
      have htrailer : trailer bytes = trailer read ++ behind := congrArg Prod.snd hpair
      rw [hbytes] at htrailer
      have hnone : behind = [] := List.self_eq_append_right.mp htrailer
      rw [hnone, List.append_nil] at hbody
      rw [encode, hbody] at hne
      exact hne rfl

/-! ## The stream -/

/-- `Z_DATA_ERROR`. -/
def zDataError : Int := -3

/-- Calls which make the whole output of the whole input, and keep what there is no room
for. -/
def whole (transform : List UInt8 → Option (List UInt8)) : Flate (Option (List UInt8)) :=
  fun state input room =>
    match state.or (transform input) with
    | none => ⟨zDataError, 0, [], some "incorrect data", none⟩
    | some pending =>
        { ret := if pending.length ≤ room then zStreamEnd else zOk
          consumed := input.length
          written := pending.take room
          msg := none
          state := some (pending.drop room) }

section Whole

variable {transform : List UInt8 → Option (List UInt8)} {room : Nat}
  {input output : List UInt8}

theorem whole_careful : (whole transform).Careful := by
  constructor
  · intro state input room
    unfold whole
    split
    · exact Nat.zero_le _
    · exact Nat.le_refl _
  · intro state input room
    unfold whole
    split
    · exact Nat.zero_le _
    · exact List.length_take_le room _
  · intro state input room hroom hok
    right
    unfold whole at hok ⊢
    split at hok
    · cases hok
    · rename_i pending _
      dsimp only at hok ⊢
      split at hok
      · cases hok
      · rename_i hlong
        rw [List.length_take]
        omega

/-- The chunks so far, and what is to come behind them. -/
def Emits (transform : List UInt8 → Option (List UInt8)) (output : List UInt8)
    (s : Drawing (Option (List UInt8)) UInt8 UInt8) : Prop :=
  ∃ pending, s.state.or (transform s.rest) = some pending ∧ s.chunks.flatten ++ pending = output

theorem emits_start (h : transform input = some output) :
    Emits transform output (.start none input) :=
  ⟨output, h, rfl⟩

/-- A call takes the next chunk from what is to come. -/
theorem Emits.turn {s : Drawing (Option (List UInt8)) UInt8 UInt8} (h : Emits transform output s) :
    Emits transform output (s.after ((whole transform).portions room)) ∧
      (s.next ((whole transform).portions room)).status ≠ .failed ∧
      ((s.next ((whole transform).portions room)).status = .last →
        (s.after ((whole transform).portions room)).chunks.flatten = output) := by
  obtain ⟨pending, hpending, houtput⟩ := h
  have hcall : whole transform s.state s.rest room =
      { ret := if pending.length ≤ room then zStreamEnd else zOk
        consumed := s.rest.length
        written := pending.take room
        msg := none
        state := some (pending.drop room) } := by
    rw [whole, hpending]
  have hnext : s.next ((whole transform).portions room) =
      { state := some (pending.drop room)
        consumed := s.rest.length
        written := pending.take room
        status := if pending.length ≤ room then .last else .more } := by
    unfold Drawing.next Flate.portions
    rw [hcall]
    by_cases hfits : pending.length ≤ room
    · simp [hfits, statusOf, zOk, zStreamEnd]
    · simp [hfits, statusOf]
  have hchunks : (s.after ((whole transform).portions room)).chunks.flatten =
      s.chunks.flatten ++ pending.take room := by
    rw [flatten_after, hnext]
  refine ⟨⟨pending.drop room, ?_, ?_⟩, ?_, ?_⟩
  · unfold Drawing.after
    rw [hnext]
    rfl
  · rw [hchunks, List.append_assoc, List.take_append_drop]
    exact houtput
  · rw [hnext]
    dsimp only
    split <;> decide
  · intro hlast
    rw [hnext] at hlast
    dsimp only at hlast
    split at hlast
    · rename_i hfits
      rw [hchunks, List.take_of_length_le hfits]
      exact houtput
    · cases hlast

theorem emits_of_reaches (h : transform input = some output)
    {s : Drawing (Option (List UInt8)) UInt8 UInt8}
    (hs : Reaches (draw ((whole transform).portions room)) (.start none input) s) :
    Emits transform output s := by
  refine hs.invariant (fun u _ t hu hstep => ?_) (emits_start h)
  obtain ⟨-, rfl⟩ := draw_eq_some_iff.mp hstep
  exact hu.turn.1

theorem whole_delivers (h : transform input = some output) :
    Delivers ((whole transform).portions room) none input where
  answers s hs := (emits_of_reaches h hs).turn.2.1
  bounded := by
    use output.length
    intro s hs
    obtain ⟨pending, -, houtput⟩ := emits_of_reaches h hs
    rw [← houtput, List.length_append]
    exact Nat.le_add_right _ _

theorem whole_drawn (h : transform input = some output) {chunks : List (List UInt8)}
    (hdrawn : Drawn ((whole transform).portions room) none input chunks) :
    chunks.flatten = output := by
  obtain ⟨s, hs, hlast, rfl⟩ := hdrawn
  exact (emits_of_reaches h hs).turn.2.2 hlast

theorem whole_not_drawn (h : transform input = none) (chunks : List (List UInt8)) :
    ¬Drawn ((whole transform).portions room) none input chunks := by
  apply not_drawn_of_failed
  have hcall : whole transform none input room =
      ⟨zDataError, 0, [], some "incorrect data", none⟩ := by
    rw [whole, Option.none_or, h]
  unfold Flate.portions
  rw [hcall]
  rfl

end Whole

/-- The text as the whole output. -/
def encoded (bytes : List UInt8) : Option (List UInt8) := some (encode bytes)

/-- The library. -/
def storedZlib : Zlib where
  State := Option (List UInt8)
  deflateInit level := if -1 ≤ level ∧ level ≤ 9 then some none else none
  inflateInit := some none
  deflate _ := whole encoded
  inflate _ := whole decode

/-- The full output is the text in the format. -/
theorem eq_encode_of_fullOutput {level : Int32} {room : Nat} {bytes output : List UInt8}
    (h : storedZlib.FullOutput level room bytes output) : output = encode bytes := by
  obtain ⟨state, chunks, hinit, hdrawn, rfl⟩ := h
  obtain ⟨-, hstate⟩ := Option.ite_none_right_eq_some.mp hinit
  cases hstate
  have hencoded : encoded bytes = some (encode bytes) := rfl
  exact whole_drawn hencoded hdrawn

/-- **The contract can be kept.** -/
theorem storedZlib_contract : storedZlib.Contract where
  deflateInit level hlow hhigh := by
    have hlevel : -1 ≤ level ∧ level ≤ 9 := ⟨Int32.le_trans (by decide) hlow, hhigh⟩
    exact ⟨none, if_pos hlevel⟩
  inflateInit := ⟨none, rfl⟩
  deflate_careful := whole_careful
  inflate_careful := whole_careful
  deflates level state room bytes _ hinit := by
    obtain ⟨-, hstate⟩ := Option.ite_none_right_eq_some.mp hinit
    cases hstate
    exact whole_delivers rfl
  inflates level room bytes output _ houtput state room' _ hinit := by
    cases hinit
    rw [eq_encode_of_fullOutput houtput]
    exact whole_delivers (decode_encode bytes)
  restores level room bytes output _ houtput state room' chunks _ hinit hdrawn := by
    cases hinit
    rw [eq_encode_of_fullOutput houtput] at hdrawn
    exact whole_drawn (decode_encode bytes) hdrawn
  incomplete level room bytes output _ houtput before hpart hne state room' chunks _ hinit := by
    cases hinit
    rw [eq_encode_of_fullOutput houtput] at hpart hne
    exact whole_not_drawn (decode_eq_none_of_missing hpart hne) chunks

end Compress
end FireEvacuation
