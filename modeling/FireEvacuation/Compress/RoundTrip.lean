import FireEvacuation.Compress.Execute
import FireEvacuation.Compress.StoredBlocks

/-!
# Compression and back

`Compress::execute` collects all chunks of the stream, whatever their sizes are: the string
so far is always as long as `total_out` says, so that each turn appends what was written in
it.  What it does not do is to hand over a string of 2^32 bytes or more, which `avail_in`
cannot count: the bytes behind are dropped without an error, from a string to be compressed
as well as from one to be decompressed.
-/

namespace FireEvacuation
namespace Compress

open FireEvacuation.Core

/-! ## What is promised -/

/-- Compressing a string returns the full output of `deflate`, all chunks in order, and
decompressing that returns the string. -/
def RoundTrips (z : Zlib) (str : List UInt8) (level : Int32) : Prop :=
  ∃ output, z.FullOutput level outBufSize str output ∧
    Returns z str .compress level output ∧ ∀ compLv, Returns z output .decompress compLv str

/-- `avail_in` can count the string, and what `deflate` makes of it. -/
structure Fits (z : Zlib) (str : List UInt8) (level : Int32) : Prop where
  input : str.length < 4294967296
  output : ∀ output, z.FullOutput level outBufSize str output → output.length < 4294967296

section RoundTrip

variable {z : Zlib} {str output result : List UInt8} {level compLv : Int32}

/-- There is one full output of `deflate`. -/
theorem Zlib.FullOutput.unique {room : Nat} {data output' : List UInt8}
    (h : z.FullOutput level room data output) (h' : z.FullOutput level room data output') :
    output = output' := by
  obtain ⟨state, chunks, hinit, hdrawn, rfl⟩ := h
  obtain ⟨state', chunks', hinit', hdrawn', rfl⟩ := h'
  have hstate : state = state' := Option.some.inj (hinit.symm.trans hinit')
  subst hstate
  rw [hdrawn.unique hdrawn']

/-- **Compression.**  The string that is returned is the full output for what was handed
over. -/
theorem returns_compress_iff (hz : z.Contract) :
    Returns z str .compress level result ↔
      z.FullOutput level outBufSize (handedOver str) result :=
  returns_iff .compress hz.deflate_careful

/-- Every string can be compressed, at every level there is. -/
theorem exists_returns_compress (hz : z.Contract) (str : List UInt8) (hlow : 0 ≤ level)
    (hhigh : level ≤ 9) :
    ∃ output, z.FullOutput level outBufSize (handedOver str) output ∧
      Returns z str .compress level output := by
  obtain ⟨state, hinit⟩ := hz.deflateInit level hlow hhigh
  have hdelivers := hz.deflates level state outBufSize (handedOver str) outBufSize_pos hinit
  obtain ⟨chunks, hdrawn⟩ := hz.deflate_careful.exists_drawn outBufSize_pos hdelivers
  have houtput : z.FullOutput level outBufSize (handedOver str) chunks.flatten :=
    ⟨state, chunks, hinit, hdrawn, rfl⟩
  exact ⟨chunks.flatten, houtput, (returns_compress_iff hz).mpr houtput⟩

/-- **Decompression.**  The full output for a string is turned back into it, when `avail_in`
can count the output. -/
theorem returns_decompress (hz : z.Contract) (compLv : Int32)
    (houtput : z.FullOutput level outBufSize str output) (hlength : output.length < 4294967296) :
    Returns z output .decompress compLv str := by
  obtain ⟨state, hinit⟩ := hz.inflateInit
  have hdelivers := hz.inflates level outBufSize str output outBufSize_pos houtput state
    outBufSize outBufSize_pos hinit
  obtain ⟨chunks, hdrawn⟩ := hz.inflate_careful.exists_drawn outBufSize_pos hdelivers
  have hrestored := hz.restores level outBufSize str output outBufSize_pos houtput state
    outBufSize chunks outBufSize_pos hinit hdrawn
  apply (returns_iff .decompress hz.inflate_careful).mpr
  rw [handedOver_eq_iff.mpr hlength]
  exact ⟨state, chunks, hinit, hdrawn, hrestored.symm⟩

/-- A full output from which something is returned was handed over as a whole, and what is
returned is the string it was made of. -/
theorem of_returns_decompress (hz : z.Contract)
    (houtput : z.FullOutput level outBufSize str output)
    (h : Returns z output .decompress compLv result) :
    output.length < 4294967296 ∧ result = str := by
  obtain ⟨state, chunks, hinit, hdrawn, rfl⟩ := (returns_iff .decompress hz.inflate_careful).mp h
  -- a part of it would not come to the end of the data
  have hwhole : handedOver output = output := by
    by_contra hpart
    exact hz.incomplete level outBufSize str output outBufSize_pos houtput (handedOver output)
      (handedOver_isPrefixOf output) hpart state outBufSize chunks outBufSize_pos hinit hdrawn
  rw [hwhole] at hdrawn
  exact ⟨handedOver_eq_iff.mp hwhole, hz.restores level outBufSize str output outBufSize_pos
    houtput state outBufSize chunks outBufSize_pos hinit hdrawn⟩

/-- What comes back is what was handed over. -/
theorem RoundTrips.fits (hz : z.Contract) (h : RoundTrips z str level) : Fits z str level := by
  obtain ⟨output, hfull, hcompress, hdecompress⟩ := h
  have hhanded := (returns_compress_iff hz).mp hcompress
  obtain ⟨hlength, hback⟩ := of_returns_decompress hz hhanded (hdecompress level)
  refine ⟨handedOver_eq_iff.mp hback.symm, fun output' houtput' => ?_⟩
  rw [houtput'.unique hfull]
  exact hlength

/-- **Round trip.**  A string comes back exactly when `avail_in` can count it and what
`deflate` makes of it. -/
theorem roundTrips_iff (z : Zlib) (hz : z.Contract) (str : List UInt8) (level : Int32)
    (hlow : 0 ≤ level) (hhigh : level ≤ 9) : RoundTrips z str level ↔ Fits z str level := by
  constructor
  · exact RoundTrips.fits hz
  · intro hfits
    obtain ⟨output, hfull, hcompress⟩ := exists_returns_compress hz str hlow hhigh
    rw [handedOver_eq_iff.mpr hfits.input] at hfull
    have hlength := hfits.output output hfull
    exact ⟨output, hfull, hcompress, fun compLv => returns_decompress hz compLv hfull hlength⟩

end RoundTrip

theorem roundTrips_iff_stored :
    Fits storedZlib [0x41] 0 ∧ (RoundTrips storedZlib [0x41] 0 ↔ Fits storedZlib [0x41] 0) := by
  refine ⟨⟨by decide, fun output houtput => ?_⟩,
    roundTrips_iff storedZlib storedZlib_contract [0x41] 0 (by decide) (by decide)⟩
  rw [eq_encode_of_fullOutput houtput]
  decide

/-- A string of 2^32 bytes is compressed as the empty string, and comes back as that. -/
theorem long_string_does_not_come_back :
    storedZlib.Contract ∧
      Returns storedZlib (List.replicate 4294967296 0) .compress 0 (encode []) ∧
      Returns storedZlib (encode []) .decompress 0 [] ∧
      ¬RoundTrips storedZlib (List.replicate 4294967296 0) 0 := by
  have hnone : handedOver (List.replicate 4294967296 0) = [] := by
    have hzero : (UInt32.ofNat 4294967296).toNat = 0 := by decide
    rw [handedOver, List.length_replicate, hzero, List.take_zero]
  have hlow : (0 : Int32) ≤ 0 := by decide
  have hhigh : (0 : Int32) ≤ 9 := by decide
  obtain ⟨output, hfull, hcompress⟩ := exists_returns_compress storedZlib_contract
    (List.replicate 4294967296 0) hlow hhigh
  rw [hnone] at hfull
  have houtput : output = encode [] := eq_encode_of_fullOutput hfull
  subst houtput
  refine ⟨storedZlib_contract, hcompress, ?_, fun hround => ?_⟩
  · exact returns_decompress storedZlib_contract 0 hfull (by decide)
  · have hlength := (hround.fits storedZlib_contract).input
    rw [List.length_replicate] at hlength
    exact absurd hlength (Nat.lt_irrefl _)

end Compress
end FireEvacuation
