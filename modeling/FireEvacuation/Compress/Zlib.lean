import FireEvacuation.Core.Chunks

/-!
# zlib as `Compress` sees it

The library is not part of the repository, so its functions are a parameter here, and what
its documentation says of them is the contract below.  A call of `deflate` or `inflate` is
handed the input that is left and the room in the output buffer; it takes some of the one
and fills some of the other.

The full output of `deflate` is what it has written, call after call, up to the one which
answers `Z_STREAM_END`.
-/

namespace FireEvacuation
namespace Compress

open FireEvacuation.Core

/-- `Z_OK` and `Z_STREAM_END`. -/
def zOk : Int := 0

def zStreamEnd : Int := 1

/-- `Z_NO_FLUSH` and `Z_FINISH`. -/
def zNoFlush : Int := 0

def zFinish : Int := 4

/-- What a call gives back: the result, and the changes of the stream. -/
structure FlateAnswer (State : Type) where
  ret : Int
  consumed : Nat
  written : List UInt8
  msg : Option String
  state : State

/-- A call with a value for `flush`: the internal state, the input that is left, and the room
in the output buffer. -/
abbrev Flate (State : Type) := State → List UInt8 → Nat → FlateAnswer State

/-- The functions of the library.  `deflateInit` and `inflateInit` give no state when they
answer anything but `Z_OK`. -/
structure Zlib where
  State : Type
  deflateInit : Int32 → Option State
  inflateInit : Option State
  deflate : Int → Flate State
  inflate : Int → Flate State

/-- What the result says about the output to come. -/
def statusOf (ret : Int) : PortionStatus :=
  if ret = zOk then .more else if ret = zStreamEnd then .last else .failed

/-- The calls with a buffer of this size. -/
def Flate.portions {State : Type} (flate : Flate State) (room : Nat) (state : State)
    (input : List UInt8) : Portion State UInt8 where
  state := (flate state input room).state
  consumed := (flate state input room).consumed
  written := (flate state input room).written
  status := statusOf (flate state input room).ret

/-- What every call keeps to: the input there is, the room there is, and `Z_OK` only when
there was progress. -/
structure Flate.Careful {State : Type} (flate : Flate State) : Prop where
  consumed : ∀ state input room, (flate state input room).consumed ≤ input.length
  written : ∀ state input room, (flate state input room).written.length ≤ room
  progress : ∀ state input room, 0 < room → (flate state input room).ret = zOk →
    0 < (flate state input room).consumed ∨ 0 < (flate state input room).written.length

namespace Zlib

variable (z : Zlib)

/-- The full output of `deflate` at a level, into buffers of a size. -/
def FullOutput (level : Int32) (room : Nat) (data output : List UInt8) : Prop :=
  ∃ state chunks, z.deflateInit level = some state ∧
    Drawn ((z.deflate zFinish).portions room) state data chunks ∧ output = chunks.flatten

/-- What the documentation says. -/
structure Contract : Prop where
  deflateInit : ∀ level : Int32, 0 ≤ level → level ≤ 9 → ∃ state, z.deflateInit level = some state
  inflateInit : ∃ state, z.inflateInit = some state
  deflate_careful : (z.deflate zFinish).Careful
  inflate_careful : (z.inflate zNoFlush).Careful
  /-- `deflate` comes to an end with every input. -/
  deflates : ∀ level state room data, 0 < room → z.deflateInit level = some state →
    Delivers ((z.deflate zFinish).portions room) state data
  /-- `inflate` comes to an end with every full output of `deflate`. -/
  inflates : ∀ level room data output, 0 < room → z.FullOutput level room data output →
    ∀ state room', 0 < room' → z.inflateInit = some state →
      Delivers ((z.inflate zNoFlush).portions room') state output
  /-- What `inflate` makes of it is the input of `deflate`. -/
  restores : ∀ level room data output, 0 < room → z.FullOutput level room data output →
    ∀ state room' chunks, 0 < room' → z.inflateInit = some state →
      Drawn ((z.inflate zNoFlush).portions room') state output chunks → chunks.flatten = data
  /-- Without the end of the data `inflate` does not answer `Z_STREAM_END`. -/
  incomplete : ∀ level room data output, 0 < room → z.FullOutput level room data output →
    ∀ before, before <+: output → before ≠ output →
      ∀ state room' chunks, 0 < room' → z.inflateInit = some state →
        ¬Drawn ((z.inflate zNoFlush).portions room') state before chunks

end Zlib

section Portions

variable {State : Type} {flate : Flate State} {room : Nat}

theorem statusOf_eq_more_iff {ret : Int} : statusOf ret = .more ↔ ret = zOk := by
  unfold statusOf
  by_cases hok : ret = zOk
  · simp [hok]
  · by_cases hend : ret = zStreamEnd
    · simp [hend, zOk, zStreamEnd]
    · simp [hok, hend]

theorem statusOf_eq_last_iff {ret : Int} : statusOf ret = .last ↔ ret = zStreamEnd := by
  unfold statusOf
  by_cases hend : ret = zStreamEnd
  · simp [hend, zOk, zStreamEnd]
  · by_cases hok : ret = zOk
    · simp [hok, zOk, zStreamEnd]
    · simp [hok, hend]

/-- A stream which delivers writes a last chunk. -/
theorem Flate.Careful.exists_drawn (h : flate.Careful) (hroom : 0 < room) {state : State}
    {input : List UInt8} (hdelivers : Delivers (flate.portions room) state input) :
    ∃ chunks, Drawn (flate.portions room) state input chunks :=
  hdelivers.exists_drawn (fun state rest => h.consumed state rest room)
    fun state rest hmore => h.progress state rest room hroom (statusOf_eq_more_iff.mp hmore)

end Portions

end Compress
end FireEvacuation
