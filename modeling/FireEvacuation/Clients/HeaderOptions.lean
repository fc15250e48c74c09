import Mathlib.Data.List.TakeWhile
import Mathlib.Tactic.Common

/-!
# The header options of a response

The stack hands the options of a response to the client as texts, which end at the first
zero byte.  `CheckHeaderOptionsInfo` copies each into a buffer of the length of the text;
`snprintf` needs one byte of it for the terminator, so the last byte is lost, and in a
buffer of no bytes nothing is written.  Then it reads the first two bytes of the buffer as
`char`.

The bytes of the buffer which were not written are part of the model, and reading one of
them, or a byte outside, is a fault.
-/

namespace FireEvacuation
namespace Clients

/-- An option as the stack received it. -/
structure ReceivedOption where
  optionId : UInt16
  optionData : List UInt8
  deriving DecidableEq, Repr

/-- `OCHeaderOption`: the data is a text. -/
structure OCHeaderOption where
  optionId : UInt16
  optionData : List UInt8
  deriving DecidableEq, Repr

/-- The option numbers the constructor of `OCHeaderOption` takes. -/
def headerOptionId (id : UInt16) : Bool :=
  2048 ≤ id && id ≤ 3000 || id ∈ [1, 5, 8, 20, 17, 12]

/-- What a C text has before its end. -/
def cBytes (bytes : List UInt8) : List UInt8 := bytes.takeWhile (· ≠ 0)

/-- `parseServerHeaderOptions`, or nothing when an option number is refused. -/
def parseServerHeaderOptions : List ReceivedOption → Option (List OCHeaderOption)
  | [] => some []
  | received :: rest =>
      if headerOptionId received.optionId then
        (parseServerHeaderOptions rest).map fun options =>
          ⟨received.optionId, cBytes received.optionData⟩ :: options
      else none

/-- A buffer of this size after `snprintf(buffer, size, "%s", text)`; `none` is a byte which
was not written. -/
def snprintfBuffer (size : Nat) (text : List UInt8) : List (Option UInt8) :=
  if size = 0 then []
  else
    let written := ((cBytes text).take (size - 1) ++ [0]).map some
    written ++ List.replicate (size - written.length) none

/-- A read of the buffer, which is a fault outside of it and where nothing was written. -/
def readByte (buffer : List (Option UInt8)) (index : Nat) : Option UInt8 := buffer[index]?.join

/-- The value of a `char`, which has a sign on some machines. -/
def charValue (signed : Bool) (byte : UInt8) : Int :=
  if signed && 128 ≤ byte then byte.toNat - 256 else byte.toNat

/-- `COAP_OPTION_CONTENT_FORMAT` and `CA_OPTION_CONTENT_VERSION`. -/
def contentFormat : UInt16 := 12

def contentVersion : UInt16 := 2053

/-- A line about an option. -/
inductive OptionReport where
  | format (value : Int)
  | version (value : Int)
  deriving DecidableEq, Repr

/-- The report for an option of this number. -/
def optionReport (id : UInt16) (format version : Int) : Option OptionReport :=
  if id = contentFormat then some (.format format)
  else if id = contentVersion then some (.version version)
  else none

/-- The body of the loop in `CheckHeaderOptionsInfo`, or nothing when it reads what it must
not. -/
def checkOption (signed : Bool) (option : OCHeaderOption) : Option (Option OptionReport) :=
  let buffer := snprintfBuffer option.optionData.length option.optionData
  match readByte buffer 0, readByte buffer 1 with
  | some first, some second =>
      let format := charValue signed first * 256 + charValue signed second
      let version := charValue signed first * 256
      some (optionReport option.optionId format version)
  | _, _ => none

/-- `Util::CheckHeaderOptionsInfo`.  It returns when a buffer cannot be allocated;
`allocated` says so for each option in turn. -/
def checkHeaderOptionsInfo (signed : Bool) :
    (allocated : List Bool) → List OCHeaderOption → Option (List OptionReport)
  | true :: allocated, option :: options =>
      match checkOption signed option with
      | none => none
      | some report =>
          (checkHeaderOptionsInfo signed allocated options).map fun reports =>
            report.toList ++ reports
  | _, _ => some []

/-! ## What is promised -/

/-- The options before the first allocation which fails. -/
def allocatedOptions : List Bool → List OCHeaderOption → List OCHeaderOption
  | true :: allocated, option :: options => option :: allocatedOptions allocated options
  | _, _ => []

/-- The report with the two bytes as numbers from 0 to 255. -/
def rightReport (option : OCHeaderOption) : Option OptionReport :=
  match option.optionData with
  | b0 :: b1 :: _ =>
      optionReport option.optionId (256 * b0.toNat + b1.toNat) (256 * b0.toNat)
  | _ => none

/-- All reads are good, and all reports are right. -/
def HeaderOptionsRead (signed : Bool) (allocated : List Bool) (options : List OCHeaderOption) :
    Prop :=
  checkHeaderOptionsInfo signed allocated options =
    some ((allocatedOptions allocated options).filterMap rightReport)

/-- The condition on an option: there are two bytes, a third one when the second one
matters, and those which matter have no sign. -/
def OptionReadable (signed : Bool) (option : OCHeaderOption) : Prop :=
  match option.optionData with
  | b0 :: b1 :: rest =>
      (option.optionId = contentFormat → rest ≠ [] ∧ (signed = true → b0 < 128 ∧ b1 < 128)) ∧
        (option.optionId = contentVersion → signed = true → b0 < 128)
  | _ => False

/-! ## One option -/

theorem cBytes_eq_self {bytes : List UInt8} (h : 0 ∉ bytes) : cBytes bytes = bytes := by
  refine List.takeWhile_eq_self_iff.mpr fun byte hmem => ?_
  have hne : byte ≠ 0 := fun hzero => h (hzero ▸ hmem)
  simpa using hne

theorem zero_not_mem_cBytes (bytes : List UInt8) : 0 ∉ cBytes bytes := by
  intro hmem
  have hne := List.mem_takeWhile_imp hmem
  simp at hne

/-- The buffer for a text without zero bytes: the last byte gives way to the terminator. -/
theorem snprintfBuffer_eq {text : List UInt8} (h : 0 ∉ text) (hne : text ≠ []) :
    snprintfBuffer text.length text = (text.dropLast ++ [0]).map some := by
  have hlength : text.length ≠ 0 := fun hzero => hne (List.length_eq_zero_iff.mp hzero)
  rw [snprintfBuffer, if_neg hlength, cBytes_eq_self h, ← List.dropLast_eq_take]
  dsimp only
  -- the terminator fills the buffer, so no byte is left unwritten
  have hfull : text.length - ((text.dropLast ++ [0]).map some).length = 0 := by
    simp only [List.length_map, List.length_append, List.length_dropLast, List.length_singleton]
    omega
  rw [hfull, List.replicate_zero, List.append_nil]

/-- With less than two bytes there is no second byte to read. -/
theorem checkOption_short (signed : Bool) {option : OCHeaderOption}
    (hshort : option.optionData.length < 2) : checkOption signed option = none := by
  have hsecond : readByte (snprintfBuffer option.optionData.length option.optionData) 1 = none := by
    rcases hdata : option.optionData with _ | ⟨byte, _ | ⟨second, rest⟩⟩
    · rfl
    · rfl
    · rw [hdata] at hshort
      simp only [List.length_cons] at hshort
      omega
  unfold checkOption
  dsimp only
  rw [hsecond]
  split
  · rename_i hread
    cases hread
  · rfl

/-- What is read instead of the second byte. -/
def secondRead (b1 : UInt8) (rest : List UInt8) : UInt8 := if rest = [] then 0 else b1

theorem checkOption_long (signed : Bool) {option : OCHeaderOption} (hzero : 0 ∉ option.optionData)
    {b0 b1 : UInt8} {rest : List UInt8} (hdata : option.optionData = b0 :: b1 :: rest) :
    checkOption signed option =
      some (optionReport option.optionId
        (charValue signed b0 * 256 + charValue signed (secondRead b1 rest))
        (charValue signed b0 * 256)) := by
  have hbuffer := snprintfBuffer_eq hzero (by simp [hdata])
  unfold checkOption
  rw [hbuffer, hdata]
  cases rest <;> rfl

/-- A byte from 128 on is off by 256 when `char` has a sign. -/
theorem charValue_cases (signed : Bool) (byte : UInt8) :
    charValue signed byte = byte.toNat ∧ (signed = true → byte < 128) ∨
      charValue signed byte = byte.toNat - 256 ∧ signed = true ∧ ¬byte < 128 := by
  unfold charValue
  cases signed with
  | false => exact Or.inl ⟨rfl, fun h => nomatch h⟩
  | true =>
      by_cases hbig : 128 ≤ byte
      · exact Or.inr ⟨by simp [hbig], rfl, UInt8.not_lt.mpr hbig⟩
      · exact Or.inl ⟨by simp [hbig], fun _ => UInt8.not_le.mp hbig⟩

theorem version_right_iff {signed : Bool} {b0 : UInt8} :
    charValue signed b0 * 256 = 256 * (b0.toNat : Int) ↔ (signed = true → b0 < 128) := by
  rcases charValue_cases signed b0 with ⟨hvalue, hsmall⟩ | ⟨hvalue, hsigned, hbig⟩
  · exact iff_of_true (by rw [hvalue]; omega) hsmall
  · exact iff_of_false (by rw [hvalue]; omega) fun h => hbig (h hsigned)

theorem format_right_iff {signed : Bool} {b0 b1 : UInt8} {rest : List UInt8} (hb1 : b1 ≠ 0) :
    charValue signed b0 * 256 + charValue signed (secondRead b1 rest) =
        256 * (b0.toNat : Int) + b1.toNat ↔
      rest ≠ [] ∧ (signed = true → b0 < 128 ∧ b1 < 128) := by
  have hb1' : b1.toNat ≠ 0 := fun h => hb1 (UInt8.toNat_inj.mp h)
  have hlt0 := b0.toNat_lt
  have hlt1 := b1.toNat_lt
  by_cases hrest : rest = []
  · -- the terminator is read instead of a byte which is not zero
    have hsecond : charValue signed (secondRead b1 rest) = 0 := by
      rw [secondRead, if_pos hrest]
      cases signed <;> rfl
    refine iff_of_false ?_ fun h => h.1 hrest
    rw [hsecond]
    rcases charValue_cases signed b0 with ⟨hvalue, -⟩ | ⟨hvalue, -, -⟩ <;> rw [hvalue] <;> omega
  · -- a byte which is off by 256 cannot be made up for by the other one
    rw [secondRead, if_neg hrest]
    rcases charValue_cases signed b0 with ⟨hv0, hs0⟩ | ⟨hv0, hsigned, hs0⟩ <;>
      rcases charValue_cases signed b1 with ⟨hv1, hs1⟩ | ⟨hv1, hsigned', hs1⟩
    · exact iff_of_true (by rw [hv0, hv1]; omega) ⟨hrest, fun h => ⟨hs0 h, hs1 h⟩⟩
    · exact iff_of_false (by rw [hv0, hv1]; omega) fun h => hs1 (h.2 hsigned').2
    · exact iff_of_false (by rw [hv0, hv1]; omega) fun h => hs0 (h.2 hsigned).1
    · exact iff_of_false (by rw [hv0, hv1]; omega) fun h => hs0 (h.2 hsigned).1

theorem optionReport_eq_iff {id : UInt16} {format version format' version' : Int} :
    optionReport id format version = optionReport id format' version' ↔
      (id = contentFormat → format = format') ∧ (id = contentVersion → version = version') := by
  unfold optionReport
  by_cases hformat : id = contentFormat
  · simp [hformat, show contentFormat ≠ contentVersion from by decide]
  · by_cases hversion : id = contentVersion
    · simp [hversion, show contentVersion ≠ contentFormat from by decide]
    · simp [hformat, hversion]

/-- **One option.**  It is read and reported as it should be exactly under the condition. -/
theorem checkOption_right_iff (signed : Bool) {option : OCHeaderOption}
    (hzero : 0 ∉ option.optionData) :
    checkOption signed option = some (rightReport option) ↔ OptionReadable signed option := by
  unfold OptionReadable rightReport
  rcases hdata : option.optionData with _ | ⟨b0, _ | ⟨b1, rest⟩⟩
  · rw [checkOption_short signed (by simp [hdata])]
    simp
  · rw [checkOption_short signed (by simp [hdata])]
    simp
  · have hb1 : b1 ≠ 0 := fun h => hzero (by simp [hdata, h])
    rw [checkOption_long signed hzero hdata, Option.some.injEq, optionReport_eq_iff,
      version_right_iff, format_right_iff hb1]

/-! ## All options -/

/-- Whether there is a report does not depend on the values in it. -/
theorem checkOption_isSome {signed : Bool} {option : OCHeaderOption}
    {report : Option OptionReport} (hzero : 0 ∉ option.optionData)
    (h : checkOption signed option = some report) :
    report.isSome = (rightReport option).isSome := by
  rcases hdata : option.optionData with _ | ⟨b0, _ | ⟨b1, rest⟩⟩
  · rw [checkOption_short signed (by simp [hdata])] at h
    cases h
  · rw [checkOption_short signed (by simp [hdata])] at h
    cases h
  · rw [checkOption_long signed hzero hdata] at h
    cases h
    rw [rightReport, hdata]
    unfold optionReport
    split
    · rfl
    · split <;> rfl

/-- Every option the stack delivers is a text. -/
theorem zero_not_mem_of_parse {received : List ReceivedOption} {options : List OCHeaderOption}
    (h : parseServerHeaderOptions received = some options) :
    ∀ option ∈ options, 0 ∉ option.optionData := by
  induction received generalizing options with
  | nil =>
      cases h
      simp
  | cons first rest ih =>
      unfold parseServerHeaderOptions at h
      split at h
      · obtain ⟨tail, htail, rfl⟩ := Option.map_eq_some_iff.mp h
        intro option hmem
        rcases List.mem_cons.mp hmem with rfl | hmem
        · exact zero_not_mem_cBytes _
        · exact ih htail option hmem
      · cases h

theorem headerOptionsRead_cons {signed : Bool} {allocated : List Bool} {option : OCHeaderOption}
    {options : List OCHeaderOption} (hzero : 0 ∉ option.optionData) :
    HeaderOptionsRead signed (true :: allocated) (option :: options) ↔
      checkOption signed option = some (rightReport option) ∧
        HeaderOptionsRead signed allocated options := by
  unfold HeaderOptionsRead
  rw [checkHeaderOptionsInfo, allocatedOptions]
  constructor
  · intro h
    cases hfirst : checkOption signed option with
    | none =>
        rw [hfirst] at h
        cases h
    | some report =>
        rw [hfirst] at h
        obtain ⟨reports, hreports, happend⟩ := Option.map_eq_some_iff.mp h
        -- both lists begin with as many reports as there are for this option
        have hsplit : (option :: allocatedOptions allocated options).filterMap rightReport =
            (rightReport option).toList ++
              (allocatedOptions allocated options).filterMap rightReport := by
          cases hright : rightReport option <;> simp [hright]
        rw [hsplit] at happend
        have hsome := checkOption_isSome hzero hfirst
        have hlength : report.toList.length = (rightReport option).toList.length := by
          cases report <;> cases hright : rightReport option <;> simp [hright] at hsome ⊢
        obtain ⟨hreport, htail⟩ := List.append_inj happend hlength
        have hsame : report = rightReport option := by
          simpa using congrArg List.head? hreport
        rw [hreports, htail, hsame]
        exact ⟨rfl, rfl⟩
  · rintro ⟨hfirst, hrest⟩
    rw [hfirst]
    dsimp only
    rw [hrest]
    cases hright : rightReport option <;> simp [hright]

/-- **Header options.**  For all options the stack delivers, every read is good and every
report right exactly when every option for which a buffer is allocated meets the condition. -/
theorem headerOptionsRead_iff (signed : Bool) (allocated : List Bool)
    {received : List ReceivedOption} {options : List OCHeaderOption}
    (h : parseServerHeaderOptions received = some options) :
    HeaderOptionsRead signed allocated options ↔
      ∀ option ∈ allocatedOptions allocated options, OptionReadable signed option := by
  have hzero := zero_not_mem_of_parse h
  -- from here on only the texts matter, not where they come from
  clear h
  induction options generalizing allocated with
  | nil =>
      cases allocated with
      | nil => exact iff_of_true rfl (by simp [allocatedOptions])
      | cons first allocated => exact iff_of_true (by cases first <;> rfl) (by
          cases first <;> simp [allocatedOptions])
  | cons option options ih =>
      have hrest : ∀ other ∈ options, 0 ∉ other.optionData := fun other hmem =>
        hzero other (List.mem_cons_of_mem _ hmem)
      have hfirst := hzero option List.mem_cons_self
      cases allocated with
      | nil => exact iff_of_true rfl (by simp [allocatedOptions])
      | cons first allocated =>
          cases first with
          | false => exact iff_of_true rfl (by simp [allocatedOptions])
          | true =>
              rw [headerOptionsRead_cons hfirst, checkOption_right_iff signed hfirst,
                allocatedOptions, List.forall_mem_cons]
              exact and_congr_right fun _ => ih allocated hrest

/-- A content format of three bytes. -/
theorem headerOptionsRead_iff_three :
    HeaderOptionsRead true [true] [⟨12, [39, 16, 1]⟩] ↔
      ∀ option ∈ allocatedOptions [true] [⟨12, [39, 16, 1]⟩], OptionReadable true option :=
  headerOptionsRead_iff true [true]
    (by decide : parseServerHeaderOptions [⟨12, [39, 16, 1, 0, 0]⟩] = some [⟨12, [39, 16, 1]⟩])

/-- A content format of two bytes: the second one is not reported. -/
theorem two_bytes_lose_the_second :
    ¬∀ (signed : Bool) (allocated : List Bool) (received : List ReceivedOption)
        (options : List OCHeaderOption), parseServerHeaderOptions received = some options →
      HeaderOptionsRead signed allocated options := by
  intro h
  have hread := h false [true] [⟨12, [39, 16, 0]⟩] [⟨12, [39, 16]⟩] (by decide)
  exact absurd hread (by unfold HeaderOptionsRead; decide)

end Clients
end FireEvacuation
