import Mathlib.Tactic.Common

/-!
# The Bluetooth speaker

The speaker plays a song and measures the temperature.  When it is too warm, or when the
key `alert` in Redis is `1`, it changes the song to the emergency announcement, sets the
key itself, and reports an alert in every device it posts from then on.

Temperatures are in thousandths of a degree, as the probe gives them.
-/

namespace FireEvacuation
namespace Speaker

/-- `TEMPER_WARNING`. -/
def temperWarning : Int := 27000

/-- The initial value of `current_song`. -/
def normalSong : String := "normal.mp3"

def emergencySong : String := "emergency.mp3"

/-- The test in `getAlertStatus`. -/
def switchesSong (currentSong : String) (temperature : Int) (alertValue : String) : Bool :=
  currentSong ≠ emergencySong ∧ (temperWarning < temperature ∨ alertValue = "1")

/-- What `getPostValue` puts into the device it builds; the other fields are fixed. -/
structure SpeakerPost where
  sensorValue : Int
  alertState : Bool
  deriving DecidableEq, Repr

/-! ## The address in the host of a resource -/

/-- `\d{1,3}`: a match of as many digits as possible, and what follows it. -/
def matchDigits (chars : List Char) : Option (List Char × List Char) :=
  let digits := (chars.take 3).takeWhile Char.isDigit
  if digits.isEmpty then none else some (digits, chars.drop digits.length)

/-- `(\.\d{1,3}){count}`.  No match with fewer digits goes on where one with more does
not, since what follows it is a digit. -/
def matchDotted : Nat → List Char → Option (List Char)
  | 0, _ => some []
  | count + 1, '.' :: chars =>
      match matchDigits chars with
      | none => none
      | some (digits, rest) => (matchDotted count rest).map fun tail => '.' :: digits ++ tail
  | _ + 1, _ => none

/-- `\d{1,3}(\.\d{1,3}){3}` at the start of a text. -/
def matchAddress (chars : List Char) : Option (List Char) :=
  match matchDigits chars with
  | none => none
  | some (digits, rest) => (matchDotted 3 rest).map fun tail => digits ++ tail

/-- The first position with a match. -/
def searchAddress : List Char → Option (List Char)
  | [] => none
  | c :: chars =>
      match matchAddress (c :: chars) with
      | some address => some address
      | none => searchAddress chars

/-- `regex_search(hostname, result, reg)` and `result.str(0)`. -/
def hostAddress (host : String) : Option String :=
  (searchAddress host.toList).map String.ofList

/-! ## The test for the emergency song -/

/-- The emergency song is never changed back. -/
theorem switchesSong_emergency (temperature : Int) (alertValue : String) :
    switchesSong emergencySong temperature alertValue = false := by
  simp [switchesSong]

/-- Warmth alone is enough. -/
theorem switchesSong_of_warm {currentSong : String} {temperature : Int}
    (hsong : currentSong ≠ emergencySong) (hwarm : temperWarning < temperature)
    (alertValue : String) : switchesSong currentSong temperature alertValue = true := by
  simp [switchesSong, hsong, hwarm]

end Speaker
end FireEvacuation
