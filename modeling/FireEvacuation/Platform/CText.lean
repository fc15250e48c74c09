import Mathlib.Data.Rat.Defs
import Mathlib.Algebra.Order.Field.Rat
import Mathlib.Tactic.Common
import FireEvacuation.Core.BinaryFormat

/-!
# Texts and numbers of the C library

`c_str`, and the functions which make a number of the beginning of a text.  `atof` rounds
the exact number which stands there to a double.
-/

namespace FireEvacuation
namespace Platform

open FireEvacuation.Core

/-- `c_str()`: the text ends at the first NUL. -/
def cText (text : List Char) : List Char := text.takeWhile (· ≠ '\x00')

/-- `isspace`. -/
def isSpace (c : Char) : Bool :=
  c = ' ' || c = '\t' || c = '\n' || c = '\x0b' || c = '\x0c' || c = '\r'

/-- The value of decimal digits. -/
def digitsValue (digits : List Char) : Int :=
  digits.foldl (fun value c => 10 * value + ((c.toNat : Int) - 48)) 0

/-- `std::stoi`: white space, a sign, and digits as far as they go.  It throws when there
are none and when the number is no `int`. -/
def stoi (text : List Char) : Option Int :=
  let text := text.dropWhile isSpace
  let (negative, text) :=
    match text with
    | '-' :: rest => (true, rest)
    | '+' :: rest => (false, rest)
    | rest => (false, rest)
  let digits := text.takeWhile Char.isDigit
  let value := if negative then -digitsValue digits else digitsValue digits
  if digits = [] ∨ value < -2147483648 ∨ 2147483647 < value then none else some value

/-! ## `atof` -/

/-- An optional sign: whether it is a minus, and the rest. -/
def takeSign : List Char → Bool × List Char
  | '-' :: rest => (true, rest)
  | '+' :: rest => (false, rest)
  | rest => (false, rest)

/-- The value of a digit in a base up to 16. -/
def digitValue (c : Char) : Int :=
  if c.isDigit then c.toNat - 48
  else if c.isLower then c.toNat - 87
  else c.toNat - 55

def isHexDigit (c : Char) : Bool := c.isDigit || c ∈ "abcdefABCDEF".toList

/-- An exponent behind one of these letters; without digits it is none. -/
def exponentOf (letters : List Char) (text : List Char) : Int :=
  match text with
  | [] => 0
  | letter :: rest =>
      if letter ∈ letters then
        let (negative, rest) := takeSign rest
        let digits := rest.takeWhile Char.isDigit
        if negative then -digitsValue digits else digitsValue digits
      else 0

/-- Digits with a point somewhere, in a base, times a power of another. -/
def pointValue (base power : ℚ) (isDigit : Char → Bool) (letters : List Char)
    (text : List Char) : ℚ :=
  let whole := text.takeWhile isDigit
  let rest := text.dropWhile isDigit
  let (fraction, rest) :=
    match rest with
    | '.' :: rest => (rest.takeWhile isDigit, rest.dropWhile isDigit)
    | rest => ([], rest)
  if whole = [] ∧ fraction = [] then 0
  else
    (whole ++ fraction).foldl (fun value c => base * value + digitValue c) 0 /
      base ^ fraction.length * power ^ exponentOf letters rest

/-- `0x` with a hexadecimal digit behind it, or behind a point. -/
def isHexNumber : List Char → Bool
  | '0' :: x :: '.' :: c :: _ => (x = 'x' || x = 'X') && isHexDigit c
  | '0' :: x :: c :: _ => (x = 'x' || x = 'X') && isHexDigit c
  | _ => false

/-- What stands at the beginning of a text, before it is rounded: a word for an infinity or
for no number, or digits. -/
def numberAt (text : List Char) : FloatNumber :=
  let (negative, text) := takeSign (text.dropWhile isSpace)
  let begins (word : String) : Bool := word.toList.isPrefixOf (text.map Char.toLower)
  if begins "inf" then .infinite negative
  else if begins "nan" then .notANumber
  else
    let value :=
      if isHexNumber text then pointValue 16 2 isHexDigit ['p', 'P'] (text.drop 2)
      else pointValue 10 10 Char.isDigit ['e', 'E'] text
    .finite (if negative then -value else value)

/-- `atof`: the nearest double. -/
def atof (text : List Char) : FloatNumber := binary64.convert (numberAt text)

end Platform
end FireEvacuation
