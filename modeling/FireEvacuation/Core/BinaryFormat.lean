import Mathlib.Algebra.Order.Field.Power
import Mathlib.Data.Int.Log
import Mathlib.Data.Rat.Floor
import Mathlib.Tactic.Linarith
import Mathlib.Tactic.NormNum
import Mathlib.Tactic.Positivity
import Mathlib.Tactic.Ring

/-!
# Numbers of a binary format

A floating point number stands for an exact rational number, for an infinity, or for no
number at all; the sign of a zero is left out.  A format rounds an exact number to the
nearest of its own numbers, and in the middle to the one with the even significand.

What the proofs need of the rounding is that it stays within a power of two which it starts
within, and that it is off by at most half a unit of the last place.
-/

namespace FireEvacuation
namespace Core

/-- What a floating point number stands for. -/
inductive FloatNumber where
  | notANumber
  | infinite (negative : Bool)
  | finite (value : ℚ)
  deriving DecidableEq

/-- The bits of a significand, the exponent of the least number above zero, and the exponent
of the power of two which all finite numbers stay below. -/
structure BinaryFormat where
  bits : Nat
  least : Int
  bound : Int
  bits_pos : 0 < bits

/-- The nearest integer, and the even one in the middle. -/
def halfEven (q : ℚ) : ℤ :=
  let below := ⌊q⌋
  if q - below < 1 / 2 ∨ (q - below = 1 / 2 ∧ below % 2 = 0) then below else below + 1

namespace BinaryFormat

variable (fmt : BinaryFormat)

/-- The exponent of the last place of a number of this size. -/
def lastPlace (q : ℚ) : ℤ := max fmt.least (Int.log 2 |q| + 1 - fmt.bits)

/-- The number of the format for an exact number. -/
def round (q : ℚ) : FloatNumber :=
  let rounded : ℚ := halfEven (q / 2 ^ fmt.lastPlace q) * 2 ^ fmt.lastPlace q
  if |rounded| < 2 ^ fmt.bound then .finite rounded else .infinite (decide (q < 0))

/-- A number of any format in this one. -/
def convert : FloatNumber → FloatNumber
  | .finite q => fmt.round q
  | number => number

/-- Division by an exact number above zero. -/
def divide (number : FloatNumber) (divisor : ℚ) : FloatNumber :=
  match number with
  | .finite q => fmt.round (q / divisor)
  | number => number

end BinaryFormat

/-- IEEE 754 with 64 bits. -/
def binary64 : BinaryFormat := ⟨53, -1074, 1024, by decide⟩

/-- IEEE 754 with 32 bits. -/
def binary32 : BinaryFormat := ⟨24, -149, 128, by decide⟩

example : binary32.round (1 / 10) = .finite (13421773 / 134217728) := by decide +kernel

/-! ## The nearest integer -/

theorem halfEven_error (q : ℚ) : |halfEven q - q| ≤ 1 / 2 := by
  have hfloor := Int.floor_le q
  have hnext := Int.lt_floor_add_one q
  unfold halfEven
  dsimp only
  split_ifs with h
  · have hhalf : q - ⌊q⌋ ≤ 1 / 2 := h.elim le_of_lt fun h => h.1.le
    rw [abs_le]
    constructor <;> linarith
  · have hhalf : 1 / 2 ≤ q - ⌊q⌋ := not_lt.mp fun hlt => h (Or.inl hlt)
    push_cast
    rw [abs_le]
    constructor <;> linarith

/-- Rounding does not go past an integer. -/
theorem abs_halfEven_le {q : ℚ} {n : ℤ} (h : |q| ≤ n) : |(halfEven q : ℚ)| ≤ n := by
  obtain ⟨hlow, hhigh⟩ := abs_le.mp h
  have hfloor := Int.floor_le q
  have hlower : -n ≤ ⌊q⌋ := Int.le_floor.mpr (by push_cast; exact hlow)
  have hupper : ⌊q⌋ ≤ n := Int.floor_le_iff.mpr (by linarith)
  have hcases : -n ≤ halfEven q ∧ halfEven q ≤ n := by
    unfold halfEven
    dsimp only
    split_ifs with hnear
    · exact ⟨hlower, hupper⟩
    · refine ⟨hlower.trans (by omega), ?_⟩
      -- at the integer itself nothing is rounded up
      have hne : ⌊q⌋ ≠ n := fun heq => hnear <| Or.inl <| by
        have hq : q ≤ ⌊q⌋ := by rw [heq]; exact hhigh
        linarith
      omega
  rw [abs_le]
  exact ⟨by exact_mod_cast hcases.1, by exact_mod_cast hcases.2⟩

/-! ## The numbers of a format -/

namespace BinaryFormat

variable {fmt : BinaryFormat} {q v : ℚ} {k : ℤ}

theorem lastPlace_le (hzero : q ≠ 0) (h : |q| < 2 ^ k) :
    fmt.lastPlace q ≤ max fmt.least (k - fmt.bits) := by
  have hlog : Int.log 2 |q| < k :=
    (Int.lt_zpow_iff_log_lt (by decide) (abs_pos.mpr hzero)).mp (by exact_mod_cast h)
  unfold lastPlace
  omega

@[simp] theorem round_zero : fmt.round 0 = .finite 0 := by
  have hzero : halfEven 0 = 0 := by simp [halfEven]
  have hbound : (0 : ℚ) < 2 ^ fmt.bound := by positivity
  simp [round, hzero, hbound]

/-- What starts at most at a power of two does not get past it. -/
theorem round_of_abs_le (fmt : BinaryFormat) {q : ℚ} {k : ℤ} (h : |q| ≤ 2 ^ k)
    (hleast : fmt.least ≤ k) (hbound : k < fmt.bound) :
    ∃ v, fmt.round q = .finite v ∧ |v| ≤ 2 ^ k := by
  rcases eq_or_ne q 0 with rfl | hzero
  · exact ⟨0, round_zero, by rw [abs_zero]; positivity⟩
  have hplace : fmt.lastPlace q ≤ k := by
    have hbelow : |q| < 2 ^ (k + 1) := h.trans_lt (zpow_lt_zpow_right₀ one_lt_two (by omega))
    have hbits := fmt.bits_pos
    exact (lastPlace_le hzero hbelow).trans (max_le hleast (by omega))
  have hunit : (0 : ℚ) < 2 ^ fmt.lastPlace q := by positivity
  -- the power of two is a whole number of units of the last place
  have hsplit : (2 : ℚ) ^ k =
      ((2 ^ (k - fmt.lastPlace q).toNat : ℤ) : ℚ) * 2 ^ fmt.lastPlace q := by
    have hexponent : ((k - fmt.lastPlace q).toNat : ℤ) = k - fmt.lastPlace q :=
      Int.toNat_of_nonneg (by omega)
    push_cast
    rw [← zpow_natCast, hexponent, ← zpow_add₀ two_ne_zero, sub_add_cancel]
  have hscaled : |q / 2 ^ fmt.lastPlace q| ≤ (2 ^ (k - fmt.lastPlace q).toNat : ℤ) := by
    rw [abs_div, abs_of_pos hunit, div_le_iff₀ hunit, ← hsplit]
    exact h
  have hrounded : |(halfEven (q / 2 ^ fmt.lastPlace q) : ℚ) * 2 ^ fmt.lastPlace q| ≤ 2 ^ k := by
    rw [abs_mul, abs_of_pos hunit, hsplit]
    exact mul_le_mul_of_nonneg_right (abs_halfEven_le hscaled) hunit.le
  have hfits : (2 : ℚ) ^ k < 2 ^ fmt.bound := zpow_lt_zpow_right₀ one_lt_two hbound
  refine ⟨_, ?_, hrounded⟩
  unfold round
  exact if_pos (hrounded.trans_lt hfits)

/-- A rounded number is off by half a unit of the last place. -/
theorem round_error (hround : fmt.round q = .finite v) (h : |q| < 2 ^ k)
    (hleast : fmt.least ≤ k - fmt.bits) : |v - q| ≤ 2 ^ (k - fmt.bits) / 2 := by
  rcases eq_or_ne q 0 with rfl | hzero
  · rw [round_zero] at hround
    cases hround
    rw [sub_zero, abs_zero]
    positivity
  have hunit : (0 : ℚ) < 2 ^ fmt.lastPlace q := by positivity
  have hplace : (2 : ℚ) ^ fmt.lastPlace q ≤ 2 ^ (k - fmt.bits) :=
    zpow_le_zpow_right₀ one_le_two ((lastPlace_le hzero h).trans (max_le hleast le_rfl))
  have hvalue : v = halfEven (q / 2 ^ fmt.lastPlace q) * 2 ^ fmt.lastPlace q := by
    unfold round at hround
    dsimp only at hround
    split_ifs at hround
    cases hround
    rfl
  have hdifference : v - q =
      (halfEven (q / 2 ^ fmt.lastPlace q) - q / 2 ^ fmt.lastPlace q) * 2 ^ fmt.lastPlace q := by
    rw [hvalue, sub_mul, div_mul_cancel₀ q hunit.ne']
  calc |v - q|
      = |(halfEven (q / 2 ^ fmt.lastPlace q) : ℚ) - q / 2 ^ fmt.lastPlace q| *
          2 ^ fmt.lastPlace q := by rw [hdifference, abs_mul, abs_of_pos hunit]
    _ ≤ 1 / 2 * 2 ^ fmt.lastPlace q :=
        mul_le_mul_of_nonneg_right (halfEven_error _) hunit.le
    _ ≤ 2 ^ (k - fmt.bits) / 2 := by linarith

end BinaryFormat

end Core
end FireEvacuation
