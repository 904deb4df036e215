import Mathlib.Data.Int.Log
import Mathlib.Data.Rat.Floor
import Mathlib.Tactic.FieldSimp
import Mathlib.Tactic.Linarith
import Mathlib.Tactic.Positivity
import Mathlib.Tactic.Ring

/-! Rounding of rational numbers to so many significant digits of a base, to the nearest one and at a
tie to the even one. A number of few digits comes back from a rounding to enough digits of another base. -/

set_option autoImplicit false

namespace Digits

def roundEven (value : ℚ) : ℤ :=
  if Int.fract value < 1 / 2 then ⌊value⌋
  else if 1 / 2 < Int.fract value then ⌊value⌋ + 1
  else ⌊value⌋ + ⌊value⌋ % 2

/-- The exponent of the last of the significant digits. -/
def lastPlace (base digits : ℕ) (value : ℚ) : ℤ := Int.log base |value| + 1 - digits

def significant (base digits : ℕ) (value : ℚ) : ℚ :=
  roundEven (value / (base : ℚ) ^ lastPlace base digits value) * (base : ℚ) ^ lastPlace base digits value

theorem roundEven_error (value : ℚ) : |(roundEven value : ℚ) - value| ≤ 1 / 2 := by
  have low := Int.fract_nonneg value
  have high := Int.fract_lt_one value
  have whole := Int.floor_add_fract value
  unfold roundEven
  split_ifs with below above
  · rw [abs_le]
    constructor <;> linarith
  · push_cast
    rw [abs_le]
    constructor <;> linarith
  · have tie : Int.fract value = 1 / 2 := by linarith
    rcases Int.emod_two_eq_zero_or_one ⌊value⌋ with even | odd
    · rw [even, abs_le]
      push_cast
      constructor <;> linarith
    · rw [odd, abs_le]
      push_cast
      constructor <;> linarith

theorem roundEven_of_near {value : ℚ} {whole : ℤ} (near : |value - whole| < 1 / 2) : roundEven value = whole := by
  have error := roundEven_error value
  have close : |((roundEven value - whole : ℤ) : ℚ)| < 1 := by
    have split := abs_add_le ((roundEven value : ℚ) - value) (value - whole)
    rw [sub_add_sub_cancel] at split
    push_cast
    linarith
  have zero : roundEven value - whole = 0 := Int.abs_lt_one_iff.mp (by exact_mod_cast close)
  omega

section Rounding

variable {base digits : ℕ} {value : ℚ}

theorem place_pos (wide : 1 < base) (place : ℤ) : (0 : ℚ) < (base : ℚ) ^ place :=
  zpow_pos (by exact_mod_cast Nat.zero_lt_of_lt wide) place

theorem significant_error (wide : 1 < base) :
    |significant base digits value - value| ≤ (base : ℚ) ^ lastPlace base digits value / 2 := by
  have positive := place_pos wide (lastPlace base digits value)
  unfold significant
  generalize (base : ℚ) ^ lastPlace base digits value = unit at positive ⊢
  have scaled : value / unit * unit = value := div_mul_cancel₀ value positive.ne'
  calc |(roundEven (value / unit) : ℚ) * unit - value|
      = |((roundEven (value / unit) : ℚ) - value / unit) * unit| := by rw [sub_mul, scaled]
    _ = |(roundEven (value / unit) : ℚ) - value / unit| * unit := by rw [abs_mul, abs_of_pos positive]
    _ ≤ 1 / 2 * unit := mul_le_mul_of_nonneg_right (roundEven_error _) positive.le
    _ = unit / 2 := by ring

/-- A number near one whose last digit is not behind the last place of the rounding. -/
theorem significant_of_near (wide : 1 < base) {whole place : ℤ} (behind : lastPlace base digits value ≤ place)
    (near : |value - whole * (base : ℚ) ^ place| < (base : ℚ) ^ lastPlace base digits value / 2) :
    significant base digits value = whole * (base : ℚ) ^ place := by
  have positive := place_pos wide (lastPlace base digits value)
  obtain ⟨gap, reach⟩ := Int.le.dest behind
  have multiple : whole * (base : ℚ) ^ place =
      ((whole * (base : ℤ) ^ gap : ℤ) : ℚ) * (base : ℚ) ^ lastPlace base digits value := by
    rw [← reach, zpow_add₀ (by positivity), zpow_natCast]
    push_cast
    ring
  rw [multiple] at near ⊢
  unfold significant
  generalize (base : ℚ) ^ lastPlace base digits value = unit at near positive ⊢
  generalize whole * (base : ℤ) ^ gap = count at near ⊢
  have closer : |value / unit - count| < 1 / 2 := by
    have scaled : value / unit - count = (value - count * unit) / unit := by field_simp
    rw [scaled, abs_div, abs_of_pos positive, div_lt_iff₀ positive]
    linarith
  rw [roundEven_of_near closer]

theorem abs_bounds (wide : 1 < base) (nonzero : value ≠ 0) :
    (base : ℚ) ^ Int.log base |value| ≤ |value| ∧ |value| < (base : ℚ) ^ (Int.log base |value| + 1) :=
  ⟨Int.zpow_log_le_self wide (abs_pos.mpr nonzero), Int.lt_zpow_succ_log_self wide _⟩

theorem log_between (wide : 1 < base) {low high : ℤ} (least : (base : ℚ) ^ low ≤ |value|)
    (most : |value| < (base : ℚ) ^ (high + 1)) : low ≤ Int.log base |value| ∧ Int.log base |value| ≤ high := by
  have positive : 0 < |value| := lt_of_lt_of_le (place_pos wide low) least
  refine ⟨(Int.zpow_le_iff_le_log wide positive).mp least, ?_⟩
  have below := (Int.lt_zpow_iff_log_lt wide positive).mp most
  omega

/-- A rounding to fine digits errs by less than half a unit behind the last of the coarse ones. -/
theorem significant_close {fine fineDigits : ℕ} (wide : 1 < base) (fineWide : 1 < fine) (nonzero : value ≠ 0)
    (finer : base ^ (digits + 1) ≤ fine ^ fineDigits) :
    |significant fine (fineDigits + 1) value - value| < (base : ℚ) ^ (lastPlace base digits value - 1) / 2 := by
  obtain ⟨fineLow, _⟩ := abs_bounds fineWide nonzero
  obtain ⟨_, high⟩ := abs_bounds wide nonzero
  have fineUnit := place_pos fineWide (fineDigits : ℤ)
  have unit := place_pos wide ((digits : ℤ) + 1)
  have finer : (base : ℚ) ^ ((digits : ℤ) + 1) ≤ (fine : ℚ) ^ (fineDigits : ℤ) := by exact_mod_cast finer
  have place : lastPlace fine (fineDigits + 1) value = Int.log fine |value| - fineDigits := by
    unfold lastPlace
    push_cast
    ring
  have behind : lastPlace base digits value - 1 = Int.log base |value| + 1 - ((digits : ℤ) + 1) := by
    unfold lastPlace
    ring
  have small : (fine : ℚ) ^ lastPlace fine (fineDigits + 1) value <
      (base : ℚ) ^ (lastPlace base digits value - 1) := by
    rw [place, behind, zpow_sub₀ (by positivity), zpow_sub₀ (by positivity)]
    calc (fine : ℚ) ^ Int.log fine |value| / (fine : ℚ) ^ (fineDigits : ℤ)
        ≤ |value| / (fine : ℚ) ^ (fineDigits : ℤ) := div_le_div_of_nonneg_right fineLow fineUnit.le
      _ ≤ |value| / (base : ℚ) ^ ((digits : ℤ) + 1) := div_le_div_of_nonneg_left (abs_nonneg _) unit finer
      _ < (base : ℚ) ^ (Int.log base |value| + 1) / (base : ℚ) ^ ((digits : ℤ) + 1) :=
        div_lt_div_of_pos_right high unit
  have error : |significant fine (fineDigits + 1) value - value| ≤
      (fine : ℚ) ^ lastPlace fine (fineDigits + 1) value / 2 := significant_error fineWide
  linarith

/-- A number with no more digits than these stays a whole of its last place below the next power. -/
theorem abs_le_of_exact (wide : 1 < base) (nonzero : value ≠ 0) (exact : significant base digits value = value) :
    |value| + (base : ℚ) ^ lastPlace base digits value ≤ (base : ℚ) ^ (Int.log base |value| + 1) := by
  obtain ⟨_, high⟩ := abs_bounds wide nonzero
  have unit := place_pos wide (lastPlace base digits value)
  have power : (base : ℚ) ^ (Int.log base |value| + 1) =
      ((base ^ digits : ℕ) : ℚ) * (base : ℚ) ^ lastPlace base digits value := by
    rw [Nat.cast_pow, ← zpow_natCast, ← zpow_add₀ (by positivity)]
    congr 1
    unfold lastPlace
    ring
  unfold significant at exact
  generalize roundEven (value / (base : ℚ) ^ lastPlace base digits value) = whole at exact
  have size : |value| = (|whole| : ℤ) * (base : ℚ) ^ lastPlace base digits value := by
    have scaled := abs_mul (whole : ℚ) ((base : ℚ) ^ lastPlace base digits value)
    rw [exact, abs_of_pos unit] at scaled
    rw [scaled, Int.cast_abs]
  have fewer : |whole| < (base ^ digits : ℕ) := by
    rw [power, size] at high
    exact_mod_cast lt_of_mul_lt_mul_right high unit.le
  have room : ((|whole| : ℤ) : ℚ) + 1 ≤ ((base ^ digits : ℕ) : ℚ) := by exact_mod_cast fewer
  rw [power, size]
  nlinarith

/-- A number close to one of few digits has its first digit where that one has it, or a place further right. -/
theorem lastPlace_of_close {other : ℚ} (wide : 1 < base) (any : 0 < digits) (nonzero : value ≠ 0)
    (exact : significant base digits value = value)
    (close : |other - value| < (base : ℚ) ^ (lastPlace base digits value - 1) / 2) :
    lastPlace base digits value - 1 ≤ lastPlace base digits other ∧
      lastPlace base digits other ≤ lastPlace base digits value := by
  obtain ⟨low, _⟩ := abs_bounds wide nonzero
  have room := abs_le_of_exact wide nonzero exact
  have two : (2 : ℚ) ≤ base := by exact_mod_cast wide
  have behind := place_pos wide (lastPlace base digits value - 1)
  have unit : (base : ℚ) ^ lastPlace base digits value = base * (base : ℚ) ^ (lastPlace base digits value - 1) := by
    rw [← zpow_one_add₀ (by positivity)]
    congr 1
    ring
  have first : (base : ℚ) ^ Int.log base |value| = base * (base : ℚ) ^ (Int.log base |value| - 1) := by
    rw [← zpow_one_add₀ (by positivity)]
    congr 1
    ring
  have order : (base : ℚ) ^ (lastPlace base digits value - 1) ≤ (base : ℚ) ^ (Int.log base |value| - 1) := by
    refine zpow_le_zpow_right₀ (by linarith) ?_
    unfold lastPlace
    omega
  have above := abs_sub_abs_le_abs_sub other value
  have below := abs_sub_abs_le_abs_sub value other
  rw [abs_sub_comm value other] at below
  have least : (base : ℚ) ^ (Int.log base |value| - 1) ≤ |other| := by nlinarith
  have most : |other| < (base : ℚ) ^ (Int.log base |value| + 1) := by nlinarith
  obtain ⟨least, most⟩ := log_between wide least most
  unfold lastPlace
  constructor <;> omega

/-- A number that has no more digits than it is rounded to comes back from a rounding to finer ones. -/
theorem significant_of_finer {fine fineDigits : ℕ} (wide : 1 < base) (any : 0 < digits) (fineWide : 1 < fine)
    (finer : base ^ (digits + 1) ≤ fine ^ fineDigits) (exact : significant base digits value = value) :
    significant base digits (significant fine (fineDigits + 1) value) = value := by
  by_cases zero : value = 0
  · subst zero
    simp [significant, roundEven]
  have close := significant_close wide fineWide zero finer
  generalize significant fine (fineDigits + 1) value = other at close ⊢
  obtain ⟨least, most⟩ := lastPlace_of_close wide any zero exact close
  have whole := exact.symm
  unfold significant at whole
  rw [whole]
  refine significant_of_near wide most ?_
  rw [← whole]
  have grows : (base : ℚ) ^ (lastPlace base digits value - 1) ≤ (base : ℚ) ^ lastPlace base digits other :=
    zpow_le_zpow_right₀ (by exact_mod_cast wide.le) least
  linarith

theorem significant_intCast (wide : 1 < base) {whole : ℤ} (few : |whole| < (base ^ digits : ℕ)) :
    significant base digits (whole : ℚ) = whole := by
  by_cases zero : whole = 0
  · subst zero
    simp [significant, roundEven]
  have nonzero : (whole : ℚ) ≠ 0 := by exact_mod_cast zero
  have below : |(whole : ℚ)| < (base : ℚ) ^ (digits : ℤ) := by
    rw [zpow_natCast]
    exact_mod_cast few
  have place : lastPlace base digits (whole : ℚ) ≤ 0 := by
    have log := (Int.lt_zpow_iff_log_lt wide (abs_pos.mpr nonzero)).mp below
    unfold lastPlace
    omega
  have same : significant base digits (whole : ℚ) = whole * (base : ℚ) ^ (0 : ℤ) := by
    apply significant_of_near wide place
    rw [zpow_zero, mul_one, sub_self, abs_zero]
    exact half_pos (place_pos wide _)
  rwa [zpow_zero, mul_one] at same

end Rounding

end Digits
