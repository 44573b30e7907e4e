import DeviceMemory.Proofs.ByteSize.Rounding
import Mathlib.Algebra.Order.Field.Basic
import Mathlib.Algebra.Order.Field.Rat
import Mathlib.Data.Nat.Log
import Mathlib.Tactic.Linarith
import Mathlib.Tactic.FieldSimp
import Mathlib.Tactic.Qify

/-!
# How exactly byte quantities are shown

A quantity is rounded twice: to 53 binary digits, and then to hundredths of its unit. Up to `2 ^ 53` the first
rounding changes nothing, so the number that is shown is the exact one, correctly rounded. Above it the first rounding
is off by 1024 bytes at most, and the second by half a hundredth of the unit (`accurate`).

What it is to be correctly rounded is said of rational numbers (`RoundsTo`), and `nearest` is the one function
that does it (`roundsTo_div_iff`).
-/

namespace DeviceMemory

namespace ByteSize

variable {a b n v digits : Nat}

/-! ### Half a unit -/

/-- A quotient is rounded to at least `n` if it is above `n - 1 / 2`, or if it is a tie there and `n` is even. -/
theorem le_nearest_iff (hb : 0 < b) :
    n ≤ nearest a b ↔ 2 * (n * b) < 2 * a + b ∨ (2 * (n * b) = 2 * a + b ∧ n % 2 = 0) := by
  cases n with
  | zero => simp [hb]
  | succ m =>
    have hm := nearest_le_iff (a := a) (n := m) hb
    have hexpand : (2 * m + 1) * b = 2 * (m * b) + b := by rw [Nat.add_mul, Nat.one_mul, Nat.mul_assoc]
    rw [hexpand] at hm
    rw [Nat.add_one_mul m b]
    omega

/-- Rounding a quotient is off by half a unit at most. -/
theorem nearest_mul_bounds (hb : 0 < b) :
    2 * a ≤ 2 * (nearest a b * b) + b ∧ 2 * (nearest a b * b) ≤ 2 * a + b := by
  have hle := (nearest_le_iff (a := a) hb).mp (Nat.le_refl _)
  have hge := (le_nearest_iff (a := a) hb).mp (Nat.le_refl _)
  rw [Nat.add_mul, Nat.one_mul, Nat.mul_assoc] at hle
  omega

/-- `n` is the whole number nearest to `q`; of two that are equally near it is the even one. -/
def RoundsTo (q : ℚ) (n : Nat) : Prop := |q - n| < 1 / 2 ∨ (|q - n| = 1 / 2 ∧ Even n)

/-- **The nearest whole number is the one that a quotient is rounded to.** -/
theorem roundsTo_div_iff (hb : 0 < b) : RoundsTo ((a : ℚ) / b) n ↔ n = nearest a b := by
  have hb' : (0 : ℚ) < b := by exact_mod_cast hb
  have hdist : |(a : ℚ) / b - n| = |2 * (a : ℚ) - 2 * (n * b)| / (2 * b) := by
    have hquot : (a : ℚ) / b - n = (2 * (a : ℚ) - 2 * (n * b)) / (2 * b) := by field_simp
    rw [hquot, abs_div, abs_of_pos (mul_pos two_pos hb')]
  have hhalf : (1 : ℚ) / 2 = b / (2 * b) := by field_simp
  have hlt : |(a : ℚ) / b - n| < 1 / 2 ↔ 2 * a < 2 * (n * b) + b ∧ 2 * (n * b) < 2 * a + b := by
    rw [hdist, hhalf, div_lt_div_iff_of_pos_right (by positivity), abs_sub_lt_iff, sub_lt_iff_lt_add',
      sub_lt_iff_lt_add']
    norm_cast
  have heq : |(a : ℚ) / b - n| = 1 / 2 ↔ 2 * a = 2 * (n * b) + b ∨ 2 * (n * b) = 2 * a + b := by
    rw [hdist, hhalf, div_left_inj' (by positivity), abs_eq hb'.le, sub_eq_iff_eq_add', ← neg_eq_iff_eq_neg,
      neg_sub, sub_eq_iff_eq_add']
    norm_cast
  have hle := nearest_le_iff (a := a) (n := n) hb
  have hge := le_nearest_iff (a := a) (n := n) hb
  rw [Nat.add_mul, Nat.one_mul, Nat.mul_assoc] at hle
  rw [RoundsTo, hlt, heq, Nat.even_iff]
  omega

/-! ### What the leading digits lose -/

/-- A power of two has no more than one digit that is not zero. -/
theorem leading_two_pow (hd : 0 < digits) : leading digits (2 ^ digits) = 2 ^ digits := by
  have hcut : cut digits (2 ^ digits) ≤ digits := by
    rw [cut, Nat.log2_two_pow]
    omega
  exact Nat.le_antisymm (leading_le_two_pow hcut le_rfl) (two_pow_le_leading hcut le_rfl)

theorem leading_of_le (hd : 0 < digits) (h : v ≤ 2 ^ digits) : leading digits v = v := by
  obtain rfl | hlt := Nat.eq_or_lt_of_le h
  · exact leading_two_pow hd
  · exact leading_of_lt hlt

/-- The leading digits are off by half of the last one that is kept, at most. -/
theorem leading_bounds (digits v : Nat) :
    2 * v ≤ 2 * leading digits v + 2 ^ cut digits v ∧ 2 * leading digits v ≤ 2 * v + 2 ^ cut digits v := by
  rw [leading_eq]
  exact nearest_mul_bounds (Nat.two_pow_pos _)

/-- Of a word of 64 binary digits, the first 53 leave out no more than eleven. -/
theorem two_pow_cut_le (h : v < 2 ^ 64) : 2 ^ cut 53 v ≤ 2048 := by
  have hcut : cut 53 v ≤ 11 := by
    by_cases hv : v = 0
    · simp [hv, cut]
    · have hlog := (Nat.log2_lt hv).mpr h
      rw [cut]
      omega
  exact Nat.pow_le_pow_right (by decide) hcut

/-! ### What is shown -/

theorem unitOf_eq (hv : 0 < v) : unitOf v = min 4 (Nat.log 1024 v) := by
  refine eq_of_forall_le_iff fun k => ?_
  rw [le_unitOf_iff hv, le_min_iff, Nat.le_log_iff_pow_le (by decide) hv.ne']

/-- The number of hundredths is off from the exact one by half of one for the second rounding, and by what 1024 bytes
make for the first. -/
theorem hundredths_bounds (h : v < 2 ^ 64) :
    200 * v ≤ 2 * ((reading v).hundredths * 1024 ^ unitOf v) + 1024 ^ unitOf v + 204800 ∧
      2 * ((reading v).hundredths * 1024 ^ unitOf v) ≤ 200 * v + 1024 ^ unitOf v + 204800 := by
  have hfirst := leading_bounds 53 v
  have hcut := two_pow_cut_le h
  have hsecond := nearest_mul_bounds (a := 100 * leading 53 v) (b := 1024 ^ unitOf v) (Nat.pow_pos (by decide))
  rw [hundredths_reading]
  omega

/-- How a quantity of a kibibyte or more is shown: with `hundredths` of the unit `unit`. -/
structure ShownIn (bytes unit hundredths : Nat) : Prop where
  /-- The unit is the largest that the bytes reach, or the fourth if they reach a larger one. -/
  unit_eq : unit = min 4 (Nat.log 1024 bytes)
  /-- The text is the number of hundredths, with two decimals, and the name of the unit. -/
  text_eq : ∃ name, ["B", "KiB", "MiB", "GiB", "TiB"][unit]? = some name ∧
    text bytes = toString (hundredths / 100) ++ "." ++ toString (hundredths / 10 % 10) ++
      toString (hundredths % 10) ++ " " ++ name
  /-- Up to `2 ^ 53` bytes, the number of hundredths is the exact one, correctly rounded. -/
  correct : bytes ≤ 2 ^ 53 → RoundsTo (100 * bytes / 1024 ^ unit) hundredths
  /-- Above, it is off by half a hundredth and by 1024 bytes. -/
  close : 2 ^ 53 < bytes → |(hundredths * 1024 ^ unit - 100 * bytes : ℚ)| ≤ 1024 ^ unit / 2 + 102400

/-- How a quantity is shown. -/
structure Accurate (bytes : Nat) : Prop where
  /-- Below a kibibyte it is the exact number of bytes. -/
  whole : bytes < 1024 → text bytes = toString bytes ++ " B"
  /-- From there on it is rounded. -/
  rounded : 1024 ≤ bytes → ∃ unit hundredths, ShownIn bytes unit hundredths

theorem shownIn_reading (hb : 1024 ≤ v) (h : v < 2 ^ 64) : ShownIn v (unitOf v) (reading v).hundredths where
  unit_eq := unitOf_eq (by omega)
  text_eq := by
    have hunit : (reading v).unit ≠ 0 := by
      rw [unit_reading, Ne, unitOf_eq_zero_iff]
      omega
    have hname : ∀ unit ≤ 4, unitNames[unit]? = some (unitNames.getD unit "") := by decide
    refine ⟨(reading v).unitName, ?_, ?_⟩
    · rw [Reading.unitName, unit_reading]
      exact hname _ (unitOf_le v)
    · have htens : (reading v).hundredths % 100 / 10 % 10 = (reading v).hundredths / 10 % 10 := by omega
      have hones : (reading v).hundredths % 100 % 10 = (reading v).hundredths % 10 := by omega
      rw [text, Reading.text, Reading.number, if_neg hunit, twoDigits, htens, hones]
      simp only [String.append_assoc]
  correct hle := by
    have hunit : 0 < 1024 ^ unitOf v := Nat.pow_pos (by decide)
    have hround := hundredths_reading v
    rw [leading_of_le (by decide) hle, ← roundsTo_div_iff hunit] at hround
    exact_mod_cast hround
  close _ := by
    obtain ⟨hlow, hhigh⟩ := hundredths_bounds h
    qify at hlow hhigh
    rw [abs_le]
    constructor <;> linarith

/-- **Byte quantities are correctly rounded when they are shown**, up to what 53 binary digits can tell. -/
theorem accurate (bytes : UInt64) : Accurate bytes.toNat where
  whole hb := by
    have hunit : unitOf bytes.toNat = 0 := unitOf_eq_zero_iff.mpr hb
    rw [text, reading, if_pos hb, Reading.text, Reading.number, if_pos rfl, Nat.mul_div_cancel_left _ (by decide),
      String.append_assoc]
    rfl
  rounded hb := ⟨_, _, shownIn_reading hb bytes.toNat_lt⟩

/-- The greatest word is shown as if it were one more. -/
example : reading 0xFFFFFFFFFFFFFFFF = ⟨1677721600, 4⟩ := by decide +kernel

end ByteSize

end DeviceMemory
