import DeviceMemory.ByteSize
import Mathlib.Algebra.Order.Ring.Nat

/-!
# Rounding of byte quantities

Where a rounded quotient stands is told by one comparison: `a / b` is rounded to at most `n` if it is below
`n + 1 / 2`, or there with an even `n` (`nearest_le_iff`). So rounding never changes the order of two
quotients, and it steps over no multiple of the unit (`nearest_mul_le`, `le_nearest_mul`).

The same follows for the leading digits of a number, and here it has to be seen that the digits that are cut off may
be more for the larger number. Between two numbers of different length stands a power of two, which both
keep to their side of (`leading_mono`).
-/

namespace DeviceMemory

namespace ByteSize

/-! ### Rounded quotients -/

variable {a a' b n m u v w : Nat}

/-- **A quotient is rounded to at most `n` if it is below `n + 1 / 2`**, or if it is a tie there and `n` is even. -/
theorem nearest_le_iff (hb : 0 < b) :
    nearest a b ≤ n ↔ 2 * a < (2 * n + 1) * b ∨ (2 * a = (2 * n + 1) * b ∧ n % 2 = 0) := by
  have ha : b * (a / b) + a % b = a := Nat.div_add_mod a b
  have hr : a % b < b := Nat.mod_lt a hb
  have hn : (2 * n + 1) * b = 2 * (b * n) + b := by
    rw [Nat.add_mul, Nat.one_mul, Nat.mul_assoc, Nat.mul_comm n b]
  unfold nearest
  generalize a / b = q at ha ⊢
  generalize a % b = r at ha hr ⊢
  rw [hn]
  obtain hlt | rfl | hlt := Nat.lt_trichotomy n q
  · have hstep : b * (n + 1) ≤ b * q := Nat.mul_le_mul_left b hlt
    rw [Nat.mul_add_one] at hstep
    split <;> omega
  · split <;> omega
  · have hstep : b * (q + 1) ≤ b * n := Nat.mul_le_mul_left b hlt
    rw [Nat.mul_add_one] at hstep
    split <;> omega

/-- Rounding keeps the order of quotients by the same number. -/
theorem nearest_mono (hb : 0 < b) (h : a ≤ a') : nearest a b ≤ nearest a' b := by
  have ha' := (nearest_le_iff hb).mp (Nat.le_refl (nearest a' b))
  rw [nearest_le_iff hb]
  omega

@[simp] theorem nearest_mul_self (hb : 0 < b) : nearest (n * b) b = n := by
  simp [nearest, Nat.mul_div_cancel n hb, hb]

@[simp] theorem nearest_zero (hb : 0 < b) : nearest 0 b = 0 := by
  simpa using nearest_mul_self (n := 0) hb

@[simp] theorem nearest_one : nearest a 1 = a := by
  simp [nearest, Nat.mod_one]

/-- A multiple of the unit that is not exceeded is not exceeded after rounding. -/
theorem nearest_mul_le (hu : 0 < u) (hd : u ∣ m) (h : v ≤ m) : nearest v u * u ≤ m := by
  obtain ⟨k, rfl⟩ := hd
  rw [Nat.mul_comm u k] at h ⊢
  have hk : nearest v u ≤ k := nearest_mul_self (n := k) hu ▸ nearest_mono hu h
  exact Nat.mul_le_mul_right u hk

/-- A multiple of the unit that is reached is reached after rounding. -/
theorem le_nearest_mul (hu : 0 < u) (hd : u ∣ m) (h : m ≤ v) : m ≤ nearest v u * u := by
  obtain ⟨k, rfl⟩ := hd
  rw [Nat.mul_comm u k] at h ⊢
  have hk : k ≤ nearest v u := nearest_mul_self (n := k) hu ▸ nearest_mono hu h
  exact Nat.mul_le_mul_right u hk

/-! ### Leading digits -/

variable {digits k : Nat}

theorem leading_eq (digits v : Nat) :
    leading digits v = nearest v (2 ^ cut digits v) * 2 ^ cut digits v := by
  rw [leading, Nat.one_shiftLeft, Nat.shiftLeft_eq]

/-- A power of two that is not exceeded is not exceeded by the leading digits, if no more digits are cut off. -/
theorem leading_le_two_pow (hk : cut digits v ≤ k) (h : v ≤ 2 ^ k) : leading digits v ≤ 2 ^ k := by
  rw [leading_eq]
  exact nearest_mul_le (Nat.two_pow_pos _) (Nat.pow_dvd_pow 2 hk) h

/-- A power of two that is reached is reached by the leading digits, if no more digits are cut off. -/
theorem two_pow_le_leading (hk : cut digits v ≤ k) (h : 2 ^ k ≤ v) : 2 ^ k ≤ leading digits v := by
  rw [leading_eq]
  exact le_nearest_mul (Nat.two_pow_pos _) (Nat.pow_dvd_pow 2 hk) h

@[simp] theorem leading_zero : leading digits 0 = 0 := by
  rw [leading_eq, nearest_zero (Nat.two_pow_pos _), Nat.zero_mul]

/-- **The leading digits keep the order of numbers.** -/
theorem leading_mono (hd : 0 < digits) (h : v ≤ w) : leading digits v ≤ leading digits w := by
  by_cases hv : v = 0
  · simp [hv]
  have hw : w ≠ 0 := by omega
  have hlog : v.log2 ≤ w.log2 := (Nat.le_log2 hw).mpr (Nat.le_trans (Nat.log2_self_le hv) h)
  obtain heq | hlt := Nat.eq_or_lt_of_le hlog
  · -- the same digits are cut off of both
    have hcut : cut digits v = cut digits w := by rw [cut, cut, heq]
    rw [leading_eq, leading_eq, hcut]
    exact Nat.mul_le_mul_right _ (nearest_mono (Nat.two_pow_pos _) h)
  · -- a power of two stands between them
    calc leading digits v
        ≤ 2 ^ (v.log2 + 1) := leading_le_two_pow (by rw [cut]; omega) (Nat.le_of_lt Nat.lt_log2_self)
      _ ≤ 2 ^ w.log2 := Nat.pow_le_pow_right (by decide) hlt
      _ ≤ leading digits w := two_pow_le_leading (by rw [cut]; omega) (Nat.log2_self_le hw)

/-- A number without more digits is its own leading digits. -/
theorem leading_of_lt (h : v < 2 ^ digits) : leading digits v = v := by
  by_cases hv : v = 0
  · simp [hv]
  · have hlog : v.log2 < digits := (Nat.log2_lt hv).mpr h
    have hcut : cut digits v = 0 := by rw [cut]; omega
    rw [leading_eq, hcut, Nat.pow_zero, nearest_one, Nat.mul_one]

/-- A power of two with fewer digits is reached by the leading digits just if it is reached by the number. -/
theorem two_pow_le_leading_iff (hk : k < digits) : 2 ^ k ≤ leading digits v ↔ 2 ^ k ≤ v := by
  have hpow : 2 ^ k < 2 ^ digits := Nat.pow_lt_pow_right (by decide) hk
  constructor
  · intro h
    by_contra hlt
    rw [leading_of_lt (by omega)] at h
    exact hlt h
  · intro h
    calc 2 ^ k = leading digits (2 ^ k) := (leading_of_lt hpow).symm
      _ ≤ leading digits v := leading_mono (by omega) h

/-! ### Units -/

theorem unitBytes_eq (unit : Nat) : unitBytes unit = 1024 ^ unit := by
  rw [unitBytes, Nat.one_shiftLeft, Nat.pow_mul]

/-- The units up to the one that is found are those up to `limit` that the quantity reaches, if it is not zero. -/
theorem le_unitWithin_iff {limit : Nat} (hv : 0 < v) : k ≤ unitWithin limit v ↔ k ≤ limit ∧ 1024 ^ k ≤ v := by
  induction limit generalizing v k with
  | zero =>
    simp only [unitWithin, Nat.le_zero]
    constructor
    · rintro rfl
      exact ⟨rfl, hv⟩
    · exact And.left
  | succ limit ih =>
    cases k with
    | zero => simp [Nat.one_le_iff_ne_zero, Nat.pos_iff_ne_zero.mp hv]
    | succ k =>
      by_cases hsmall : v < 1024
      · have hpow : 1024 ≤ 1024 ^ (k + 1) := Nat.le_self_pow (Nat.succ_ne_zero k) 1024
        simp only [unitWithin, if_pos hsmall]
        omega
      · have hdiv : 0 < v / 1024 := Nat.div_pos (by omega) (by decide)
        rw [unitWithin, if_neg hsmall, Nat.add_le_add_iff_right, Nat.add_le_add_iff_right, ih hdiv,
          Nat.le_div_iff_mul_le (by decide), ← Nat.pow_succ]

@[simp] theorem unitOf_zero : unitOf 0 = 0 := rfl

theorem le_unitOf_iff (hv : 0 < v) : k ≤ unitOf v ↔ k ≤ 4 ∧ 1024 ^ k ≤ v :=
  le_unitWithin_iff hv

theorem unitOf_le (v : Nat) : unitOf v ≤ 4 := by
  by_cases hv : v = 0
  · simp [hv]
  · exact ((le_unitOf_iff (Nat.pos_of_ne_zero hv)).mp (Nat.le_refl _)).1

/-- The unit is reached, -/
theorem pow_unitOf_le (hv : 0 < v) : 1024 ^ unitOf v ≤ v :=
  ((le_unitOf_iff hv).mp (Nat.le_refl _)).2

/-- and the next one is not. -/
theorem lt_pow_unitOf_succ (h : unitOf v < 4) : v < 1024 ^ (unitOf v + 1) := by
  by_cases hv : v = 0
  · subst hv
    exact Nat.pow_pos (by decide)
  · have hnext := (le_unitOf_iff (k := unitOf v + 1) (Nat.pos_of_ne_zero hv)).not.mp (Nat.not_succ_le_self _)
    omega

theorem pos_of_unitOf_pos (h : 0 < unitOf v) : 0 < v := by
  apply Nat.pos_of_ne_zero
  rintro rfl
  exact Nat.not_lt_zero _ h

theorem unitOf_mono (h : v ≤ w) : unitOf v ≤ unitOf w := by
  by_cases hv : v = 0
  · simp [hv]
  · rw [le_unitOf_iff (by omega)]
    exact ⟨unitOf_le v, Nat.le_trans (pow_unitOf_le (Nat.pos_of_ne_zero hv)) h⟩

/-- A unit is reached by the leading digits just if it is reached by the quantity. -/
theorem pow_le_leading_iff (hk : k ≤ 4) : 1024 ^ k ≤ leading 53 v ↔ 1024 ^ k ≤ v := by
  have hpow : 1024 ^ k = 2 ^ (10 * k) := (Nat.pow_mul 2 10 k).symm
  rw [hpow, two_pow_le_leading_iff (by omega)]

/-- **A quantity has the same unit as its leading digits.** -/
theorem unitOf_leading (v : Nat) : unitOf (leading 53 v) = unitOf v := by
  by_cases hv : v = 0
  · simp [hv]
  have hpos : 0 < v := Nat.pos_of_ne_zero hv
  have hlead : 0 < leading 53 v := (pow_le_leading_iff (k := 0) (by decide)).mpr hpos
  refine eq_of_forall_le_iff fun k => ?_
  rw [le_unitOf_iff hlead, le_unitOf_iff hpos]
  exact and_congr_right pow_le_leading_iff

/-- Below the last unit, no digits are cut off. -/
theorem leading_of_unitOf_lt (h : unitOf v < 4) : leading 53 v = v := by
  apply leading_of_lt
  calc v < 1024 ^ (unitOf v + 1) := lt_pow_unitOf_succ h
    _ ≤ 1024 ^ 4 := Nat.pow_le_pow_right (by decide) h
    _ ≤ 2 ^ 53 := by decide

/-! ### Readings -/

theorem unitOf_eq_zero_iff : unitOf v = 0 ↔ v < 1024 := by
  by_cases hv : v = 0
  · simp [hv]
  · have hone := le_unitOf_iff (k := 1) (Nat.pos_of_ne_zero hv)
    omega

/-- **One rule tells how all quantities are shown.** Below the second unit nothing is rounded by it. -/
theorem reading_eq (bytes : Nat) :
    reading bytes = ⟨nearest (100 * leading 53 bytes) (1024 ^ unitOf bytes), unitOf bytes⟩ := by
  by_cases hsmall : bytes < 1024
  · have hunit : unitOf bytes = 0 := unitOf_eq_zero_iff.mpr hsmall
    have hlead : leading 53 bytes = bytes := leading_of_unitOf_lt (by omega)
    rw [reading, if_pos hsmall, hunit, hlead, Nat.pow_zero, nearest_one]
  · simp only [reading, if_neg hsmall, unitOf_leading, unitBytes_eq]

@[simp] theorem unit_reading (bytes : Nat) : (reading bytes).unit = unitOf bytes := by
  rw [reading_eq]

theorem hundredths_reading (bytes : Nat) :
    (reading bytes).hundredths = nearest (100 * leading 53 bytes) (1024 ^ unitOf bytes) := by
  rw [reading_eq]

/-- Bytes are shown whole. -/
theorem dvd_hundredths_reading {bytes : Nat} (h : (reading bytes).unit = 0) : 100 ∣ (reading bytes).hundredths := by
  rw [unit_reading] at h
  rw [hundredths_reading, h, Nat.pow_zero, nearest_one]
  exact Nat.dvd_mul_right _ _

end ByteSize

end DeviceMemory
