import DeviceMemory.Proofs.ByteSize.Quantity
import Mathlib.Algebra.Order.Ring.Rat
import Mathlib.Tactic.Linarith
import Mathlib.Tactic.Positivity
import Mathlib.Tactic.GCongr

/-!
# What people read of byte quantities

What is shown of more bytes is never less (`text_mono`): in one unit because rounding keeps the order, and across
units because both sides keep to their side of the larger unit.

The number in front of a unit is at least one and at most 1024 where there is a larger unit. But it can be
1024: the unit is chosen before the number is rounded, so the last half hundredth of a unit below the next
one is shown as 1024 of the smaller unit and not as one of the larger (`keeps_unit`, `almost_mebibyte`).
-/

namespace DeviceMemory

namespace ByteSize

variable {a b : Nat}

/-! ### Hundredths of bytes -/

/-- How many hundredths of a byte are shown of a quantity. -/
def shown (bytes : Nat) : Nat := (reading bytes).hundredths * 1024 ^ unitOf bytes

theorem shown_eq (bytes : Nat) :
    shown bytes = nearest (100 * leading 53 bytes) (1024 ^ unitOf bytes) * 1024 ^ unitOf bytes := by
  rw [shown, hundredths_reading]

theorem bytes_quantity (bytes : Nat) : (reading bytes).quantity.bytes = shown bytes / 100 := by
  simp only [Quantity.bytes, Reading.quantity, unit_reading, shown]
  push_cast
  ring

/-- At least one of the unit is shown, -/
theorem le_shown (hb : 0 < b) : 100 * 1024 ^ unitOf b ≤ shown b := by
  rw [shown_eq]
  apply le_nearest_mul (Nat.pow_pos (by decide)) (Nat.dvd_mul_left _ _)
  exact Nat.mul_le_mul_left 100 ((pow_le_leading_iff (unitOf_le b)).mpr (pow_unitOf_le hb))

/-- and at most one of the next unit. -/
theorem shown_le (hu : unitOf b < 4) : shown b ≤ 100 * 1024 ^ (unitOf b + 1) := by
  rw [shown_eq, leading_of_unitOf_lt hu]
  apply nearest_mul_le (Nat.pow_pos (by decide))
  · exact Dvd.dvd.mul_left (Nat.pow_dvd_pow 1024 (Nat.le_succ _)) 100
  · exact Nat.mul_le_mul_left 100 (Nat.le_of_lt (lt_pow_unitOf_succ hu))

/-- **What is shown of more bytes is never less.** -/
theorem shown_mono (h : a ≤ b) : shown a ≤ shown b := by
  obtain heq | hlt := Nat.eq_or_lt_of_le (unitOf_mono h)
  · rw [shown_eq, shown_eq, heq]
    apply Nat.mul_le_mul_right
    apply nearest_mono (Nat.pow_pos (by decide))
    exact Nat.mul_le_mul_left 100 (leading_mono (by decide) h)
  · -- the larger unit stands between them
    have hb : 0 < b := pos_of_unitOf_pos (Nat.zero_lt_of_lt hlt)
    calc shown a ≤ 100 * 1024 ^ (unitOf a + 1) := shown_le (Nat.lt_of_lt_of_le hlt (unitOf_le b))
      _ ≤ 100 * 1024 ^ unitOf b := Nat.mul_le_mul_left 100 (Nat.pow_le_pow_right (by decide) hlt)
      _ ≤ shown b := le_shown hb

/-- **More bytes are never read as less**, whatever is lost by rounding and whatever the units are. -/
theorem text_mono (h : a ≤ b) :
    ∃ p q, Quantity.ofText? (text a) = some p ∧ Quantity.ofText? (text b) = some q ∧ p.bytes ≤ q.bytes := by
  refine ⟨_, _, Quantity.ofText?_text a, Quantity.ofText?_text b, ?_⟩
  have hshown : (shown a : ℚ) ≤ shown b := by exact_mod_cast shown_mono h
  rw [bytes_quantity, bytes_quantity]
  gcongr

/-- The last bytes before a mebibyte are read as no more than it. -/
theorem text_mono_mebibyte :
    0xFFFFF ≤ 0x100000 ∧ ∃ p q, Quantity.ofText? (text 0xFFFFF) = some p ∧
      Quantity.ofText? (text 0x100000) = some q ∧ p.bytes ≤ q.bytes :=
  ⟨by decide, text_mono (by decide)⟩

/-! ### The number in front of the unit -/

theorem le_hundredths (hb : 0 < b) : 100 ≤ (reading b).hundredths :=
  Nat.le_of_mul_le_mul_right (le_shown hb) (Nat.pow_pos (by decide))

theorem hundredths_le (hu : unitOf b < 4) : (reading b).hundredths ≤ 102400 := by
  apply Nat.le_of_mul_le_mul_right (c := 1024 ^ unitOf b) _ (Nat.pow_pos (by decide))
  calc shown b ≤ 100 * 1024 ^ (unitOf b + 1) := shown_le hu
    _ = 102400 * 1024 ^ unitOf b := by rw [Nat.pow_succ]; omega

/-- Less than 1024 of the unit is shown just if more than half a hundredth of it is missing to the next one. -/
theorem hundredths_lt_iff (hu : unitOf b < 4) :
    (reading b).hundredths < 102400 ↔ 200 * b < 204799 * 1024 ^ unitOf b := by
  have hle := nearest_le_iff (a := 100 * b) (b := 1024 ^ unitOf b) (n := 102399) (Nat.pow_pos (by decide))
  rw [hundredths_reading, leading_of_unitOf_lt hu]
  omega

/-- What is read of a number of bytes, by the unit in which it is shown. -/
structure KeepsUnit (bytes : Nat) (q : Quantity) : Prop where
  /-- It is what the text says. -/
  ofText? : Quantity.ofText? (text bytes) = some q
  /-- There is no unit after the fourth. -/
  unit_le : q.unit ≤ 4
  /-- The bytes reach the unit, -/
  pow_le : 0 < q.unit → 1024 ^ q.unit ≤ bytes
  /-- but not the next one, if there is one. -/
  lt_pow : q.unit < 4 → bytes < 1024 ^ (q.unit + 1)
  /-- At least one of the unit is shown, -/
  one_le : 0 < q.unit → 1 ≤ q.number
  /-- and at most 1024, if there is a next one. -/
  le : q.unit < 4 → q.number ≤ 1024
  /-- It is 1024 just if no more than half a hundredth of the unit is missing to the next one. -/
  lt_iff : q.unit < 4 → (q.number < 1024 ↔ 200 * bytes < 204799 * 1024 ^ q.unit)

/-- **A quantity is shown in the unit that its bytes reach, even where it is rounded to one of the next.** -/
theorem keeps_unit (bytes : Nat) : KeepsUnit bytes (reading bytes).quantity where
  ofText? := Quantity.ofText?_text bytes
  unit_le := by
    simpa using unitOf_le bytes
  pow_le hu := by
    simp only [Reading.unit_quantity, unit_reading] at hu ⊢
    exact pow_unitOf_le (pos_of_unitOf_pos hu)
  lt_pow hu := by
    simp only [Reading.unit_quantity, unit_reading] at hu ⊢
    exact lt_pow_unitOf_succ hu
  one_le hu := by
    simp only [Reading.unit_quantity, unit_reading] at hu
    have h : (100 : ℚ) ≤ (reading bytes).hundredths := by exact_mod_cast le_hundredths (pos_of_unitOf_pos hu)
    rw [Reading.number_quantity]
    linarith
  le hu := by
    simp only [Reading.unit_quantity, unit_reading] at hu
    have h : ((reading bytes).hundredths : ℚ) ≤ 102400 := by exact_mod_cast hundredths_le hu
    rw [Reading.number_quantity]
    linarith
  lt_iff hu := by
    simp only [Reading.unit_quantity, unit_reading] at hu ⊢
    rw [← hundredths_lt_iff hu, Reading.number_quantity, div_lt_iff₀ (by norm_num)]
    norm_num

/-- **A byte less than a mebibyte is shown as 1024 kibibytes**, although that is a mebibyte. -/
theorem almost_mebibyte :
    text 0xFFFFF = "1024.00 KiB" ∧ Quantity.ofText? (text 0xFFFFF) = some ⟨1024, 1⟩ := by
  have hreading : reading 0xFFFFF = ⟨102400, 1⟩ := by
    rw [reading_eq, leading_of_lt (by decide)]
    decide
  constructor
  · rw [text, hreading]
    cbv
  · rw [Quantity.ofText?_text, hreading]
    norm_num [Reading.quantity]

end ByteSize

end DeviceMemory
