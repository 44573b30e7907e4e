import DeviceMemory.Proofs.ByteSize.Rounding
import DeviceMemory.Proofs.Text.Decimal
import Mathlib.Data.Rat.Cast.Defs
import Mathlib.Tactic.FieldSimp
import Mathlib.Tactic.Ring

/-!
# Reading byte quantities back

The text of a quantity is a decimal number, a blank and the name of a unit. `Quantity.ofText?` reads such a text
without looking at how it was made, and so tells what the text says to people. Of the text of a reading
it gives the hundredths and the unit that are shown (`Quantity.ofText?_text`).
-/

namespace DeviceMemory

/-- A byte quantity as its text tells it. -/
structure Quantity where
  /-- The number in front of the unit. -/
  number : ℚ
  /-- The unit, as a power of 1024 bytes. -/
  unit : Nat
  deriving DecidableEq

namespace Quantity

/-- How many bytes a quantity is. -/
def bytes (q : Quantity) : ℚ := q.number * 1024 ^ q.unit

/-! ### The reader -/

/-- The number that is written by decimal digits, of which there has to be one at least. -/
def natural? (digits : List Char) : Option Nat :=
  if digits ≠ [] ∧ digits.all Char.isDigit then some (Nat.ofDigitChars 10 digits 0) else none

/-- The number that is written by decimal digits, which may have a point between them. -/
def decimal? (text : List Char) : Option ℚ :=
  match text.splitOn '.' with
  | [whole] => do
    let n ← natural? whole
    some n
  | [whole, decimals] => do
    let n ← natural? whole
    let d ← natural? decimals
    some (n + d / 10 ^ decimals.length)
  | _ => none

/-- The quantity that is written as a number, a blank and the name of a unit. -/
def ofText? (text : String) : Option Quantity :=
  match text.toList.splitOn ' ' with
  | [number, name] => do
    let number ← decimal? number
    let unit ← ByteSize.unitNames.idxOf? (String.ofList name)
    some ⟨number, unit⟩
  | _ => none

/-! ### Numbers -/

theorem toList_twoDigits (n : Nat) :
    (ByteSize.twoDigits n).toList = [(n / 10 % 10).digitChar, (n % 10).digitChar] := by
  simp [ByteSize.twoDigits, Nat.toDigits_of_lt_base, Nat.mod_lt]

theorem isDigit_of_mem_twoDigits {c : Char} {n : Nat} (h : c ∈ (ByteSize.twoDigits n).toList) : c.isDigit := by
  rw [toList_twoDigits] at h
  simp only [List.mem_cons, List.not_mem_nil, or_false] at h
  obtain rfl | rfl := h <;> simp [Nat.mod_lt]

theorem natural?_of_isDigit {digits : List Char} (hne : digits ≠ []) (hd : ∀ c ∈ digits, c.isDigit) :
    natural? digits = some (Nat.ofDigitChars 10 digits 0) :=
  if_pos ⟨hne, List.all_eq_true.mpr hd⟩

theorem natural?_toDigits (n : Nat) : natural? (Nat.toDigits 10 n) = some n := by
  rw [natural?_of_isDigit Nat.toDigits_ne_nil fun c => Text.isDigit_of_mem_toDigits, Nat.ofDigitChars_ten_toDigits]

theorem natural?_twoDigits {n : Nat} (h : n < 100) : natural? (ByteSize.twoDigits n).toList = some n := by
  have htens : n / 10 % 10 < 10 := Nat.mod_lt _ (by decide)
  have hones : n % 10 < 10 := Nat.mod_lt _ (by decide)
  rw [natural?_of_isDigit (by simp [toList_twoDigits]) fun c => isDigit_of_mem_twoDigits, toList_twoDigits,
    Nat.ofDigitChars_cons_digitChar_of_lt_ten htens, Nat.ofDigitChars_cons_digitChar_of_lt_ten hones,
    Nat.ofDigitChars_nil]
  congr 1
  omega

theorem point_not_mem_twoDigits (n : Nat) : '.' ∉ (ByteSize.twoDigits n).toList := fun h =>
  absurd (isDigit_of_mem_twoDigits h) (by decide)

theorem decimal?_toDigits (n : Nat) : decimal? (Nat.toDigits 10 n) = some (n : ℚ) := by
  rw [decimal?, List.splitOn_eq_singleton (Text.not_mem_toDigits rfl n)]
  simp only [natural?_toDigits]
  rfl

theorem decimal?_toDigits_twoDigits (n : Nat) {h : Nat} (hh : h < 100) :
    decimal? (Nat.toDigits 10 n ++ '.' :: (ByteSize.twoDigits h).toList) = some ((n : ℚ) + h / 100) := by
  have hpow : (10 : ℚ) ^ (ByteSize.twoDigits h).toList.length = 100 := by
    norm_num [toList_twoDigits]
  rw [decimal?, List.splitOn_append_cons_self_of_not_mem (Text.not_mem_toDigits rfl n),
    List.splitOn_eq_singleton (point_not_mem_twoDigits h)]
  simp only [natural?_toDigits, natural?_twoDigits hh, hpow]
  rfl

end Quantity

/-! ### Readings -/

namespace Reading

variable {r : Reading}

/-- The quantity that a reading shows. -/
def quantity (r : Reading) : Quantity := ⟨r.hundredths / 100, r.unit⟩

@[simp] theorem unit_quantity (r : Reading) : r.quantity.unit = r.unit := rfl

@[simp] theorem number_quantity (r : Reading) : r.quantity.number = r.hundredths / 100 := rfl

theorem isDigit_or_point_of_mem_number {c : Char} (h : c ∈ r.number.toList) : c.isDigit ∨ c = '.' := by
  unfold number at h
  split at h
  · exact .inl (Text.isDigit_of_mem_toDigits (by simpa using h))
  · simp only [String.toList_append, List.mem_append, Nat.toString_eq_repr, Nat.toList_repr] at h
    obtain (h | h) | h := h
    · exact .inl (Text.isDigit_of_mem_toDigits h)
    · exact .inr (by simpa using h)
    · exact .inl (Quantity.isDigit_of_mem_twoDigits h)

/-- The number of a reading is read back as so many hundredths. -/
theorem decimal?_number (h0 : r.unit = 0 → 100 ∣ r.hundredths) :
    Quantity.decimal? r.number.toList = some r.quantity.number := by
  unfold number
  split
  · rename_i hu
    obtain ⟨n, hn⟩ := h0 hu
    rw [Nat.toString_eq_repr, Nat.toList_repr, Quantity.decimal?_toDigits]
    simp [quantity, hn]
  · have htext : (toString (r.hundredths / 100) ++ "." ++ ByteSize.twoDigits (r.hundredths % 100)).toList =
        Nat.toDigits 10 (r.hundredths / 100) ++ '.' :: (ByteSize.twoDigits (r.hundredths % 100)).toList := by
      simp
    have hsum : (r.hundredths : ℚ) = 100 * (r.hundredths / 100 : Nat) + (r.hundredths % 100 : Nat) := by
      exact_mod_cast (Nat.div_add_mod r.hundredths 100).symm
    rw [htext, Quantity.decimal?_toDigits_twoDigits _ (Nat.mod_lt _ (by decide)), quantity, hsum]
    congr 1
    field_simp

/-- The name of a unit stands for the unit. -/
theorem idxOf?_unitName (hu : r.unit ≤ 4) : ByteSize.unitNames.idxOf? r.unitName = some r.unit := by
  have hall : ∀ unit ≤ 4, ByteSize.unitNames.idxOf? (ByteSize.unitNames.getD unit "") = some unit := by decide
  exact hall r.unit hu

theorem unitName_mem (r : Reading) : r.unitName ∈ "" :: ByteSize.unitNames := by
  rw [unitName, List.getD_eq_getElem?_getD]
  cases h : ByteSize.unitNames[r.unit]? with
  | none => exact List.mem_cons_self
  | some name => exact List.mem_cons_of_mem _ (List.mem_of_getElem? h)

theorem blank_not_mem_unitName (r : Reading) : ' ' ∉ r.unitName.toList := by
  have hall : ∀ name ∈ "" :: ByteSize.unitNames, ' ' ∉ name.toList := by decide
  exact hall _ r.unitName_mem

theorem toList_text (r : Reading) : r.text.toList = r.number.toList ++ ' ' :: r.unitName.toList := by
  simp [text]

/-- The text of a reading is read back as the quantity that it shows. -/
theorem ofText?_text (hu : r.unit ≤ 4) (h0 : r.unit = 0 → 100 ∣ r.hundredths) :
    Quantity.ofText? r.text = some r.quantity := by
  have hnumber : ' ' ∉ r.number.toList := by
    intro h
    obtain hdigit | hpoint := isDigit_or_point_of_mem_number h
    · exact absurd hdigit (by decide)
    · exact absurd hpoint (by decide)
  rw [Quantity.ofText?, r.toList_text, List.splitOn_append_cons_self_of_not_mem hnumber,
    List.splitOn_eq_singleton r.blank_not_mem_unitName]
  simp only [decimal?_number h0, String.ofList_toList, idxOf?_unitName hu]
  rfl

end Reading

/-- **The text of a quantity tells what is shown of it**, and nothing is lost or added by the text. -/
theorem Quantity.ofText?_text (bytes : Nat) :
    Quantity.ofText? (ByteSize.text bytes) = some (ByteSize.reading bytes).quantity :=
  Reading.ofText?_text (by simpa using ByteSize.unitOf_le bytes) ByteSize.dvd_hundredths_reading

example : Quantity.ofText? "1.50 MiB" = some ⟨3 / 2, 2⟩ := by cbv

end DeviceMemory
