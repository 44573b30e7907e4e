import Mathlib.Data.List.TakeWhile

/-!
# Numbers in texts

Numbers are written by decimal digits, without bounds. Where they stand in a text, it has to be seen where their
digits stop: that is where something comes that is no digit (`Text.digits_unique`). The digits tell the number
(`Text.toDigits_injective`).
-/

namespace DeviceMemory.Text

theorem toDigits_injective {m n : Nat} (h : Nat.toDigits 10 m = Nat.toDigits 10 n) : m = n := by
  have hread := congrArg (Nat.ofDigitChars 10 · 0) h
  simpa only [Nat.ofDigitChars_ten_toDigits] using hread

theorem isDigit_of_mem_toDigits {c : Char} {n : Nat} (h : c ∈ Nat.toDigits 10 n) : c.isDigit :=
  Nat.isDigit_of_mem_toDigits (by decide) (by decide) h

theorem not_mem_toDigits {c : Char} (hc : c.isDigit = false) (n : Nat) : c ∉ Nat.toDigits 10 n := by
  intro h
  rw [isDigit_of_mem_toDigits h] at hc
  cases hc

/-- Digits stop where something else comes. -/
theorem digits_unique {d d' r r' : List Char} {c c' : Char} (hd : ∀ x ∈ d, x.isDigit) (hd' : ∀ x ∈ d', x.isDigit)
    (hc : c.isDigit = false) (hc' : c'.isDigit = false) (h : d ++ c :: r = d' ++ c' :: r') : d = d' := by
  have stop {d r : List Char} {c : Char} (hd : ∀ x ∈ d, x.isDigit) (hc : c.isDigit = false) :
      (d ++ c :: r).takeWhile Char.isDigit = d := by
    rw [List.takeWhile_append_of_pos hd, List.takeWhile_cons_of_neg (by simp [hc]), List.append_nil]
  rw [← stop hd hc, h, stop hd' hc']

end DeviceMemory.Text
