import DeviceMemory.Layout
import Mathlib.Algebra.BigOperators.Ring.List
import Mathlib.Algebra.Ring.Nat
import Mathlib.Data.List.TakeWhile

/-!
# The sizes of layouts

A size is a product that is taken from the left, and every product on the way to it has to be a machine
word. Where there is a size, it is the exact one; whether there is one depends on the dimensions before the
first zero only, since behind a zero nothing is too large any more (`productWord?_eq`).

So the order of the dimensions matters in one case: a zero makes the exact size zero, and the
layout has that size if the dimensions before the zero fit, and none if they do not. Without a zero, a layout has a
size just if the exact one is a machine word. All this is `Layout.measures`, for bytes and for elements.
-/

namespace DeviceMemory

/-! ### Products of machine words -/

/-- A product has a value just if every product on the way to it is a machine word. -/
theorem productWord?_eq_some_iff {start n : Nat} {factors : List Nat} (hs : start ≤ maxWord) :
    productWord? start factors = some n ↔
      (∀ dims, dims <+: factors → start * dims.prod ≤ maxWord) ∧ n = start * factors.prod := by
  induction factors generalizing start with
  | nil => simp [productWord?, hs, eq_comm]
  | cons factor rest ih =>
    have hprefixes : (∀ dims, dims <+: factor :: rest → start * dims.prod ≤ maxWord) ↔
        start ≤ maxWord ∧ ∀ dims, dims <+: rest → start * factor * dims.prod ≤ maxWord := by
      simp only [List.prefix_cons_iff]
      constructor
      · intro h
        exact ⟨by simpa using h [] (.inl rfl), fun dims hd => by
          simpa [Nat.mul_assoc] using h (factor :: dims) (.inr ⟨dims, rfl, hd⟩)⟩
      · rintro ⟨-, h⟩ dims (rfl | ⟨dims, rfl, hd⟩)
        · simpa using hs
        · simpa [Nat.mul_assoc] using h dims hd
    rw [hprefixes, List.prod_cons, ← Nat.mul_assoc]
    by_cases hm : start * factor ≤ maxWord
    · have hstep : productWord? start (factor :: rest) = productWord? (start * factor) rest := by
        simp [productWord?, mulWord?, hm]
      rw [hstep, ih hm, and_iff_right hs]
    · have hstep : productWord? start (factor :: rest) = none := by simp [productWord?, mulWord?, hm]
      rw [hstep]
      constructor
      · intro h
        cases h
      · rintro ⟨⟨-, h⟩, -⟩
        exact absurd (by simpa using h [] List.nil_prefix) hm

/-- The dimensions before the first zero. -/
def beforeZero (shape : List Nat) : List Nat := shape.takeWhile (· ≠ 0)

@[simp] theorem beforeZero_nil : beforeZero [] = [] := rfl

theorem beforeZero_cons (n : Nat) (shape : List Nat) :
    beforeZero (n :: shape) = if n = 0 then [] else n :: beforeZero shape := by
  by_cases h : n = 0 <;> simp [beforeZero, h]

theorem beforeZero_of_not_mem {shape : List Nat} (h : 0 ∉ shape) : beforeZero shape = shape := by
  rw [beforeZero, List.takeWhile_eq_self_iff]
  intro n hn
  simpa using fun h0 : n = 0 => h (h0 ▸ hn)

theorem prod_beforeZero_pos (shape : List Nat) : 0 < (beforeZero shape).prod := by
  apply Nat.pos_of_ne_zero
  apply List.prod_ne_zero
  intro h
  simpa using List.mem_takeWhile_imp h

/-- **A product has a value just if the product of the factors before the first zero is a machine word**,
and then it has the exact one. -/
theorem productWord?_eq {start : Nat} {factors : List Nat} (hs : start ≤ maxWord) :
    productWord? start factors =
      if start * (beforeZero factors).prod ≤ maxWord then some (start * factors.prod) else none := by
  induction factors generalizing start with
  | nil => simp [productWord?, hs]
  | cons factor rest ih =>
    by_cases h0 : factor = 0
    · have hzero : productWord? 0 rest = some 0 := by simpa using ih (Nat.zero_le maxWord)
      simp [productWord?, mulWord?, beforeZero_cons, h0, hs, hzero]
    · rw [beforeZero_cons, if_neg h0, List.prod_cons, List.prod_cons, ← Nat.mul_assoc, ← Nat.mul_assoc]
      by_cases hm : start * factor ≤ maxWord
      · simp [productWord?, mulWord?, hm, ih hm]
      · have hlarge : ¬ start * factor * (beforeZero rest).prod ≤ maxWord := by
          have hle := Nat.le_mul_of_pos_right (start * factor) (prod_beforeZero_pos rest)
          omega
        simp [productWord?, mulWord?, hm, hlarge]

/-- Without a zero, a product has a value just if the exact one is a machine word. -/
theorem productWord?_of_not_mem {start : Nat} {factors : List Nat} (hs : start ≤ maxWord)
    (h0 : 0 ∉ factors) :
    productWord? start factors = if start * factors.prod ≤ maxWord then some (start * factors.prod) else none := by
  rw [productWord?_eq hs, beforeZero_of_not_mem h0]

/-- Without a zero, the order of the factors does not matter. -/
theorem productWord?_perm {start : Nat} {factors factors' : List Nat} (hs : start ≤ maxWord)
    (h0 : 0 ∉ factors) (hp : factors'.Perm factors) : productWord? start factors' = productWord? start factors := by
  rw [productWord?_of_not_mem hs h0, productWord?_of_not_mem hs (hp.mem_iff.not.mpr h0), hp.prod_eq]

theorem ElementType.size_pos (t : ElementType) : 0 < t.size := by
  cases t <;> decide

theorem ElementType.size_le (t : ElementType) : t.size ≤ maxWord := by
  cases t <;> decide

namespace Layout

/-! ### Exact sizes -/

/-- The exact number of bytes that the elements take, be it a machine word or not. -/
def bytes (l : Layout) : Nat := l.element.size * l.shape.prod

/-- The number of bytes that the dimensions before the first zero stand for. -/
def bytesBeforeZero (l : Layout) : Nat := l.element.size * (beforeZero l.shape).prod

theorem bytesBeforeZero_of_not_mem {l : Layout} (h : 0 ∉ l.shape) : l.bytesBeforeZero = l.bytes := by
  rw [bytesBeforeZero, beforeZero_of_not_mem h, bytes]

theorem bytes_of_mem {l : Layout} (h : 0 ∈ l.shape) : l.bytes = 0 := by
  rw [bytes, List.prod_eq_zero h, Nat.mul_zero]

/-- Shapes with the same dimensions stand for the same number of bytes. -/
theorem bytes_perm {l : Layout} {shape : List Nat} (h : shape.Perm l.shape) : { l with shape }.bytes = l.bytes := by
  rw [bytes, bytes, h.prod_eq]

/-- A layout has a size just if the dimensions before the first zero fit, and then it has the exact one. -/
theorem byteSize?_eq (l : Layout) :
    l.byteSize? = if l.bytesBeforeZero ≤ maxWord then some l.bytes else none :=
  productWord?_eq l.element.size_le

theorem byteSize?_eq_none_iff {l : Layout} : l.byteSize? = none ↔ maxWord < l.bytesBeforeZero := by
  rw [byteSize?_eq]
  split <;> simp_all

/-- The size is refused although it is a machine word in one case only: there is a zero, and the dimensions before it
are too large. -/
theorem byteSize?_eq_bytes_iff (l : Layout) :
    (l.byteSize? = if l.bytes ≤ maxWord then some l.bytes else none) ↔
      (0 ∈ l.shape → l.bytesBeforeZero ≤ maxWord) := by
  rw [byteSize?_eq]
  by_cases h0 : 0 ∈ l.shape
  · by_cases hm : l.bytesBeforeZero ≤ maxWord <;> simp [h0, hm, bytes_of_mem h0]
  · simp [h0, bytesBeforeZero_of_not_mem h0]

/-! ### Bytes and elements -/

/-- The numbers of bytes and of elements of a layout, which are never cut to a machine word. -/
structure Measures (l : Layout) : Prop where
  /-- There is a size just if every product on the way to it is a machine word, and then it is the exact
  one. -/
  byteSize?_iff (n : Nat) : l.byteSize? = some n ↔
    (∀ dims, dims <+: l.shape → l.element.size * dims.prod ≤ maxWord) ∧ n = l.element.size * l.shape.prod
  /-- So it is with the number of elements. -/
  elementCount?_iff (n : Nat) : l.elementCount? = some n ↔
    (∀ dims, dims <+: l.shape → dims.prod ≤ maxWord) ∧ n = l.shape.prod
  /-- Where there is a size there is a number of elements, and each of them takes its part. -/
  elementCount?_of_byteSize? {n : Nat} : l.byteSize? = some n →
    ∃ count, l.elementCount? = some count ∧ n = l.element.size * count
  /-- Without a zero, the order of the dimensions does not matter, -/
  perm {shape : List Nat} : 0 ∉ l.shape → shape.Perm l.shape →
    { l with shape }.byteSize? = l.byteSize? ∧ { l with shape }.elementCount? = l.elementCount?
  /-- and a number is missing just if the exact one is no machine word. -/
  eq_none_iff : 0 ∉ l.shape → (l.byteSize? = none ↔ maxWord < l.element.size * l.shape.prod) ∧
    (l.elementCount? = none ↔ maxWord < l.shape.prod)

/-- Where there is a size, the products of the dimensions are machine words too. -/
theorem exists_elementCount? {l : Layout} {n : Nat} (h : l.byteSize? = some n) :
    ∃ count, l.elementCount? = some count ∧ n = l.element.size * count := by
  obtain ⟨hfits, rfl⟩ := (productWord?_eq_some_iff l.element.size_le).mp h
  refine ⟨l.shape.prod, (productWord?_eq_some_iff (by decide)).mpr ⟨fun dims hd => ?_, by simp⟩, rfl⟩
  calc 1 * dims.prod = dims.prod := Nat.one_mul _
    _ ≤ l.element.size * dims.prod := Nat.le_mul_of_pos_left _ l.element.size_pos
    _ ≤ maxWord := hfits dims hd

/-- **Sizes are exact and never cut to a machine word**, for every layout. -/
theorem measures (l : Layout) : l.Measures where
  byteSize?_iff n := productWord?_eq_some_iff l.element.size_le
  elementCount?_iff n := by
    rw [elementCount?, productWord?_eq_some_iff (by decide)]
    simp only [Nat.one_mul]
  elementCount?_of_byteSize? h := exists_elementCount? h
  perm h0 hp := ⟨productWord?_perm l.element.size_le h0 hp, productWord?_perm (by decide) h0 hp⟩
  eq_none_iff h0 := by
    constructor
    · rw [byteSize?_eq_none_iff, bytesBeforeZero_of_not_mem h0, bytes]
    · rw [elementCount?, productWord?_of_not_mem (by decide) h0, Nat.one_mul]
      split <;> simp_all

end Layout

end DeviceMemory
