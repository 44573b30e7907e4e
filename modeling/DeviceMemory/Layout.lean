/-!
# Layouts

A `Layout` describes a request for memory: the logical dimensions, the format of
an element, and whether the request needs an image. Its sizes are products of
machine words; a product that does not fit in a word has no value, also when a
later dimension is zero.
-/

namespace DeviceMemory

/-- The largest machine word, of 64 bits. -/
def maxWord : Nat := 0xffffffffffffffff

/-- The format of one element. -/
inductive ElementType
  /-- 64-bit float. -/
  | f64
  /-- 32-bit float. -/
  | f32
  /-- 16-bit float. -/
  | f16
  /-- 64-bit signed integer. -/
  | i64
  /-- 32-bit signed integer. -/
  | i32
  /-- 8-bit signed integer. -/
  | i8
  /-- 8-bit unsigned integer. -/
  | u8
  /-- A truth value on one byte. -/
  | bool
  deriving DecidableEq, Repr, Inhabited

namespace ElementType

/-- Every element type. -/
def all : List ElementType := [f64, f32, f16, i64, i32, i8, u8, bool]

/-- Bytes taken by one element. -/
def size : ElementType → Nat
  | f64 | i64 => 8
  | f32 | i32 => 4
  | f16 => 2
  | i8 | u8 | bool => 1

/-- The name of the format. -/
def name : ElementType → String
  | f64 => "F64"
  | f32 => "F32"
  | f16 => "F16"
  | i64 => "I64"
  | i32 => "I32"
  | i8 => "I8"
  | u8 => "U8"
  | bool => "Bool"

/-- The format of a given name. -/
def ofName? (s : String) : Option ElementType := all.find? (·.name == s)

end ElementType

/-- A request for memory. -/
structure Layout where
  /-- Logical dimensions; no dimension at all describes a scalar. -/
  shape : List Nat
  /-- Format of the elements. -/
  element : ElementType
  /-- Whether an image is needed, rather than a buffer. -/
  isImage : Bool
  deriving DecidableEq, Repr, Inhabited

/-- A product of machine words, if it is a machine word itself. -/
def mulWord? (a b : Nat) : Option Nat := if a * b ≤ maxWord then some (a * b) else none

/-- The product of `start` and all `factors`, taken from the left; every intermediate
product has to be a machine word. -/
def productWord? : Nat → List Nat → Option Nat
  | start, [] => some start
  | start, factor :: rest => (mulWord? start factor).bind (productWord? · rest)

theorem mulWord?_le {a b n : Nat} (h : mulWord? a b = some n) : n ≤ maxWord := by
  unfold mulWord? at h
  split at h
  · cases h
    assumption
  · cases h

/-- A product of machine words is a machine word. -/
theorem productWord?_le {start n : Nat} {factors : List Nat} (hs : start ≤ maxWord)
    (h : productWord? start factors = some n) : n ≤ maxWord := by
  induction factors generalizing start with
  | nil =>
    cases h
    exact hs
  | cons factor rest ih =>
    obtain ⟨m, hm, hn⟩ := Option.bind_eq_some_iff.mp h
    exact ih (mulWord?_le hm) hn

/-- Dimensions as a bracketed list. -/
def shapeText (shape : List Nat) : String :=
  "[" ++ ", ".intercalate (shape.map fun n => toString n) ++ "]"

namespace Layout

/-- How many elements there are, if that is a machine word. -/
def elementCount? (l : Layout) : Option Nat := productWord? 1 l.shape

/-- How many bytes the elements take, if that is a machine word. -/
def byteSize? (l : Layout) : Option Nat := productWord? l.element.size l.shape

theorem byteSize?_le {l : Layout} {n : Nat} (h : l.byteSize? = some n) : n ≤ maxWord :=
  productWord?_le (by cases l.element <;> decide) h

/-- The fields of a layout, spelled out. -/
def describe (l : Layout) : String :=
  "Layout \x7b shape: " ++ shapeText l.shape ++ ", data_type: " ++ l.element.name ++
    ", is_image: " ++ (if l.isImage then "true" else "false") ++ " \x7d"

end Layout

end DeviceMemory
