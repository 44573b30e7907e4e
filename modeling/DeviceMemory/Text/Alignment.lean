/-!
# Alignment

Fitting a text into a column: cut to a greatest length, then filled up to a
least one. Lengths count characters.
-/

namespace DeviceMemory.Text

/-- Where a text stands in its column. -/
inductive Alignment
  /-- At the left end. -/
  | left
  /-- At the right end. -/
  | right
  /-- In the middle; an odd place of filling goes to the right. -/
  | centre
  deriving DecidableEq, Repr

/-- `s` filled up to `width` characters with `fill`. -/
def fit (fill : Char) (align : Alignment) (width : Nat) (s : String) : String :=
  let missing := width - s.length
  let before := match align with
    | .left => 0
    | .right => missing
    | .centre => missing / 2
  String.ofList (List.replicate before fill) ++ s ++ String.ofList (List.replicate (missing - before) fill)

/-- The first `length` characters of `s`. -/
def cutTo (length : Nat) (s : String) : String := String.ofList (s.toList.take length)

/-- `s` at the left of a column of blanks. -/
def column (width : Nat) (s : String) : String := fit ' ' .left width s

end DeviceMemory.Text
