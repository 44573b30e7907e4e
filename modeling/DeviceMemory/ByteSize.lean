/-!
# Byte quantities for people

A number of bytes is shown in the largest binary unit that leaves at least one
of it: whole bytes below one kibibyte, hundredths of the unit above.

## The model

A quantity is read off in two exact steps. Its leading 53 binary digits are
kept (`leading`), which only matters above `2 ^ 53`; the result is then
divided by the unit and rounded to hundredths (`nearest`). Both roundings go to
the nearest value and, on a tie, to the even neighbour. The outcome is a
`Reading`: a count of hundredths and a unit. Everything is arithmetic on
natural numbers, so nothing about it is approximate beyond the two roundings.
-/

namespace DeviceMemory

/-- A byte quantity as it is shown: a count of hundredths of a unit. -/
structure Reading where
  /-- How many hundredths of the unit are shown. -/
  hundredths : Nat
  /-- The unit, as a power of 1024 bytes. -/
  unit : Nat
  deriving DecidableEq, Repr

namespace ByteSize

/-! ### Rounding -/

/-- The whole number nearest to `a / b`; a tie goes to the even neighbour. -/
def nearest (a b : Nat) : Nat :=
  if 2 * (a % b) < b ∨ (2 * (a % b) = b ∧ (a / b) % 2 = 0) then a / b else a / b + 1

/-- The position of the last binary digit kept when `digits` leading ones are. -/
def cut (digits v : Nat) : Nat := v.log2 + 1 - digits

/-- The value `v` rounded to `digits` leading binary digits. -/
def leading (digits v : Nat) : Nat := nearest v (1 <<< cut digits v) <<< cut digits v

/-! ### Units -/

/-- The names of the units, in ascending powers of 1024. -/
def unitNames : List String := ["B", "KiB", "MiB", "GiB", "TiB"]

/-- The number of bytes in a unit: 1024 of one make the next. -/
def unitBytes (unit : Nat) : Nat := 1 <<< (10 * unit)

/-- The largest unit among the first `limit` that `v` bytes reach. -/
def unitWithin : Nat → Nat → Nat
  | 0, _ => 0
  | limit + 1, v => if v < 1024 then 0 else unitWithin limit (v / 1024) + 1

/-- The unit in which `v` bytes are shown. -/
def unitOf (v : Nat) : Nat := unitWithin (unitNames.length - 1) v

/-! ### Readings -/

/-- How `bytes` are shown: exactly below 1024, else to the hundredth of a unit. -/
def reading (bytes : Nat) : Reading :=
  if bytes < 1024 then ⟨100 * bytes, 0⟩
  else
    let v := leading 53 bytes
    ⟨nearest (100 * v) (unitBytes (unitOf v)), unitOf v⟩

/-- Two decimal digits of a number below one hundred. -/
def twoDigits (n : Nat) : String := toString (n / 10 % 10) ++ toString (n % 10)

end ByteSize

namespace Reading

/-- The name of the unit. -/
def unitName (r : Reading) : String := ByteSize.unitNames.getD r.unit ""

/-- The number in front of the unit: whole for bytes, with two decimals otherwise. -/
def number (r : Reading) : String :=
  if r.unit = 0 then toString (r.hundredths / 100)
  else toString (r.hundredths / 100) ++ "." ++ ByteSize.twoDigits (r.hundredths % 100)

/-- The text of a reading, such as `1.50 MiB`. -/
def text (r : Reading) : String := r.number ++ " " ++ r.unitName

end Reading

namespace ByteSize

/-- A number of bytes as people read it. -/
def text (bytes : Nat) : String := (reading bytes).text

end ByteSize

end DeviceMemory
