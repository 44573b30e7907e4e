/-!
# Hexadecimal numbers

Lower-case hexadecimal digits without leading zeros.
-/

namespace DeviceMemory.Text

/-- The hexadecimal digits of `n`. -/
def hexadecimal (n : Nat) : String := String.ofList (Nat.toDigits 16 n)

end DeviceMemory.Text
