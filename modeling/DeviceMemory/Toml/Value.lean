/-!
# Values of a TOML document

A document is a tree: tables of named values, arrays, and scalars. Floating-point
numbers and dates are kept as they were written; nothing here computes with
them.
-/

namespace DeviceMemory.Toml

/-- A value of a document. -/
inductive Value
  /-- A text. -/
  | string (text : String)
  /-- A whole number of 64 bits with sign. -/
  | integer (number : Int)
  /-- A floating-point number, as written. -/
  | float (written : String)
  /-- A truth value. -/
  | boolean (truth : Bool)
  /-- A date, a time, or both, as written. -/
  | dateTime (written : String)
  /-- An array. -/
  | array (items : List Value)
  /-- A table; no name occurs twice. -/
  | table (entries : List (String × Value))
  deriving Repr, Inhabited

end DeviceMemory.Toml
