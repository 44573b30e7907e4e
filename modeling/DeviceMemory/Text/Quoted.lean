import DeviceMemory.Text.Hexadecimal
import DeviceMemory.Text.Hidden

/-!
# Quoted texts

A text between double quotes, in which every character can be seen: the quote and
the backslash follow a backslash, a few control characters have a letter of
their own, and any other hidden character is written by number.
-/

namespace DeviceMemory.Text

/-- The number of a character between braces, after `\u`. -/
def byNumber (c : Char) : List Char := ['\\', 'u', '\x7b'] ++ (hexadecimal c.toNat).toList ++ ['\x7d']

/-- How one character is written between quotes. -/
def quotedChar (c : Char) : List Char :=
  if c = '"' ∨ c = '\\' then ['\\', c]
  else if c = '\n' then ['\\', 'n']
  else if c = '\t' then ['\\', 't']
  else if c = '\r' then ['\\', 'r']
  else if c = '\x00' then ['\\', '0']
  else if isHidden c then byNumber c
  else [c]

/-- A text between quotes, its characters written by `quotedChar`. -/
def quoted (s : String) : String :=
  String.ofList ('"' :: s.toList.flatMap quotedChar ++ ['"'])

end DeviceMemory.Text
