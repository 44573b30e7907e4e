/-!
# Reading UTF-8 that may be damaged

Bytes that are UTF-8 are read as they are. In other bytes, each longest stretch
that starts like a character but does not complete one is read as one
replacement character, and so is each byte that starts no character.
-/

namespace DeviceMemory.Text.Utf8

/-- The replacement character. -/
def replacement : Char := '\ufffd'

/-- A character whose first bytes have been read. -/
structure Begun where
  /-- Continuation bytes still owed, less one. -/
  owed : Nat
  /-- The least value that the next byte may have. -/
  low : Nat
  /-- The greatest value that the next byte may have. -/
  high : Nat
  /-- The bits read so far. -/
  bits : Nat

/-- What a byte between two characters starts: a whole character, the beginning of one, or nothing. -/
def start (b : Nat) : Option (Char ⊕ Begun) :=
  if b ≤ 0x7f then some (.inl (Char.ofNat b))
  else if 0xc2 ≤ b ∧ b ≤ 0xdf then some (.inr ⟨0, 0x80, 0xbf, b % 0x20⟩)
  else if b = 0xe0 then some (.inr ⟨1, 0xa0, 0xbf, 0⟩)
  else if b = 0xed then some (.inr ⟨1, 0x80, 0x9f, 0xd⟩)
  else if 0xe1 ≤ b ∧ b ≤ 0xef then some (.inr ⟨1, 0x80, 0xbf, b % 0x10⟩)
  else if b = 0xf0 then some (.inr ⟨2, 0x90, 0xbf, 0⟩)
  else if 0xf1 ≤ b ∧ b ≤ 0xf3 then some (.inr ⟨2, 0x80, 0xbf, b % 0x08⟩)
  else if b = 0xf4 then some (.inr ⟨2, 0x80, 0x8f, 4⟩)
  else none

/-- What `p` becomes with one more byte, if the byte continues it. -/
def Begun.extend (p : Begun) (b : Nat) : Option (Char ⊕ Begun) :=
  if p.low ≤ b ∧ b ≤ p.high then
    let bits := p.bits * 0x40 + b % 0x40
    match p.owed with
    | 0 => some (.inl (Char.ofNat bits))
    | owed + 1 => some (.inr ⟨owed, 0x80, 0xbf, bits⟩)
  else none

/-- The characters of a sequence of bytes, of which one may have begun. -/
def readFrom : Option Begun → List Nat → List Char
  | none, [] => []
  | some _, [] => [replacement]
  | none, b :: rest =>
    match start b with
    | some (.inl c) => c :: readFrom none rest
    | some (.inr p) => readFrom (some p) rest
    | none => replacement :: readFrom none rest
  | some p, b :: rest =>
    match p.extend b with
    | some (.inl c) => c :: readFrom none rest
    | some (.inr q) => readFrom (some q) rest
    | none =>
      match start b with
      | some (.inl c) => replacement :: c :: readFrom none rest
      | some (.inr q) => replacement :: readFrom (some q) rest
      | none => replacement :: replacement :: readFrom none rest

/-- The text of some bytes, with replacement characters where they are not UTF-8. -/
def readReplacing (bytes : ByteArray) : String :=
  match String.fromUTF8? bytes with
  | some s => s
  | none => String.ofList (readFrom none (bytes.toList.map UInt8.toNat))

end DeviceMemory.Text.Utf8
