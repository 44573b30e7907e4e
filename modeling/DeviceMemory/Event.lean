import DeviceMemory.Block
import DeviceMemory.ByteSize
import DeviceMemory.Ledger
import DeviceMemory.Text.Alignment

/-!
# Events of memory

What happens to a block is an event, and an `Entry` is all that the log tells about
one. Its text is one line, followed by a line for each account where statistics
are asked for.
-/

namespace DeviceMemory

/-- What happened to a block. -/
inductive Event
  /-- The engine allocated it. -/
  | allocated
  /-- It was imported or attached. -/
  | imported
  /-- It was given back. -/
  | freed
  deriving DecidableEq, Repr

namespace Event

/-- The word in the log. -/
def name : Event → String
  | allocated => "allocate"
  | imported => "import"
  | freed => "free"

/-- The name as a title. -/
def title : Event → String
  | allocated => "Allocated"
  | imported => "Imported"
  | freed => "Freed"

/-- Every event. -/
def all : List Event := [allocated, imported, freed]

/-- The event of a given title. -/
def ofTitle? (s : String) : Option Event := all.find? (·.title == s)

end Event

/-- What the log tells about an event. -/
structure Entry where
  /-- What happened. -/
  event : Event
  /-- The stream that the block was made from. -/
  maker : Stream
  /-- The block. -/
  block : BlockId
  /-- The placement of the block; it has none if others own it. -/
  placement : Option Placement
  /-- The size of the block. -/
  size : Nat
  /-- The shape of the block. -/
  shape : List Nat
  /-- The stream that gave the block back, if it is not the one that made it. -/
  freedFrom : Option Stream
  /-- The bytes in use per account after the event; empty if not asked for. -/
  statistics : List (Account × Nat)
  deriving DecidableEq, Repr

namespace Entry

/-- The name of the placement, or that others own the block. -/
def placementName (e : Entry) : String :=
  match e.placement with
  | some p => p.name
  | none => "external"

/-- The stream that gave the block back, where it has to be told. -/
def freedFromText (e : Entry) : String :=
  match e.freedFrom with
  | some s => " from " ++ s.text
  | none => ""

/-- The line about the event itself. -/
def line (e : Entry) : String :=
  "[" ++ e.maker.text ++ "] " ++ Text.column 8 e.event.name ++ " " ++ e.block.text ++ " " ++
    e.placementName ++ " " ++ ByteSize.text e.size ++ " (" ++ shapeText e.shape ++ ")" ++ e.freedFromText

/-- The line about one account, after a line end. -/
def accountLine (s : Account × Nat) : String :=
  "\n  - " ++ Text.column 16 s.1.name ++ " " ++ ByteSize.text s.2

/-- The whole entry. -/
def text (e : Entry) : String := e.line ++ String.join (e.statistics.map accountLine)

end Entry

end DeviceMemory
