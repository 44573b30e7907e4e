import DeviceMemory.Handle
import DeviceMemory.Placement

/-!
# Memory blocks

A block is a piece of memory that an engine keeps account of. It knows its own id,
the engine that made it, and the stream (the thread) it was made from. A block is
allocated by the engine, imported from another owner, or attached by the caller;
only in the first case does the engine own it and hold the resource of the
backend.
-/

namespace DeviceMemory

/-- Identifies an engine within a process. -/
structure EngineId where
  /-- How many engines were made before. -/
  number : Nat
  deriving DecidableEq, Repr

/-- The id as it is shown. -/
def EngineId.text (i : EngineId) : String := "EngineId(" ++ toString i.number ++ ")"

/-- Identifies a block within a process. -/
structure BlockId where
  /-- How many blocks were made before. -/
  number : Nat
  deriving DecidableEq, Repr

/-- The id as it is shown. -/
def BlockId.text (i : BlockId) : String := "MemoryId(" ++ toString i.number ++ ")"

/-- The number that a thread gets when it first asks for it. -/
structure Stream where
  /-- The number; zero is kept for a process without threads. -/
  number : Nat
  deriving DecidableEq, Repr

namespace Stream

/-- The only stream of a process without threads. -/
def main : Stream := ⟨0⟩

/-- The stream as it is shown. -/
def text (s : Stream) : String := "stream#" ++ toString s.number

end Stream

/-- Whose memory a block is; `ρ` are the resources of the backend. -/
inductive Origin (ρ : Type)
  /-- Allocated by the engine, which gives the resource back in the end. -/
  | allocated (placement : Placement) (resource : ρ)
  /-- Owned by somebody else and imported. -/
  | imported (handle : SharedHandle)
  /-- Provided by the caller, of whom nothing else is known. -/
  | attached (handle : Handle)
  deriving Repr

namespace Origin

variable {ρ : Type}

/-- The placement, if the engine allocated the memory. -/
def placement? : Origin ρ → Option Placement
  | allocated p _ => some p
  | imported _ | attached _ => none

/-- The resource of the backend, if there is one. -/
def resource? : Origin ρ → Option ρ
  | allocated _ r => some r
  | imported _ | attached _ => none

/-- Whether the host is known to be able to map the memory: where it was allocated so, or where it
is somebody's unified memory or the caller's own. -/
def isLockable : Origin ρ → Bool
  | allocated p _ => p.isLockable
  | imported (.unified _) => true
  | imported _ => false
  | attached _ => true

end Origin

/-- Memory that a backend has handed out and is to get back. -/
structure Holding (ρ : Type) where
  /-- Where the memory lives. -/
  placement : Placement
  /-- Its size in bytes. -/
  size : Nat
  /-- The resource of the backend. -/
  resource : ρ
  deriving DecidableEq, Repr

/-- A piece of memory that an engine keeps account of. -/
structure Block (ρ : Type) where
  /-- The id of the block. -/
  id : BlockId
  /-- The engine that made it. -/
  engine : EngineId
  /-- The stream it was made from. -/
  stream : Stream
  /-- The layout it was made for. -/
  layout : Layout
  /-- Its size in bytes. -/
  size : Nat
  /-- Where its memory comes from. -/
  origin : Origin ρ
  deriving Repr

namespace Block

variable {ρ : Type}

/-- Whether the engine owns the memory. -/
def isOwned (b : Block ρ) : Bool := b.origin.resource?.isSome

/-- What the backend is to get back for the block, if the engine owns the memory. -/
def holding? (b : Block ρ) : Option (Holding ρ) :=
  match b.origin with
  | .allocated p r => some ⟨p, b.size, r⟩
  | .imported _ | .attached _ => none

/-- Whether the host can map the memory. -/
def isLockable (b : Block ρ) : Bool := b.origin.isLockable

end Block

end DeviceMemory
