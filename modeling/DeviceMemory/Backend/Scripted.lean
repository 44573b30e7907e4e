import DeviceMemory.Backend

/-!
# A backend that follows a script

A backend without a device. It counts calls and resources, may have a capacity, may
lack some placements, and fails at the calls it is told to fail at. The first of
these reasons to refuse that applies is the one it gives.
-/

namespace DeviceMemory

/-- A resource of a scripted backend. -/
structure ScriptedResource where
  /-- How many resources were handed out before. -/
  number : Nat
  /-- Its size in bytes. -/
  bytes : Nat
  /-- Where it lives. -/
  placement : Placement
  /-- Whether it was zeroed. -/
  zeroed : Bool
  deriving DecidableEq, Repr

/-- A scripted backend. -/
structure ScriptedBackend where
  /-- The most bytes in use at once; there is no bound if absent. -/
  capacity : Option Nat := none
  /-- The placements that it refuses. -/
  refused : List Placement := []
  /-- The numbers of the calls that fail. -/
  failing : List Nat := []
  /-- What the driver reports when a call fails. -/
  report : String := ""
  /-- Calls so far. -/
  calls : Nat := 0
  /-- Resources handed out so far. -/
  handedOut : Nat := 0
  /-- Bytes in use. -/
  inUse : Nat := 0
  deriving DecidableEq, Repr

namespace ScriptedBackend

/-- Why a request is refused, if it is. -/
def refusal? (b : ScriptedBackend) (r : Request) : Option BackendError :=
  if r.placement ∈ b.refused then some (.unsupported r.placement)
  else if b.calls ∈ b.failing then some (.driver b.report)
  else match b.capacity with
    | some c => if c < b.inUse + r.size then some (.outOfMemory r.size r.placement) else none
    | none => none

/-- The answer to a request, and the backend afterwards. -/
def allocate (b : ScriptedBackend) (r : Request) : Except BackendError ScriptedResource × ScriptedBackend :=
  match b.refusal? r with
  | some e => (.error e, { b with calls := b.calls + 1 })
  | none =>
    (.ok ⟨b.handedOut, r.size, r.placement, r.zeroed⟩,
      { b with calls := b.calls + 1, handedOut := b.handedOut + 1, inUse := b.inUse + r.size })

/-- The backend after a resource was given back. -/
def release (b : ScriptedBackend) (r : ScriptedResource) : ScriptedBackend :=
  { b with inUse := b.inUse - r.bytes }

instance : Backend ScriptedBackend ScriptedResource := ⟨allocate, release⟩

end ScriptedBackend

end DeviceMemory
