import DeviceMemory.Placement

/-!
# Which placements can be requested

A device has a set of placements it can serve. The process may switch unified
memory off; then no unified placement is available, whatever the device says.
There are two ways to ask: the general path never yields unified shared memory,
the lockable path may.
-/

namespace DeviceMemory

/-- The placements that a device can serve. -/
structure Capabilities where
  /-- Whether the device serves a placement. -/
  serves : Placement → Bool

namespace Capabilities

/-- The capabilities with the listed placements. -/
def ofList (ps : List Placement) : Capabilities := ⟨fun p => decide (p ∈ ps)⟩

/-- The placements served, in order. -/
def toList (c : Capabilities) : List Placement := Placement.all.filter c.serves

/-- Whether some unified placement is served. -/
def servesUnified (c : Capabilities) : Bool := Placement.all.any fun p => p.isUnified && c.serves p

/-- The set of placements, spelled out. -/
def describe (c : Capabilities) : String :=
  "MemoryCapabilities \x7b set: \x7b" ++ ", ".intercalate (c.toList.map Placement.title) ++ "\x7d \x7d"

@[simp] theorem serves_ofList (ps : List Placement) (p : Placement) :
    (ofList ps).serves p = decide (p ∈ ps) := rfl

theorem mem_toList {c : Capabilities} {p : Placement} : p ∈ c.toList ↔ c.serves p = true := by
  simp [toList, Placement.mem_all]

end Capabilities

/-- What can be requested on a device, given the switch of the process. -/
structure Availability where
  /-- The placements that the device serves. -/
  capabilities : Capabilities
  /-- Whether the process lets unified memory be used. -/
  unifiedEnabled : Bool

namespace Availability

/-- Whether there is any unified memory to use. -/
def usesUnified (a : Availability) : Bool := a.unifiedEnabled && a.capabilities.servesUnified

/-- Whether the lockable path may use a placement. -/
def lockable (a : Availability) (p : Placement) : Bool :=
  (!p.isUnified || a.usesUnified) && a.capabilities.serves p

/-- Whether the general path may use a placement: unified shared memory is left to the
lockable path. -/
def general (a : Availability) (p : Placement) : Bool :=
  decide (p ≠ .unifiedShared) && a.lockable p

end Availability

end DeviceMemory
