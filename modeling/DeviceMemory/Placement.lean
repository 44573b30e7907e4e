/-!
# Placements

Where a piece of memory lives decides who can reach it. A `Placement` names one
of the five kinds of memory a device may offer; three of them are tiers of
unified memory, shared between host and device.
-/

namespace DeviceMemory

/-- A kind of memory that a device may offer. -/
inductive Placement
  /-- Unified memory that stays on the device, out of reach for the host. -/
  | unifiedDevice
  /-- Unified memory that stays on the host; the device reaches over to it. -/
  | unifiedHost
  /-- Unified memory that moves to whichever side uses it; both always see the same contents. -/
  | unifiedShared
  /-- Device memory without any of the above. -/
  | plainBuffer
  /-- Memory in the form of an image. -/
  | image
  deriving DecidableEq, Repr, Inhabited

namespace Placement

/-- Every placement, in order. -/
def all : List Placement := [unifiedDevice, unifiedHost, unifiedShared, plainBuffer, image]

theorem mem_all (p : Placement) : p ∈ all := by cases p <;> decide

/-- The rank of a placement in `all`. -/
def rank : Placement → Nat
  | unifiedDevice => 0
  | unifiedHost => 1
  | unifiedShared => 2
  | plainBuffer => 3
  | image => 4

/-- Whether the placement is one of the unified tiers. -/
def isUnified : Placement → Bool
  | unifiedDevice | unifiedHost | unifiedShared => true
  | plainBuffer | image => false

/-- Whether the host can lock such memory and work on it in place. -/
def isLockable : Placement → Bool
  | unifiedHost | unifiedShared | plainBuffer => true
  | unifiedDevice | image => false

/-- The name in statistics, messages and the log. -/
def name : Placement → String
  | unifiedDevice => "unified_device"
  | unifiedHost => "unified_host"
  | unifiedShared => "unified_shared"
  | plainBuffer => "plain_buffer"
  | image => "image"

/-- The name as a title in a description of a device. -/
def title : Placement → String
  | unifiedDevice => "UnifiedDevice"
  | unifiedHost => "UnifiedHost"
  | unifiedShared => "UnifiedShared"
  | plainBuffer => "PlainBuffer"
  | image => "Image"

/-- The placement of a given name. -/
def ofName? (s : String) : Option Placement := all.find? (·.name == s)

end Placement

end DeviceMemory
