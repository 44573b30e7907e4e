import DeviceMemory.Availability
import DeviceMemory.Backtrace

/-!
# Choosing a placement

Memory resident on the device is the fastest, but the host cannot map it. The
general policy therefore serves buffers that the host never sees, the lockable
policy those it reads and writes. Each prefers one unified tier and falls back to
unified memory on the host; images, and devices without usable unified memory,
always get the default placement of the device.
-/

namespace DeviceMemory

/-- A rule by which placements are chosen. -/
inductive Policy
  /-- Prefer unified memory on the device. -/
  | general
  /-- Prefer coherent unified memory, which the host can map. -/
  | lockable
  deriving DecidableEq, Repr

/-- Why no placement can be chosen. -/
inductive PolicyError
  /-- There is unified memory, but no tier of it that the policy may use. -/
  | noUsableTier (policy : Policy)
  deriving DecidableEq, Repr

namespace Policy

/-- The name of the policy in messages. -/
def name : Policy → String
  | general => "general"
  | lockable => "lockable-preferred"

/-- The unified tier that the policy prefers. -/
def preferred : Policy → Placement
  | general => .unifiedDevice
  | lockable => .unifiedShared

/-- Whether the policy may use its preferred tier. -/
def preferredAvailable (a : Availability) : Policy → Bool
  | general => a.general .unifiedDevice
  | lockable => a.lockable .unifiedShared

/-- The placement for a request, given what is available and the default of the device. -/
def choose (p : Policy) (isImage : Bool) (a : Availability) (default : Placement) :
    Except PolicyError Placement :=
  if !a.usesUnified || isImage then .ok default
  else if p.preferredAvailable a then .ok p.preferred
  else if a.general .unifiedHost then .ok .unifiedHost
  else .error (.noUsableTier p)

end Policy

namespace PolicyError

/-- The message for the caller. -/
def message (trace : Backtrace) : PolicyError → String
  | noUsableTier policy =>
    "Couldn't find a proper allocation type for the " ++ policy.name ++
      " policy: the device supports unified memory but no usable tier" ++ trace.closing

end PolicyError

end DeviceMemory
