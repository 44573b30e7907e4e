import DeviceMemory.Commons
import DeviceMemory.Device
import DeviceMemory.Event
import DeviceMemory.Failure
import DeviceMemory.Logger

/-!
# Engines

An engine serves memory on one device. Its device, the placements available on it
and the detail of its log are fixed when it is made; its ledger, its backend and
the positions in its log file change as it works.
-/

namespace DeviceMemory

/-- An engine with a backend of states `β`. -/
structure Engine (β : Type) where
  /-- The id of the engine, which is recorded in its blocks. -/
  id : EngineId
  /-- The device that it serves memory on. -/
  device : Device
  /-- What can be requested on the device. -/
  availability : Availability
  /-- How much of each event is logged. -/
  detail : LogDetail
  /-- Where events are logged. -/
  logger : Logger
  /-- The bytes in use. -/
  ledger : Ledger
  /-- What performs the allocations. -/
  backend : β

namespace Engine

variable {β : Type}

/-- A new engine on a device. -/
def new (id : EngineId) (device : Device) (backend : β) (s : MemorySettings) (logger : Logger) : Engine β where
  id := id
  device := device
  availability := ⟨device.capabilities, !s.disableUnified⟩
  detail := s.logger.detail
  logger := logger
  ledger := .empty
  backend := backend

/-- The placement that a policy chooses on this engine. -/
def choose (e : Engine β) (p : Policy) (isImage : Bool) : Except PolicyError Placement :=
  p.choose isImage e.availability e.device.defaultPlacement

/-- Whether events are logged. -/
def isLogging (e : Engine β) : Bool := e.detail ≠ .disabled

/-! ### Usage -/

/-- Bytes in use with a placement. -/
def used (e : Engine β) (p : Placement) : Nat := e.ledger.current (.allocated p)

/-- The most bytes ever in use at once with a placement. -/
def peak (e : Engine β) (p : Placement) : Nat := e.ledger.peak (.allocated p)

/-- Bytes of imported memory in use. -/
def imported (e : Engine β) : Nat := e.ledger.current .imported

end Engine

end DeviceMemory
