import DeviceMemory.Backend
import DeviceMemory.Block
import DeviceMemory.Ledger
import DeviceMemory.Policy

/-!
# Failures of an engine

An engine, or the making of one, fails for a cause. Causes that point to a fault in
the program around the engine, rather than to a handle or a driver, come with the
stack at the place where they arose.
-/

namespace DeviceMemory

/-- Why a call fails. -/
inductive Cause
  /-- No device was enumerated. -/
  | noDevices (backend runtime : String)
  /-- The device does not serve the placement that was asked for. -/
  | unsupported (placement : Placement) (device : String)
  /-- The size of the layout is no machine word. -/
  | layoutTooLarge (layout : Layout)
  /-- The block was made by another engine. -/
  | foreignBlock (block : BlockId) (owner engine : EngineId)
  /-- No placement could be chosen. -/
  | policy (e : PolicyError)
  /-- The ledger refused. -/
  | ledger (e : LedgerError)
  /-- A handle could not be imported. -/
  | importing (e : ImportError)
  /-- The backend refused. -/
  | backend (e : BackendError)
  deriving DecidableEq, Repr

/-- Whether a cause comes with the stack. -/
def Cause.isTraced : Cause → Bool
  | .importing _ | .backend _ => false
  | _ => true

/-- A failed call: its cause, and the stack where the cause comes with one. -/
structure Failure where
  /-- Why the call failed. -/
  cause : Cause
  /-- Where it failed. -/
  trace : Backtrace
  deriving DecidableEq, Repr

/-- The message for the caller. -/
def Failure.message (f : Failure) : String :=
  match f.cause with
  | .noDevices backend runtime =>
    "Can't create a " ++ backend ++ " engine for the " ++ runtime ++
      " runtime as no suitable devices are found\nPlease check that the GPU drivers are installed " ++
      "and up to date." ++ f.trace.closing
  | .unsupported placement device =>
    "The device " ++ device ++ " doesn't support allocations of type " ++ placement.name ++ f.trace.closing
  | .layoutTooLarge layout =>
    "Can't allocate a layout of " ++ shapeText layout.shape ++ " " ++ layout.element.name ++
      " elements, its size overflows" ++ f.trace.closing
  | .foreignBlock block owner engine =>
    block.text ++ " belongs to " ++ owner.text ++ " and can't be freed by " ++ engine.text ++ f.trace.closing
  | .policy e => "An allocation policy error happened\nCaused by:\n  " ++ e.message f.trace
  | .ledger e => "A memory bookkeeping error happened\nCaused by:\n  " ++ e.message f.trace
  | .importing e => "An import error happened\nCaused by:\n  " ++ e.message
  | .backend e => "A backend error happened\nCaused by:\n  " ++ e.message

end DeviceMemory
