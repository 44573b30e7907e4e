import DeviceMemory.Layout
import DeviceMemory.Placement

/-!
# Backends

A backend talks to the driver of a device. It is asked for memory with a `Request`,
which is only made for a layout whose size is a machine word, and answers with a
resource or a refusal; later the resource is given back. Nothing else is known
about backends: they are states of any type that these two operations change.
-/

namespace DeviceMemory

/-- A request to a backend. -/
structure Request where
  /-- The layout that memory is needed for. -/
  layout : Layout
  /-- Where the memory has to live. -/
  placement : Placement
  /-- Whether the memory has to be zeroed. -/
  zeroed : Bool
  /-- The size in bytes. -/
  size : Nat
  /-- The size is the size of the layout. -/
  fits : layout.byteSize? = some size
  deriving DecidableEq, Repr

theorem Request.size_le (r : Request) : r.size ≤ maxWord := Layout.byteSize?_le r.fits

/-- The request for a layout, if its size is a machine word. -/
def Request.ofLayout? (layout : Layout) (placement : Placement) (zeroed : Bool) : Option Request :=
  match h : layout.byteSize? with
  | some size => some ⟨layout, placement, zeroed, size, h⟩
  | none => none

/-- Why a backend refuses memory. -/
inductive BackendError
  /-- The device has not enough memory left. -/
  | outOfMemory (requested : Nat) (placement : Placement)
  /-- The backend cannot serve the placement. -/
  | unsupported (placement : Placement)
  /-- The driver failed, with a report of its own. -/
  | driver (report : String)
  deriving DecidableEq, Repr

/-- The message for the caller. -/
def BackendError.message : BackendError → String
  | outOfMemory requested placement =>
    "Out of device memory while allocating " ++ toString requested ++ " bytes of type " ++ placement.name
  | unsupported placement => "The backend can't allocate memory of type " ++ placement.name
  | driver report => "The driver failed to allocate memory\nCaused by:\n  " ++ report

/-- A backend with states `β` and resources `ρ`. -/
class Backend (β : Type) (ρ : outParam Type) where
  /-- The answer to a request, and the backend afterwards. -/
  allocate : β → Request → Except BackendError ρ × β
  /-- The backend after a resource was given back. -/
  release : β → ρ → β

end DeviceMemory
