import DeviceMemory.Availability
import DeviceMemory.Text.Quoted

/-!
# Devices

A device is a record made once, when devices are enumerated. Enumeration keys the
devices by text; `Devices.select` chooses the one for an engine: the one that is
asked for if there is such a key, and otherwise the one with the least key. Keys are
compared character by character, which is also the order of their bytes.
-/

namespace DeviceMemory

/-- A device as enumeration reports it. -/
structure Device where
  /-- The id that the device has itself. -/
  id : String
  /-- The name for people. -/
  name : String
  /-- Bytes of memory on the device. -/
  totalMemory : Nat
  /-- The placement to use where unified memory cannot be. -/
  defaultPlacement : Placement
  /-- The placements that the device serves. -/
  capabilities : Capabilities

/-- The static facts about a device, spelled out. -/
def Device.describe (d : Device) : String :=
  "DeviceInfo \x7b name: " ++ Text.quoted d.name ++ ", total_memory: " ++ toString d.totalMemory ++
    ", default_allocation_type: " ++ d.defaultPlacement.title ++ " \x7d"

/-- The devices that were enumerated, with their keys. -/
structure Devices where
  /-- Keys and devices; no key occurs twice. -/
  entries : List (String × Device) := []

/-- Which of the enumerated devices is wanted. -/
inductive Selector
  /-- The first one. -/
  | first
  /-- The one with a key, or else the first one. -/
  | key (k : String)
  deriving DecidableEq, Repr

namespace Devices

/-- The devices with one more; it replaces one with the same key. -/
def insert (d : Devices) (k : String) (device : Device) : Devices :=
  ⟨(k, device) :: d.entries.filter fun e => e.1 ≠ k⟩

/-- The devices of a list; of equal keys the last one counts. -/
def ofList (l : List (String × Device)) : Devices := l.foldl (fun d e => d.insert e.1 e.2) {}

/-- The device with a key. -/
def find? (d : Devices) (k : String) : Option Device := d.entries.lookup k

/-- Of two entries, the one with the lesser key. -/
def lesser (a b : String × Device) : String × Device := if b.1 < a.1 then b else a

/-- The entry with the least key. -/
def least? (d : Devices) : Option (String × Device) :=
  match d.entries with
  | [] => none
  | e :: rest => some (rest.foldl lesser e)

/-- The device for an engine, if there is any. -/
def select (d : Devices) : Selector → Option Device
  | .first => d.least?.map Prod.snd
  | .key k =>
    match d.find? k with
    | some device => some device
    | none => d.least?.map Prod.snd

/-- Whether a device is asked for that is not there. -/
def misses (d : Devices) : Selector → Option String
  | .first => none
  | .key k => if (d.find? k).isSome then none else some k

end Devices

end DeviceMemory
