import DeviceMemory.Engine.Reply
import DeviceMemory.Settings.Discovery

/-!
# The process that hosts engines

A host has engines and what they share. Two facts about it are fixed the first time
that anybody needs them and never change after: its settings, which are found on
disk unless they are given before, and the limit of memory, which is the greater of
the memory of the host and of the first device.

Engines get their ids in the order in which they are made, so the id of an engine
is its place in the list.
-/

namespace DeviceMemory

/-- A process with engines over backends of states `β`. -/
structure Host (β : Type) where
  /-- The engines, in the order of their ids. -/
  engines : List (Engine β) := []
  /-- What the engines share. -/
  commons : Commons := {}
  /-- The settings, once they are fixed. -/
  settings : Option Settings := none
  /-- The limit of memory, once it is fixed. -/
  limit : Option Nat := none
  /-- Bytes of memory of the host. -/
  hostMemory : Nat := 0
  /-- How settings on disk are understood, and where the user keeps them. -/
  finder : Settings.Finder := {}

namespace Host

variable {β ρ : Type}

/-! ### Facts that are fixed once -/

/-- The settings, found now if they are not fixed yet. -/
def readSettings (h : Host β) : Settings × Host β × List Output :=
  match h.settings with
  | some s => (s, h, [])
  | none =>
    let found := Settings.discover h.finder h.commons.files h.commons.directory h.commons.environment
    (found.1, { h with settings := some found.1 }, found.2)

/-- The host with settings given, unless they are fixed already. -/
def giveSettings (h : Host β) (s : Settings) : Option (Host β) :=
  match h.settings with
  | some _ => none
  | none => some { h with settings := some s }

/-- What is said when settings are given that are fixed already. -/
def settingsFixedMessage : String := "Cannot set the global configuration multiple times."

/-- The device that the settings ask for. -/
def selectorOf (s : Settings) : Selector :=
  match s.device.id with
  | some id => .key id
  | none => .first

/-- The limit of memory, fixed now by a device if it is not fixed yet. -/
def readLimit (h : Host β) (deviceMemory : Nat) : Nat × Host β × List Output :=
  match h.limit with
  | some n => (n, h, [])
  | none =>
    let n := max deviceMemory h.hostMemory
    (n, { h with limit := some n },
      [.record ⟨.debug, "Max memory size initialized to " ++ toString n ++ " bytes (device " ++
        toString deviceMemory ++ ", host " ++ toString h.hostMemory ++ ")"⟩])

/-! ### Making engines -/

/-- Makes an engine on a device. -/
def makeEngine (h : Host β) (device : Device) (backend : β) (s : Settings) :
    EngineId × Host β × List Output :=
  let (_, h, limitOut) := h.readLimit device.totalMemory
  let (files, logger, logOut) := Logger.ofSettings h.commons.files h.commons.directory s.memory.logger
  let id : EngineId := ⟨h.engines.length⟩
  let engine := Engine.new id device backend s.memory logger
  (id, { h with engines := h.engines ++ [engine], commons := { h.commons with files } },
    .record ⟨.info, "Selected device: " ++ device.name⟩ :: limitOut ++ logOut)

/-- The names of what devices were enumerated for. -/
structure Target where
  /-- The backend. -/
  backend : String
  /-- The runtime. -/
  runtime : String

/-- The warning about a device that is asked for and not there. -/
def missingDevice (k : String) : Output :=
  .warning ("Device " ++ k ++ " not found, falling back to the first device")

/-- Makes an engine on one of the devices that were enumerated. -/
def makeEngineAmong (h : Host β) (target : Target) (devices : Devices) (selector : Selector) (backend : β)
    (s : Settings) : Except Failure EngineId × Host β × List Output :=
  let warnings := ((devices.misses selector).map missingDevice).toList
  match devices.select selector with
  | some device =>
    let (id, h, out) := h.makeEngine device backend s
    (.ok id, h, warnings ++ out)
  | none =>
    let (trace, commons) := h.commons.capture
    (.error ⟨.noDevices target.backend target.runtime, trace⟩, { h with commons }, warnings)

/-- Makes an engine under the settings of the process. -/
def makeEngineUnderSettings (h : Host β) (target : Target) (devices : Devices) (selector : Selector)
    (backend : β) : Except Failure EngineId × Host β × List Output :=
  let (s, h, found) := h.readSettings
  let (r, h, out) := h.makeEngineAmong target devices selector backend s
  (r, h, found ++ out)

/-! ### Calls -/

/-- The engine with an id. -/
def engine? (h : Host β) (id : EngineId) : Option (Engine β) := h.engines[id.number]?

/-- The host with an engine replaced. -/
def setEngine (h : Host β) (id : EngineId) (e : Engine β) : Host β :=
  { h with engines := h.engines.set id.number e }

/-- The host after a step of a call on one of its engines. -/
def advance [Backend β ρ] (thread : ThreadId) (id : EngineId) (h : Host β) (s : Stage ρ) :
    Host β × Stage ρ × List (Deed ρ) :=
  match h.engine? id with
  | none => (h, s, [])
  | some e =>
    let p := e.advance thread h.commons s
    ({ h.setEngine id p.engine with commons := p.commons }, p.stage, p.deeds)

/-- The host after a whole call on one of its engines, with the reply and the deeds. -/
def call? [Backend β ρ] (thread : ThreadId) (id : EngineId) (request : Call ρ) (h : Host β) :
    Option (Reply ρ × Host β × List (Deed ρ)) :=
  (h.engine? id).map fun e =>
    let p := e.run thread h.commons request
    (e.replyTo thread h.commons request, { h.setEngine id p.engine with commons := p.commons }, p.deeds)

end Host

end DeviceMemory
