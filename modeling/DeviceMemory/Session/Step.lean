import DeviceMemory.Backend.Scripted
import DeviceMemory.Host

/-!
# Steps of a session and their answers

A session works on a host step by step, as several threads would take turns. It calls
engines and blocks by names of its own. A `Step` says which engine and which thread
it is about and what to do; its `Answer` holds the outcome, what left the process
meanwhile, the calls that reached the backend, and the usage of the engine
afterwards.
-/

namespace DeviceMemory.Session

/-- A block over the scripted backend. -/
abbrev Memory := Block ScriptedResource

/-- How the device for a new engine is found. -/
inductive Choice
  /-- It is given. -/
  | given (device : Device)
  /-- It is one of several that were enumerated. -/
  | among (target : Host.Target) (devices : Devices) (selector : Selector)

/-- What a step does. -/
inductive Action
  /-- Make an engine under given settings. -/
  | create (settings : Settings) (backend : ScriptedBackend) (choice : Choice)
  /-- Make an engine under the settings of the process; without a selector, the device is the one
  that the settings ask for. -/
  | createUnderSettings (backend : ScriptedBackend) (target : Host.Target) (devices : Devices)
      (selector : Option Selector)
  /-- Tell the facts about the engine. -/
  | info
  /-- Tell the usage of the engine. -/
  | state
  /-- Tell the stream of the thread. -/
  | stream
  /-- Allocate by the general policy. -/
  | allocate (block : String) (layout : Layout) (zeroed : Bool)
  /-- Allocate by the lockable policy. -/
  | allocateLockable (block : String) (layout : Layout)
  /-- Allocate with a placement. -/
  | allocateAs (block : String) (layout : Layout) (placement : Placement) (zeroed : Bool)
  /-- Import a resource with a given word; `wrap` says of what kind it is. -/
  | share (block : String) (layout : Layout) (wrap : Handle → SharedHandle) (raw : Nat)
  /-- Attach memory at an address. -/
  | attach (block : String) (layout : Layout) (raw : Nat)
  /-- Give a block back. -/
  | free (block : String)
  /-- Forget a block without giving it back. -/
  | drop (block : String)
  /-- Tell the facts about a block. -/
  | inspect (block : String)
  /-- Read a file. -/
  | showFile (path : String)
  /-- Write a file. -/
  | replaceFile (path : String) (text : String)
  /-- Let several threads allocate, and then give everything back. -/
  | concurrent (threads count : Nat) (layout : Layout)
  /-- Tell the settings of the process. -/
  | readSettings
  /-- Fix the settings of the process. -/
  | giveSettings (settings : Settings)
  /-- Tell the device that the settings ask for. -/
  | readSelector
  /-- Set environment variables, or unset those without a value. -/
  | setEnvironment (changes : List (String × Option ByteArray))
  /-- Tell the limit of memory, if it is fixed. -/
  | limit
  /-- Fix the limit of memory for a device of some size. -/
  | readLimit (deviceMemory : Nat)
  /-- Fix the limit of memory for the device of the engine. -/
  | engineLimit
  /-- Record the stack. -/
  | backtrace

/-- A step of a session. -/
structure Step where
  /-- The name of the engine that the step is about, if it is about one. -/
  engine : Option String
  /-- The number of the thread that takes the step. -/
  thread : Nat
  /-- What the step does. -/
  action : Action

/-- The facts about an engine. -/
structure EngineFacts where
  /-- Its id. -/
  id : EngineId
  /-- Its device. -/
  device : Device
  /-- What can be requested on it. -/
  availability : Availability
  /-- The placement of the general policy, for buffers and for images. -/
  general : List (Except PolicyError Placement)
  /-- The placement of the lockable policy, for buffers and for images. -/
  lockable : List (Except PolicyError Placement)
  /-- The stack, as far as a policy failed. -/
  trace : Backtrace

/-- What a step came to. -/
inductive Outcome
  /-- It is done. -/
  | done
  /-- An engine was made on the device with some id. -/
  | engine (id : EngineId) (device : String)
  /-- The facts about an engine. -/
  | facts (f : EngineFacts)
  /-- A stream. -/
  | stream (s : Stream)
  /-- A block. -/
  | block (b : Memory)
  /-- The bytes of a file, if there is one. -/
  | contents (bytes : Option ByteArray)
  /-- Settings. -/
  | settings (s : Settings)
  /-- A selector. -/
  | selector (s : Selector)
  /-- A limit, if it is fixed. -/
  | limit (bytes : Option Nat)
  /-- A stack. -/
  | backtrace (trace : Backtrace)
  /-- A call failed. -/
  | failed (f : Failure)
  /-- A word is no handle. -/
  | noHandle (e : ImportError)
  /-- The settings were fixed before. -/
  | settingsFixed
  /-- There is no engine of that name. -/
  | noEngine
  /-- There is no block of that name. -/
  | noBlock

/-- The usage of an engine. -/
structure Usage where
  /-- The ledger. -/
  ledger : Ledger
  /-- The bytes that the backend has handed out. -/
  inUse : Nat

/-- The answer to a step. -/
structure Answer where
  /-- What the step came to. -/
  outcome : Outcome
  /-- What left the process. -/
  outputs : List Output
  /-- The calls that reached the backend. -/
  calls : List String
  /-- The usage of the engine, if the step names one that exists. -/
  usage : Option Usage

end DeviceMemory.Session
