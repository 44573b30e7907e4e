import DeviceMemory.Session.Step
import DeviceMemory.Traffic

/-!
# Running a session

`Session.perform` takes one step. A name that is used again stands for the new
engine or block; what it stood for before is forgotten but not given back.
-/

namespace DeviceMemory

/-- A session: a host, and names for its engines and blocks. -/
structure Session where
  /-- The host. -/
  host : Host ScriptedBackend := {}
  /-- The names of engines. -/
  engines : List (String × EngineId) := []
  /-- The names of blocks. -/
  blocks : List (String × Session.Memory) := []
  /-- How often several threads were let loose. -/
  batches : Nat := 0

namespace Session

/-! ### Names -/

/-- The session with a name for an engine. -/
def nameEngine (s : Session) (name : String) (id : EngineId) : Session :=
  { s with engines := (name, id) :: s.engines }

/-- The session without the block of a name. -/
def forget (s : Session) (name : String) : Session :=
  { s with blocks := s.blocks.filter fun b => b.1 ≠ name }

/-- The session with a name for a block. -/
def nameBlock (s : Session) (name : String) (b : Memory) : Session :=
  let s := s.forget name
  { s with blocks := (name, b) :: s.blocks }

/-- The engine of a name, with its id. -/
def findEngine (s : Session) (name : String) : Option (EngineId × Engine ScriptedBackend) :=
  (s.engines.lookup name).bind fun id => (s.host.engine? id).map fun e => (id, e)

/-! ### What is told about a step -/

/-- A call to the backend as it is told. -/
def describeCall : Deed ScriptedResource → Option String
  | .asked r answer =>
    let asked := "allocate " ++ r.placement.name ++ " " ++ toString r.size ++ " reset=" ++ toString r.zeroed
    match answer with
    | .ok resource => some (asked ++ " resource=" ++ toString resource.number)
    | .error _ => some (asked ++ " failed")
  | .released holding => some ("deallocate resource=" ++ toString holding.resource.number)
  | _ => none

/-- What a step came to, before the usage of its engine is added. -/
structure Report where
  /-- The session afterwards. -/
  session : Session
  /-- What the step came to. -/
  outcome : Outcome
  /-- What left the process. -/
  outputs : List Output := []
  /-- The calls that reached the backend. -/
  calls : List String := []

/-- The usage of the engine of a name. -/
def usage (s : Session) (name : String) : Option Usage :=
  (s.findEngine name).map fun e => ⟨e.2.ledger, e.2.backend.inUse⟩

/-! ### Calls -/

/-- Makes a call on an engine and names the block that it makes. -/
def makeCall (s : Session) (thread : ThreadId) (id : EngineId) (name : String)
    (request : Call ScriptedResource) : Report :=
  match s.host.call? thread id request with
  | none => ⟨s, .noEngine, [], []⟩
  | some (reply, host, deeds) =>
    let s := { s with host }
    let outputs := deeds.filterMap Deed.output?
    let calls := deeds.filterMap describeCall
    match reply with
    | .made b => ⟨s.nameBlock name b, .block b, outputs, calls⟩
    | .freed => ⟨s, .done, outputs, calls⟩
    | .failed f => ⟨s, .failed f, outputs, calls⟩

/-- Whether something that left the process is a record. -/
def isRecord : Output → Bool
  | .record _ => true
  | _ => false

/-- The name of a block that a worker makes: its number, the number of the round, and the policy. -/
def workerName (worker round : Nat) (p : Policy) : String :=
  toString worker ++ "." ++ toString round ++ "." ++ p.name

/-- The moves of one worker that allocates by both policies, `count` times each. -/
def allocations (s : Session) (id : EngineId) (count : Nat) (layout : Layout) (worker : Nat) :
    List (Move ScriptedBackend ScriptedResource) :=
  let thread := ThreadId.worker s.batches worker
  let one (p : Policy) (round : Nat) (request : Call ScriptedResource) :
      List (Move ScriptedBackend ScriptedResource) :=
    .call thread id (workerName worker round p) request :: Move.toEnd thread
  (List.range count).flatMap fun round =>
    one .general round (.allocate layout false) ++ one .lockable round (.allocateLockable layout)

/-- The moves of one worker that gives back all it has allocated. -/
def returns (s : Session) (id : EngineId) (count worker : Nat) :
    List (Move ScriptedBackend ScriptedResource) :=
  let thread := ThreadId.worker s.batches worker
  let one (p : Policy) (round : Nat) : List (Move ScriptedBackend ScriptedResource) :=
    .giveBack thread id (workerName worker round p) :: Move.toEnd thread
  (List.range count).flatMap fun round => one .general round ++ one .lockable round

/-- Lets new threads allocate by both policies, and then give everything back. Of what left the
process, only the texts are told. -/
def runConcurrent (s : Session) (id : EngineId) (threads count : Nat) (layout : Layout) : Report :=
  let start : Traffic ScriptedBackend ScriptedResource := { host := s.host }
  let moves := (List.range threads).flatMap (s.allocations id count layout) ++
    (List.range threads).flatMap (s.returns id count)
  let done := start.run moves
  ⟨{ s with host := done.host, batches := s.batches + 1 }, .done, done.outputs.filter (!isRecord ·), []⟩

/-! ### Engines -/

/-- Names the engine that was made on a device. -/
def engineMade (s : Session) (name : String) (made : Except Failure EngineId) (outputs : List Output) :
    Report :=
  match made with
  | .error f => ⟨s, .failed f, outputs, []⟩
  | .ok id =>
    match s.host.engine? id with
    | none => ⟨s, .noEngine, outputs, []⟩
    | some e => ⟨s.nameEngine name id, .engine id e.device.id, outputs, []⟩

/-- Makes an engine under given settings. -/
def create (s : Session) (name : String) (settings : Settings) (backend : ScriptedBackend) : Choice → Report
  | .given device =>
    let (id, host, outputs) := s.host.makeEngine device backend settings
    { s with host }.engineMade name (.ok id) outputs
  | .among target devices selector =>
    let (made, host, outputs) := s.host.makeEngineAmong target devices selector backend settings
    { s with host }.engineMade name made outputs

/-- Makes an engine under the settings of the process. -/
def createUnderSettings (s : Session) (name : String) (backend : ScriptedBackend) (target : Host.Target)
    (devices : Devices) (selector : Option Selector) : Report :=
  let (settings, host, found) := s.host.readSettings
  let selector := selector.getD (Host.selectorOf settings)
  let (made, host, outputs) := host.makeEngineUnderSettings target devices selector backend
  { s with host }.engineMade name made (found ++ outputs)

/-- Whether a policy failed. -/
def isRefusal : Except PolicyError Placement → Bool
  | .error _ => true
  | .ok _ => false

/-- Tells the facts about an engine. -/
def tellFacts (s : Session) (id : EngineId) (e : Engine ScriptedBackend) : Report :=
  let general := [e.choose .general false, e.choose .general true]
  let lockable := [e.choose .lockable false, e.choose .lockable true]
  let facts : EngineFacts := ⟨id, e.device, e.availability, general, lockable, .absent⟩
  if (general ++ lockable).any isRefusal then
    let (trace, commons) := s.host.commons.capture
    ⟨{ s with host := { s.host with commons } }, .facts { facts with trace }, [], []⟩
  else ⟨s, .facts facts, [], []⟩

/-! ### Steps -/

/-- What a step does that needs an engine. -/
def performOn (s : Session) (step : Step) (id : EngineId) (e : Engine ScriptedBackend) : Report :=
  let thread := ThreadId.numbered step.thread
  match step.action with
  | .info => s.tellFacts id e
  | .allocate name layout zeroed => s.makeCall thread id name (.allocate layout zeroed)
  | .allocateLockable name layout => s.makeCall thread id name (.allocateLockable layout)
  | .allocateAs name layout placement zeroed => s.makeCall thread id name (.allocateAs layout placement zeroed)
  | .share name layout wrap raw =>
    match Handle.ofRaw .native raw with
    | .error err => ⟨s, .noHandle err, [], []⟩
    | .ok handle => s.makeCall thread id name (.share layout (wrap handle))
  | .attach name layout raw => s.makeCall thread id name (.attach layout raw)
  | .free name =>
    match s.blocks.lookup name with
    | none => ⟨s, .noBlock, [], []⟩
    | some b => (s.forget name).makeCall thread id name (.free b)
  | .concurrent threads count layout => s.runConcurrent id threads count layout
  | .engineLimit =>
    let (n, host, outputs) := s.host.readLimit e.device.totalMemory
    ⟨{ s with host }, .limit (some n), outputs, []⟩
  | _ => ⟨s, .done, [], []⟩

/-- A step that needs an engine, if there is one of the name. -/
def performOnNamed (s : Session) (step : Step) : Report :=
  match step.engine.bind s.findEngine with
  | none => ⟨s, .noEngine, [], []⟩
  | some (id, e) => s.performOn step id e

/-- The name of an engine that the step makes; without a name of its own it is the empty one. -/
def Step.newName (step : Step) : String := step.engine.getD ""

/-- The environment with a variable set or unset. -/
def changeVariable (e : Environment) (v : String × Option ByteArray) : Environment :=
  match v.2 with
  | some value => e.set v.1 value
  | none => e.unset v.1

/-- What a step does. -/
def act (s : Session) (step : Step) : Report :=
  match step.action with
  | .create settings backend choice => s.create step.newName settings backend choice
  | .createUnderSettings backend target devices selector =>
    s.createUnderSettings step.newName backend target devices selector
  | .stream =>
    let (stream, commons) := s.host.commons.streamOf (.numbered step.thread)
    ⟨{ s with host := { s.host with commons } }, .stream stream, [], []⟩
  | .drop name =>
    match s.blocks.lookup name with
    | none => ⟨s, .noBlock, [], []⟩
    | some b => ⟨s.forget name, .block b, [], []⟩
  | .inspect name =>
    match s.blocks.lookup name with
    | none => ⟨s, .noBlock, [], []⟩
    | some b => ⟨s, .block b, [], []⟩
  | .showFile path =>
    ⟨s, .contents (s.host.commons.files.read? s.host.commons.directory path), [], []⟩
  | .replaceFile path text =>
    let commons := s.host.commons
    let files := commons.files.put (Files.placeOf commons.directory path) text.toUTF8
    ⟨{ s with host := { s.host with commons := { commons with files } } }, .done, [], []⟩
  | .readSettings =>
    let (settings, host, outputs) := s.host.readSettings
    ⟨{ s with host }, .settings settings, outputs, []⟩
  | .giveSettings settings =>
    match s.host.giveSettings settings with
    | none => ⟨s, .settingsFixed, [], []⟩
    | some host => ⟨{ s with host }, .done, [], []⟩
  | .readSelector =>
    let (settings, host, outputs) := s.host.readSettings
    ⟨{ s with host }, .selector (Host.selectorOf settings), outputs, []⟩
  | .setEnvironment changes =>
    let commons := s.host.commons
    let environment := changes.foldl changeVariable commons.environment
    ⟨{ s with host := { s.host with commons := { commons with environment } } }, .done, [], []⟩
  | .limit => ⟨s, .limit s.host.limit, [], []⟩
  | .readLimit deviceMemory =>
    let (n, host, outputs) := s.host.readLimit deviceMemory
    ⟨{ s with host }, .limit (some n), outputs, []⟩
  | .backtrace =>
    let (trace, commons) := s.host.commons.capture
    ⟨{ s with host := { s.host with commons } }, .backtrace trace, [], []⟩
  | _ => s.performOnNamed step

/-- One step of a session, with its answer. -/
def perform (s : Session) (step : Step) : Session × Answer :=
  let r := s.act step
  (r.session, ⟨r.outcome, r.outputs, r.calls, step.engine.bind r.session.usage⟩)

/-- The answers to the steps of a session. -/
def answers (s : Session) : List Step → List Answer
  | [] => []
  | step :: rest =>
    let (s, answer) := s.perform step
    answer :: s.answers rest

end Session

end DeviceMemory
