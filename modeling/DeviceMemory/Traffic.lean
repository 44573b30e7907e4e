import DeviceMemory.Host

/-!
# Several threads at once

A host whose engines are called by several threads. A thread makes one call at a time, and a call
is a sequence of steps; between two steps of one thread, any other thread may take steps of its
own. `Traffic.move` says what a single `Move` changes. A move that is not possible changes
nothing, so every list of moves is a run, and every order in which threads can take turns is
such a list.

## The model

* `Errand` is a call that a thread is in the middle of.
* `Move` is what may happen next: a thread begins a call, or takes the next step of it, or asks for
  its stream; a block is dropped; an engine is made.
* `Happening` is what a move adds to the trace.
* `Traffic` is the host with the errands, with the blocks that the program around it holds, and with
  the trace of all that has happened. Blocks are held by name, and a block that is given
  back is held no longer, so it is given back at most once.
-/

namespace DeviceMemory

/-! ### What may happen -/

/-- A call that a thread is in the middle of. -/
structure Errand (ρ : Type) where
  /-- The thread. -/
  thread : ThreadId
  /-- The engine that is called. -/
  engine : EngineId
  /-- The name for the block, if one is made. -/
  name : String
  /-- What was asked for. -/
  request : Call ρ
  /-- What remains to be done. -/
  stage : Stage ρ

/-- What may happen next. -/
inductive Move (β ρ : Type)
  /-- An engine is made on a device. -/
  | make (device : Device) (backend : β) (settings : Settings)
  /-- An engine is made on one of the devices that were enumerated, if there is any. -/
  | makeAmong (target : Host.Target) (devices : Devices) (selector : Selector) (backend : β)
      (settings : Settings)
  /-- A thread asks for its stream. -/
  | stream (thread : ThreadId)
  /-- A thread begins a call that may make a block. -/
  | call (thread : ThreadId) (engine : EngineId) (name : String) (request : Call ρ)
  /-- A thread begins to give the block of a name back to an engine. -/
  | giveBack (thread : ThreadId) (engine : EngineId) (name : String)
  /-- A thread takes the next step of its call; after the last one, it takes the reply. -/
  | step (thread : ThreadId)
  /-- The block of a name is forgotten and not given back. -/
  | drop (name : String)

/-- What a move adds to the trace. -/
inductive Happening (ρ : Type)
  /-- A call began. -/
  | began (thread : ThreadId) (engine : EngineId) (request : Call ρ)
  /-- A step of a call did something that others can see. -/
  | did (thread : ThreadId) (engine : EngineId) (deed : Deed ρ)
  /-- A call ended. -/
  | ended (thread : ThreadId) (engine : EngineId) (request : Call ρ) (reply : Reply ρ)
  /-- A thread was told its stream. -/
  | told (thread : ThreadId) (stream : Stream)
  /-- An engine was made, or none could be. -/
  | made (result : Except Failure EngineId)

/-- A host that threads are calling. -/
structure Traffic (β ρ : Type) where
  /-- The host. -/
  host : Host β
  /-- The calls in progress; no thread has two. -/
  errands : List (Errand ρ) := []
  /-- The blocks that are held, by name. -/
  held : List (String × Block ρ) := []
  /-- What has happened, the latest first. -/
  trace : List (Happening ρ) := []

/-- Whether a call gives a block back. -/
def Call.isFree {ρ : Type} : Call ρ → Bool
  | .free _ => true
  | _ => false

namespace Traffic

variable {β ρ : Type}

/-! ### Blocks that are held -/

/-- The blocks without the one of a name. -/
def without (name : String) (held : List (String × Block ρ)) : List (String × Block ρ) :=
  held.filter fun h => h.1 ≠ name

/-- The blocks with what a call made under a name; a block that had the name is forgotten. -/
def keep (name : String) (held : List (String × Block ρ)) : Reply ρ → List (String × Block ρ)
  | .made b => (name, b) :: without name held
  | .freed | .failed _ => held

/-! ### Moves -/

/-- The call that a thread is in the middle of. -/
def errandOf (t : Traffic β ρ) (thread : ThreadId) : Option (Errand ρ) :=
  t.errands.find? fun e => decide (e.thread = thread)

/-- Whether a thread can begin a call on an engine: it has none yet, and there is such an engine. -/
def canBegin (t : Traffic β ρ) (thread : ThreadId) (engine : EngineId) : Bool :=
  (t.errandOf thread).isNone && (t.host.engine? engine).isSome

/-- A thread begins a call. -/
def begin (t : Traffic β ρ) (thread : ThreadId) (engine : EngineId) (name : String) (request : Call ρ) :
    Traffic β ρ :=
  { t with
    errands := ⟨thread, engine, name, request, .opening request⟩ :: t.errands
    trace := .began thread engine request :: t.trace }

/-- A call ends with a reply. -/
def finish (t : Traffic β ρ) (e : Errand ρ) (reply : Reply ρ) : Traffic β ρ :=
  { t with
    errands := t.errands.filter fun other => other.thread ≠ e.thread
    held := keep e.name t.held reply
    trace := .ended e.thread e.engine e.request reply :: t.trace }

/-- A call goes on by one step. -/
def goOn [Backend β ρ] (t : Traffic β ρ) (e : Errand ρ) : Traffic β ρ :=
  let (host, stage, deeds) := t.host.advance e.thread e.engine e.stage
  { t with
    host := host
    errands := t.errands.map fun other => if other.thread = e.thread then { other with stage } else other
    trace := (deeds.map (Happening.did e.thread e.engine)).reverse ++ t.trace }

/-- What a move changes. -/
def move [Backend β ρ] (t : Traffic β ρ) : Move β ρ → Traffic β ρ
  | .make device backend settings =>
    let (id, host, _) := t.host.makeEngine device backend settings
    { t with host, trace := .made (.ok id) :: t.trace }
  | .makeAmong target devices selector backend settings =>
    let (result, host, _) := t.host.makeEngineAmong target devices selector backend settings
    { t with host, trace := .made result :: t.trace }
  | .stream thread =>
    let (stream, commons) := t.host.commons.streamOf thread
    { t with host := { t.host with commons }, trace := .told thread stream :: t.trace }
  | .call thread engine name request =>
    if t.canBegin thread engine && !request.isFree then t.begin thread engine name request else t
  | .giveBack thread engine name =>
    match t.held.lookup name with
    | none => t
    | some b =>
      if t.canBegin thread engine then
        { t.begin thread engine name (.free b) with held := without name t.held }
      else t
  | .step thread =>
    match t.errandOf thread with
    | none => t
    | some e =>
      match e.stage.reply? with
      | some reply => t.finish e reply
      | none => t.goOn e
  | .drop name => { t with held := without name t.held }

/-- What a run of moves changes. -/
def run [Backend β ρ] (t : Traffic β ρ) (moves : List (Move β ρ)) : Traffic β ρ := moves.foldl move t

/-! ### Reading the trace -/

/-- What left the process, the earliest first. -/
def outputs (t : Traffic β ρ) : List Output :=
  t.trace.reverse.filterMap fun
    | .did _ _ deed => deed.output?
    | _ => none

end Traffic

/-- The steps that take a thread to the end of a call and to its reply. -/
def Move.toEnd {β ρ : Type} (thread : ThreadId) : List (Move β ρ) :=
  List.replicate (Stage.most + 1) (.step thread)

end DeviceMemory
