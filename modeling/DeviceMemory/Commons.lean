import DeviceMemory.Backtrace
import DeviceMemory.Block
import DeviceMemory.Environment
import DeviceMemory.Files

/-!
# What engines share

The engines of a process draw the ids of their blocks from one counter and the
numbers of their streams from another, write to the same files, and record
stacks or not by one decision, made the first time it matters.

The counters have no limit here. In a process they are words, and the last value is
an error; no process lives long enough to draw it.

Streams are numbered from one in the order in which threads first ask, so
`streams` lists the threads that have asked, and the number of a thread is its
place in the list.
-/

namespace DeviceMemory

/-- A thread of the process. -/
inductive ThreadId
  /-- A thread that is told apart by a number. -/
  | numbered (n : Nat)
  /-- A thread that lives only for one piece of work. -/
  | worker (batch n : Nat)
  deriving DecidableEq, Repr

/-- What the engines of a process share. -/
structure Commons where
  /-- Blocks made so far. -/
  blocks : Nat := 0
  /-- The threads that have a stream number, in the order of the numbers. -/
  streams : List ThreadId := []
  /-- The files. -/
  files : Files := .initial
  /-- The working directory. -/
  directory : Location := []
  /-- The environment variables. -/
  environment : Environment := {}
  /-- Whether stacks are recorded, once that is decided. -/
  recording : Option Bool := none

namespace Commons

/-- The id for the next block. -/
def drawBlock (c : Commons) : BlockId × Commons := (⟨c.blocks⟩, { c with blocks := c.blocks + 1 })

/-- The stream of a thread, numbered now if it has not been before. -/
def streamOf (c : Commons) (t : ThreadId) : Stream × Commons :=
  match c.streams.idxOf? t with
  | some i => (⟨i + 1⟩, c)
  | none => (⟨c.streams.length + 1⟩, { c with streams := c.streams ++ [t] })

/-- Whether the environment wants stacks recorded. -/
def wantsStacks (e : Environment) : Bool :=
  match e.text? "RUST_LIB_BACKTRACE" with
  | some s => s ≠ "0"
  | none =>
    match e.text? "RUST_BACKTRACE" with
    | some s => s ≠ "0"
    | none => false

/-- The stack at this place, as far as stacks are recorded. -/
def capture (c : Commons) : Backtrace × Commons :=
  let wanted := c.recording.getD (wantsStacks c.environment)
  (if wanted then .recorded else .absent, { c with recording := some wanted })

end Commons

end DeviceMemory
