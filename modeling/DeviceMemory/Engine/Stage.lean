import DeviceMemory.Engine

/-!
# Calls on an engine and their stages

Threads call an engine at the same time, and a call is not one step: between
asking the backend and entering the bytes into the ledger, any other thread may
run. A call is therefore a sequence of atomic steps, and what is left of one is
its `Stage`. Each step touches one shared thing: the backend, an account of the
ledger, a counter, or the log.

## The model

* `Call` is what a thread asks for, `Reply` how it ends.
* `Stage` is what remains to be done of a call; `Stage.closing none reply` is the end.
* `Deed` is what one step did that others can see.
* `Progress` is an engine in the middle of a call.
-/

namespace DeviceMemory

/-! ### Calls and replies -/

/-- What a thread asks of an engine; `ρ` are the resources of the backend. -/
inductive Call (ρ : Type)
  /-- Memory chosen by the general policy, zeroed if wanted. -/
  | allocate (layout : Layout) (zeroed : Bool)
  /-- Memory chosen by the lockable policy. -/
  | allocateLockable (layout : Layout)
  /-- Memory with a given placement, zeroed if wanted. -/
  | allocateAs (layout : Layout) (placement : Placement) (zeroed : Bool)
  /-- A block for a resource that others own. -/
  | share (layout : Layout) (handle : SharedHandle)
  /-- A block for memory at an address of the caller. -/
  | attach (layout : Layout) (raw : Nat)
  /-- To take a block back. -/
  | free (block : Block ρ)

/-- How a call ends. -/
inductive Reply (ρ : Type)
  /-- A block was made. -/
  | made (block : Block ρ)
  /-- The block was taken back. -/
  | freed
  /-- The call failed. -/
  | failed (f : Failure)

/-! ### Stages -/

/-- A block apart from its id and from who made it, as it is known before it has them. -/
structure Plan (ρ : Type) where
  /-- Its layout. -/
  layout : Layout
  /-- Its size in bytes. -/
  size : Nat
  /-- Where its memory comes from. -/
  origin : Origin ρ

namespace Plan

variable {ρ : Type}

/-- The account that the bytes are counted in, if they are. -/
def account? (p : Plan ρ) : Option Account :=
  match p.origin with
  | .allocated placement _ => some (.allocated placement)
  | .imported _ => some .imported
  | .attached _ => none

/-- What the backend is to get back, if the engine owns the memory. -/
def holding? (p : Plan ρ) : Option (Holding ρ) :=
  match p.origin with
  | .allocated placement r => some ⟨placement, p.size, r⟩
  | .imported _ | .attached _ => none

end Plan

/-- A block apart from its id and from who made it. -/
def Block.plan {ρ : Type} (b : Block ρ) : Plan ρ := ⟨b.layout, b.size, b.origin⟩

/-- The block to be made when a request is answered with a resource. -/
def Request.plan {ρ : Type} (r : Request) (resource : ρ) : Plan ρ :=
  ⟨r.layout, r.size, .allocated r.placement resource⟩

/-- What the backend has handed out when a request is answered with a resource. -/
def Request.holding {ρ : Type} (r : Request) (resource : ρ) : Holding ρ := ⟨r.placement, r.size, resource⟩

/-- What remains to be done of a call. -/
inductive Stage (ρ : Type)
  /-- Everything. -/
  | opening (call : Call ρ)
  /-- The backend has to be asked for memory. -/
  | requesting (request : Request)
  /-- The bytes of a resource have to be credited. -/
  | crediting (request : Request) (resource : ρ)
  /-- A block needs an id. -/
  | naming (plan : Plan ρ)
  /-- A block needs the stream of the thread. -/
  | placing (plan : Plan ρ) (id : BlockId)
  /-- The bytes of an imported block have to be credited. -/
  | enrolling (block : Block ρ) (handle : SharedHandle)
  /-- The bytes of a block have to be debited. -/
  | settling (block : Block ρ)
  /-- The log has to tell which stream gives a block back. -/
  | tracing (block : Block ρ) (reply : Reply ρ)
  /-- The statistics for an entry of the log have to be read. -/
  | surveying (entry : Entry) (release : Option (Holding ρ)) (reply : Reply ρ)
  /-- An entry has to be written to the log. -/
  | writing (entry : Entry) (release : Option (Holding ρ)) (reply : Reply ρ)
  /-- Memory has to be given back to the backend, if there is any; nothing else is left. -/
  | closing (release : Option (Holding ρ)) (reply : Reply ρ)

namespace Stage

variable {ρ : Type}

/-- The reply, once nothing is left to be done. -/
def reply? : Stage ρ → Option (Reply ρ)
  | closing none reply => some reply
  | _ => none

/-- The most steps that any call takes. -/
def most : Nat := 9

/-- The most steps that a stage may still take. -/
def remaining : Stage ρ → Nat
  | opening _ => most
  | requesting _ => 8
  | crediting _ _ => 7
  | naming _ => 6
  | placing _ _ => 5
  | enrolling _ _ => 4
  | settling _ => 5
  | tracing _ _ => 4
  | surveying _ _ _ => 3
  | writing _ _ _ => 2
  | closing (some _) _ => 1
  | closing none _ => 0

end Stage

/-! ### Deeds -/

/-- What a step did that others can see. -/
inductive Deed (ρ : Type)
  /-- Something left the process. -/
  | said (out : Output)
  /-- The backend was asked and answered. -/
  | asked (request : Request) (answer : Except BackendError ρ)
  /-- Memory was given back to the backend. -/
  | released (holding : Holding ρ)
  /-- The bytes of a block to be made were credited. -/
  | credited (plan : Plan ρ)
  /-- That credit was refused; memory of the backend has to be given back. -/
  | refused (plan : Plan ρ)
  /-- The bytes of a block were debited. -/
  | debited (block : Block ρ)
  /-- An id was drawn for a block. -/
  | named (id : BlockId)
  /-- An entry was written to the log. -/
  | logged (entry : Entry)

namespace Deed

variable {ρ : Type}

/-- A record as a deed. -/
def record (severity : Severity) (message : String) : Deed ρ := .said (.record ⟨severity, message⟩)

/-- What left the process, if anything did. -/
def output? : Deed ρ → Option Output
  | said out => some out
  | _ => none

end Deed

/-- An engine, what it shares, and what remains of a call, after a step that did some deeds. -/
structure Progress (β ρ : Type) where
  /-- The engine. -/
  engine : Engine β
  /-- What the engines share. -/
  commons : Commons
  /-- What remains of the call. -/
  stage : Stage ρ
  /-- What was done. -/
  deeds : List (Deed ρ) := []

end DeviceMemory
