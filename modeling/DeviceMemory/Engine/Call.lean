import DeviceMemory.Engine.Stage

/-!
# The steps of a call

`Engine.advance` performs the next step of a stage, and `Engine.run` all steps of a
call, which is how a call goes when no other thread runs in between.

An allocation asks the backend first and credits the ledger second; if the credit is
refused, the resource is given back. To free a block, the ledger is debited first
and the resource given back last. The id and the stream of a block are drawn once
nothing but the credit of an import can fail any more.
-/

namespace DeviceMemory

namespace Engine

variable {β ρ : Type}

/-! ### Parts of steps -/

/-- A call that fails for `cause` after giving back memory, if there is any. -/
def fail (e : Engine β) (c : Commons) (release : Option (Holding ρ)) (cause : Cause) (deeds : List (Deed ρ)) :
    Progress β ρ :=
  if cause.isTraced then
    let (trace, c) := c.capture
    ⟨e, c, .closing release (.failed ⟨cause, trace⟩), deeds⟩
  else ⟨e, c, .closing release (.failed ⟨cause, .absent⟩), deeds⟩

/-- The call goes on to ask the backend, if the size of the layout is a machine word. -/
def request (e : Engine β) (c : Commons) (layout : Layout) (p : Placement) (zeroed : Bool)
    (deeds : List (Deed ρ)) : Progress β ρ :=
  match Request.ofLayout? layout p zeroed with
  | none => e.fail c none (.layoutTooLarge layout) deeds
  | some r => ⟨e, c, .requesting r, deeds⟩

/-- The call goes on with the placement that a policy chooses. -/
def requestBy (e : Engine β) (c : Commons) (policy : Policy) (layout : Layout) (zeroed : Bool) :
    Progress β ρ :=
  match e.choose policy layout.isImage with
  | .error err => e.fail c none (.policy err) []
  | .ok p =>
    e.request c layout p zeroed
      [.record .trace ("The " ++ policy.name ++ " policy resolved to " ++ p.name)]

/-- What the log tells about an event of a block, without statistics. -/
def entryOf (event : Event) (b : Block ρ) (freedFrom : Option Stream) : Entry where
  event := event
  maker := b.stream
  block := b.id
  placement := b.origin.placement?
  size := b.size
  shape := b.layout.shape
  freedFrom := freedFrom
  statistics := []

/-- The stage in which an event is logged, as far as this engine logs. -/
def announce (e : Engine β) (entry : Entry) (release : Option (Holding ρ)) (reply : Reply ρ) : Stage ρ :=
  match e.detail with
  | .disabled => .closing release reply
  | .basic => .writing entry release reply
  | .full => .surveying entry release reply

/-- The first step of a call: what can be decided from the call and from what is fixed about the
engine. -/
def begin (e : Engine β) (c : Commons) : Call ρ → Progress β ρ
  | .allocate layout zeroed => e.requestBy c .general layout zeroed
  | .allocateLockable layout => e.requestBy c .lockable layout false
  | .allocateAs layout p zeroed =>
    if e.availability.lockable p then e.request c layout p zeroed []
    else e.fail c none (.unsupported p e.device.name) []
  | .share layout handle =>
    match handle.admit layout with
    | .error err => e.fail c none (.importing err) []
    | .ok size => ⟨e, c, .naming ⟨layout, size, .imported handle⟩, []⟩
  | .attach layout raw =>
    match admitPointer raw layout with
    | .error err => e.fail c none (.importing err) []
    | .ok (handle, size) => ⟨e, c, .naming ⟨layout, size, .attached handle⟩, []⟩
  | .free b =>
    if b.engine = e.id then ⟨e, c, .settling b, []⟩
    else e.fail c none (.foreignBlock b.id b.engine e.id) []

/-- The stage after a block got its bytes off the books: to log, as far as this engine logs, and to
give its resource back. -/
def takeBack (e : Engine β) (b : Block ρ) (reply : Reply ρ) : Stage ρ :=
  if e.isLogging then .tracing b reply else .closing b.holding? reply

/-! ### Steps -/

/-- The next step of a call that `thread` is making. -/
def advance [Backend β ρ] (thread : ThreadId) (e : Engine β) (c : Commons) : Stage ρ → Progress β ρ
  | .opening call => e.begin c call
  | .requesting r =>
    let (answer, backend) := Backend.allocate e.backend r
    let e := { e with backend }
    match answer with
    | .error err =>
      e.fail c none (.backend err)
        [.asked r answer, .record .debug ("Allocation of " ++ toString r.size ++ " bytes of type " ++
          r.placement.name ++ " failed: " ++ err.message)]
    | .ok resource => ⟨e, c, .crediting r resource, [.asked r answer]⟩
  | .crediting r resource =>
    match e.ledger.credit (.allocated r.placement) r.size with
    | (.error err, ledger) =>
      { e with ledger }.fail c (some (r.holding resource)) (.ledger err) [.refused (r.plan resource)]
    | (.ok (), ledger) =>
      ⟨{ e with ledger }, c, .naming (r.plan resource),
        [.credited (r.plan resource),
          .record .debug ("Allocated " ++ toString r.size ++ " bytes of type " ++ r.placement.name)]⟩
  | .naming plan =>
    let (id, c) := c.drawBlock
    ⟨e, c, .placing plan id, [.named id]⟩
  | .placing plan id =>
    let (stream, c) := c.streamOf thread
    let b : Block ρ := ⟨id, e.id, stream, plan.layout, plan.size, plan.origin⟩
    match plan.origin with
    | .allocated _ _ => ⟨e, c, e.announce (entryOf .allocated b none) none (.made b), []⟩
    | .imported handle => ⟨e, c, .enrolling b handle, []⟩
    | .attached _ => ⟨e, c, e.announce (entryOf .imported b none) none (.made b), []⟩
  | .enrolling b handle =>
    match e.ledger.credit .imported b.size with
    | (.error err, ledger) => { e with ledger }.fail c none (.ledger err) [.refused b.plan]
    | (.ok (), ledger) =>
      ⟨{ e with ledger }, c, e.announce (entryOf .imported b none) none (.made b),
        [.credited b.plan,
          .record .trace ("Imported " ++ handle.kind.name ++ " handle " ++ handle.native.describe)]⟩
  | .settling b =>
    match b.plan.account? with
    | none => ⟨e, c, e.takeBack b .freed, []⟩
    | some a =>
      match e.ledger.debit a b.size with
      | (.error err, ledger) =>
        let (trace, c) := c.capture
        ⟨{ e with ledger }, c, e.takeBack b (.failed ⟨.ledger err, trace⟩), []⟩
      | (.ok (), ledger) => ⟨{ e with ledger }, c, e.takeBack b .freed, [.debited b]⟩
  | .tracing b reply =>
    let (stream, c) := c.streamOf thread
    let freedFrom := if stream = b.stream then none else some stream
    ⟨e, c, e.announce (entryOf .freed b freedFrom) b.holding? reply, []⟩
  | .surveying entry release reply =>
    ⟨e, c, .writing { entry with statistics := e.ledger.snapshot } release reply, []⟩
  | .writing entry release reply =>
    let (files, logger, out) := e.logger.write c.files entry.text
    ⟨{ e with logger }, { c with files }, .closing release reply, .logged entry :: out.map Deed.said⟩
  | .closing (some holding) reply =>
    ⟨{ e with backend := Backend.release e.backend holding.resource }, c, .closing none reply,
      [.released holding]⟩
  | .closing none reply => ⟨e, c, .closing none reply, []⟩

end Engine

namespace Progress

variable {β ρ : Type}

/-- The progress after one more step. -/
def next [Backend β ρ] (thread : ThreadId) (p : Progress β ρ) : Progress β ρ :=
  let q := p.engine.advance thread p.commons p.stage
  { q with deeds := p.deeds ++ q.deeds }

/-- The progress after `n` more steps. -/
def steps [Backend β ρ] (thread : ThreadId) : Nat → Progress β ρ → Progress β ρ
  | 0, p => p
  | n + 1, p => steps thread n (p.next thread)

end Progress

namespace Engine

variable {β ρ : Type}

/-- A call with no other thread in between, from its first step to its last. -/
def run [Backend β ρ] (thread : ThreadId) (e : Engine β) (c : Commons) (call : Call ρ) : Progress β ρ :=
  Progress.steps thread (Stage.opening call).remaining ⟨e, c, .opening call, []⟩

end Engine

end DeviceMemory
