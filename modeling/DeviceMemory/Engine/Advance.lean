import DeviceMemory.Engine.Nature

/-!
# What a step of a call comes to

`Engine.Advances` lists what a step can come to in each stage of a call, each with the condition under which it
does: the engine and what engines share afterwards, the stage in which the call goes on, and the deeds. It is the
inversion of `Engine.advance` (`Engine.advances`): what all steps preserve is shown by cases on it.

Records that a step leaves are not told exactly.
-/

namespace DeviceMemory

variable {β ρ : Type}

/-! ### Failing -/

/-- The stack that comes with a cause, and what engines share when it was taken: by then it is decided
whether stacks are recorded. -/
def Commons.traced (c : Commons) (cause : Cause) : Backtrace × Commons :=
  if cause.isTraced then c.capture else (.absent, c)

section Traced

variable (c : Commons) (cause : Cause)

@[simp] theorem Commons.blocks_traced : (c.traced cause).2.blocks = c.blocks := by
  unfold traced
  split <;> rfl

@[simp] theorem Commons.streams_traced : (c.traced cause).2.streams = c.streams := by
  unfold traced
  split <;> rfl

@[simp] theorem Commons.files_traced : (c.traced cause).2.files = c.files := by
  unfold traced
  split <;> rfl

theorem Engine.fail_eq (e : Engine β) (release : Option (Holding ρ)) (ds : List (Deed ρ)) :
    e.fail c release cause ds =
      ⟨e, (c.traced cause).2, .closing release (.failed ⟨cause, (c.traced cause).1⟩), ds⟩ := by
  unfold fail Commons.traced
  split <;> rfl

end Traced

/-! ### Steps -/

/-- The block that is made from a plan. -/
def Plan.block (plan : Plan ρ) (id : BlockId) (engine : EngineId) (stream : Stream) : Block ρ :=
  ⟨id, engine, stream, plan.layout, plan.size, plan.origin⟩

variable [Backend β ρ]

/-- **What a step of a call comes to**, in each stage. -/
inductive Engine.Advances (thread : ThreadId) (e : Engine β) (c : Commons) : Stage ρ → Progress β ρ → Prop
  /-- The call is refused. -/
  | refused {call : Call ρ} {cause : Cause} {rs : List Record} (h : e.nature.refusal? call = some cause)
    (ho : e.nature.order? call = none) : Advances thread e c (.opening call)
      ⟨e, (c.traced cause).2, .closing none (.failed ⟨cause, (c.traced cause).1⟩), Deed.records rs⟩
  /-- The backend is to be asked. -/
  | ordered {call : Call ρ} {r : Request} {rs : List Record} (ho : e.nature.order? call = some r) :
    Advances thread e c (.opening call) ⟨e, c, .requesting r, Deed.records rs⟩
  /-- A block is to be made for a handle. -/
  | imported {layout : Layout} {handle : SharedHandle} {size : Nat} {rs : List Record}
    (ha : handle.admit layout = .ok size) : Advances thread e c (.opening (.share layout handle))
      ⟨e, c, .naming ⟨layout, size, .imported handle⟩, Deed.records rs⟩
  /-- A block is to be made at an address. -/
  | attached {layout : Layout} {raw : Nat} {handle : Handle} {size : Nat} {rs : List Record}
    (ha : admitPointer raw layout = .ok (handle, size)) : Advances thread e c (.opening (.attach layout raw))
      ⟨e, c, .naming ⟨layout, size, .attached handle⟩, Deed.records rs⟩
  /-- A block of the engine's own is given back. -/
  | owned {b : Block ρ} {rs : List Record} (hb : b.engine = e.id) :
    Advances thread e c (.opening (.free b)) ⟨e, c, .settling b, Deed.records rs⟩
  /-- The backend refuses memory. -/
  | denied {r : Request} {err : BackendError} {record : Record} (h : (Backend.allocate e.backend r).1 = .error err) :
    Advances thread e c (.requesting r)
      ⟨{ e with backend := (Backend.allocate e.backend r).2 }, c, .closing none (.failed ⟨.backend err, .absent⟩),
        [.asked r (.error err), .said (.record record)]⟩
  /-- The backend gives memory. -/
  | granted {r : Request} {resource : ρ} (h : (Backend.allocate e.backend r).1 = .ok resource) :
    Advances thread e c (.requesting r)
      ⟨{ e with backend := (Backend.allocate e.backend r).2 }, c, .crediting r resource, [.asked r (.ok resource)]⟩
  /-- The ledger refuses the bytes of memory of the backend. -/
  | overdrawn {r : Request} {resource : ρ} {err : LedgerError} {ledger : Ledger}
    (h : e.ledger.credit (.allocated r.placement) r.size = (.error err, ledger)) :
    Advances thread e c (.crediting r resource)
      ⟨{ e with ledger }, c.capture.2,
        .closing (some (r.holding resource)) (.failed ⟨.ledger err, c.capture.1⟩), [.refused (r.plan resource)]⟩
  /-- The ledger takes them. -/
  | credited {r : Request} {resource : ρ} {ledger : Ledger} {record : Record}
    (h : e.ledger.credit (.allocated r.placement) r.size = (.ok (), ledger)) :
    Advances thread e c (.crediting r resource)
      ⟨{ e with ledger }, c, .naming (r.plan resource), [.credited (r.plan resource), .said (.record record)]⟩
  /-- An id is drawn. -/
  | named {plan : Plan ρ} : Advances thread e c (.naming plan)
      ⟨e, c.drawBlock.2, .placing plan c.drawBlock.1, [.named c.drawBlock.1]⟩
  /-- A block is made in memory of the backend. -/
  | placed {plan : Plan ρ} {id : BlockId} {placement : Placement} {resource : ρ}
    (ho : plan.origin = .allocated placement resource) : Advances thread e c (.placing plan id)
      ⟨e, (c.streamOf thread).2,
        e.announce (entryOf .allocated (plan.block id e.id (c.streamOf thread).1) none) none
          (.made (plan.block id e.id (c.streamOf thread).1)), []⟩
  /-- A block is made for a handle. -/
  | placedShared {plan : Plan ρ} {id : BlockId} {handle : SharedHandle} (ho : plan.origin = .imported handle) :
    Advances thread e c (.placing plan id)
      ⟨e, (c.streamOf thread).2, .enrolling (plan.block id e.id (c.streamOf thread).1) handle, []⟩
  /-- A block is made at an address. -/
  | placedOutside {plan : Plan ρ} {id : BlockId} {handle : Handle} (ho : plan.origin = .attached handle) :
    Advances thread e c (.placing plan id)
      ⟨e, (c.streamOf thread).2,
        e.announce (entryOf .imported (plan.block id e.id (c.streamOf thread).1) none) none
          (.made (plan.block id e.id (c.streamOf thread).1)), []⟩
  /-- The ledger refuses the bytes of an imported block. -/
  | unenrolled {b : Block ρ} {handle : SharedHandle} {err : LedgerError} {ledger : Ledger}
    (h : e.ledger.credit .imported b.size = (.error err, ledger)) : Advances thread e c (.enrolling b handle)
      ⟨{ e with ledger }, c.capture.2, .closing none (.failed ⟨.ledger err, c.capture.1⟩), [.refused b.plan]⟩
  /-- The ledger takes them. -/
  | enrolled {b : Block ρ} {handle : SharedHandle} {ledger : Ledger} {record : Record}
    (h : e.ledger.credit .imported b.size = (.ok (), ledger)) : Advances thread e c (.enrolling b handle)
      ⟨{ e with ledger }, c, e.announce (entryOf .imported b none) none (.made b),
        [.credited b.plan, .said (.record record)]⟩
  /-- The bytes of an attached block are not counted. -/
  | uncounted {b : Block ρ} (hb : b.plan.account? = none) :
    Advances thread e c (.settling b) ⟨e, c, e.takeBack b .freed, []⟩
  /-- The ledger does not have the bytes of a block. -/
  | undebited {b : Block ρ} {a : Account} {err : LedgerError} {ledger : Ledger} (hb : b.plan.account? = some a)
    (h : e.ledger.debit a b.size = (.error err, ledger)) : Advances thread e c (.settling b)
      ⟨{ e with ledger }, c.capture.2, e.takeBack b (.failed ⟨.ledger err, c.capture.1⟩), []⟩
  /-- The ledger gives them up. -/
  | debited {b : Block ρ} {a : Account} {ledger : Ledger} (hb : b.plan.account? = some a)
    (h : e.ledger.debit a b.size = (.ok (), ledger)) :
    Advances thread e c (.settling b) ⟨{ e with ledger }, c, e.takeBack b .freed, [.debited b]⟩
  /-- The stream is found that gives a block back. -/
  | traced {b : Block ρ} {reply : Reply ρ} : Advances thread e c (.tracing b reply)
      ⟨e, (c.streamOf thread).2,
        e.announce (entryOf .freed b
          (if (c.streamOf thread).1 = b.stream then none else some (c.streamOf thread).1)) b.holding? reply, []⟩
  /-- The statistics are read. -/
  | surveyed {entry : Entry} {release : Option (Holding ρ)} {reply : Reply ρ} :
    Advances thread e c (.surveying entry release reply)
      ⟨e, c, .writing { entry with statistics := e.ledger.snapshot } release reply, []⟩
  /-- An entry is written to the log. -/
  | logged {entry : Entry} {release : Option (Holding ρ)} {reply : Reply ρ} :
    Advances thread e c (.writing entry release reply)
      ⟨{ e with logger := (e.logger.write c.files entry.text).2.1 },
        { c with files := (e.logger.write c.files entry.text).1 }, .closing release reply,
        .logged entry :: (e.logger.write c.files entry.text).2.2.map Deed.said⟩
  /-- Memory is given back to the backend. -/
  | released {holding : Holding ρ} {reply : Reply ρ} : Advances thread e c (.closing (some holding) reply)
      ⟨{ e with backend := Backend.release e.backend holding.resource }, c, .closing none reply, [.released holding]⟩
  /-- Nothing is left to be done. -/
  | closed {reply : Reply ρ} : Advances thread e c (.closing none reply) ⟨e, c, .closing none reply, []⟩

namespace Engine

variable (thread : ThreadId) (e : Engine β) (c : Commons)

theorem advances_begin (call : Call ρ) : e.Advances thread c (.opening call) (e.begin c call) := by
  obtain ⟨rs, hbegin⟩ := e.exists_begin_eq c call
  have hdecides := e.nature.decides call
  rw [hbegin]
  generalize e.nature.decision call = decision at hdecides
  cases hdecides with
  | refused h ho =>
    rw [comply, fail_eq]
    exact .refused h ho
  | ordered ho => exact .ordered ho
  | imported ha => exact .imported ha
  | attached ha => exact .attached ha
  | owned hb => exact .owned hb

/-- **Steps come to nothing else.** -/
theorem advances (s : Stage ρ) : e.Advances thread c s (e.advance thread c s) := by
  cases s with
  | opening call => exact e.advances_begin thread c call
  | requesting r =>
    simp only [advance]
    split
    · rename_i h
      rw [h]
      exact .denied h
    · rename_i h
      rw [h]
      exact .granted h
  | crediting r resource =>
    simp only [advance]
    split
    · exact .overdrawn ‹_›
    · exact .credited ‹_›
  | naming plan => exact .named
  | placing plan id =>
    simp only [advance]
    split
    · exact .placed ‹_›
    · exact .placedShared ‹_›
    · exact .placedOutside ‹_›
  | enrolling b handle =>
    simp only [advance]
    split
    · exact .unenrolled ‹_›
    · exact .enrolled ‹_›
  | settling b =>
    simp only [advance]
    split
    · exact .uncounted ‹_›
    · split
      · exact .undebited ‹_› ‹_›
      · exact .debited ‹_› ‹_›
  | tracing b reply => exact .traced
  | surveying entry release reply => exact .surveyed
  | writing entry release reply => exact .logged
  | closing release reply =>
    cases release with
    | none => exact .closed
    | some holding => exact .released

end Engine

end DeviceMemory
