import DeviceMemory.Proofs.Engine.Intake
import DeviceMemory.Proofs.Traffic.Atomicity

/-!
# What engines take in of others

In every state that threads can bring an engine to, a resource is imported just if it fits the layout, its plane
exists, the layout has a size, and there is room for the bytes among those imported; otherwise the first of these
that fails is reported. A pointer is attached just if it is not null and the layout has a size
(`Traffic.Reachable.takes_in`). The block has the size of the layout and is not owned. Of the ledger, only the count
of imported bytes changes, by the size of an imported block, and it changes back when the block is given
back.

While other threads work on the same engine, the room for an import is what there is at one moment of the call, when
its bytes are entered, which may be neither the room at its beginning nor that at its end.
-/

namespace DeviceMemory

variable {β ρ : Type}

/-! ### Imported bytes -/

/-- A ledger has some more bytes imported than another and tells the same of the memory that is owned. -/
structure Ledger.Gains (l : Ledger) (bytes : Nat) (l' : Ledger) : Prop where
  /-- The bytes are counted as imported. -/
  imported : l'.current .imported = l.current .imported + bytes
  /-- No placement has other bytes in use, -/
  current_eq (p : Placement) : l'.current (.allocated p) = l.current (.allocated p)
  /-- or another peak, -/
  peak_eq (p : Placement) : l'.peak (.allocated p) = l.peak (.allocated p)
  /-- nor have all together. -/
  peakTotal_eq : l'.peakTotal = l.peakTotal

theorem Ledger.gains_of_get? {l l' : Ledger} {bytes : Nat}
    (hi : l'.current .imported = l.current .imported + bytes)
    (ho : ∀ p, l'.get? (.allocated p) = l.get? (.allocated p)) : l.Gains bytes l' := by
  have hpeak (p : Placement) : l'.peak (.allocated p) = l.peak (.allocated p) := by
    rw [Ledger.peak, Ledger.balance, ho p]
    rfl
  exact {
    imported := hi
    current_eq := fun p => by
      rw [Ledger.current, Ledger.balance, ho p]
      rfl
    peak_eq := hpeak
    peakTotal_eq := by simp only [Ledger.peakTotal, hpeak] }

/-! ### How calls end -/

/-- A block of an engine with a layout that is neither allocated nor owned. -/
structure Block.IsTaken (b : Block ρ) (id : EngineId) (layout : Layout) : Prop where
  /-- It is the engine's. -/
  engine_eq : b.engine = id
  /-- It has the layout. -/
  layout_eq : b.layout = layout
  /-- Its size is the one of the layout, -/
  byteSize?_eq : layout.byteSize? = some b.size
  /-- which is exact. -/
  size_eq : b.size = layout.bytes
  /-- It has no placement. -/
  placement?_eq : b.origin.placement? = none
  /-- It is not owned. -/
  isOwned_eq : b.isOwned = false

theorem Block.isTaken_of_plan {b : Block ρ} {id : EngineId} {layout : Layout} {size : Nat} {origin : Origin ρ}
    (he : b.engine = id) (hp : b.plan = ⟨layout, size, origin⟩) (hs : layout.byteSize? = some size)
    (ho : origin.placement? = none) : b.IsTaken id layout ∧ b.origin = origin := by
  obtain ⟨rfl, rfl, rfl⟩ : b.layout = layout ∧ b.size = size ∧ b.origin = origin := by simpa [Block.plan] using hp
  refine ⟨⟨he, rfl, hs, Layout.eq_bytes_of_byteSize? hs, ho, ?_⟩, rfl⟩
  cases horigin : b.origin with
  | allocated p r => simp [horigin, Origin.placement?] at ho
  | imported | attached => simp [Block.isOwned, horigin, Origin.resource?]

/-- How a call ends that imports a resource, on an engine with `inUse` bytes imported. -/
structure SharedHandle.Imports (h : SharedHandle) (layout : Layout) (id : EngineId) (inUse : Nat)
    (reply : Reply ρ) : Prop where
  /-- A block is made just if the resource fits the layout, its plane exists, the layout has a size and there is room
  for it. -/
  made_iff : (∃ b, reply = .made b) ↔
    ((h.kind = .image ∨ h.kind = .surface) ↔ layout.isImage = true) ∧
    (∀ native plane, h = .surface native plane → plane < maxSurfacePlanes) ∧
    layout.byteSize?.isSome = true ∧ inUse + layout.bytes ≤ maxWord
  /-- Otherwise the call fails, -/
  ended : (∃ b, reply = .made b) ∨ ∃ f, reply = .failed f
  /-- for the first that speaks against it. -/
  failed {f : Failure} : reply = .failed f → (h.objections layout inUse).head? = some f.cause
  /-- The block has the resource for its origin. -/
  block {b : Block ρ} : reply = .made b → b.IsTaken id layout ∧ b.origin = .imported h

/-- How a call ends that attaches a pointer. -/
structure Attaches (raw : Nat) (layout : Layout) (id : EngineId) (reply : Reply ρ) : Prop where
  /-- A block is made just if the pointer is not null and the layout has a size. -/
  made_iff : (∃ b, reply = .made b) ↔ raw ≠ 0 ∧ layout.byteSize?.isSome = true
  /-- Otherwise the call fails, -/
  ended : (∃ b, reply = .made b) ∨ ∃ f, reply = .failed f
  /-- for the first that speaks against it. -/
  failed {f : Failure} : reply = .failed f → (pointerObjections raw layout).head? = some f.cause
  /-- The block has the pointer for its origin. -/
  block {b : Block ρ} : reply = .made b → b.IsTaken id layout ∧ ∃ h0 : raw ≠ 0, b.origin = .attached ⟨raw, h0⟩

namespace Takes

variable {n : Nature} {layout : Layout} {inUse : Nat} {reply : Reply ρ}

theorem imports {handle : SharedHandle} (h : Takes n (.share layout handle) inUse reply) :
    handle.Imports layout n.id inUse reply where
  made_iff := h.made_iff.trans SharedHandle.objections_eq_nil_iff
  ended := h.ended
  failed := h.failed
  block {b} hb := by
    obtain ⟨he, hp⟩ := h.block hb
    generalize hplan : b.plan = plan at hp
    cases hp with
    | imported ha =>
      exact Block.isTaken_of_plan he hplan (SharedHandle.checks_of_ok ha).2.2 rfl

theorem attaches {raw : Nat} (h : Takes n (.attach layout raw) inUse reply) : Attaches raw layout n.id reply where
  made_iff := h.made_iff.trans pointerObjections_eq_nil_iff
  ended := h.ended
  failed := h.failed
  block {b} hb := by
    obtain ⟨he, hp⟩ := h.block hb
    generalize hplan : b.plan = plan at hp
    cases hp with
    | @attached _ _ handle size ha =>
      obtain ⟨rfl, hs, -⟩ := pointerObjections_of_ok ha
      obtain ⟨htaken, horigin⟩ := Block.isTaken_of_plan he hplan hs rfl
      exact ⟨htaken, handle.raw_ne_zero, horigin⟩

end Takes

namespace Engine

variable [Backend β ρ] {e : Engine β} {thread : ThreadId} {c : Commons} {call : Call ρ} {b : Block ρ}

/-! ### What calls enter -/

/-- An import enters its bytes as imported and nothing else. -/
theorem gains_of_made (hi : call.isIntake = true) (h : e.replyTo thread c call = .made b)
    (ha : b.plan.account? = some .imported) : e.ledger.Gains b.size (e.run thread c call).engine.ledger := by
  have hget := (e.runs_run thread c (covers_of_isIntake hi)).get?_of_made (by rw [stage_run, h])
  apply Ledger.gains_of_get?
  · exact Ledger.current_of_get? ((hget .imported).trans (if_pos ha))
  · intro p
    rw [hget, if_neg (by simp [ha])]

/-- Nothing is entered for memory that is not counted. -/
theorem ledger_of_made (hi : call.isIntake = true) (h : e.replyTo thread c call = .made b)
    (ha : b.plan.account? = none) : (e.run thread c call).engine.ledger = e.ledger := by
  have hget := (e.runs_run thread c (covers_of_isIntake hi)).get?_of_made (by rw [stage_run, h])
  apply Ledger.ext_get?
  intro a
  rw [hget, if_neg (by simp [ha])]

/-- Nothing is entered for a call that fails. -/
theorem ledger_of_failed (hi : call.isIntake = true) {f : Failure} (h : e.replyTo thread c call = .failed f) :
    (e.run thread c call).engine.ledger = e.ledger :=
  ((e.runs_run thread c (covers_of_isIntake hi)).reverts (by rw [stage_run, h])).ledger_eq

/-- An imported block takes its bytes with it. -/
theorem gains_of_free (hc : e.Covers (.opening (.free b))) (hb : b.engine = e.id)
    (ha : b.plan.account? = some .imported) :
    (e.run thread c (.free b)).engine.ledger.Gains b.size e.ledger := by
  have hget := (e.runs_run thread c hc).get?_of_free hb (stage_run thread e c _)
  have hle := (hc b (.inl ⟨rfl, hb⟩) .imported ha).2
  apply Ledger.gains_of_get?
  · rw [Ledger.current_of_get? ((hget .imported).trans (if_pos ha))]
    exact (Nat.sub_add_cancel hle).symm
  · intro p
    rw [hget, if_neg (by simp [ha])]

/-- Memory that is not counted leaves no trace. -/
theorem ledger_of_free (hc : e.Covers (.opening (.free b))) (hb : b.engine = e.id)
    (ha : b.plan.account? = none) : (e.run thread c (.free b)).engine.ledger = e.ledger := by
  have hget := (e.runs_run thread c hc).get?_of_free hb (stage_run thread e c _)
  apply Ledger.ext_get?
  intro a
  rw [hget, if_neg (by simp [ha])]

theorem replyTo_free (hc : e.Covers (.opening (.free b))) (hb : b.engine = e.id) :
    e.replyTo thread c (.free b) = .freed := by
  have hcourse := (e.runs_run thread c hc).course
  rw [stage_run] at hcourse
  exact hcourse.reply_of_free hb

end Engine

namespace Traffic

/-! ### Reachable states -/

variable [Backend β ρ]

/-- A ledger that an engine had while a thread was making a call on it. -/
inductive Amid : Traffic β ρ → ThreadId → EngineId → Call ρ → Ledger → Prop
  /-- The thread is in the middle of the call. -/
  | now {t : Traffic β ρ} {x : Errand ρ} {e : Engine β} (h : t.Reachable) (hx : x ∈ t.errands)
    (he : t.host.engine? x.engine = some e) : Amid t x.thread x.engine x.request e.ledger
  /-- It was so before a move. -/
  | later {t : Traffic β ρ} {thread : ThreadId} {id : EngineId} {request : Call ρ} {l : Ledger}
    (h : Amid t thread id request l) (m : Move β ρ) : Amid (t.move m) thread id request l

/-- How an engine takes in memory of others and gives it up again, by calls that nothing interrupts if not said
otherwise. -/
structure TakesIn (t : Traffic β ρ) (id : EngineId) (e : Engine β) : Prop where
  /-- A resource is imported unless something speaks against it. -/
  share (thread : ThreadId) (layout : Layout) (handle : SharedHandle) :
    handle.Imports layout id (e.ledger.current .imported)
      (e.replyTo thread t.host.commons (.share layout handle))
  /-- Its bytes are then counted as imported, -/
  gains {thread : ThreadId} {layout : Layout} {handle : SharedHandle} {b : Block ρ} :
    e.replyTo thread t.host.commons (.share layout handle) = .made b →
    e.ledger.Gains b.size (e.run thread t.host.commons (.share layout handle)).engine.ledger
  /-- until the block is given back. -/
  returns (thread : ThreadId) {b : Block ρ} {handle : SharedHandle} : b ∈ t.blocks → b.engine = id →
    b.origin = .imported handle → e.replyTo thread t.host.commons (.free b) = .freed ∧
      (e.run thread t.host.commons (.free b)).engine.ledger.Gains b.size e.ledger
  /-- A pointer is attached unless something speaks against it, -/
  attach (thread : ThreadId) (layout : Layout) (raw : Nat) :
    Attaches raw layout id (e.replyTo thread t.host.commons (.attach layout raw))
  /-- and nothing is counted for it, -/
  uncounted {thread : ThreadId} {layout : Layout} {raw : Nat} {b : Block ρ} :
    e.replyTo thread t.host.commons (.attach layout raw) = .made b →
    (e.run thread t.host.commons (.attach layout raw)).engine.ledger = e.ledger
  /-- also when the block is given back. -/
  detach (thread : ThreadId) {b : Block ρ} {handle : Handle} : b ∈ t.blocks → b.engine = id →
    b.origin = .attached handle → e.replyTo thread t.host.commons (.free b) = .freed ∧
      (e.run thread t.host.commons (.free b)).engine.ledger = e.ledger
  /-- A call that fails changes nothing. -/
  fails {thread : ThreadId} {request : Call ρ} {f : Failure} : request.isIntake = true →
    e.replyTo thread t.host.commons request = .failed f →
    (e.run thread t.host.commons request).engine.ledger = e.ledger
  /-- While other threads go on, an import ends as it does with the bytes that were imported at one moment of the
  call. -/
  shared {thread : ThreadId} {layout : Layout} {handle : SharedHandle} {reply : Reply ρ} :
    .ended thread id (.share layout handle) reply ∈ t.trace →
    ∃ l, t.Amid thread id (.share layout handle) l ∧ handle.Imports layout id (l.current .imported) reply
  /-- A pointer is attached as if there were no others. -/
  attached {thread : ThreadId} {layout : Layout} {raw : Nat} {reply : Reply ρ} :
    .ended thread id (.attach layout raw) reply ∈ t.trace → Attaches raw layout id reply

/-- What is known of a call that takes in memory of others: its stage, and once its reply is settled that it has come
across some ledger. -/
def Knows (t : Traffic β ρ) (thread : ThreadId) (id : EngineId) (n : Nature) (request : Call ρ) (s : Stage ρ) : Prop :=
  request.isIntake = true → Taking n request (t.Amid thread id request) s ∧
    (s.outcome?.isSome = true → ∃ l, t.Amid thread id request l)

theorem Reachable.knows {t : Traffic β ρ} (h : t.Reachable) : ∀ j ∈ t.jobs, ∀ e,
    t.host.engine? j.engine = some e → t.Knows j.thread j.engine e.nature j.request j.stage := by
  induction h with
  | start host hh =>
    intro j hj
    simp [jobs, running, past, pastJobs] at hj
  | @move t m h ih =>
    refine h.sound.jobs_of_change (fun n j => t.Knows j.thread j.engine n j.request j.stage)
      (fun n j => (t.move m).Knows j.thread j.engine n j.request j.stage) (change_move _ m) ?_ ?_ ?_ ih
    · intro n j hs hi
      obtain ⟨htaking, hknown⟩ := hs hi
      refine ⟨htaking.mono fun l hl => hl.later m, fun ho => ?_⟩
      obtain ⟨l, hl⟩ := hknown ho
      exact ⟨l, hl.later m⟩
    · intro n thread id call hi
      exact ⟨.opening, fun ho => by cases ho⟩
    · intro x hx e he hs hi
      have hnow : (t.move m).Amid x.thread x.engine x.request e.ledger := (Amid.now h hx he).later m
      have htaking := (hs hi).1.mono fun l hl => hl.later m
      exact ⟨htaking.advance x.thread t.host.commons hi fun _ _ _ => hnow, fun _ => ⟨_, hnow⟩⟩

/-- How such a call has ended. -/
theorem Reachable.takes {t : Traffic β ρ} (h : t.Reachable) {thread : ThreadId} {id : EngineId} {request : Call ρ}
    {reply : Reply ρ} (hm : .ended thread id request reply ∈ t.trace) (hi : request.isIntake = true) :
    ∃ (n : Nature) (l : Ledger), n.id = id ∧ t.Amid thread id request l ∧
      Takes n request (l.current .imported) reply := by
  obtain ⟨ds, hj⟩ := exists_mem_pastJobs hm
  have hjob : (⟨thread, id, request, .closing none reply, ds⟩ : Job ρ) ∈ t.jobs := mem_jobs_of_past hj
  obtain ⟨e, he, -⟩ := h.sound.course _ hjob
  obtain ⟨htaking, hsome⟩ := h.knows _ hjob e he hi
  obtain ⟨l₀, h₀⟩ := hsome rfl
  obtain ⟨l, hl, htakes⟩ := htaking.takes hi l₀ h₀
  exact ⟨e.nature, l, h.sound.ids _ _ he, hl, htakes⟩

/-- **An engine takes in just the memory of others that nothing speaks against**, and counts what is imported
until it is given back. -/
theorem Reachable.takes_in {t : Traffic β ρ} (h : t.Reachable) {id : EngineId} {e : Engine β}
    (he : t.host.engine? id = some e) : t.TakesIn id e := by
  have hid : e.id = id := h.sound.ids _ _ he
  have hshare (thread : ThreadId) (layout : Layout) (handle : SharedHandle) :
      handle.Imports layout id (e.ledger.current .imported)
        (e.replyTo thread t.host.commons (.share layout handle)) :=
    hid ▸ (e.takes_run thread t.host.commons rfl).imports
  have hattach (thread : ThreadId) (layout : Layout) (raw : Nat) :
      Attaches raw layout id (e.replyTo thread t.host.commons (.attach layout raw)) :=
    hid ▸ (e.takes_run thread t.host.commons rfl).attaches
  exact {
    share := hshare
    gains := fun hmade => Engine.gains_of_made rfl hmade
      (by simp [Block.plan, Plan.account?, ((hshare _ _ _).block hmade).2])
    returns := fun thread b handle hb hbe ho => by
      have hc := h.sound.covers_held he hb
      have hown : b.engine = e.id := hbe.trans hid.symm
      exact ⟨Engine.replyTo_free hc hown,
        Engine.gains_of_free hc hown (by simp [Block.plan, Plan.account?, ho])⟩
    attach := hattach
    uncounted := fun hmade => by
      obtain ⟨-, _, ho⟩ := (hattach _ _ _).block hmade
      exact Engine.ledger_of_made rfl hmade (by simp [Block.plan, Plan.account?, ho])
    detach := fun thread b handle hb hbe ho => by
      have hc := h.sound.covers_held he hb
      have hown : b.engine = e.id := hbe.trans hid.symm
      exact ⟨Engine.replyTo_free hc hown,
        Engine.ledger_of_free hc hown (by simp [Block.plan, Plan.account?, ho])⟩
    fails := fun hi hf => Engine.ledger_of_failed hi hf
    shared := fun hm => by
      obtain ⟨n, l, rfl, hl, htakes⟩ := h.takes hm rfl
      exact ⟨l, hl, htakes.imports⟩
    attached := fun hm => by
      obtain ⟨n, l, rfl, -, htakes⟩ := h.takes hm rfl
      exact htakes.attaches }

/-! ### A buffer of somebody else -/

/-- One thread has imported a buffer of 24 bytes, and another has attached a pointer to as many. -/
def borrowing : Traffic ScriptedBackend ScriptedResource :=
  let device : Device := ⟨"0", "device", 1024, .plainBuffer, .ofList [.plainBuffer]⟩
  let layout : Layout := ⟨[2, 3], .f32, false⟩
  run { host := {} }
    ([.make device ({} : ScriptedBackend) {},
        .call (.numbered 0) ⟨0⟩ "a" (.share layout (.buffer ⟨4096, by decide⟩))] ++ Move.toEnd (.numbered 0) ++
      [.call (.numbered 1) ⟨0⟩ "b" (.attach layout 8192)] ++ Move.toEnd (.numbered 1))

/-- The buffer is the one block of 24 bytes that is counted, and when it is given back none is left. -/
theorem borrowing_takes_in :
    ∃ e b handle, borrowing.host.engine? ⟨0⟩ = some e ∧ borrowing.TakesIn ⟨0⟩ e ∧ b ∈ borrowing.blocks ∧
      b.origin = .imported handle ∧ b.size = 24 ∧ e.ledger.current .imported = 24 ∧
      (e.run (.numbered 1) borrowing.host.commons (.free b)).engine.ledger.current .imported = 0 := by
  have hreachable : borrowing.Reachable := (Reachable.start _ rfl).run _
  have htakes : borrowing.TakesIn ⟨0⟩ _ := hreachable.takes_in rfl
  have hb : _ ∈ borrowing.blocks := List.mem_cons_of_mem _ List.mem_cons_self
  refine ⟨_, _, .buffer ⟨4096, by decide⟩, rfl, htakes, hb, rfl, rfl, rfl, ?_⟩
  exact (Nat.add_right_cancel (htakes.returns (.numbered 1) hb rfl rfl).2.imported).symm

end Traffic

end DeviceMemory
