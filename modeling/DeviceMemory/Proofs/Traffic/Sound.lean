import DeviceMemory.Backend.Scripted
import DeviceMemory.Proofs.Traffic.Changes

/-!
# What holds in every reachable state

`Sound` is the invariant of a process whose threads take turns in any order. It says of every call how
far it has come and what it has done, of every engine that its deeds are those of its calls and its
ledger what they enter, and of blocks that none is given back more often than it was made.

A step of a call follows its course only if the bytes of a block that is being freed are in use. That
is no property of one call: it follows from the balances of all calls together
(`Sound.exists_balance`), and so the invariant has to be used while it is being proved
(`Sound.covers`).
-/

namespace DeviceMemory

variable {β ρ : Type}

/-- The block that a call made, if it made one. -/
def Job.made? (j : Job ρ) : Option (Block ρ) := j.stage.reply?.bind Reply.block?

theorem Job.made?_of_stage {j : Job ρ} {reply : Reply ρ} (h : j.stage = .closing none reply) :
    j.made? = reply.block? := by
  rw [Job.made?, h]
  rfl

/-- The block that a call gives back, if it is one that does. -/
def Job.given? (j : Job ρ) : Option (Block ρ) := j.request.block?

namespace Traffic

/-- **What holds in every reachable state.** -/
structure Sound [Backend β ρ] (t : Traffic β ρ) : Prop where
  /-- An engine has the id under which it is found. -/
  ids (id : EngineId) (e : Engine β) : t.host.engine? id = some e → e.id = id
  /-- No thread makes two calls at once. -/
  threads : (t.errands.map Errand.thread).Nodup
  /-- Every call is one on an engine, and follows its course. -/
  course : ∀ j ∈ t.jobs, ∃ e, t.host.engine? j.engine = some e ∧
    Course e.nature j.request j.stage (Deed.effects j.deeds)
  /-- The deeds on an engine are those of the calls on it. -/
  deeds (id : EngineId) : (↑(t.deeds id) : Multiset (Deed ρ)) =
    (t.jobs.filter fun j => j.engine = id).bind fun j => ↑j.deeds
  /-- The ledger of an engine is what its deeds entered. -/
  ledger (id : EngineId) (e : Engine β) : t.host.engine? id = some e →
    Ledger.empty.enterAll? (t.deeds id) = some e.ledger
  /-- The backend of an engine was asked and given back what its deeds tell. -/
  served (id : EngineId) (e : Engine β) : t.host.engine? id = some e →
    ∃ start, Backend.Serves start (t.deeds id) e.backend
  /-- No block is given back or held more often than it was made. -/
  blocks : t.jobs.filterMap Job.given? + t.blocks ≤ t.past.filterMap Job.made?

/-! ### Sums over jobs -/

theorem filterMap_cons_toList {γ δ : Type} (f : γ → Option δ) (x : γ) (xs : Multiset γ) :
    (x ::ₘ xs).filterMap f = ↑(f x).toList + xs.filterMap f := by
  cases h : f x <;> simp [h]

/-- A reading of deeds that adds up and does not mind their order is summed call by call. -/
theorem reading_eq_sum {M : Type} [AddCommMonoid M] {f : List (Deed ρ) → M} (hnil : f [] = 0)
    (happ : ∀ ds ds', f (ds ++ ds') = f ds + f ds')
    (hperm : ∀ ds ds' : List (Deed ρ), (↑ds : Multiset (Deed ρ)) = ↑ds' → f ds = f ds') {ds : List (Deed ρ)}
    {js : Multiset (Job ρ)}
    (h : (↑ds : Multiset (Deed ρ)) = js.bind fun j => ↑j.deeds) :
    f ds = (js.map fun j => f j.deeds).sum := by
  induction js using Multiset.induction generalizing ds with
  | empty =>
    have hd : ds = [] := by simpa using h
    simp [hd, hnil]
  | cons j js ih =>
    obtain ⟨rest, hrest⟩ := Quot.exists_rep (js.bind fun j => (↑j.deeds : Multiset (Deed ρ)))
    have hds : (↑ds : Multiset (Deed ρ)) = ↑(j.deeds ++ rest) := by
      rw [h, Multiset.cons_bind, ← hrest]
      rfl
    rw [hperm _ _ hds, happ, Multiset.map_cons, Multiset.sum_cons, ih hrest]

/-- The assets of blocks that are complete. -/
def worths (bs : Multiset (Block ρ)) : Assets ρ := (bs.map fun b => b.plan.worth).sum

@[simp] theorem worths_zero : worths (0 : Multiset (Block ρ)) = 0 := rfl

@[simp] theorem worths_cons (b : Block ρ) (bs : Multiset (Block ρ)) :
    worths (b ::ₘ bs) = b.plan.worth + worths bs := by
  simp [worths]

@[simp] theorem worths_add (bs bs' : Multiset (Block ρ)) : worths (bs + bs') = worths bs + worths bs' := by
  simp [worths]

theorem even_worths (bs : Multiset (Block ρ)) : (worths bs).Even := by
  apply Assets.even_sum
  intro x hx
  obtain ⟨b, -, rfl⟩ := Multiset.mem_map.mp hx
  exact b.plan.even_worth

/-- What calls that have ended leave to the callers are the blocks that they made. -/
theorem sum_assets_of_ended (id : EngineId) {js : Multiset (Job ρ)}
    (hs : ∀ j ∈ js, ∃ reply, j.stage = .closing none reply)
    (hm : ∀ j ∈ js, ∀ b, j.made? = some b → b.engine = j.engine) :
    ((js.filter fun j => j.engine = id).map fun j => j.stage.assets id).sum =
      worths ((js.filterMap Job.made?).filter fun b => b.engine = id) := by
  induction js using Multiset.induction with
  | empty => rfl
  | cons j js ih =>
    have hrest := ih (fun j hj => hs j (Multiset.mem_cons_of_mem hj))
      fun j hj => hm j (Multiset.mem_cons_of_mem hj)
    obtain ⟨reply, hr⟩ := hs j (Multiset.mem_cons_self j js)
    have hmade := hm j (Multiset.mem_cons_self j js)
    have ha : j.stage.assets id = reply.worth := by rw [hr, Stage.assets_closing_none]
    have hj : j.made? = reply.block? := Job.made?_of_stage hr
    cases reply with
    | made b =>
      have hb : b.engine = j.engine := hmade b hj
      rw [Multiset.filterMap_cons_some _ _ _ hj]
      by_cases he : j.engine = id <;> simp [he, hb, hrest, ha, Reply.worth]
    | freed =>
      rw [Multiset.filterMap_cons_none _ _ hj]
      by_cases he : j.engine = id <;> simp [he, hrest, ha, Reply.worth]
    | failed f =>
      rw [Multiset.filterMap_cons_none _ _ hj]
      by_cases he : j.engine = id <;> simp [he, hrest, ha, Reply.worth]

/-- What calls are given are the blocks of their own engine among those that they give back. -/
theorem exists_sum_brings (id : EngineId) (js : Multiset (Job ρ)) :
    ∃ foreign, worths ((js.filterMap Job.given?).filter fun b => b.engine = id) =
      ((js.filter fun j => j.engine = id).map fun j => j.request.brings id).sum + worths foreign := by
  induction js using Multiset.induction with
  | empty => exact ⟨0, rfl⟩
  | cons j js ih =>
    obtain ⟨foreign, hf⟩ := ih
    cases hg : j.given? with
    | none =>
      have hb : j.request.brings id = 0 := Call.brings_of_block? hg id
      refine ⟨foreign, ?_⟩
      rw [Multiset.filterMap_cons_none _ _ hg, hf]
      by_cases he : j.engine = id <;> simp [he, hb]
    | some b =>
      have hj : j.request = .free b := Call.eq_free_of_block? hg
      rw [Multiset.filterMap_cons_some _ _ _ hg]
      by_cases hb : b.engine = id
      · by_cases he : j.engine = id
        · exact ⟨foreign, by simp [hb, he, hf, hj, Call.brings, add_assoc]⟩
        · exact ⟨b ::ₘ foreign, by simp [hb, he, hf, add_left_comm]⟩
      · refine ⟨foreign, ?_⟩
        by_cases he : j.engine = id <;> simp [hb, he, hf, hj, Call.brings]

/-! ### The balance of an engine -/

/-- What the calls in progress on an engine hold. -/
def carried (t : Traffic β ρ) (id : EngineId) : Assets ρ :=
  ((t.running.filter fun j => j.engine = id).map fun j => j.stage.assets id).sum

/-- What one call holds is among what all of them hold. -/
theorem assets_le_carried (t : Traffic β ρ) {x : Errand ρ} (hx : x ∈ t.errands) :
    x.stage.assets x.engine ≤ t.carried x.engine :=
  Assets.le_sum (Multiset.mem_map.mpr
    ⟨x.job t.trace, Multiset.mem_filter.mpr ⟨job_mem_running hx, rfl⟩, rfl⟩)

namespace Sound

variable [Backend β ρ] {t : Traffic β ρ}

theorem course_of_errand (h : t.Sound) {x : Errand ρ} (hx : x ∈ t.errands) :
    ∃ e, t.host.engine? x.engine = some e ∧
      Course e.nature x.request x.stage (Deed.effects (callDeeds x.thread t.trace)) :=
  h.course (x.job t.trace) (job_mem_jobs hx)

/-- The course of a call on an engine. -/
theorem course_on (h : t.Sound) {id : EngineId} {e : Engine β} (he : t.host.engine? id = some e) {j : Job ρ}
    (hj : j ∈ t.jobs) (hid : j.engine = id) : Course e.nature j.request j.stage (Deed.effects j.deeds) := by
  obtain ⟨e', he', hc⟩ := h.course j hj
  rw [hid, he] at he'
  cases he'
  exact hc

/-- The course of a call, whatever else the engine is like. -/
theorem course_of_mem (h : t.Sound) {j : Job ρ} (hj : j ∈ t.jobs) :
    ∃ n : Nature, n.id = j.engine ∧ Course n j.request j.stage (Deed.effects j.deeds) := by
  obtain ⟨e, he, hc⟩ := h.course j hj
  exact ⟨e.nature, h.ids _ e he, hc⟩

/-- The course of a call that has ended. -/
theorem course_of_past (h : t.Sound) {j : Job ρ} (hj : j ∈ t.past) : ∃ (n : Nature) (reply : Reply ρ),
    n.id = j.engine ∧ j.stage = .closing none reply ∧
      Course n j.request (.closing none reply) (Deed.effects j.deeds) := by
  obtain ⟨n, hn, hc⟩ := h.course_of_mem (mem_jobs_of_past hj)
  obtain ⟨reply, hs⟩ := stage_of_mem_pastJobs hj
  exact ⟨n, reply, hn, hs, hs ▸ hc⟩

theorem engine_of_made (h : t.Sound) {j : Job ρ} (hj : j ∈ t.past) {b : Block ρ} (hb : j.made? = some b) :
    b.engine = j.engine := by
  obtain ⟨n, reply, hn, hs, hc⟩ := h.course_of_past hj
  rw [Job.made?_of_stage hs] at hb
  cases reply with
  | made b' =>
    cases hb
    exact hc.engine_of_made.trans hn
  | freed => cases hb
  | failed f => cases hb

/-- Every deed on an engine is one of a call on it. -/
theorem mem_deeds (h : t.Sound) {id : EngineId} {d : Deed ρ} :
    d ∈ t.deeds id ↔ ∃ j ∈ t.jobs, j.engine = id ∧ d ∈ j.deeds := by
  rw [← Multiset.mem_coe, h.deeds id]
  simp [and_assoc]

/-- Every block that is given back was made. -/
theorem exists_maker (h : t.Sound) {j : Job ρ} (hj : j ∈ t.jobs) {b : Block ρ} (hb : j.given? = some b) :
    ∃ maker ∈ t.past, maker.made? = some b := by
  have hm : b ∈ t.jobs.filterMap Job.given? := (Multiset.mem_filterMap _ _).mpr ⟨j, hj, hb⟩
  exact (Multiset.mem_filterMap _ _).mp (Multiset.mem_of_le h.blocks (Multiset.mem_add.mpr (.inl hm)))

/-- The balance of all calls on an engine. -/
theorem sum_balance (h : t.Sound) (id : EngineId) :
    ((t.jobs.filter fun j => j.engine = id).map fun j => j.request.brings id).sum + Deed.gain (t.deeds id) =
      Deed.loss (t.deeds id) + ((t.jobs.filter fun j => j.engine = id).map fun j => j.stage.assets id).sum := by
  rw [reading_eq_sum Deed.gain_nil Deed.gain_append (fun _ _ => Deed.gain_congr) (h.deeds id),
    reading_eq_sum Deed.loss_nil Deed.loss_append (fun _ _ => Deed.loss_congr) (h.deeds id),
    ← Multiset.sum_map_add, ← Multiset.sum_map_add]
  congr 1
  apply Multiset.map_congr rfl
  intro j hj
  obtain ⟨hm, hid⟩ := Multiset.mem_filter.mp hj
  obtain ⟨n, hn, hc⟩ := h.course_of_mem hm
  rw [← hid, ← hn, ← Deed.gain_effects, ← Deed.loss_effects]
  exact hc.balance

/-- **The balance of an engine**: what it got is what it spent, what its calls in progress hold, and
what blocks are worth, those that are held among them. -/
theorem exists_balance (h : t.Sound) (id : EngineId) :
    ∃ out, (t.blocks.filter fun b => b.engine = id) ≤ out ∧
      Deed.gain (t.deeds id) = Deed.loss (t.deeds id) + (t.carried id + worths out) := by
  obtain ⟨lost, hlost⟩ := Multiset.le_iff_exists_add.mp h.blocks
  obtain ⟨foreign, hforeign⟩ := exists_sum_brings id t.jobs
  have hended := sum_assets_of_ended id (fun j (hj : j ∈ t.past) => stage_of_mem_pastJobs hj)
    fun j hj b => h.engine_of_made hj
  have hbal := h.sum_balance id
  have hsplit : ((t.jobs.filter fun j => j.engine = id).map fun j => j.stage.assets id).sum =
      t.carried id + ((t.past.filter fun j => j.engine = id).map fun j => j.stage.assets id).sum := by
    simp [jobs, carried]
  rw [hlost, Multiset.filter_add, Multiset.filter_add, worths_add, worths_add, hforeign] at hended
  rw [hsplit, hended] at hbal
  -- still worth something are the blocks that are held, lost, or given to another engine
  refine ⟨(t.blocks.filter fun b => b.engine = id) + (foreign + lost.filter fun b => b.engine = id),
    Multiset.le_add_right _ _, ?_⟩
  apply add_left_cancel (a := ((t.jobs.filter fun j => j.engine = id).map fun j => j.request.brings id).sum)
  rw [hbal, worths_add, worths_add]
  ac_rfl

/-- What the ledger holds of an account is what is counted and not yet debited. -/
theorem current_eq (h : t.Sound) {id : EngineId} {e : Engine β} (he : t.host.engine? id = some e)
    {live : Assets ρ} (hb : Deed.gain (t.deeds id) = Deed.loss (t.deeds id) + live) (a : Account) :
    e.ledger.current a = bytesIn a live.1 := by
  have hbooks := Ledger.bytesIn_gain (h.ledger id e he) a
  have hzero : Ledger.empty.current a = 0 := by simp [Ledger.current, Ledger.balance]
  rw [hb, Prod.fst_add, bytesIn_add, hzero] at hbooks
  omega

/-- Whatever is counted has an account with at least its bytes. -/
theorem funds_of_mem (h : t.Sound) {id : EngineId} {e : Engine β} (he : t.host.engine? id = some e)
    {live : Assets ρ} (hb : Deed.gain (t.deeds id) = Deed.loss (t.deeds id) + live) {p : Plan ρ}
    (hp : p ∈ live.1) {a : Account} (ha : p.account? = some a) :
    (e.ledger.get? a).isSome ∧ p.size ≤ e.ledger.current a := by
  constructor
  · apply Ledger.isSome_of_mem_gain (h.ledger id e he) (p := p) _ ha
    rw [hb, Prod.fst_add, Multiset.mem_add]
    exact .inr hp
  · rw [h.current_eq he hb]
    exact size_le_bytesIn hp ha

/-- An engine has the bytes of the blocks in use that its calls in progress give back. -/
theorem covers (h : t.Sound) {x : Errand ρ} (hx : x ∈ t.errands) {e : Engine β}
    (he : t.host.engine? x.engine = some e) : e.Covers x.stage := by
  intro b hb a ha
  obtain ⟨out, -, hbal⟩ := h.exists_balance x.engine
  have hworth : x.stage.assets x.engine = b.plan.worth := by
    rcases hb with ⟨hs, hid⟩ | hs
    · rw [hs, Stage.assets, Call.brings, if_pos (hid.trans (h.ids _ _ he))]
    · rw [hs, Stage.assets]
  apply h.funds_of_mem he hbal (p := b.plan) _ ha
  rw [Prod.fst_add, Multiset.mem_add]
  refine .inl (Multiset.mem_of_le (t.assets_le_carried hx).1 ?_)
  rw [hworth]
  exact Plan.mem_worth ha

/-- An engine has the bytes of its blocks in use that are held. -/
theorem covers_held (h : t.Sound) {id : EngineId} {e : Engine β} (he : t.host.engine? id = some e)
    {b : Block ρ} (hm : b ∈ t.blocks) : e.Covers (.opening (.free b)) := by
  intro b' hb a ha
  obtain ⟨rfl, hid⟩ : b = b' ∧ b'.engine = e.id := by simpa using hb
  obtain ⟨out, hout, hbal⟩ := h.exists_balance id
  apply h.funds_of_mem he hbal (p := b.plan) _ ha
  rw [Prod.fst_add, Multiset.mem_add]
  refine .inr (Assets.mem_sum (x := b.plan.worth) ?_ (Plan.mem_worth ha))
  rw [Multiset.mem_map]
  exact ⟨b, Multiset.mem_of_le hout (Multiset.mem_filter.mpr ⟨hm, hid.trans (h.ids _ _ he)⟩), rfl⟩

/-! ### Moves -/

/-- No deed has been done on an engine that does not exist. -/
theorem deeds_eq_nil (h : t.Sound) {id : EngineId} (hn : t.host.engine? id = none) : t.deeds id = [] := by
  have hnone : (t.jobs.filter fun j => j.engine = id) = 0 := by
    apply Multiset.filter_eq_nil.mpr
    rintro j hj rfl
    obtain ⟨e, he, -⟩ := h.course j hj
    rw [hn] at he
    cases he
  have hd := h.deeds id
  rw [hnone] at hd
  simpa using hd

theorem start (host : Host β) (hh : host.engines = []) : ({ host } : Traffic β ρ).Sound where
  ids id e he := by simp [Host.engine?, hh] at he
  threads := List.nodup_nil
  course j hj := by simp [jobs, running, past, pastJobs] at hj
  deeds id := by simp [Traffic.deeds, deedsOn, jobs, running, past, pastJobs]
  ledger id e he := by simp [Host.engine?, hh] at he
  served id e he := by simp [Host.engine?, hh] at he
  blocks := by simp [jobs, running, past, pastJobs, Traffic.blocks]

/-- A move that is about no call keeps the invariant; it may forget blocks and make engines. -/
theorem of_same_jobs (h : t.Sound) {t' : Traffic β ρ} (herrands : t'.errands = t.errands)
    (hjobs : t'.jobs = t.jobs) (hpast : t'.past = t.past) (hdeeds : ∀ id, t'.deeds id = t.deeds id)
    (hblocks : t'.blocks ≤ t.blocks)
    (hold : ∀ id e, t.host.engine? id = some e → t'.host.engine? id = some e)
    (hnew : ∀ id e, t'.host.engine? id = some e →
      t.host.engine? id = some e ∨ t.host.engine? id = none ∧ e.id = id ∧ e.ledger = .empty) :
    t'.Sound where
  ids id e he := by
    rcases hnew id e he with he | ⟨-, hid, -⟩
    · exact h.ids id e he
    · exact hid
  threads := by
    rw [herrands]
    exact h.threads
  course := by
    rw [hjobs]
    intro j hj
    obtain ⟨e, he, hc⟩ := h.course j hj
    exact ⟨e, hold _ e he, hc⟩
  deeds id := by
    rw [hdeeds, hjobs]
    exact h.deeds id
  ledger id e he := by
    rw [hdeeds]
    rcases hnew id e he with he | ⟨hn, -, hl⟩
    · exact h.ledger id e he
    · rw [h.deeds_eq_nil hn, hl]
      rfl
  served id e he := by
    rw [hdeeds]
    rcases hnew id e he with he | ⟨hn, -, -⟩
    · exact h.served id e he
    · rw [h.deeds_eq_nil hn]
      exact ⟨e.backend, rfl⟩
  blocks := by
    rw [hjobs, hpast]
    exact (add_le_add le_rfl hblocks).trans h.blocks

theorem aside (h : t.Sound) {host : Host β} {x : Happening ρ} (he : host.engines = t.host.engines)
    (hx : x.isAside) : ({ t with host, trace := x :: t.trace } : Traffic β ρ).Sound := by
  have hengine (id : EngineId) : host.engine? id = t.host.engine? id := by rw [Host.engine?, he, Host.engine?]
  refine h.of_same_jobs rfl (jobs_aside hx) (past_aside hx) (fun id => deedsOn_aside hx id t.trace)
    le_rfl ?_ ?_
  · intro id e hid
    exact (hengine id).trans hid
  · intro id e hid
    exact .inl ((hengine id).symm.trans hid)

theorem made (h : t.Sound) {host : Host β} {x : Happening ρ} {e : Engine β}
    (he : host.engines = t.host.engines ++ [e]) (hi : e.id = ⟨t.host.engines.length⟩)
    (hl : e.ledger = .empty) (hx : x.isAside) :
    ({ t with host, trace := x :: t.trace } : Traffic β ρ).Sound := by
  refine h.of_same_jobs rfl (jobs_aside hx) (past_aside hx) (fun id => deedsOn_aside hx id t.trace)
    le_rfl ?_ ?_
  · intro id e' hid
    have hlt := (List.getElem?_eq_some_iff.mp hid).1
    rw [Host.engine?_append he, if_neg (Nat.ne_of_lt hlt), hid]
  · intro id e' hid
    rw [Host.engine?_append he] at hid
    split at hid
    · rename_i hn
      cases hid
      exact .inr ⟨List.getElem?_eq_none (Nat.le_of_eq hn.symm), by rw [hi, ← hn], hl⟩
    · exact .inl hid

theorem dropped (h : t.Sound) (name : String) :
    ({ t with held := without name t.held } : Traffic β ρ).Sound :=
  h.of_same_jobs rfl rfl rfl (fun _ => rfl) (map_without_le name t.held) (fun _ _ he => he)
    fun _ _ he => .inl he

theorem began (h : t.Sound) {thread : ThreadId} {engine : EngineId} {name : String} {request : Call ρ}
    {held : List (String × Block ρ)} (hi : t.errandOf thread = none)
    (he : (t.host.engine? engine).isSome)
    (hb : (↑request.block?.toList + ↑(held.map Prod.snd) : Multiset (Block ρ)) ≤ t.blocks) :
    ({ t.begin thread engine name request with held } : Traffic β ρ).Sound := by
  have hjobs := jobs_begin engine name request held hi
  have hdeeds (id : EngineId) :
      ({ t.begin thread engine name request with held } : Traffic β ρ).deeds id = t.deeds id :=
    deedsOn_began id thread engine request t.trace
  exact {
    ids := h.ids
    threads := by
      rw [begin, List.map_cons, List.nodup_cons]
      refine ⟨?_, h.threads⟩
      intro hm
      obtain ⟨x, hx, hxt⟩ := List.mem_map.mp hm
      exact errandOf_eq_none.mp hi x hx hxt
    course := by
      rw [hjobs]
      intro j hj
      rcases Multiset.mem_cons.mp hj with rfl | hj
      · obtain ⟨e, he⟩ := Option.isSome_iff_exists.mp he
        exact ⟨e, he, .opening⟩
      · exact h.course j hj
    deeds := fun id => by
      rw [hdeeds, hjobs, h.deeds id]
      by_cases hid : engine = id <;> simp [hid]
    ledger := fun id e hid => by
      rw [hdeeds]
      exact h.ledger id e hid
    served := fun id e hid => by
      rw [hdeeds]
      exact h.served id e hid
    blocks := by
      rw [hjobs, filterMap_cons_toList]
      calc ↑request.block?.toList + t.jobs.filterMap Job.given? + ↑(held.map Prod.snd)
          = t.jobs.filterMap Job.given? + (↑request.block?.toList + ↑(held.map Prod.snd)) := by ac_rfl
        _ ≤ t.jobs.filterMap Job.given? + t.blocks := add_le_add le_rfl hb
        _ ≤ t.past.filterMap Job.made? := h.blocks }

theorem ended (h : t.Sound) {x : Errand ρ} (hx : x ∈ t.errands) {reply : Reply ρ}
    (hs : x.stage = .closing none reply) : (t.finish x reply).Sound := by
  obtain ⟨hpast, hjobs⟩ := jobs_finish h.threads hx hs
  have hdeeds (id : EngineId) : (t.finish x reply).deeds id = t.deeds id :=
    deedsOn_ended id x.thread x.engine x.request reply t.trace
  exact {
    ids := h.ids
    threads := h.threads.sublist (List.filter_sublist.map _)
    course := by
      rw [hjobs]
      exact h.course
    deeds := fun id => by
      rw [hdeeds, hjobs]
      exact h.deeds id
    ledger := fun id e hid => by
      rw [hdeeds]
      exact h.ledger id e hid
    served := fun id e hid => by
      rw [hdeeds]
      exact h.served id e hid
    blocks := by
      have hmade : (x.job t.trace).made? = reply.block? := Job.made?_of_stage hs
      rw [hjobs, hpast, filterMap_cons_toList, hmade]
      calc t.jobs.filterMap Job.given? + (t.finish x reply).blocks
          ≤ t.jobs.filterMap Job.given? + (↑reply.block?.toList + t.blocks) :=
            add_le_add le_rfl (map_keep_le x.name t.held reply)
        _ = ↑reply.block?.toList + (t.jobs.filterMap Job.given? + t.blocks) := by ac_rfl
        _ ≤ ↑reply.block?.toList + t.past.filterMap Job.made? := add_le_add le_rfl h.blocks }

theorem wentOn (h : t.Sound) {x : Errand ρ} (hx : x ∈ t.errands) : (t.goOn x).Sound := by
  obtain ⟨e, he, hc⟩ := h.course_of_errand hx
  have hcov := h.covers hx he
  have hfollows := hc.advance x.thread t.host.commons hcov
  have hnature := e.nature_advance x.thread t.host.commons x.stage
  have hledger := Engine.enterAll?_advance x.thread t.host.commons hc hcov
  have hserves := e.serves_advance x.thread t.host.commons x.stage
  obtain ⟨rest, hrunning, hrunning', hpast⟩ := jobs_goOn h.threads hx he
  have hengine := engine?_goOn he
  have hdeeds := deeds_goOn he
  have herrands := threads_goOn he
  generalize e.advance x.thread t.host.commons x.stage = p at *
  have hid : p.engine.id = x.engine := (congrArg Nature.id hnature).trans (h.ids _ _ he)
  exact {
    ids := fun id e' hid' => by
      rw [hengine] at hid'
      split at hid'
      · rename_i hx
        cases hid'
        exact hid.trans hx.symm
      · exact h.ids id e' hid'
    threads := by
      rw [herrands]
      exact h.threads
    course := by
      rw [jobs, hrunning', hpast, Multiset.cons_add]
      intro j hj
      rcases Multiset.mem_cons.mp hj with rfl | hj
      · refine ⟨p.engine, (hengine x.engine).trans (if_pos rfl), ?_⟩
        rw [hnature, Deed.effects_append]
        exact hfollows
      · have hold : j ∈ t.jobs := by
          rw [jobs, hrunning, Multiset.cons_add]
          exact Multiset.mem_cons_of_mem hj
        obtain ⟨e', he', hc'⟩ := h.course j hold
        by_cases hje : j.engine = x.engine
        · rw [hje, he] at he'
          cases he'
          exact ⟨p.engine, (hengine j.engine).trans (if_pos hje), hnature ▸ hc'⟩
        · exact ⟨e', (hengine j.engine).trans ((if_neg hje).trans he'), hc'⟩
    deeds := fun id => by
      have hold := h.deeds id
      rw [jobs, hrunning, Multiset.cons_add] at hold
      rw [hdeeds, jobs, hrunning', hpast, Multiset.cons_add, ← Multiset.coe_add, hold]
      by_cases hx : x.engine = id
      · simp [Errand.job, hx, ← Multiset.coe_add]
        ac_rfl
      · simp [Errand.job, hx]
    ledger := fun id e' hid' => by
      rw [hengine] at hid'
      rw [hdeeds]
      split at hid'
      · rename_i hx
        cases hid'
        rw [if_pos hx.symm, Ledger.enterAll?_append, hx, h.ledger _ e he]
        exact hledger
      · rename_i hx
        rw [if_neg (Ne.symm hx), List.append_nil]
        exact h.ledger id e' hid'
    served := fun id e' hid' => by
      rw [hengine] at hid'
      rw [hdeeds]
      split at hid'
      · rename_i hx
        cases hid'
        obtain ⟨start, hs⟩ := h.served _ e he
        rw [if_pos hx.symm, hx]
        exact ⟨start, Backend.serves_append hs hserves⟩
      · rename_i hx
        rw [if_neg (Ne.symm hx), List.append_nil]
        exact h.served id e' hid'
    blocks := by
      have hold := h.blocks
      rw [jobs, hrunning, Multiset.cons_add, filterMap_cons_toList] at hold
      rw [jobs, hrunning', hpast, Multiset.cons_add, filterMap_cons_toList]
      exact hold }

/-- The invariant is preserved by every move. -/
theorem change (h : t.Sound) {t' : Traffic β ρ} (hc : t.Change t') : t'.Sound := by
  cases hc with
  | unchanged => exact h
  | aside he hx => exact h.aside he hx
  | made he hi hl hx => exact h.made he hi hl hx
  | began hi he hb => exact h.began hi he hb
  | wentOn hx => exact h.wentOn hx
  | ended hx hs => exact h.ended hx hs
  | dropped => exact h.dropped _

/-- What every call has at its beginning and every step keeps is kept by every move. What is kept may depend on what
has happened: it is `P` before the move and `P'` after it. -/
theorem jobs_of_change (P P' : Nature → Job ρ → Prop) (h : t.Sound) {t' : Traffic β ρ} (hc : t.Change t')
    (hmono : ∀ n j, P n j → P' n j)
    (hopen : ∀ n thread id call, P' n ⟨thread, id, call, .opening call, []⟩)
    (hstep : ∀ x ∈ t.errands, ∀ e, t.host.engine? x.engine = some e → P e.nature (x.job t.trace) →
      P' e.nature { x.job t.trace with
        stage := (e.advance x.thread t.host.commons x.stage).stage
        deeds := (x.job t.trace).deeds ++ (e.advance x.thread t.host.commons x.stage).deeds })
    (hP : ∀ j ∈ t.jobs, ∀ e, t.host.engine? j.engine = some e → P e.nature j) :
    ∀ j ∈ t'.jobs, ∀ e, t'.host.engine? j.engine = some e → P' e.nature j := by
  have hP' : ∀ j ∈ t.jobs, ∀ e, t.host.engine? j.engine = some e → P' e.nature j :=
    fun j hj e he => hmono _ _ (hP j hj e he)
  cases hc with
  | unchanged | dropped => exact hP'
  | aside he hx =>
    rw [jobs_aside hx]
    intro j hj e hje
    exact hP' j hj e (by rw [← hje, Host.engine?, Host.engine?, he])
  | made he hi hl hx =>
    rw [jobs_aside hx]
    intro j hj e hje
    -- the job is older than the engine that was made, so it is one on another engine
    obtain ⟨e₀, he₀, -⟩ := h.course j hj
    have hne : j.engine.number ≠ t.host.engines.length :=
      Nat.ne_of_lt (List.getElem?_eq_some_iff.mp he₀).1
    rw [Host.engine?_append he, if_neg hne] at hje
    exact hP' j hj e hje
  | began hi he hb =>
    rw [jobs_begin _ _ _ _ hi]
    intro j hj e hje
    rcases Multiset.mem_cons.mp hj with rfl | hj
    · exact hopen _ _ _ _
    · exact hP' j hj e hje
  | @wentOn x hx =>
    obtain ⟨e, he, -⟩ := h.course_of_errand hx
    obtain ⟨rest, hrunning, hrunning', hpast⟩ := jobs_goOn h.threads hx he
    rw [jobs, hrunning', hpast, Multiset.cons_add]
    intro j hj e' hje
    rw [engine?_goOn he] at hje
    rcases Multiset.mem_cons.mp hj with rfl | hj
    · obtain rfl : (e.advance x.thread t.host.commons x.stage).engine = e' := by
        simpa [Errand.job] using hje
      rw [Engine.nature_advance]
      exact hstep x hx e he (hP _ (job_mem_jobs hx) e he)
    · have hold : j ∈ t.jobs := by
        rw [jobs, hrunning, Multiset.cons_add]
        exact Multiset.mem_cons_of_mem hj
      split at hje
      · rename_i hid
        cases hje
        rw [Engine.nature_advance]
        exact hP' j hold e (hid ▸ he)
      · exact hP' j hold e' hje
  | ended hx hr =>
    rw [(jobs_finish h.threads hx hr).2]
    exact hP'

/-- What every call has at its beginning, whatever the engine, and every step keeps is kept by every move. -/
theorem forall_jobs {P : Nature → Call ρ → Stage ρ → Prop} (hopen : ∀ n call, P n call (.opening call))
    (hstep : ∀ (thread : ThreadId) (e : Engine β) (c : Commons) (call : Call ρ) (s : Stage ρ),
      P e.nature call s → P e.nature call (e.advance thread c s).stage)
    (h : t.Sound) {t' : Traffic β ρ} (hc : t.Change t')
    (hP : ∀ j ∈ t.jobs, ∀ e, t.host.engine? j.engine = some e → P e.nature j.request j.stage) :
    ∀ j ∈ t'.jobs, ∀ e, t'.host.engine? j.engine = some e → P e.nature j.request j.stage :=
  h.jobs_of_change (fun n j => P n j.request j.stage) (fun n j => P n j.request j.stage) hc (fun _ _ hj => hj)
    (fun n _ _ call => hopen n call) (fun x _ e _ => hstep x.thread e _ x.request x.stage) hP

end Sound

/-- **Every reachable state is sound.** -/
theorem Reachable.sound [Backend β ρ] {t : Traffic β ρ} (h : t.Reachable) : t.Sound := by
  induction h with
  | start host hh => exact .start host hh
  | move m _ ih => exact ih.change (change_move _ m)

/-- What is true of every call when it begins and has done nothing, and is kept by every step, is true of all jobs. -/
theorem Reachable.forall_deeds [Backend β ρ] {P : Nature → Call ρ → Stage ρ → List (Deed ρ) → Prop}
    (hopen : ∀ n call, P n call (.opening call) [])
    (hstep : ∀ (thread : ThreadId) (e : Engine β) (c : Commons) (call : Call ρ) (s : Stage ρ) (ds : List (Deed ρ)),
      P e.nature call s ds → P e.nature call (e.advance thread c s).stage (ds ++ (e.advance thread c s).deeds))
    {t : Traffic β ρ} (h : t.Reachable) :
    ∀ j ∈ t.jobs, ∀ e, t.host.engine? j.engine = some e → P e.nature j.request j.stage j.deeds := by
  induction h with
  | start host hh =>
    intro j hj
    simp [jobs, running, past, pastJobs] at hj
  | @move t m h ih =>
    exact h.sound.jobs_of_change (fun n j => P n j.request j.stage j.deeds) (fun n j => P n j.request j.stage j.deeds)
      (change_move _ m) (fun _ _ hj => hj) (fun n _ _ call => hopen n call)
      (fun x _ e _ => hstep x.thread e _ x.request x.stage _) ih

/-- The same of what is said of their stages only. -/
theorem Reachable.forall_jobs [Backend β ρ] {P : Nature → Call ρ → Stage ρ → Prop}
    (hopen : ∀ n call, P n call (.opening call))
    (hstep : ∀ (thread : ThreadId) (e : Engine β) (c : Commons) (call : Call ρ) (s : Stage ρ),
      P e.nature call s → P e.nature call (e.advance thread c s).stage)
    {t : Traffic β ρ} (h : t.Reachable) :
    ∀ j ∈ t.jobs, ∀ e, t.host.engine? j.engine = some e → P e.nature j.request j.stage :=
  h.forall_deeds (P := fun n call s _ => P n call s) hopen fun thread e c call s _ => hstep thread e c call s

/-- A run of moves goes from reachable states to reachable states. -/
theorem Reachable.run [Backend β ρ] {t : Traffic β ρ} (h : t.Reachable) (ms : List (Move β ρ)) :
    (t.run ms).Reachable := by
  induction ms generalizing t with
  | nil => exact h
  | cons m ms ih => exact ih (.move m h)

/-! ### A state on the way -/

/-- One thread has made two blocks of 24 bytes on an engine and given one of them back; another has
got memory for a third, which is not credited yet. -/
def midway : Traffic ScriptedBackend ScriptedResource :=
  let device : Device := ⟨"0", "device", 1024, .plainBuffer, .ofList [.plainBuffer]⟩
  let layout : Layout := ⟨[2, 3], .f32, false⟩
  run { host := {} }
    ([.make device { capacity := some 100 } {}, .call (.numbered 0) ⟨0⟩ "a" (.allocate layout false)] ++
      Move.toEnd (.numbered 0) ++ [.call (.numbered 0) ⟨0⟩ "b" (.allocateLockable layout)] ++
      Move.toEnd (.numbered 0) ++ [.giveBack (.numbered 0) ⟨0⟩ "a"] ++ Move.toEnd (.numbered 0) ++
      [.call (.numbered 1) ⟨0⟩ "c" (.allocate layout true), .step (.numbered 1), .step (.numbered 1)])

theorem midway_reachable : midway.Reachable := (Reachable.start _ rfl).run _

end Traffic

end DeviceMemory
