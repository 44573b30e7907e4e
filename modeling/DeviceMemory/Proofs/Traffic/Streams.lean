import DeviceMemory.Proofs.Engine.Lines
import DeviceMemory.Proofs.Engine.Numbering
import DeviceMemory.Proofs.Traffic.Ids

/-!
# Streams tell threads apart

Threads are numbered when they first ask: when they want to know their stream, make a block, or log that one is
given back. In whatever order they take turns, the first to ask are numbered from one, every thread keeps its
number, and so the numbers in the log name the right threads (`Traffic.names_threads`): a line begins with the
stream of the thread that made the block, and it ends with the stream of the thread that gave the block back
just if that is another thread.

## The model

`Traffic.askers` lists the threads that ask in a run, whenever they do. Which thread made a block is told by the
trace: it is the one that drew the id. `Marked` is what holds of a call on its way to a block or to an entry; that
a thread is told apart from the maker by comparing numbers is right because no two threads share one.
-/

namespace DeviceMemory

variable {β ρ : Type}

/-! ### Blocks and entries of a thread -/

/-- A thread made a block on an engine: it drew the id, and the stream of the block is its own. -/
structure Makes (trace : List (Happening ρ)) (c : Commons) (thread : ThreadId) (engine : EngineId) (b : Block ρ) :
    Prop where
  /-- The thread drew the id. -/
  named : .did thread engine (.named b.id) ∈ trace
  /-- The stream is that of the thread. -/
  stream : c.stream? thread = some b.stream

/-- An entry that a thread writes to the log of an engine names the streams of the right threads. -/
structure Entry.Names (trace : List (Happening ρ)) (c : Commons) (thread : ThreadId) (engine : EngineId)
    (maker : ThreadId) (entry : Entry) : Prop where
  /-- The maker drew the id of the block, -/
  named : .did maker engine (.named entry.block) ∈ trace
  /-- and its stream is told. -/
  maker_eq : c.stream? maker = some entry.maker
  /-- Who gives a block back has a number, -/
  isSome : entry.event = .freed → (c.stream? thread).isSome
  /-- which is told if that is not the maker, and only then. -/
  freedFrom_iff (s : Stream) :
    entry.freedFrom = some s ↔ entry.event = .freed ∧ thread ≠ maker ∧ c.stream? thread = some s

/-- A call of a thread on an engine is right about streams, as far as it has come. -/
structure Marked (trace : List (Happening ρ)) (c : Commons) (thread : ThreadId) (engine : EngineId) (s : Stage ρ) :
    Prop where
  /-- An id that it has for a block was drawn by the thread. -/
  id (id : BlockId) : s.id? = some id → .did thread engine (.named id) ∈ trace
  /-- A block that it has made was made by the thread. -/
  block (b : Block ρ) : s.block? = some b → Makes trace c thread engine b
  /-- What it is going to log is right. -/
  entry (entry : Entry) : s.entry? = some entry → ∃ maker, entry.Names trace c thread engine maker

section Later

variable {trace trace' : List (Happening ρ)} {c c' : Commons} {thread : ThreadId} {engine : EngineId}

theorem Makes.mono {b : Block ρ} (h : Makes trace c thread engine b) (ht : trace ⊆ trace')
    (hc : c.streams <+: c'.streams) : Makes trace' c' thread engine b :=
  ⟨ht h.named, Commons.stream?_mono hc h.stream⟩

theorem Entry.Names.mono {maker : ThreadId} {entry : Entry} (h : entry.Names trace c thread engine maker)
    (ht : trace ⊆ trace') (hc : c.streams <+: c'.streams) : entry.Names trace' c' thread engine maker where
  named := ht h.named
  maker_eq := Commons.stream?_mono hc h.maker_eq
  isSome hf := by
    obtain ⟨s, hs⟩ := Option.isSome_iff_exists.mp (h.isSome hf)
    rw [Commons.stream?_mono hc hs]
    rfl
  freedFrom_iff s := by
    rw [h.freedFrom_iff]
    refine and_congr_right fun hf => and_congr_right fun _ => ?_
    obtain ⟨s', hs⟩ := Option.isSome_iff_exists.mp (h.isSome hf)
    rw [hs, Commons.stream?_mono hc hs]

theorem Marked.mono {s : Stage ρ} (h : Marked trace c thread engine s) (ht : trace ⊆ trace')
    (hc : c.streams <+: c'.streams) : Marked trace' c' thread engine s where
  id id hid := ht (h.id id hid)
  block b hb := (h.block b hb).mono ht hc
  entry entry he := by
    obtain ⟨maker, hm⟩ := h.entry entry he
    exact ⟨maker, hm.mono ht hc⟩

end Later

/-! ### Steps -/

section Steps

variable {trace : List (Happening ρ)} {c c' : Commons} {thread maker : ThreadId} {engine : EngineId}

/-- A call that is about to log that a block is given back was to give it back, to the engine that made it. -/
theorem Course.eq_free_of_tracing {n : Nature} {call : Call ρ} {b : Block ρ} {reply : Reply ρ} {ds : List (Deed ρ)}
    (h : Course n call (.tracing b reply) ds) : call = .free b ∧ b.engine = n.id := by
  cases h with
  | tracing ha => exact ⟨ha.eq_free, ha.engine_eq⟩

namespace Marked

variable {s : Stage ρ}

/-- A call that has nothing to log has to be right about its block only, -/
theorem of_block (hid : s.id? = none) (hb : ∀ b, s.block? = some b → Makes trace c thread engine b)
    (he : s.entry? = none) : Marked trace c thread engine s :=
  ⟨fun id h => by simp [hid] at h, hb, fun entry h => by simp [he] at h⟩

/-- one that has an entry about it also has to be right about this, -/
theorem of_entry {entry : Entry} (hid : s.id? = none) (hb : ∀ b, s.block? = some b → Makes trace c thread engine b)
    (he : s.entry? = some entry) (hn : entry.Names trace c thread engine maker) : Marked trace c thread engine s :=
  ⟨fun id h => by simp [hid] at h, hb, fun entry' h => ⟨maker, Option.some.inj (he.symm.trans h) ▸ hn⟩⟩

/-- and one that has neither a block nor an entry is right. -/
theorem of_none (hid : s.id? = none) (hb : s.block? = none) (he : s.entry? = none) :
    Marked trace c thread engine s :=
  of_block hid (fun b h => by simp [hb] at h) he

theorem of_takeBack (e : Engine β) (b : Block ρ) {reply : Reply ρ} (h : reply = .freed ∨ ∃ f, reply = .failed f) :
    Marked trace c thread engine (e.takeBack b reply) :=
  of_none e.id?_takeBack (Engine.block?_takeBack b h) e.entry_takeBack

end Marked

/-- The entry about the making of a block names its maker. -/
theorem Makes.names_made {b : Block ρ} (h : Makes trace c thread engine b) {event : Event} (he : event ≠ .freed) :
    (Engine.entryOf event b none).Names trace c thread engine thread where
  named := h.named
  maker_eq := h.stream
  isSome hf := absurd hf he
  freedFrom_iff s := by simp [Engine.entryOf, he]

/-- The entry about a block that is given back names the maker, and the thread that gives it back if that is another:
two threads are the same if their numbers are. -/
theorem Makes.names_freed {b : Block ρ} (h : Makes trace c maker engine b) {s : Stream}
    (hs : c.stream? thread = some s) :
    (Engine.entryOf .freed b (if s = b.stream then none else some s)).Names trace c thread engine maker where
  named := h.named
  maker_eq := h.stream
  isSome _ := by
    rw [hs]
    rfl
  freedFrom_iff s' := by
    have hsame : s = b.stream ↔ thread = maker := Commons.stream?_eq_iff hs h.stream
    by_cases ht : thread = maker
    · simp [Engine.entryOf, hsame, ht]
    · simp [Engine.entryOf, hsame, ht, hs]

/-- What is logged about a block that has just been made. -/
theorem Makes.marked_announce {b : Block ρ} (h : Makes trace c thread engine b) (e : Engine β) {event : Event}
    (he : event ≠ .freed) :
    Marked trace c thread engine (e.announce (Engine.entryOf event b none) none (.made b)) := by
  have hblock (b' : Block ρ) (hb : some b = some b') : Makes trace c thread engine b' := Option.some.inj hb ▸ h
  unfold Engine.announce
  split
  · exact .of_block rfl hblock rfl
  · exact .of_entry rfl hblock rfl (h.names_made he)
  · exact .of_entry rfl hblock rfl (h.names_made he)

variable [Backend β ρ]

theorem Marked.of_advances {e : Engine β} {s : Stage ρ} {p : Progress β ρ} (h : e.Advances thread c s p)
    (hs : Marked trace c thread engine s)
    (hmaker : ∀ b reply, s = .tracing b reply → ∃ maker, Makes trace c maker engine b) :
    Marked (didAll thread engine p.deeds ++ trace) p.commons thread engine p.stage := by
  have hlater {ds : List (Deed ρ)} : trace ⊆ didAll thread engine ds ++ trace := List.subset_append_right _ _
  have hmade {plan : Plan ρ} {id : BlockId} (hid : s = .placing plan id) :
      Makes trace (c.streamOf thread).2 thread engine (plan.block id e.id (c.streamOf thread).1) :=
    ⟨hs.id id (by rw [hid]; rfl), c.stream?_streamOf thread⟩
  cases h with
  | refused => exact .of_none rfl rfl rfl
  | uncounted | debited => exact .of_takeBack e _ (.inl rfl)
  | undebited => exact .of_takeBack e _ (.inr ⟨_, rfl⟩)
  | named =>
    refine ⟨fun id hid => ?_, (fun _ hb => by cases hb), fun _ he => by cases he⟩
    cases hid
    exact List.mem_append_left _ (by simp [didAll])
  | placed => exact (hmade rfl).marked_announce e (by decide)
  | placedShared => exact .of_block rfl (fun b hb => Option.some.inj hb ▸ hmade rfl) rfl
  | placedOutside => exact (hmade rfl).marked_announce e (by decide)
  | @enrolled b => exact ((hs.block b rfl).mono hlater List.prefix_rfl).marked_announce _ (by decide)
  | @traced b reply =>
    -- the thread is numbered here if it has not asked before, and the maker keeps its number
    obtain ⟨maker, hmade⟩ := hmaker b reply rfl
    have hprefix := c.prefix_streamOf thread
    have hnames := (hmade.mono (List.Subset.refl _) hprefix).names_freed (c.stream?_streamOf thread)
    have hblock := (hs.mono (List.Subset.refl _) hprefix).block
    simp only [Engine.announce]
    split
    · exact .of_block rfl hblock rfl
    · exact .of_entry rfl hblock rfl hnames
    · exact .of_entry rfl hblock rfl hnames
  | @surveyed entry =>
    obtain ⟨maker, hn⟩ := hs.entry entry rfl
    exact .of_entry rfl hs.block rfl ⟨hn.named, hn.maker_eq, hn.isSome, hn.freedFrom_iff⟩
  | logged => exact .of_block rfl (fun b hb => (hs.block b hb).mono hlater List.prefix_rfl) rfl
  | released => exact .of_block rfl (fun b hb => (hs.block b hb).mono hlater List.prefix_rfl) rfl
  | closed => exact hs
  | _ => exact .of_none rfl rfl rfl

/-- A step of a call keeps it right about streams. A block that is given back has to have a maker. -/
theorem Marked.advance (e : Engine β) {s : Stage ρ} (h : Marked trace c thread engine s)
    (hmaker : ∀ b reply, s = .tracing b reply → ∃ maker, Makes trace c maker engine b) :
    Marked (didAll thread engine (e.advance thread c s).deeds ++ trace) (e.advance thread c s).commons thread engine
      (e.advance thread c s).stage :=
  .of_advances (e.advances thread c s) h hmaker

end Steps

namespace Traffic

variable {t t' : Traffic β ρ}

/-! ### Who asks -/

/-- The thread that asks for its stream in a move, if one does. -/
def asker? (t : Traffic β ρ) : Move β ρ → Option ThreadId
  | .stream thread => some thread
  | .step thread => ((t.errandOf thread).filter fun x => x.stage.asks).map Errand.thread
  | _ => none

/-- The threads that ask for their streams in a run, in order. -/
def askers [Backend β ρ] : Traffic β ρ → List (Move β ρ) → List ThreadId
  | _, [] => []
  | t, m :: ms => (t.asker? m).toList ++ (t.move m).askers ms

theorem streams_makeEngine (h : Host β) (device : Device) (backend : β) (s : Settings) :
    (h.makeEngine device backend s).2.1.commons.streams = h.commons.streams := by
  change (h.readLimit device.totalMemory).2.1.commons.streams = h.commons.streams
  rw [commons_readLimit]

variable [Backend β ρ]

/-- A move numbers the thread that asks, if one does, and no other. -/
theorem streams_move (h : t.Sound) (m : Move β ρ) : (t.move m).host.commons.streams =
    (t.asker? m).elim t.host.commons.streams fun thread => (t.host.commons.streamOf thread).2.streams := by
  cases m with
  | make device backend settings => exact streams_makeEngine t.host device backend settings
  | makeAmong target devices selector backend settings =>
    simp only [move, Host.makeEngineAmong]
    split
    · exact streams_makeEngine t.host _ backend settings
    · rfl
  | stream thread => rfl
  | call thread engine name request =>
    simp only [move]
    split <;> rfl
  | giveBack thread engine name =>
    simp only [move]
    split
    · rfl
    · split <;> rfl
  | step thread =>
    cases hx : t.errandOf thread with
    | none =>
      simp only [move, asker?, hx]
      rfl
    | some x =>
      obtain ⟨hm, -⟩ := mem_of_errandOf hx
      cases hr : x.stage.reply? with
      | some reply =>
        have hs : x.stage.asks = false := by rw [Stage.eq_closing_of_reply? hr]; rfl
        simp [move, asker?, hx, hr, hs, finish, Option.filter]
      | none =>
        obtain ⟨e, he, -⟩ := h.course_of_errand hm
        simp only [move, asker?, hx, hr]
        rw [goOn_eq he]
        simp only [e.streams_advance]
        cases hs : x.stage.asks <;> simp [Option.filter, hs]
  | drop name => rfl

theorem prefix_move (h : t.Sound) (m : Move β ρ) : t.host.commons.streams <+: (t.move m).host.commons.streams := by
  rw [streams_move h]
  cases t.asker? m with
  | none => exact List.prefix_rfl
  | some thread => exact t.host.commons.prefix_streamOf thread

theorem Reachable.prefix_run (h : t.Reachable) (ms : List (Move β ρ)) :
    t.host.commons.streams <+: (t.run ms).host.commons.streams := by
  induction ms generalizing t with
  | nil => exact List.prefix_rfl
  | cons m ms ih => exact (prefix_move h.sound m).trans (ih (.move m h))

omit [Backend β ρ] in
/-- Who asks is numbered after all that have asked before, unless it has been before. -/
theorem streams_streamOf_eq {c : Commons} {asked : List ThreadId} (h : c.streams = asked.eraseDups)
    (thread : ThreadId) : (c.streamOf thread).2.streams = (asked ++ [thread]).eraseDups := by
  have hmem : thread ∈ c.streams ↔ thread ∈ asked := by rw [h, List.mem_eraseDups]
  rw [eraseDups_concat, ← h]
  rcases c.streams_streamOf thread with ⟨hs, hm⟩ | ⟨hs, hm⟩
  · rw [hs, if_pos (hmem.mp hm)]
  · rw [hs, if_neg (mt hmem.mpr hm)]

/-- **Threads are numbered in the order in which they first ask.** -/
theorem Reachable.streams_run (h : t.Reachable) (asked : List ThreadId)
    (ht : t.host.commons.streams = asked.eraseDups) (ms : List (Move β ρ)) :
    (t.run ms).host.commons.streams = (asked ++ t.askers ms).eraseDups := by
  induction ms generalizing t asked with
  | nil =>
    rw [askers, List.append_nil]
    exact ht
  | cons m ms ih =>
    rw [askers, ← List.append_assoc]
    refine ih (.move m h) _ ?_
    rw [streams_move h.sound]
    cases t.asker? m with
    | none =>
      rw [Option.toList_none, List.append_nil]
      exact ht
    | some thread => exact streams_streamOf_eq ht thread

/-! ### What holds in every reachable state -/

/-- Nothing that has happened is forgotten. -/
theorem subset_change (hc : t.Change t') : t.trace ⊆ t'.trace := by
  cases hc with
  | unchanged | dropped => exact List.Subset.refl _
  | aside | made | began | ended => exact List.subset_cons_self _ _
  | wentOn hx => exact List.subset_append_right _ _

/-- What is new in the log is the entry that a call had ready. -/
theorem logged_of_change (h : t.Sound) (hc : t.Change t') {thread : ThreadId} {engine : EngineId} {entry : Entry}
    (hm : .did thread engine (.logged entry) ∈ t'.trace) : .did thread engine (.logged entry) ∈ t.trace ∨
      ∃ x ∈ t.errands, x.thread = thread ∧ x.engine = engine ∧ x.stage.ready? = some entry := by
  cases hc with
  | unchanged | dropped => exact .inl hm
  | aside he hx | made he hi hl hx =>
    rcases List.mem_cons.mp hm with rfl | hm
    · cases hx
    · exact .inl hm
  | began | ended =>
    rcases List.mem_cons.mp hm with heq | hm
    · cases heq
    · exact .inl hm
  | @wentOn x hx =>
    obtain ⟨e, he, -⟩ := h.course_of_errand hx
    rw [goOn_eq he] at hm
    rcases List.mem_append.mp hm with hm | hm
    · obtain ⟨d, hd, heq⟩ := List.mem_map.mp (List.mem_reverse.mp hm)
      cases heq
      have hentry : entry ∈ Deed.entries (e.advance x.thread t.host.commons x.stage).deeds :=
        List.mem_filterMap.mpr ⟨_, hd, rfl⟩
      rw [e.entries_advance, Option.mem_toList] at hentry
      exact .inr ⟨x, hx, rfl, rfl, hentry⟩
    · exact .inl hm

/-- What is new to be told is a stream, to the thread whose stream it is. -/
theorem told_move (t : Traffic β ρ) (m : Move β ρ) {thread : ThreadId} {s : Stream}
    (hm : .told thread s ∈ (t.move m).trace) :
    .told thread s ∈ t.trace ∨ (t.move m).host.commons.stream? thread = some s := by
  have other {x : Happening ρ} (hm : .told thread s ∈ x :: t.trace) (hx : .told thread s ≠ x) :
      .told thread s ∈ t.trace := (List.mem_cons.mp hm).resolve_left hx
  cases m with
  | stream asker =>
    rcases List.mem_cons.mp hm with heq | hm
    · cases heq
      exact .inr (t.host.commons.stream?_streamOf thread)
    · exact .inl hm
  | make device backend settings | makeAmong target devices selector backend settings =>
    exact .inl (other hm (by simp))
  | call caller engine name request =>
    simp only [move] at hm
    split at hm
    · exact .inl (other hm (by simp))
    · exact .inl hm
  | giveBack caller engine name =>
    simp only [move] at hm
    split at hm
    · exact .inl hm
    · split at hm
      · exact .inl (other hm (by simp))
      · exact .inl hm
  | step caller =>
    simp only [move] at hm
    split at hm
    · exact .inl hm
    · split at hm
      · exact .inl (other hm (by simp))
      · rcases List.mem_append.mp hm with hm | hm
        · obtain ⟨d, -, hd⟩ := List.mem_map.mp (List.mem_reverse.mp hm)
          cases hd
        · exact .inl hm
  | drop name => exact .inl hm

/-- What holds of streams in every reachable state. -/
structure Marks (t : Traffic β ρ) : Prop where
  /-- Every call is right about them, -/
  jobs : ∀ j ∈ t.jobs, Marked t.trace t.host.commons j.thread j.engine j.stage
  /-- so is every entry in the log, -/
  logged (thread : ThreadId) (engine : EngineId) (entry : Entry) : .did thread engine (.logged entry) ∈ t.trace →
    ∃ maker, entry.Names t.trace t.host.commons thread engine maker
  /-- and so is whatever a thread has been told. -/
  told (thread : ThreadId) (s : Stream) : .told thread s ∈ t.trace → t.host.commons.stream? thread = some s

namespace Marks

omit [Backend β ρ] in
theorem start (host : Host β) : ({ host } : Traffic β ρ).Marks where
  jobs j hj := by simp [Traffic.jobs, running, past, pastJobs] at hj
  logged thread engine entry hm := by cases hm
  told thread s hm := by cases hm

/-- A block that a call has made was made by its thread. -/
theorem makes (hm : t.Marks) (h : t.Sound) {j : Job ρ} (hj : j ∈ t.past) {b : Block ρ} (hb : j.made? = some b) :
    Makes t.trace t.host.commons j.thread j.engine b := by
  obtain ⟨n, reply, -, hs, -⟩ := h.course_of_past hj
  rw [Job.made?_of_stage hs] at hb
  have hblock : j.stage.block? = some b := by
    rw [hs, Reply.eq_made_of_block? hb]
    rfl
  exact (hm.jobs j (mem_jobs_of_past hj)).block b hblock

/-- A block that is given back has a maker. -/
theorem exists_maker (hm : t.Marks) (h : t.Sound) {x : Errand ρ} (hx : x ∈ t.errands) {b : Block ρ}
    {reply : Reply ρ} (hs : x.stage = .tracing b reply) :
    ∃ maker, Makes t.trace t.host.commons maker x.engine b := by
  obtain ⟨e, he, hc⟩ := h.course_of_errand hx
  rw [hs] at hc
  obtain ⟨hfree, hengine⟩ := hc.eq_free_of_tracing
  obtain ⟨maker, hmaker, hmade⟩ := h.exists_maker (job_mem_jobs hx) (b := b) (by
    rw [Job.given?, Errand.job, hfree]
    rfl)
  have hon : maker.engine = x.engine :=
    (h.engine_of_made hmaker hmade).symm.trans (hengine.trans (h.ids _ _ he))
  exact ⟨maker.thread, hon ▸ hm.makes h hmaker hmade⟩

theorem jobs_change (hm : t.Marks) (h : t.Sound) (hc : t.Change t')
    (hstreams : t.host.commons.streams <+: t'.host.commons.streams) :
    ∀ j ∈ t'.jobs, Marked t'.trace t'.host.commons j.thread j.engine j.stage := by
  have hold : ∀ j ∈ t.jobs, Marked t'.trace t'.host.commons j.thread j.engine j.stage :=
    fun j hj => (hm.jobs j hj).mono (subset_change hc) hstreams
  cases hc with
  | unchanged | dropped => exact hold
  | aside he hx | made he hi hl hx =>
    rw [jobs_aside hx]
    exact hold
  | began hi he hb =>
    rw [jobs_begin _ _ _ _ hi]
    intro j hj
    rcases Multiset.mem_cons.mp hj with rfl | hj
    · exact .of_none rfl rfl rfl
    · exact hold j hj
  | @wentOn x hx =>
    obtain ⟨e, he, -⟩ := h.course_of_errand hx
    obtain ⟨rest, hrunning, hrunning', hpast⟩ := jobs_goOn h.threads hx he
    have hnext := (hm.jobs _ (job_mem_jobs hx)).advance e fun b reply hs => hm.exists_maker h hx hs
    rw [Traffic.jobs, hrunning', hpast, Multiset.cons_add]
    intro j hj
    rcases Multiset.mem_cons.mp hj with rfl | hj
    · rw [goOn_eq he]
      exact hnext
    · refine hold j ?_
      rw [Traffic.jobs, hrunning, Multiset.cons_add]
      exact Multiset.mem_cons_of_mem hj
  | ended hx hr =>
    rw [(jobs_finish h.threads hx hr).2]
    exact hold

/-- The invariant is preserved by every move. -/
theorem move (hm : t.Marks) (h : t.Sound) (m : Move β ρ) : (t.move m).Marks := by
  have hc := change_move t m
  have hstreams := prefix_move h m
  have htrace := subset_change hc
  refine ⟨hm.jobs_change h hc hstreams, ?_, ?_⟩
  · intro thread engine entry hlog
    rcases logged_of_change h hc hlog with hlog | ⟨x, hx, rfl, rfl, hr⟩
    · obtain ⟨maker, hn⟩ := hm.logged thread engine entry hlog
      exact ⟨maker, hn.mono htrace hstreams⟩
    · have hentry : x.stage.entry? = some entry := by
        cases hs : x.stage <;> simp_all [Stage.ready?, Stage.entry?]
      obtain ⟨maker, hn⟩ := (hm.jobs _ (job_mem_jobs hx)).entry entry hentry
      exact ⟨maker, hn.mono htrace hstreams⟩
  · intro thread s htold
    rcases told_move t m htold with htold | hs
    · exact Commons.stream?_mono hstreams (hm.told thread s htold)
    · exact hs

end Marks

theorem Reachable.marks (h : t.Reachable) : t.Marks := by
  induction h with
  | start host hh => exact .start host
  | move m hr ih => exact ih.move hr.sound m

/-! ### All together -/

/-- What the streams of a process tell, in which some threads have asked for theirs. -/
structure TellsApart (t : Traffic β ρ) (asked : List ThreadId) : Prop where
  /-- The first threads to ask are numbered from one, in the order in which they first asked, -/
  numbered (i : Nat) (thread : ThreadId) :
    t.host.commons.stream? thread = some ⟨i + 1⟩ ↔ asked.eraseDups[i]? = some thread
  /-- and no number is that of a process without threads. -/
  not_main (thread : ThreadId) (s : Stream) : t.host.commons.stream? thread = some s → s ≠ .main
  /-- Who has asked has a number, and nobody else has, -/
  isSome_iff (thread : ThreadId) : (t.host.commons.stream? thread).isSome ↔ thread ∈ asked
  /-- no two threads have the same, -/
  distinct (a b : ThreadId) (s : Stream) : t.host.commons.stream? a = some s → t.host.commons.stream? b = some s → a = b
  /-- and every thread keeps its own, however long the process runs. -/
  kept (ms : List (Move β ρ)) (thread : ThreadId) (s : Stream) :
    t.host.commons.stream? thread = some s → (t.run ms).host.commons.stream? thread = some s
  /-- A thread that has been told its stream was told this one, -/
  told (thread : ThreadId) (s : Stream) : .told thread s ∈ t.trace → t.host.commons.stream? thread = some s
  /-- and a block that a call has made has that of its thread. -/
  made : ∀ j ∈ t.past, ∀ b, j.made? = some b → t.host.commons.stream? j.thread = some b.stream
  /-- The same comes of a counter and of cells for words, whatever the order of the steps in which threads ask, if
  they are fewer than there are words. -/
  counted (turns : List ThreadId) : turns.toFinset.card < 2 ^ 64 →
    (Counter.run turns).draws = t.host.commons.streams → ∀ thread word,
      (thread, word) ∈ (Counter.run turns).answers → word ≠ 0 ∧ t.host.commons.stream? thread = some ⟨word.toNat⟩
  /-- Every entry of a log is about a block that one thread has made, -/
  existsUnique_maker (thread : ThreadId) (engine : EngineId) (entry : Entry) :
    .did thread engine (.logged entry) ∈ t.trace → ∃! maker, .did maker engine (.named entry.block) ∈ t.trace
  /-- and its line begins with the stream of that thread. -/
  begins (thread maker : ThreadId) (engine : EngineId) (entry : Entry) :
    .did thread engine (.logged entry) ∈ t.trace → .did maker engine (.named entry.block) ∈ t.trace → ∀ n,
      (Entry.opener n).toList <+: entry.line.toList ↔ t.host.commons.stream? maker = some ⟨n⟩
  /-- A thread that gives a block back has a number by the time when this is logged, -/
  frees (thread : ThreadId) (engine : EngineId) (entry : Entry) : .did thread engine (.logged entry) ∈ t.trace →
    entry.event = .freed → ∃ n, t.host.commons.stream? thread = some ⟨n⟩
  /-- and the line ends with it just if another thread has made the block. -/
  ends (thread maker : ThreadId) (engine : EngineId) (entry : Entry) :
    .did thread engine (.logged entry) ∈ t.trace → .did maker engine (.named entry.block) ∈ t.trace → ∀ n,
      (Entry.closer n).toList <:+ entry.line.toList ↔
        entry.event = .freed ∧ thread ≠ maker ∧ t.host.commons.stream? thread = some ⟨n⟩

/-- **Streams tell threads apart**, and the lines of the log name the right ones, in whatever order threads take
turns. -/
theorem tells_threads_apart {host : Host β} (hh : host.engines = []) (hs : host.commons.streams = [])
    (ms : List (Move β ρ)) :
    (({ host } : Traffic β ρ).run ms).TellsApart (({ host } : Traffic β ρ).askers ms) := by
  have hstart : ({ host } : Traffic β ρ).Reachable := .start host hh
  have hreach := hstart.run ms
  have hstreams := hstart.streams_run [] hs ms
  have hmarks := hreach.marks
  have hsound := hreach.sound
  rw [List.nil_append] at hstreams
  generalize ({ host } : Traffic β ρ).run ms = t at *
  have hnodup : t.host.commons.streams.Nodup := hstreams ▸ nodup_eraseDups _
  have names {thread maker : ThreadId} {engine : EngineId} {entry : Entry}
      (hlog : .did thread engine (.logged entry) ∈ t.trace)
      (hmaker : .did maker engine (.named entry.block) ∈ t.trace) :
      entry.Names t.trace t.host.commons thread engine maker := by
    obtain ⟨maker', hn⟩ := hmarks.logged thread engine entry hlog
    exact hreach.numbered.drawer_unique hn.named hmaker ▸ hn
  exact {
    numbered := fun i thread => by rw [Commons.stream?_eq_some_succ_iff hnodup, hstreams]
    not_main := fun thread s => Commons.stream?_ne_main
    isSome_iff := fun thread => by rw [Commons.stream?_isSome_iff, hstreams, List.mem_eraseDups]
    distinct := fun a b s => Commons.stream?_inj
    kept := fun ms thread s hs => Commons.stream?_mono (hreach.prefix_run ms) hs
    told := hmarks.told
    made := fun j hj b hb => (hmarks.makes hsound hj hb).stream
    counted := fun turns hcard hdraws thread word hw => Counter.stream?_of_answer hcard hdraws.symm hw
    existsUnique_maker := fun thread engine entry hlog => by
      obtain ⟨maker, hn⟩ := hmarks.logged thread engine entry hlog
      exact ⟨maker, hn.named, fun other ho => hreach.numbered.drawer_unique ho hn.named⟩
    begins := fun thread maker engine entry hlog hmaker n => by
      rw [Entry.maker_iff_prefix, (names hlog hmaker).maker_eq, Option.some_inj]
    frees := fun thread engine entry hlog hf => by
      obtain ⟨maker, hn⟩ := hmarks.logged thread engine entry hlog
      obtain ⟨s, hs⟩ := Option.isSome_iff_exists.mp (hn.isSome hf)
      exact ⟨s.number, hs⟩
    ends := fun thread maker engine entry hlog hmaker n => by
      rw [Entry.freedFrom_iff_suffix, (names hlog hmaker).freedFrom_iff] }

/-- A thread makes two blocks. Another gives one of them back, and this is the first time that it asks for its
stream; the maker gives back the other. -/
def handedOver : List (Move ScriptedBackend ScriptedResource) :=
  let device : Device := ⟨"0", "device", 1024, .plainBuffer, .ofList [.plainBuffer]⟩
  let layout : Layout := ⟨[2, 3], .f32, false⟩
  [.make device ({} : ScriptedBackend) { memory := { logger := { detail := .basic, stderr := true } } },
      .call (.numbered 7) ⟨0⟩ "a" (.allocate layout false)] ++ Move.toEnd (.numbered 7) ++
    [.call (.numbered 7) ⟨0⟩ "b" (.attach layout 4096)] ++ Move.toEnd (.numbered 7) ++
    [.giveBack (.numbered 3) ⟨0⟩ "a"] ++ Move.toEnd (.numbered 3) ++
    [.giveBack (.numbered 7) ⟨0⟩ "b"] ++ Move.toEnd (.numbered 7)

theorem handedOver_tells_threads_apart :
    let start : Traffic ScriptedBackend ScriptedResource := { host := {} }
    start.askers handedOver = [.numbered 7, .numbered 7, .numbered 3, .numbered 7] ∧
      (Deed.entries ((start.run handedOver).deeds ⟨0⟩)).map (fun entry => (entry.event, entry.maker, entry.freedFrom)) =
        [(.allocated, ⟨1⟩, none), (.imported, ⟨1⟩, none), (.freed, ⟨1⟩, some ⟨2⟩), (.freed, ⟨1⟩, none)] ∧
      (start.run handedOver).TellsApart (start.askers handedOver) :=
  ⟨by decide +kernel, by decide +kernel, tells_threads_apart rfl rfl handedOver⟩

end Traffic

end DeviceMemory
