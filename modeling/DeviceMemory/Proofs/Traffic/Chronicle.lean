import DeviceMemory.Proofs.Engine.Printing
import DeviceMemory.Proofs.Traffic.Ids

/-!
# The log tells what happened

Engines write to their logs while other threads run, after the bytes of a block are counted and before
its caller gets to see it. Even so the logs tell what happened, at every moment and in whatever order
threads take turns (`Traffic.Reachable.chronicles`): the entries of an engine match the blocks that were
made on it and the blocks of its own that were given back; of all the engines of a process, no two tell of
the same block that it was made, nor that it was given back; and a block is told to have been given back
by the engine that told of its making, later.

## The model

The `chronicle` of a process is the entries of all engines in one, the latest first. That its order is
right is a statement about every entry and what was written before it (`InSequence`), kept by every move.
That no block is told of twice comes from the counter that the ids of blocks are drawn from.
-/

namespace DeviceMemory

variable {β ρ : Type}

open Deed

/-! ### The entries of all engines -/

/-- All entries with the engines that wrote them, the latest first. -/
def chronicle (trace : List (Happening ρ)) : List (EngineId × Entry) :=
  (deedsOf trace).filterMap fun x => x.2.wrote?.map (x.1, ·)

theorem chronicle_aside {x : Happening ρ} (hx : x.isAside) (trace : List (Happening ρ)) :
    chronicle (x :: trace) = chronicle trace := by
  rw [chronicle, deedsOf_aside hx, chronicle]

theorem chronicle_didAll (thread : ThreadId) (engine : EngineId) (ds : List (Deed ρ))
    (trace : List (Happening ρ)) :
    chronicle (didAll thread engine ds ++ trace) = ((entries ds).map (engine, ·)).reverse ++ chronicle trace := by
  simp [chronicle, deedsOf_didAll, entries, List.filterMap_append, List.filterMap_map, List.map_filterMap]

theorem mem_chronicle {trace : List (Happening ρ)} {id : EngineId} {entry : Entry} :
    (id, entry) ∈ chronicle trace ↔ entry ∈ entries (deedsOn id trace) := by
  rw [deedsOn_eq]
  simp only [chronicle, entries, List.mem_filterMap, List.mem_reverse]
  constructor
  · rintro ⟨⟨engine, d⟩, hd, he⟩
    obtain ⟨entry', hentry, heq⟩ := Option.map_eq_some_iff.mp he
    cases heq
    exact ⟨d, ⟨_, hd, if_pos rfl⟩, hentry⟩
  · rintro ⟨d, ⟨⟨engine, d'⟩, hd, ho⟩, he⟩
    simp only [on?, Option.ite_none_right_eq_some] at ho
    obtain ⟨rfl, hdd⟩ := ho
    cases hdd
    exact ⟨_, hd, by rw [he]; rfl⟩

/-! ### Events -/

/-- The block that a call gives back to the engine that made it. -/
def Job.returned? (j : Job ρ) : Option (Block ρ) :=
  match j.request with
  | .free b => if b.engine = j.engine then some b else none
  | _ => none

/-- Entries and events match, one to one. -/
def Match (es : Multiset Entry) (xs : Multiset (Event × Block ρ)) : Prop :=
  Multiset.Rel (fun entry x => Entry.Tells entry x.1 x.2) es xs

theorem Reports.match_toList {x : Option (Event × Block ρ)} {es : List Entry} (h : Reports x es) :
    Match (↑es) (↑x.toList : Multiset (Event × Block ρ)) := by
  cases h with
  | nothing => exact .zero
  | @event event b entry ht => exact Multiset.Rel.cons (b := (event, b)) ht .zero

namespace Traffic

/-- The events that calls on an engine have come to. -/
def events (t : Traffic β ρ) (id : EngineId) : Multiset (Event × Block ρ) :=
  (t.jobs.filter fun j => j.engine = id).filterMap Job.event?

namespace Sound

variable [Backend β ρ] {t : Traffic β ρ}

/-- What can be read off entries one by one is read call by call. -/
theorem coe_filterMap_chronicle {γ : Type} (h : t.Sound) (f : Entry → Option γ) :
    (↑((chronicle t.trace).filterMap fun x => f x.2) : Multiset γ) =
      t.jobs.bind fun j => ↑((entries j.deeds).filterMap f) := by
  have hread : ((chronicle t.trace).filterMap fun x => f x.2) =
      (deedsOf t.trace).filterMap fun x => x.2.wrote?.bind f := by
    rw [chronicle, List.filterMap_filterMap]
    congr
    funext x
    cases x.2.wrote? <;> rfl
  rw [hread, h.coe_filterMap_deedsOf fun d => d.wrote?.bind f]
  apply Multiset.bind_congr
  intro j _
  rw [entries, List.filterMap_filterMap]

/-- Blocks that are told to have been made have ids that were drawn. -/
theorem told_made_le (h : t.Sound) :
    (↑((chronicle t.trace).filterMap fun x => x.2.made?) : Multiset BlockId) ≤ ↑(drawnIn t.trace) := by
  rw [h.coe_drawnIn, h.coe_filterMap_chronicle Entry.made?]
  apply bind_le_bind
  intro j hj
  obtain ⟨n, -, hc⟩ := h.course_of_mem hj
  rw [← entries_effects, ← drawn_effects]
  exact Multiset.coe_le.mpr hc.made_sublist_drawn.subperm

/-- Blocks that are told to have been given back were given back. -/
theorem told_gone_le (h : t.Sound) :
    (↑((chronicle t.trace).filterMap fun x => x.2.gone?) : Multiset BlockId) ≤
      (t.jobs.filterMap Job.given?).map Block.id := by
  rw [h.coe_filterMap_chronicle Entry.gone?, Multiset.map_filterMap]
  apply bind_le_filterMap
  intro j hj
  obtain ⟨n, -, hc⟩ := h.course_of_mem hj
  rw [← entries_effects]
  rcases hc.gone_eq_nil_or with hg | ⟨b, hr, hg⟩
  · exact .inl (by rw [hg]; rfl)
  · exact .inr ⟨b.id, by rw [Job.given?, hr]; rfl, by rw [hg]; rfl⟩

/-- No block is told twice to have been made. -/
theorem nodup_told_made (h : t.Sound) (hn : t.Numbered) :
    ((chronicle t.trace).filterMap fun x => x.2.made?).Nodup :=
  Multiset.coe_nodup.mp (Multiset.nodup_of_le h.told_made_le (Multiset.coe_nodup.mpr hn.nodup))

/-- No block is told twice to have been given back. -/
theorem nodup_told_gone (h : t.Sound) (hn : t.Numbered) :
    ((chronicle t.trace).filterMap fun x => x.2.gone?).Nodup := by
  have hle : (↑((chronicle t.trace).filterMap fun x => x.2.gone?) : Multiset BlockId) ≤
      ↑(drawnIn t.trace) := by
    calc (↑((chronicle t.trace).filterMap fun x => x.2.gone?) : Multiset BlockId)
        ≤ (t.jobs.filterMap Job.given?).map Block.id := h.told_gone_le
      _ ≤ (t.past.filterMap Job.made?).map Block.id :=
        Multiset.map_le_map (le_trans (Multiset.le_add_right _ _) h.blocks)
      _ ≤ ↑(drawnIn t.trace) := h.made_le_drawn
  exact Multiset.coe_nodup.mp (Multiset.nodup_of_le hle (Multiset.coe_nodup.mpr hn.nodup))

/-! ### The entries of one engine -/

/-- On an engine that logs, a call has written an entry about the event that it has come to. -/
theorem reports (h : t.Sound) {id : EngineId} {e : Engine β} (he : t.host.engine? id = some e)
    (hd : e.detail ≠ .disabled) {j : Job ρ} (hj : j ∈ t.jobs) (hid : j.engine = id) :
    Reports j.event? (entries j.deeds) := by
  rw [← entries_effects]
  exact (h.course_on he hj hid).reports hd

theorem coe_entries (h : t.Sound) (id : EngineId) : (↑(entries (t.deeds id)) : Multiset Entry) =
    (t.jobs.filter fun j => j.engine = id).bind fun j => ↑(entries j.deeds) := by
  rw [entries, ← Multiset.filterMap_coe, h.deeds id, Multiset.filterMap_bind]
  rfl

/-- The entries of an engine that logs match the events of the calls on it. -/
theorem match_events (h : t.Sound) {id : EngineId} {e : Engine β} (he : t.host.engine? id = some e)
    (hd : e.detail ≠ .disabled) : Match (↑(entries (t.deeds id))) (t.events id) := by
  rw [h.coe_entries, events]
  have hall : ∀ j ∈ t.jobs.filter fun j => j.engine = id, Reports j.event? (entries j.deeds) := by
    intro j hj
    obtain ⟨hm, hid⟩ := Multiset.mem_filter.mp hj
    exact h.reports he hd hm hid
  generalize t.jobs.filter (fun j => j.engine = id) = js at hall
  induction js using Multiset.induction with
  | empty => exact .zero
  | cons j js ih =>
    rw [Multiset.cons_bind, filterMap_cons_toList]
    exact (hall j (Multiset.mem_cons_self j js)).match_toList.add
      (ih fun j' hj' => hall j' (Multiset.mem_cons_of_mem hj'))

/-- An engine that does not log has written nothing. -/
theorem entries_of_disabled (h : t.Sound) {id : EngineId} {e : Engine β} (he : t.host.engine? id = some e)
    (hd : e.detail = .disabled) : entries (t.deeds id) = [] := by
  apply List.eq_nil_iff_forall_not_mem.mpr
  intro entry hentry
  rw [← Multiset.mem_coe, h.coe_entries, Multiset.mem_bind] at hentry
  obtain ⟨j, hj, hm⟩ := hentry
  obtain ⟨hj, hid⟩ := Multiset.mem_filter.mp hj
  have hnil : entries (effects j.deeds) = [] := (h.course_on he hj hid).entries_of_disabled hd
  rw [← entries_effects, hnil] at hm
  cases hm

/-- Of the calls that have ended, each that made a block and each that gave one back to the engine that made
it has come to an event, and no other. -/
theorem length_event? (h : t.Sound) {j : Job ρ} (hj : j ∈ t.past) :
    j.event?.toList.length = j.made?.toList.length + j.returned?.toList.length := by
  obtain ⟨n, reply, hn, hs, hc⟩ := h.course_of_past hj
  have hevent : j.event? = j.request.event? reply := by rw [Job.event?, hs]; rfl
  rw [hevent, Job.made?_of_stage hs, Job.returned?, ← hn]
  rcases hc.ended_cases with ⟨event, b, rfl, -, he, hf⟩ | ⟨b, rfl, hr, hb⟩ | ⟨f, rfl, hf⟩
  · rw [he]
    cases hr : j.request with
    | free b' => exact absurd hr (hf b')
    | _ => rfl
  · simp [hr, hb, Reply.block?, Call.event?]
  · rw [Call.event?_failed]
    cases hr : j.request with
    | free b => simp [hf b hr, Reply.block?]
    | _ => rfl

/-- The events on an engine are the blocks that were made on it, the blocks of its own that it took back, and
the events of calls that are in progress there. -/
theorem card_events (h : t.Sound) (id : EngineId) : (t.events id).card =
    ((t.past.filter fun j => j.engine = id).filterMap Job.made?).card +
      ((t.past.filter fun j => j.engine = id).filterMap Job.returned?).card +
      ((t.running.filter fun j => j.engine = id).filterMap Job.event?).card := by
  have hpast : ∀ js : Multiset (Job ρ), js ≤ t.past → (js.filterMap Job.event?).card =
      (js.filterMap Job.made?).card + (js.filterMap Job.returned?).card := by
    intro js hjs
    induction js using Multiset.induction with
    | empty => rfl
    | cons j js ih =>
      have hj := h.length_event? (Multiset.mem_of_le hjs (Multiset.mem_cons_self j js))
      have hrest := ih ((Multiset.le_cons_self js j).trans hjs)
      simp only [filterMap_cons_toList, Multiset.card_add, Multiset.coe_card, hj, hrest]
      omega
  rw [events, jobs, Multiset.filter_add, Multiset.filterMap_add, Multiset.card_add,
    hpast _ (Multiset.filter_le _ _), Nat.add_comm]

/-! ### What is written before a free -/

/-- A block that an engine is about to tell to have been given back, it has told to have been made. -/
theorem exists_told_made (h : t.Sound) {x : Errand ρ} (hx : x ∈ t.errands) {e : Engine β}
    (he : t.host.engine? x.engine = some e) {entry : Entry} (hw : x.stage.ready? = some entry)
    (hf : entry.event = .freed) :
    ∃ told, (x.engine, told) ∈ chronicle t.trace ∧ told.made? = some entry.block := by
  have hjob : x.job t.trace ∈ t.jobs := job_mem_jobs hx
  obtain ⟨event, b, release, reply, ha, hd, ht⟩ := (h.course_on he hjob rfl).achieves_of_ready? hw
  have hevent : event = .freed := ht.event_eq.symm.trans hf
  subst hevent
  -- the block was made by a call on the same engine, which has ended, so it has logged
  obtain ⟨maker, hmaker, hmade⟩ := h.exists_maker hjob (b := b) (by rw [Job.given?, ha.eq_free]; rfl)
  have hon : maker.engine = x.engine :=
    (h.engine_of_made hmaker hmade).symm.trans (ha.engine_eq.trans (h.ids _ _ he))
  have hm : maker ∈ t.jobs := mem_jobs_of_past hmaker
  obtain ⟨making, hne, hevent⟩ := h.event?_of_made hmaker hmade
  have hr := h.reports he hd hm hon
  rw [hevent] at hr
  obtain ⟨told, hes, htold⟩ := hr.of_some
  refine ⟨told, mem_chronicle.mpr ?_, ?_⟩
  · rw [← Multiset.mem_coe]
    change told ∈ (↑(entries (t.deeds x.engine)) : Multiset Entry)
    rw [h.coe_entries, Multiset.mem_bind]
    exact ⟨maker, Multiset.mem_filter.mpr ⟨hm, hon⟩, by rw [hes]; exact Multiset.mem_singleton_self told⟩
  · rw [Entry.made?, htold.event_eq, if_neg hne, htold.block_eq, ht.block_eq]

end Sound

/-! ### In what order -/

/-- Wherever an entry tells that a block was given back, one that the same engine wrote before tells that the
block was made. -/
def InSequence (log : List (EngineId × Entry)) : Prop :=
  ∀ before id entry, (id, entry) :: before <:+ log → entry.event = .freed →
    ∃ told, (id, told) ∈ before ∧ told.made? = some entry.block

variable [Backend β ρ] {t t' : Traffic β ρ}

/-- A step of a call writes the entry that the call has ready, and no other. -/
theorem chronicle_goOn {x : Errand ρ} {e : Engine β} (he : t.host.engine? x.engine = some e) :
    chronicle (t.goOn x).trace = x.stage.ready?.toList.map (x.engine, ·) ++ chronicle t.trace := by
  rw [goOn_eq he, chronicle_didAll, e.entries_advance]
  cases x.stage.ready? <;> rfl

theorem InSequence.goOn (h : t.Sound) (ho : InSequence (chronicle t.trace)) {x : Errand ρ}
    (hx : x ∈ t.errands) : InSequence (chronicle (t.goOn x).trace) := by
  obtain ⟨e, he, -⟩ := h.course_of_errand hx
  rw [chronicle_goOn he]
  cases hw : x.stage.ready? with
  | none => exact ho
  | some entry =>
    intro before id entry' hb hf
    rcases List.suffix_cons_iff.mp hb with heq | hb
    · cases heq
      exact h.exists_told_made hx he hw hf
    · exact ho before id entry' hb hf

/-- The invariant is preserved by every move. -/
theorem InSequence.change (h : t.Sound) (ho : InSequence (chronicle t.trace)) (hc : t.Change t') :
    InSequence (chronicle t'.trace) := by
  cases hc with
  | unchanged => exact ho
  | aside he hx => exact (chronicle_aside hx t.trace).symm ▸ ho
  | made he hi hl hx => exact (chronicle_aside hx t.trace).symm ▸ ho
  | began hi he hb => exact ho
  | wentOn hx => exact InSequence.goOn h ho hx
  | ended hx hs => exact ho
  | dropped => exact ho

theorem Reachable.inSequence (h : t.Reachable) : InSequence (chronicle t.trace) := by
  induction h with
  | start host hh =>
    intro before id entry hb
    cases List.suffix_nil.mp hb
  | move m hr ih => exact InSequence.change hr.sound ih (change_move _ m)

/-! ### What is printed -/

/-- Every engine has printed the texts of its entries, in order, and nothing else. -/
def Prints (t : Traffic β ρ) : Prop := ∀ id e, t.host.engine? id = some e →
  printed (t.deeds id) = (entries (t.deeds id)).flatMap fun entry => e.logger.prints entry.text

theorem Prints.goOn (h : t.Sound) (hp : t.Prints) {x : Errand ρ} (hx : x ∈ t.errands) : (t.goOn x).Prints := by
  obtain ⟨e, he, -⟩ := h.course_of_errand hx
  intro id e' he'
  rw [engine?_goOn he] at he'
  rw [deeds_goOn he]
  split at he'
  case isTrue hid =>
    cases he'
    rw [if_pos hid.symm, printed_append, entries_append, List.flatMap_append, e.printed_advance, e.entries_advance,
      hp id e (hid ▸ he)]
    simp only [e.prints_advance]
  case isFalse hid =>
    rw [if_neg (Ne.symm hid), List.append_nil]
    exact hp id e' he'

/-- The invariant is preserved by every move. -/
theorem Prints.change (h : t.Sound) (hp : t.Prints) (hc : t.Change t') : t'.Prints := by
  have same {t' : Traffic β ρ} (hengine : ∀ id, t'.host.engine? id = t.host.engine? id)
      (hdeeds : ∀ id, t'.deeds id = t.deeds id) : t'.Prints := by
    intro id e he
    rw [hdeeds]
    exact hp id e ((hengine id).symm.trans he)
  cases hc with
  | unchanged => exact hp
  | aside he hx =>
    exact same (fun id => by rw [Host.engine?, he, Host.engine?]) fun id => deedsOn_aside hx id t.trace
  | @made host x e he hi hl hx =>
    intro id e' he'
    have hdeeds : deedsOn id (x :: t.trace) = t.deeds id := deedsOn_aside hx id t.trace
    rw [Host.engine?_append he] at he'
    rw [Traffic.deeds, hdeeds]
    split at he'
    case isTrue hn =>
      -- nothing has been done on the new engine
      rw [h.deeds_eq_nil (List.getElem?_eq_none (Nat.le_of_eq hn.symm))]
      rfl
    case isFalse => exact hp id e' he'
  | began hi he hb => exact same (fun _ => rfl) fun id => deedsOn_began id _ _ _ t.trace
  | wentOn hx => exact hp.goOn h hx
  | ended hx hs => exact same (fun _ => rfl) fun id => deedsOn_ended id _ _ _ _ t.trace
  | dropped => exact hp

theorem Reachable.prints (h : t.Reachable) : t.Prints := by
  induction h with
  | start host hh =>
    intro id e he
    simp [Host.engine?, hh] at he
  | move m hr ih => exact ih.change hr.sound (change_move _ m)

/-! ### Files -/

theorem files_ofSettings (f : Files) (directory : Location) {s : LogSettings} (hs : s.detail = .disabled) :
    (Logger.ofSettings f directory s).1 = f := by
  rw [Logger.ofSettings, if_pos hs]

/-- An engine that is not to log leaves the files alone when it is made. -/
theorem files_makeEngine (h : Host β) (device : Device) (backend : β) {s : Settings}
    (hs : s.memory.logger.detail = .disabled) :
    (h.makeEngine device backend s).2.1.commons.files = h.commons.files :=
  (files_ofSettings _ _ hs).trans (congrArg Commons.files (commons_readLimit h device.totalMemory))

/-- Whether a move may do anything to files: it makes an engine that is to log, or it is a step of a call on
one. -/
def Writes (t : Traffic β ρ) : Move β ρ → Prop
  | .make _ _ s | .makeAmong _ _ _ _ s => s.memory.logger.detail ≠ .disabled
  | .step thread => ∃ x e, t.errandOf thread = some x ∧ t.host.engine? x.engine = some e ∧ e.detail ≠ .disabled
  | .stream _ | .call .. | .giveBack .. | .drop _ => False

theorem Sound.files_move (h : t.Sound) {m : Move β ρ} (hm : ¬ t.Writes m) :
    (t.move m).host.commons.files = t.host.commons.files := by
  cases m with
  | make device backend settings => exact files_makeEngine t.host device backend (not_not.mp hm)
  | makeAmong target devices selector backend settings =>
    simp only [move, Host.makeEngineAmong]
    split
    · exact files_makeEngine t.host _ backend (not_not.mp hm)
    · rfl
  | stream thread =>
    simp only [move, Commons.streamOf]
    split <;> rfl
  | call thread engine name request =>
    simp only [move]
    split <;> rfl
  | giveBack thread engine name =>
    simp only [move]
    split
    · rfl
    · split <;> rfl
  | step thread =>
    simp only [move]
    split
    · rfl
    · rename_i x hx
      split
      · rfl
      · obtain ⟨e, he, hc⟩ := h.course_of_errand (mem_of_errandOf hx).1
        have hd : e.detail = .disabled := by
          by_contra hd
          exact hm ⟨x, e, hx, he, hd⟩
        rw [goOn_eq he]
        exact (hc.silent_advance x.thread t.host.commons hd).files_eq
  | drop name => rfl

/-- No move of a run may do anything to files. -/
def Spares (t : Traffic β ρ) : List (Move β ρ) → Prop
  | [] => True
  | m :: ms => ¬ t.Writes m ∧ (t.move m).Spares ms

theorem Reachable.files_run (h : t.Reachable) {ms : List (Move β ρ)} (hms : t.Spares ms) :
    (t.run ms).host.commons.files = t.host.commons.files := by
  induction ms generalizing t with
  | nil => rfl
  | cons m ms ih =>
    obtain ⟨hm, hms⟩ := hms
    calc ((t.move m).run ms).host.commons.files
        = (t.move m).host.commons.files := ih (.move m h) hms
      _ = t.host.commons.files := h.sound.files_move hm

/-! ### All together -/

/-- What the logs of a process tell. -/
structure Chronicles (t : Traffic β ρ) : Prop where
  /-- The entries of an engine that logs match, one to one, the events that calls on it have come to. -/
  faithful (id : EngineId) (e : Engine β) : t.host.engine? id = some e → e.detail ≠ .disabled →
    Match (↑(entries (t.deeds id))) (t.events id)
  /-- There is one for each block that was made on the engine, one for each block of its own that it took
  back, and one for each call that is in progress and can only succeed. -/
  length_eq (id : EngineId) (e : Engine β) : t.host.engine? id = some e → e.detail ≠ .disabled →
    (entries (t.deeds id)).length =
      ((t.past.filter fun j => j.engine = id).filterMap Job.made?).card +
        ((t.past.filter fun j => j.engine = id).filterMap Job.returned?).card +
        ((t.running.filter fun j => j.engine = id).filterMap Job.event?).card
  /-- While no call is in progress there, that is one for each block that was made or taken back. -/
  length_eq_of_quiet (id : EngineId) (e : Engine β) : t.host.engine? id = some e → e.detail ≠ .disabled →
    t.Quiet id → (entries (t.deeds id)).length =
      ((t.past.filter fun j => j.engine = id).filterMap Job.made?).card +
        ((t.past.filter fun j => j.engine = id).filterMap Job.returned?).card
  /-- A call that fails writes nothing, -/
  fails : ∀ j ∈ t.jobs, ∀ release f, j.stage = .closing release (.failed f) → entries j.deeds = []
  /-- nor does one that gives an engine a block of another. -/
  foreign : ∀ j ∈ t.jobs, ∀ b, j.request = .free b → b.engine ≠ j.engine → entries j.deeds = []
  /-- All engines together tell of no block twice that it was made, -/
  made_once : ((chronicle t.trace).filterMap fun x => x.2.made?).Nodup
  /-- nor that it was given back, -/
  gone_once : ((chronicle t.trace).filterMap fun x => x.2.gone?).Nodup
  /-- and they tell that only after the same engine has told of the making. -/
  inSequence : InSequence (chronicle t.trace)
  /-- Whatever an engine has put on standard output and standard error are its entries. -/
  prints : t.Prints
  /-- An engine that does not log has written nothing, -/
  silent (id : EngineId) (e : Engine β) : t.host.engine? id = some e → e.detail = .disabled →
    entries (t.deeds id) = []
  /-- neither making it nor a step of a call on it does anything to files, -/
  untouched (m : Move β ρ) : ¬ t.Writes m → (t.move m).host.commons.files = t.host.commons.files
  /-- and where none logs, they stay what they are, however long the process runs. -/
  spared (ms : List (Move β ρ)) : t.Spares ms → (t.run ms).host.commons.files = t.host.commons.files

theorem Sound.fails (h : t.Sound) {j : Job ρ} (hj : j ∈ t.jobs) {release : Option (Holding ρ)} {f : Failure}
    (hs : j.stage = .closing release (.failed f)) : entries j.deeds = [] := by
  obtain ⟨n, -, hc⟩ := h.course_of_mem hj
  rw [← entries_effects]
  exact hc.entries_eq_nil (by rw [hs]; exact j.request.event?_failed f)

theorem Sound.foreign (h : t.Sound) {j : Job ρ} (hj : j ∈ t.jobs) {b : Block ρ} (hr : j.request = .free b)
    (hb : b.engine ≠ j.engine) : entries j.deeds = [] := by
  obtain ⟨n, hn, hc⟩ := h.course_of_mem hj
  rw [← entries_effects]
  apply hc.entries_eq_nil
  cases he : j.stage.event? j.request with
  | none => rfl
  | some x =>
    rw [hr] at he
    cases Stage.event?_free he
    exact absurd ((hc.engine_of_event? (hr ▸ he)).trans hn) hb

/-- **The logs tell what happened**, in whatever order the threads of a process take turns. -/
theorem Reachable.chronicles (h : t.Reachable) : t.Chronicles where
  faithful id e he hd := h.sound.match_events he hd
  length_eq id e he hd := by
    have hcard := Multiset.card_eq_card_of_rel (h.sound.match_events he hd)
    rw [Multiset.coe_card, h.sound.card_events] at hcard
    exact hcard
  length_eq_of_quiet id e he hd hq := by
    have hcard := Multiset.card_eq_card_of_rel (h.sound.match_events he hd)
    rw [Multiset.coe_card, h.sound.card_events, hq.running_eq] at hcard
    exact hcard
  fails j hj release f hs := h.sound.fails hj hs
  foreign j hj b hr hb := h.sound.foreign hj hr hb
  made_once := h.sound.nodup_told_made h.numbered
  gone_once := h.sound.nodup_told_gone h.numbered
  inSequence := h.inSequence
  prints := h.prints
  silent id e he hd := h.sound.entries_of_disabled he hd
  untouched m hm := h.sound.files_move hm
  spared ms hms := h.files_run hms

/-- One engine logs and one does not. A thread makes two blocks on the first. It gives one to the second, which
declines, and the other back; another thread has asked the second for memory. -/
def twoLogs : Traffic ScriptedBackend ScriptedResource :=
  let device : Device := ⟨"0", "device", 1024, .plainBuffer, .ofList [.plainBuffer]⟩
  let layout : Layout := ⟨[2, 3], .f32, false⟩
  run { host := {} }
    ([.make device { capacity := none } { memory := { logger := { detail := .full, stdout := true } } },
        .make device { capacity := none } {},
      .call (.numbered 0) ⟨0⟩ "a" (.allocate layout false)] ++ Move.toEnd (.numbered 0) ++
      [.call (.numbered 0) ⟨0⟩ "b" (.attach layout 4096)] ++ Move.toEnd (.numbered 0) ++
      [.giveBack (.numbered 0) ⟨1⟩ "a"] ++ Move.toEnd (.numbered 0) ++
      [.giveBack (.numbered 0) ⟨0⟩ "b"] ++ Move.toEnd (.numbered 0) ++
      [.call (.numbered 1) ⟨1⟩ "c" (.allocate layout true), .step (.numbered 1), .step (.numbered 1)])

theorem twoLogs_chronicles :
    (chronicle twoLogs.trace).map (fun x => (x.1, x.2.event, x.2.block)) =
        [(⟨0⟩, .freed, ⟨1⟩), (⟨0⟩, .imported, ⟨1⟩), (⟨0⟩, .allocated, ⟨0⟩)] ∧
      twoLogs.Chronicles :=
  ⟨by decide +kernel, ((Reachable.start _ rfl).run _).chronicles⟩

end Traffic

end DeviceMemory
