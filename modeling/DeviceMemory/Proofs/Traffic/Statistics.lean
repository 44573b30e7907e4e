import DeviceMemory.Proofs.Engine.Survey
import DeviceMemory.Proofs.Ledger.History
import DeviceMemory.Proofs.Traffic.Chronicle

/-!
# The statistics tell the truth

While calls on an engine come one at a time, the statistics under each of its entries are those of its blocks
at that moment (`Traffic.SerialAll.counts`): they list the accounts in which a block was credited, by then and
not only by those still there, and tell of each the bytes of the blocks that were made and not given back. The
block of the entry itself counts if it was made, and does not if it was given back.

## The model

`Serial` says that no two calls are in progress on an engine; calls on others may go on as they like. What was
made and what was given back is read from the trace up to the entry (`blocksMade`, `blocksFreed`), and what
is left of the one without the other is told by an equation of bags (`Counts`). An entry is written one step
after the statistics for it were read. That the ledger is the same by then is the invariant `Surveyed`, and it
is the one thing for which calls have to come one at a time.
-/

namespace DeviceMemory

variable {β ρ : Type}

/-! ### Blocks that were made and given back -/

/-- The block that a call gave back, if it was taken. -/
def Job.freed? (j : Job ρ) : Option (Block ρ) :=
  match j.request, j.stage.reply? with
  | .free b, some .freed => some b
  | _, _ => none

/-- The blocks that calls on an engine made, as a trace tells. -/
def blocksMade (id : EngineId) (trace : List (Happening ρ)) : Multiset (Block ρ) :=
  ((↑(pastJobs trace) : Multiset (Job ρ)).filter fun j => j.engine = id).filterMap Job.made?

/-- The blocks that calls on an engine gave back. -/
def blocksFreed (id : EngineId) (trace : List (Happening ρ)) : Multiset (Block ρ) :=
  ((↑(pastJobs trace) : Multiset (Job ρ)).filter fun j => j.engine = id).filterMap Job.freed?

/-- The bytes of the blocks that are counted in an account. -/
def bytesOf (a : Account) (bs : Multiset (Block ρ)) : Nat :=
  ((bs.filter fun b => b.plan.account? = some a).map Block.size).sum

namespace Traffic

/-- The blocks whose bytes are counted are those with an account. -/
theorem bytesIn_worths (a : Account) (bs : Multiset (Block ρ)) : bytesIn a (worths bs).1 = bytesOf a bs := by
  induction bs using Multiset.induction with
  | empty => rfl
  | cons b bs ih =>
    have hs : b.plan.size = b.size := rfl
    rw [worths_cons, Prod.fst_add, bytesIn_add, ih]
    cases ha : b.plan.account? with
    | none => simp [bytesOf, Plan.worth, ha]
    | some k => by_cases hk : k = a <;> simp [bytesOf, Plan.worth, ha, hk, hs]

theorem mem_worths_fst {bs : Multiset (Block ρ)} {p : Plan ρ} :
    p ∈ (worths bs).1 ↔ ∃ b ∈ bs, b.plan = p ∧ p.account?.isSome := by
  induction bs using Multiset.induction with
  | empty => simp
  | cons b bs ih =>
    rw [worths_cons, Prod.fst_add, Multiset.mem_add, ih]
    by_cases hs : b.plan.account?.isSome <;> simp [Plan.worth, hs] <;> aesop

theorem fst_worths_filterMap (f : Job ρ → Option (Block ρ)) (js : Multiset (Job ρ)) :
    (worths (js.filterMap f)).1 = (js.map fun j => (worths ↑(f j).toList).1).sum := by
  induction js using Multiset.induction with
  | empty => rfl
  | cons j js ih =>
    rw [filterMap_cons_toList, worths_add, Prod.fst_add, ih, Multiset.map_cons, Multiset.sum_cons]

/-- What one choice picks is picked by another that agrees with it wherever it picks anything. -/
theorem filterMap_le_of_imp {γ δ : Type} {f g : γ → Option δ} {xs : Multiset γ}
    (h : ∀ x ∈ xs, ∀ y, f x = some y → g x = some y) : xs.filterMap f ≤ xs.filterMap g := by
  induction xs using Multiset.induction with
  | empty => exact le_rfl
  | cons x xs ih =>
    have hrest := ih fun y hy => h y (Multiset.mem_cons_of_mem hy)
    rw [filterMap_cons_toList, filterMap_cons_toList]
    refine add_le_add ?_ hrest
    cases hf : f x with
    | none => exact Multiset.zero_le _
    | some y => rw [h x (Multiset.mem_cons_self x xs) y hf]

/-! ### One call at a time -/

/-- No two calls are in progress on an engine. -/
def Serial (t : Traffic β ρ) (id : EngineId) : Prop :=
  ∀ x ∈ t.errands, ∀ y ∈ t.errands, x.engine = id → y.engine = id → x.thread = y.thread

instance (t : Traffic β ρ) (id : EngineId) : Decidable (t.Serial id) :=
  inferInstanceAs <| Decidable <|
    ∀ x ∈ t.errands, ∀ y ∈ t.errands, x.engine = id → y.engine = id → x.thread = y.thread

section Running

variable {t : Traffic β ρ} {id : EngineId} {x : Errand ρ}

/-- A call in progress is the only one on its engine. -/
theorem Serial.running_eq (hs : t.Serial id) (hn : (t.errands.map Errand.thread).Nodup) (hx : x ∈ t.errands)
    (hid : x.engine = id) : (t.running.filter fun j => j.engine = id) = {x.job t.trace} := by
  obtain ⟨l, r, h, hne⟩ := exists_split hn hx
  have hrunning : t.running = x.job t.trace ::ₘ ↑((l ++ r).map (·.job t.trace)) := by
    rw [running, h]
    exact coe_map_middle (·.job t.trace) l r x
  have hrest : ((↑((l ++ r).map (·.job t.trace)) : Multiset (Job ρ)).filter fun j => j.engine = id) = 0 := by
    apply Multiset.filter_eq_nil.mpr
    intro j hj hje
    obtain ⟨y, hy, rfl⟩ := List.mem_map.mp (Multiset.mem_coe.mp hj)
    have hmem : y ∈ t.errands := by
      rw [h]
      simp only [List.mem_append, List.mem_cons] at hy ⊢
      tauto
    exact hne y hy (hs y hmem x hx hje hid)
  rw [hrunning, Multiset.filter_cons_of_pos (p := fun j : Job ρ => j.engine = id) _ hid, hrest]
  rfl

/-- The calls on its engine are itself and those that have ended. -/
theorem Serial.jobs_eq (hs : t.Serial id) (hn : (t.errands.map Errand.thread).Nodup) (hx : x ∈ t.errands)
    (hid : x.engine = id) : (t.jobs.filter fun j => j.engine = id) =
      x.job t.trace ::ₘ t.past.filter fun j => j.engine = id := by
  rw [jobs, Multiset.filter_add, hs.running_eq hn hx hid, Multiset.singleton_add]

end Running

/-! ### What is counted -/

namespace Sound

variable [Backend β ρ] {t : Traffic β ρ} {id : EngineId}

/-- A call that has ended has credited what it made and debited what it gave back. -/
theorem counts_of_past (h : t.Sound) {j : Job ρ} (hj : j ∈ t.past) :
    (Deed.gain j.deeds).1 = (worths ↑j.made?.toList).1 ∧
      (Deed.loss j.deeds).1 = (worths ↑j.freed?.toList).1 := by
  obtain ⟨n, reply, hn, hs, hc⟩ := h.course_of_past hj
  obtain ⟨hg, hl⟩ := hc.counts_of_ended
  rw [Deed.gain_effects] at hg
  rw [Deed.loss_effects] at hl
  rw [hg, hl, Job.made?_of_stage hs, Job.freed?, hs]
  rcases hc.ended_cases with ⟨event, b, rfl, -, -, hf⟩ | ⟨b, rfl, hr, hb⟩ | ⟨f, rfl, hf⟩
  · cases hr : j.request with
    | free b' => exact absurd hr (hf b')
    | _ => simp [Reply.worth, Reply.block?, Call.brings, worths]
  · simp [hr, hb, Reply.worth, Reply.block?, Stage.reply?, Call.brings, worths]
  · cases hr : j.request with
    | free b => simp [hf b hr, Reply.worth, Reply.block?, Stage.reply?, Call.brings]
    | _ => simp [Reply.worth, Reply.block?, Call.brings]

theorem fst_gain_deeds (h : t.Sound) (id : EngineId) : (Deed.gain (t.deeds id)).1 =
    ((t.jobs.filter fun j => j.engine = id).map fun j => (Deed.gain j.deeds).1).sum :=
  reading_eq_sum rfl (fun ds ds' => congrArg Prod.fst (Deed.gain_append ds ds'))
    (fun _ _ heq => congrArg Prod.fst (Deed.gain_congr heq)) (h.deeds id)

theorem fst_loss_deeds (h : t.Sound) (id : EngineId) : (Deed.loss (t.deeds id)).1 =
    ((t.jobs.filter fun j => j.engine = id).map fun j => (Deed.loss j.deeds).1).sum :=
  reading_eq_sum rfl (fun ds ds' => congrArg Prod.fst (Deed.loss_append ds ds'))
    (fun _ _ heq => congrArg Prod.fst (Deed.loss_congr heq)) (h.deeds id)

/-- While a call is the only one on its engine, what was credited there are the blocks that were made, and
what it has credited itself. -/
theorem fst_gain_of_serial (h : t.Sound) (hs : t.Serial id) {x : Errand ρ} (hx : x ∈ t.errands)
    (hid : x.engine = id) : (Deed.gain (t.deeds id)).1 =
      (Deed.gain (callDeeds x.thread t.trace)).1 + (worths (blocksMade id t.trace)).1 := by
  rw [h.fst_gain_deeds, hs.jobs_eq h.threads hx hid, Multiset.map_cons, Multiset.sum_cons, blocksMade,
    fst_worths_filterMap]
  congr 2
  exact Multiset.map_congr rfl fun j hj => (h.counts_of_past (Multiset.mem_of_mem_filter hj)).1

/-- What was debited are the blocks that were given back, and what it has debited itself. -/
theorem fst_loss_of_serial (h : t.Sound) (hs : t.Serial id) {x : Errand ρ} (hx : x ∈ t.errands)
    (hid : x.engine = id) : (Deed.loss (t.deeds id)).1 =
      (Deed.loss (callDeeds x.thread t.trace)).1 + (worths (blocksFreed id t.trace)).1 := by
  rw [h.fst_loss_deeds, hs.jobs_eq h.threads hx hid, Multiset.map_cons, Multiset.sum_cons, blocksFreed,
    fst_worths_filterMap]
  congr 2
  exact Multiset.map_congr rfl fun j hj => (h.counts_of_past (Multiset.mem_of_mem_filter hj)).2

/-! ### What is left -/

/-- A call that has ended gave back the block that it was to give back to the engine that made it. -/
theorem freed?_eq_returned? (h : t.Sound) {j : Job ρ} (hj : j ∈ t.past) : j.freed? = j.returned? := by
  obtain ⟨n, reply, hn, hs, hc⟩ := h.course_of_past hj
  rw [Job.freed?, Job.returned?, hs, ← hn]
  rcases hc.ended_cases with ⟨event, b, rfl, -, -, hf⟩ | ⟨b, rfl, hr, hb⟩ | ⟨f, rfl, hf⟩
  · cases hr : j.request with
    | free b' => exact absurd hr (hf b')
    | _ => rfl
  · simp [hr, hb, Stage.reply?]
  · cases hr : j.request with
    | free b => simp [hf b hr, Stage.reply?]
    | _ => rfl

/-- Blocks that calls on an engine give back to it were made there. -/
theorem returned_le_made (h : t.Sound) (id : EngineId) :
    (t.jobs.filter fun j => j.engine = id).filterMap Job.returned? ≤ blocksMade id t.trace := by
  calc (t.jobs.filter fun j => j.engine = id).filterMap Job.returned?
      = t.jobs.filterMap fun j => if j.engine = id then j.returned? else none := Multiset.filterMap_filter ..
    _ ≤ t.jobs.filterMap fun j => j.given?.filter fun b => b.engine = id := by
        refine filterMap_le_of_imp fun j hj b hb => ?_
        obtain ⟨hid, hb⟩ := Option.ite_none_right_eq_some.mp hb
        unfold Job.returned? at hb
        split at hb
        case h_1 b' hr =>
          obtain ⟨hbe, hbb⟩ := Option.ite_none_right_eq_some.mp hb
          cases hbb
          simp [Job.given?, hr, Call.block?, hbe.trans hid]
        case h_2 => cases hb
    _ = (t.jobs.filterMap Job.given?).filter fun b => b.engine = id := (Multiset.filter_filterMap ..).symm
    _ ≤ (t.past.filterMap Job.made?).filter fun b => b.engine = id :=
        Multiset.filter_le_filter _ (le_trans (Multiset.le_add_right _ _) h.blocks)
    _ = t.past.filterMap fun j => j.made?.filter fun b => b.engine = id := Multiset.filter_filterMap ..
    _ ≤ t.past.filterMap fun j => if j.engine = id then j.made? else none := by
        refine filterMap_le_of_imp fun j hj b hb => ?_
        obtain ⟨hb, hid⟩ := Option.filter_eq_some_iff.mp hb
        rw [if_pos ((h.engine_of_made hj hb).symm.trans (of_decide_eq_true hid)), hb]
    _ = blocksMade id t.trace := (Multiset.filterMap_filter ..).symm

/-- An account has in use what is left of the blocks that were counted. -/
theorem current_eq_bytesOf (h : t.Sound) {e : Engine β} (he : t.host.engine? id = some e)
    {created gone live : Multiset (Block ρ)} (hg : (Deed.gain (t.deeds id)).1 = (worths created).1)
    (hl : (Deed.loss (t.deeds id)).1 = (worths gone).1) (hlive : created = gone + live) (a : Account) :
    e.ledger.current a = bytesOf a live := by
  have hbooks := Ledger.bytesIn_gain (h.ledger id e he) a
  have hzero : Ledger.empty.current a = 0 := by simp [Ledger.current, Ledger.balance]
  rw [hg, hl, hlive, worths_add, Prod.fst_add, bytesIn_add, bytesIn_worths a live, hzero] at hbooks
  omega

/-- An account exists just if something was credited in it. -/
theorem isSome_iff (h : t.Sound) {e : Engine β} (he : t.host.engine? id = some e) (a : Account) :
    (e.ledger.get? a).isSome ↔ ∃ p ∈ (Deed.gain (t.deeds id)).1, p.account? = some a :=
  ⟨Ledger.mem_gain_of_isSome (h.ledger id e he) (Ledger.get?_empty a),
    fun ⟨_, hp, ha⟩ => Ledger.isSome_of_mem_gain (h.ledger id e he) hp ha⟩

end Sound

/-! ### What an entry tells -/

/-- What an entry with statistics tells, if `before` is the trace up to then: it is about an event of the block
`b`, `live` are the blocks that are there just after it, and `accounts` are those that it lists. -/
structure Counts (id : EngineId) (before : List (Happening ρ)) (entry : Entry) (event : Event) (b : Block ρ)
    (live : Multiset (Block ρ)) (accounts : List Account) : Prop where
  /-- The entry tells the event. -/
  tells : entry.Tells event b
  /-- If the block was made, it is there, and so is all that was made before and not given back. -/
  live_of_made : event ≠ .freed → b ::ₘ blocksMade id before = blocksFreed id before + live
  /-- If it was given back, it is there no longer. -/
  live_of_freed : event = .freed → blocksMade id before = b ::ₘ blocksFreed id before + live
  /-- The names of the accounts ascend. -/
  names_ascend : (accounts.map Account.name).Pairwise (· < ·)
  /-- They are the accounts in which something was credited, -/
  mem_accounts_iff (a : Account) : a ∈ accounts ↔ ∃ p, .credited p ∈ deedsOn id before ∧ p.account? = some a
  /-- which are those of the blocks that were ever made. -/
  mem_accounts_iff_made (a : Account) :
    a ∈ accounts ↔ ∃ m ∈ b ::ₘ blocksMade id before, m.plan.account? = some a
  /-- Beside each stand the bytes of the blocks that are there. -/
  statistics_eq : entry.statistics = accounts.map fun a => (a, bytesOf a live)
  /-- The text has a line for each of them. -/
  text_eq : entry.text = entry.line ++ String.join
    (accounts.map fun a => "\n  - " ++ Text.column 16 a.name ++ " " ++ ByteSize.text (bytesOf a live))

variable [Backend β ρ] {t t' : Traffic β ρ} {id : EngineId}

/-- What was made and what was given back on an engine, the block `b` of an event included, if `before` is the
trace up to then, and the blocks that are left. -/
structure Leaves (id : EngineId) (before : List (Happening ρ)) (event : Event) (b : Block ρ)
    (created gone live : Multiset (Block ρ)) : Prop where
  /-- What was made is what was given back and what is left. -/
  created_eq : created = gone + live
  /-- A block that was made is among the former, -/
  of_made : event ≠ .freed → created = b ::ₘ blocksMade id before ∧ gone = blocksFreed id before
  /-- and one that was given back among the latter. -/
  of_freed : event = .freed → created = blocksMade id before ∧ gone = b ::ₘ blocksFreed id before

/-- The block of the event was made in any case. -/
theorem Leaves.mem_created_iff {before : List (Happening ρ)} {event : Event} {b m : Block ρ}
    {created gone live : Multiset (Block ρ)} (h : Leaves id before event b created gone live) :
    m ∈ created ↔ m ∈ b ::ₘ blocksMade id before := by
  by_cases he : event = .freed
  · obtain ⟨hc, rfl⟩ := h.of_freed he
    rw [← hc, h.created_eq]
    simp
  · rw [(h.of_made he).1]

/-- What was given back was made, what the call in progress is to give back included, and some blocks are left. -/
theorem Sound.exists_left (h : t.Sound) (hs : t.Serial id) {x : Errand ρ} (hx : x ∈ t.errands)
    (hid : x.engine = id) : ∃ left : Multiset (Block ρ),
      blocksMade id t.trace = ↑(x.job t.trace).returned?.toList + blocksFreed id t.trace + left := by
  have hle := h.returned_le_made id
  rw [hs.jobs_eq h.threads hx hid, filterMap_cons_toList] at hle
  have hfreed : blocksFreed id t.trace ≤ (t.past.filter fun j => j.engine = id).filterMap Job.returned? :=
    filterMap_le_of_imp fun j hj b hb => (h.freed?_eq_returned? (Multiset.mem_of_mem_filter hj)).symm.trans hb
  exact Multiset.le_iff_exists_add.mp ((add_le_add le_rfl hfreed).trans hle)

/-- What was made and what was given back, the block of an event that is about to be logged included, is what
the deeds of its engine tell, and leaves some blocks. -/
theorem Sound.exists_leaves (h : t.Sound) (hs : t.Serial id) {x : Errand ρ} (hx : x ∈ t.errands)
    (hid : x.engine = id) {n : Nature} (hn : n.id = id) {event : Event} {b : Block ρ}
    {release : Option (Holding ρ)} {reply : Reply ρ}
    (ha : Achieves n x.request event b release reply (Deed.effects (callDeeds x.thread t.trace))) :
    ∃ created gone live, Leaves id t.trace event b created gone live ∧
      (Deed.gain (t.deeds id)).1 = (worths created).1 ∧ (Deed.loss (t.deeds id)).1 = (worths gone).1 := by
  obtain ⟨hg, hl⟩ := ha.enters
  rw [Deed.gain_effects] at hg
  rw [Deed.loss_effects] at hl
  have hgain := h.fst_gain_of_serial hs hx hid
  have hloss := h.fst_loss_of_serial hs hx hid
  rw [hg] at hgain
  rw [hl] at hloss
  obtain ⟨left, hleft⟩ := h.exists_left hs hx hid
  rcases ha.made_or_freed with ⟨he, rfl, hnf, hbrings⟩ | ⟨he, rfl, hr, hbrings⟩
  · have hnone : (x.job t.trace).returned? = none := by
      unfold Job.returned?
      split
      case h_1 b' hb => exact absurd hb (hnf b')
      case h_2 => rfl
    rw [hnone, Option.toList_none, Multiset.coe_nil, zero_add] at hleft
    refine ⟨b ::ₘ blocksMade id t.trace, blocksFreed id t.trace, b ::ₘ left, ⟨?_, fun _ => ⟨rfl, rfl⟩,
      fun hf => absurd hf he⟩, ?_, ?_⟩
    · rw [hleft, Multiset.add_cons]
    · rw [hgain, worths_cons]
      rfl
    · rw [hloss, hbrings, zero_add]
  · have hsome : (x.job t.trace).returned? = some b := by
      simp [Job.returned?, Errand.job, hr, ha.engine_eq, hn, hid]
    rw [hsome, Option.toList_some, Multiset.coe_singleton, Multiset.singleton_add] at hleft
    refine ⟨blocksMade id t.trace, b ::ₘ blocksFreed id t.trace, left, ⟨hleft, fun hf => absurd he hf,
      fun _ => ⟨rfl, rfl⟩⟩, ?_, ?_⟩
    · rw [hgain]
      exact zero_add _
    · rw [hloss, hbrings, worths_cons]
      rfl

/-- **An entry that is about to be written tells what there is**, if its statistics are the ledger's. -/
theorem Sound.exists_counts (h : t.Sound) (hs : t.Serial id) {x : Errand ρ} (hx : x ∈ t.errands)
    (hid : x.engine = id) {e : Engine β} (he : t.host.engine? id = some e) {entry : Entry}
    (hw : x.stage.ready? = some entry) (hstat : entry.statistics = e.ledger.snapshot) :
    ∃ event b live accounts, Counts id t.trace entry event b live accounts := by
  obtain ⟨event, b, release, reply, ha, -, ht⟩ :=
    (h.course_on he (job_mem_jobs hx) hid).achieves_of_ready? hw
  obtain ⟨created, gone, live, hleaves, hgain, hloss⟩ := h.exists_leaves hs hx hid (h.ids id e he) ha
  have hcurrent := h.current_eq_bytesOf he hgain hloss hleaves.created_eq
  have hstatistics : entry.statistics = (e.ledger.snapshot.map Prod.fst).map fun a => (a, bytesOf a live) := by
    rw [hstat, e.ledger.snapshot_eq_map]
    simp only [hcurrent, List.map_map, Function.comp_def]
  have haccounts (a : Account) : a ∈ e.ledger.snapshot.map Prod.fst ↔
      ∃ p ∈ (Deed.gain (t.deeds id)).1, p.account? = some a := by
    rw [← h.isSome_iff he, e.ledger.map_fst_snapshot, List.mem_filter]
    simp [Account.mem_byName]
  refine ⟨event, b, live, e.ledger.snapshot.map Prod.fst, ?_⟩
  exact {
    tells := ht
    live_of_made := fun hne => by
      obtain ⟨rfl, rfl⟩ := hleaves.of_made hne
      exact hleaves.created_eq
    live_of_freed := fun heq => by
      obtain ⟨rfl, rfl⟩ := hleaves.of_freed heq
      exact hleaves.created_eq
    names_ascend := by
      rw [List.map_map]
      exact e.ledger.snapshot_names_ascend
    mem_accounts_iff := fun a => by
      simp only [haccounts, Deed.mem_gain_fst]
      rfl
    mem_accounts_iff_made := fun a => by
      rw [haccounts, hgain]
      simp only [mem_worths_fst, hleaves.mem_created_iff]
      constructor
      · rintro ⟨p, ⟨m, hm, rfl, -⟩, ha⟩
        exact ⟨m, hm, ha⟩
      · rintro ⟨m, hm, ha⟩
        exact ⟨m.plan, ⟨m, hm, rfl, by rw [ha]; rfl⟩, ha⟩
    statistics_eq := hstatistics
    text_eq := by
      rw [Entry.text, hstatistics, List.map_map]
      rfl }

/-! ### Between reading and writing -/

/-- Entries that are about to be written on an engine that logs with statistics have those of its ledger. -/
def Surveyed (t : Traffic β ρ) (id : EngineId) : Prop :=
  ∀ e, t.host.engine? id = some e → e.detail = .full → ∀ x ∈ t.errands, x.engine = id →
    ∀ entry, x.stage.ready? = some entry → entry.statistics = e.ledger.snapshot

/-- A step on an engine reads the statistics for its own call, and no other call waits with some of its own. -/
theorem Surveyed.goOn (hv : t.Surveyed id) (h : t.Sound) (hs : t.Serial id) {x : Errand ρ} (hx : x ∈ t.errands) :
    (t.goOn x).Surveyed id := by
  obtain ⟨e, he, -⟩ := h.course_of_errand hx
  intro e' he' hd y hy hid entry hw
  rw [engine?_goOn he] at he'
  rw [goOn_eq he] at hy
  obtain ⟨z, hz, rfl⟩ := List.mem_map.mp hy
  split at hid
  case isTrue hzx =>
    obtain rfl : z = x := List.inj_on_of_nodup_map h.threads hz hx hzx
    rw [if_pos hid.symm] at he'
    cases he'
    rw [if_pos rfl] at hw
    have hdetail : e.detail = .full :=
      (congrArg Nature.detail (e.nature_advance z.thread t.host.commons z.stage)).symm.trans hd
    exact Engine.statistics_advance z.thread t.host.commons hdetail hw
  case isFalse hzx =>
    -- the call that goes on is one on another engine
    have hne : ¬ id = x.engine := fun hx' => hzx (hs z hz x hx hid hx'.symm)
    rw [if_neg hne] at he'
    rw [if_neg hzx] at hw
    exact hv e' he' hd z hz hid entry hw

/-- The invariant is preserved by every move, while calls on the engine come one at a time. -/
theorem Surveyed.change (hv : t.Surveyed id) (h : t.Sound) (hs : t.Serial id) (hc : t.Change t') :
    t'.Surveyed id := by
  cases hc with
  | unchanged => exact hv
  | aside he hx =>
    intro e he'
    rw [Host.engine?, he] at he'
    exact hv e he'
  | made he hi hl hx =>
    intro e he' hd x hm hid
    -- an engine that is called was there before
    obtain ⟨e₀, he₀, -⟩ := h.course_of_errand hm
    rw [hid] at he₀
    have hlt := (List.getElem?_eq_some_iff.mp he₀).1
    rw [Host.engine?_append he, if_neg (Nat.ne_of_lt hlt)] at he'
    exact hv e he' hd x hm hid
  | began hi he hb =>
    intro e he' hd x hm hid entry hw
    rcases List.mem_cons.mp hm with rfl | hm
    · cases hw
    · exact hv e he' hd x hm hid entry hw
  | wentOn hx => exact hv.goOn h hs hx
  | ended hx hse => exact fun e he' hd y hy => hv e he' hd y (List.mem_of_mem_filter hy)
  | dropped => exact hv

/-! ### All entries -/

/-- Every entry of an engine tells what there was when it was written. -/
def Truthful (id : EngineId) (trace : List (Happening ρ)) : Prop :=
  ∀ thread entry before, .did thread id (.logged entry) :: before <:+ trace →
    ∃ event b live accounts, Counts id before entry event b live accounts

/-- Nothing but an entry has to tell the truth. -/
theorem Truthful.cons {trace : List (Happening ρ)} (h : Truthful id trace) {x : Happening ρ}
    (hx : ∀ thread entry, x ≠ .did thread id (.logged entry)) : Truthful id (x :: trace) := by
  intro thread entry before hb
  rcases List.suffix_cons_iff.mp hb with heq | hb
  · exact absurd (List.cons_eq_cons.mp heq).1.symm (hx thread entry)
  · exact h thread entry before hb

/-- An entry of an engine was written at some moment. -/
theorem exists_suffix_of_mem_entries {trace : List (Happening ρ)} {entry : Entry}
    (h : entry ∈ Deed.entries (deedsOn id trace)) :
    ∃ thread before, .did thread id (.logged entry) :: before <:+ trace := by
  obtain ⟨d, hd, hw⟩ := List.mem_filterMap.mp h
  obtain ⟨thread, hm⟩ := mem_deedsOn.mp hd
  obtain ⟨later, before, rfl⟩ := List.append_of_mem hm
  cases d <;> cases hw
  exact ⟨thread, before, List.suffix_append later _⟩

theorem Truthful.aside {trace : List (Happening ρ)} (h : Truthful id trace) {x : Happening ρ} (hx : x.isAside) :
    Truthful id (x :: trace) := by
  refine h.cons fun thread entry hxe => ?_
  rw [hxe] at hx
  cases hx

/-- So far every entry of an engine that logs with statistics tells what there was. -/
def TellsTruth (t : Traffic β ρ) (id : EngineId) : Prop :=
  ∀ e, t.host.engine? id = some e → e.detail = .full → Truthful id t.trace

theorem TellsTruth.goOn (ht : t.TellsTruth id) (h : t.Sound) (hs : t.Serial id) (hv : t.Surveyed id)
    {x : Errand ρ} (hx : x ∈ t.errands) : (t.goOn x).TellsTruth id := by
  obtain ⟨e, he, -⟩ := h.course_of_errand hx
  intro e' he' hd thread entry before hb
  rw [engine?_goOn he] at he'
  rw [goOn_eq he] at hb
  have hold : Truthful id t.trace := by
    split at he'
    case isTrue hid =>
      cases he'
      have hdetail := congrArg Nature.detail (e.nature_advance x.thread t.host.commons x.stage)
      exact ht e (hid ▸ he) (hdetail.symm.trans hd)
    case isFalse => exact ht e' he' hd
  rcases suffix_didAll_append hb with hb | ⟨ds, hds, hb⟩
  · exact hold thread entry before hb
  rcases List.eq_nil_or_concat' ds with rfl | ⟨past, d, rfl⟩
  · exact hold thread entry before (by rw [hb]; exact List.suffix_rfl)
  rw [didAll_append_singleton, List.cons_append] at hb
  obtain ⟨hdid, rfl⟩ := List.cons_eq_cons.mp hb
  obtain ⟨rfl, rfl, rfl⟩ := Happening.did.inj hdid
  obtain ⟨rfl, hw⟩ := Engine.logged_first x.thread t.host.commons hds
  rw [if_pos rfl] at he'
  cases he'
  have hdetail := congrArg Nature.detail (e.nature_advance x.thread t.host.commons x.stage)
  exact h.exists_counts hs hx rfl he hw (hv e he (hdetail.symm.trans hd) x hx rfl entry hw)

/-- The invariant is preserved by every move, while calls on the engine come one at a time. -/
theorem TellsTruth.change (ht : t.TellsTruth id) (h : t.Sound) (hs : t.Serial id) (hv : t.Surveyed id)
    (hc : t.Change t') : t'.TellsTruth id := by
  cases hc with
  | unchanged => exact ht
  | aside he hx =>
    intro e he' hd
    rw [Host.engine?, he] at he'
    exact (ht e he' hd).aside hx
  | made he hi hl hx =>
    intro e he' hd
    rw [Host.engine?_append he] at he'
    split at he'
    case isTrue hn =>
      -- nothing has been done on the new engine
      have hnil := h.deeds_eq_nil (List.getElem?_eq_none (Nat.le_of_eq hn.symm))
      have hold : Truthful id t.trace := by
        intro thread entry before hb
        have hmem : .logged entry ∈ t.deeds id := mem_deedsOn.mpr ⟨thread, hb.subset List.mem_cons_self⟩
        rw [hnil] at hmem
        cases hmem
      exact hold.aside hx
    case isFalse => exact (ht e he' hd).aside hx
  | began hi he hb => exact fun e he' hd => (ht e he' hd).cons (by simp)
  | wentOn hx => exact ht.goOn h hs hv hx
  | ended hx hse => exact fun e he' hd => (ht e he' hd).cons (by simp)
  | dropped => exact ht

/-- Calls on an engine come one at a time throughout a run of moves. -/
def SerialAll (id : EngineId) : Traffic β ρ → List (Move β ρ) → Prop
  | _, [] => True
  | t, m :: ms => t.Serial id ∧ SerialAll id (t.move m) ms

instance SerialAll.decidable (id : EngineId) :
    (t : Traffic β ρ) → (ms : List (Move β ρ)) → Decidable (SerialAll id t ms)
  | _, [] => isTrue trivial
  | t, m :: ms =>
    have := SerialAll.decidable id (t.move m) ms
    inferInstanceAs (Decidable (t.Serial id ∧ SerialAll id (t.move m) ms))

theorem TellsTruth.run (h : t.Sound) (hv : t.Surveyed id) (ht : t.TellsTruth id) {ms : List (Move β ρ)}
    (hs : SerialAll id t ms) : (t.run ms).TellsTruth id := by
  induction ms generalizing t with
  | nil => exact ht
  | cons m ms ih =>
    have hc := change_move t m
    exact ih (h.change hc) (hv.change h hs.1 hc) (ht.change h hs.1 hv hc) hs.2

/-- **While calls on an engine come one at a time, the statistics under each of its entries tell the truth.** -/
theorem SerialAll.counts {host : Host β} (hh : host.engines = []) {ms : List (Move β ρ)}
    (hs : SerialAll id { host := host } ms) {e : Engine β}
    (he : (run { host := host } ms).host.engine? id = some e) (hd : e.detail = .full) {thread : ThreadId}
    {entry : Entry} {before : List (Happening ρ)}
    (hl : .did thread id (.logged entry) :: before <:+ (run { host := host } ms).trace) :
    ∃ event b live accounts, Counts id before entry event b live accounts := by
  have hnone (e : Engine β) : ({ host := host } : Traffic β ρ).host.engine? id ≠ some e := by
    simp [Host.engine?, hh]
  have ht := TellsTruth.run (.start host hh) (fun e he => absurd he (hnone e))
    (fun e he => absurd he (hnone e)) hs
  exact ht e he hd thread entry before hl

/-- A thread makes a block, attaches another that nothing is counted for, and gives the first one back. -/
def drained : List (Move ScriptedBackend ScriptedResource) :=
  let device : Device := ⟨"0", "device", 1024, .plainBuffer, .ofList [.plainBuffer]⟩
  let layout : Layout := ⟨[2, 3], .f32, false⟩
  [.make device { capacity := none } { memory := { logger := { detail := .full } } },
    .call (.numbered 0) ⟨0⟩ "a" (.allocate layout false)] ++ Move.toEnd (.numbered 0) ++
    [.call (.numbered 0) ⟨0⟩ "b" (.attach layout 4096)] ++ Move.toEnd (.numbered 0) ++
    [.giveBack (.numbered 0) ⟨0⟩ "a"] ++ Move.toEnd (.numbered 0)

/-- The last of the three entries lists the account that was drained. -/
theorem drained_counts :
    ∃ e thread entry before, SerialAll ⟨0⟩ { host := {} } drained ∧
      (run { host := {} } drained).host.engine? ⟨0⟩ = some e ∧ e.detail = .full ∧
      .did thread ⟨0⟩ (.logged entry) :: before <:+ (run { host := {} } drained).trace ∧
      entry.event = .freed ∧ entry.statistics = [(.allocated .plainBuffer, 0)] ∧
      ∃ event b live accounts, Counts ⟨0⟩ before entry event b live accounts := by
  have hs : SerialAll ⟨0⟩ { host := {} } drained := by decide +kernel
  have hdetail : ((run { host := {} } drained).host.engine? ⟨0⟩).map Engine.detail = some .full := by
    decide +kernel
  have hentry : ∃ entry ∈ Deed.entries ((run { host := {} } drained).deeds ⟨0⟩),
      entry.event = .freed ∧ entry.statistics = [(.allocated .plainBuffer, 0)] := by decide +kernel
  obtain ⟨e, he, hd⟩ := Option.map_eq_some_iff.mp hdetail
  obtain ⟨entry, hmem, hevent, hstat⟩ := hentry
  obtain ⟨thread, before, hl⟩ := exists_suffix_of_mem_entries hmem
  exact ⟨e, thread, entry, before, hs, he, hd, hl, hevent, hstat, hs.counts rfl he hd hl⟩

end Traffic

end DeviceMemory
