import DeviceMemory.Proofs.Traffic.Trace

/-!
# What a move changes

`Change` lists what a move can do to the state, and `change_move` says that these are all the cases;
an invariant is shown to be preserved by splitting on it. Beside each case stands what becomes of the
jobs: a call that begins is a new job, a step changes one job and leaves all others as they are, and
the end of a call changes none.
-/

namespace DeviceMemory

variable {β ρ : Type}

/-- The block that a call gives back. -/
def Call.block? : Call ρ → Option (Block ρ)
  | .free b => some b
  | _ => none

theorem Call.eq_free_of_block? {call : Call ρ} {b : Block ρ} (h : call.block? = some b) : call = .free b := by
  cases call with
  | free other =>
    cases h
    rfl
  | _ => cases h

/-- The block that a reply brings. -/
def Reply.block? : Reply ρ → Option (Block ρ)
  | .made b => some b
  | .freed | .failed _ => none

theorem Reply.eq_made_of_block? {reply : Reply ρ} {b : Block ρ} (h : reply.block? = some b) :
    reply = .made b := by
  cases reply with
  | made other =>
    cases h
    rfl
  | freed => cases h
  | failed f => cases h

/-- A call that gives no block back is given nothing. -/
theorem Call.brings_of_block? {call : Call ρ} (h : call.block? = none) (id : EngineId) :
    call.brings id = 0 := by
  cases call with
  | free b => cases h
  | _ => rfl

/-- An engine that is made comes after all others, and leaves them where they are. -/
theorem Host.engine?_append {h k : Host β} {e : Engine β} (he : k.engines = h.engines ++ [e]) (id : EngineId) :
    k.engine? id = if id.number = h.engines.length then some e else h.engine? id := by
  rw [engine?, he, engine?]
  split
  · rename_i hid
    rw [hid, List.getElem?_concat_length]
  · rename_i hid
    by_cases hlt : id.number < h.engines.length
    · rw [List.getElem?_append_left hlt]
    · rw [List.getElem?_eq_none (by simp; omega), List.getElem?_eq_none (by omega)]

namespace Traffic

/-- The blocks that are held. -/
def blocks (t : Traffic β ρ) : Multiset (Block ρ) := ↑(t.held.map Prod.snd)

/-! ### The cases -/

/-- **What a move changes.** -/
inductive Change [Backend β ρ] (t : Traffic β ρ) : Traffic β ρ → Prop
  /-- Nothing. -/
  | unchanged : Change t t
  /-- What the engines share, or a fact about the process. -/
  | aside {host : Host β} {x : Happening ρ} (he : host.engines = t.host.engines) (hx : x.isAside) :
    Change t { t with host, trace := x :: t.trace }
  /-- An engine was made. -/
  | made {host : Host β} {x : Happening ρ} {e : Engine β} (he : host.engines = t.host.engines ++ [e])
    (hi : e.id = ⟨t.host.engines.length⟩) (hl : e.ledger = .empty) (hx : x.isAside) :
    Change t { t with host, trace := x :: t.trace }
  /-- A thread that was idle began a call; the block that it gives back was held before. -/
  | began {thread : ThreadId} {engine : EngineId} {name : String} {request : Call ρ}
    {held : List (String × Block ρ)} (hi : t.errandOf thread = none)
    (he : (t.host.engine? engine).isSome)
    (hb : (↑request.block?.toList + ↑(held.map Prod.snd) : Multiset (Block ρ)) ≤ t.blocks) :
    Change t { t.begin thread engine name request with held }
  /-- A call went on by one step. -/
  | wentOn {x : Errand ρ} (hx : x ∈ t.errands) : Change t (t.goOn x)
  /-- A call ended. -/
  | ended {x : Errand ρ} {reply : Reply ρ} (hx : x ∈ t.errands) (hs : x.stage = .closing none reply) :
    Change t (t.finish x reply)
  /-- A block is held no longer. -/
  | dropped {name : String} : Change t { t with held := without name t.held }

/-! ### Blocks that are held -/

theorem map_without_le (name : String) (held : List (String × Block ρ)) :
    (↑((without name held).map Prod.snd) : Multiset (Block ρ)) ≤ ↑(held.map Prod.snd) :=
  Multiset.coe_le.mpr (List.filter_sublist.map _).subperm

/-- A block that is taken from those that are held was one of them, and leaves the others. -/
theorem cons_without_le {name : String} {held : List (String × Block ρ)} {b : Block ρ}
    (h : held.lookup name = some b) :
    (b ::ₘ ↑((without name held).map Prod.snd) : Multiset (Block ρ)) ≤ ↑(held.map Prod.snd) := by
  induction held with
  | nil => cases h
  | cons x held ih =>
    obtain ⟨other, block⟩ := x
    by_cases hn : other = name
    · have hb : block = b := by simpa [List.lookup_cons, hn] using h
      have hw : without name ((other, block) :: held) = without name held := by simp [without, hn]
      rw [hw, List.map_cons, ← Multiset.cons_coe, hb]
      exact (Multiset.cons_le_cons_iff b).mpr (map_without_le name held)
    · have hl : held.lookup name = some b := by
        simpa [List.lookup_cons, beq_eq_false_iff_ne.mpr (Ne.symm hn)] using h
      have hw : without name ((other, block) :: held) = (other, block) :: without name held := by
        simp [without, hn]
      rw [hw, List.map_cons, List.map_cons, ← Multiset.cons_coe, ← Multiset.cons_coe, Multiset.cons_swap]
      exact (Multiset.cons_le_cons_iff block).mpr (ih hl)

/-- Only a block that a reply brings is held and was not before. -/
theorem map_keep_le (name : String) (held : List (String × Block ρ)) (reply : Reply ρ) :
    (↑((keep name held reply).map Prod.snd) : Multiset (Block ρ)) ≤
      ↑reply.block?.toList + ↑(held.map Prod.snd) := by
  cases reply with
  | made b => simpa [keep, Reply.block?, ← Multiset.cons_coe] using map_without_le name held
  | freed => simp [keep, Reply.block?]
  | failed f => simp [keep, Reply.block?]

/-! ### Engines that are made -/

theorem engines_readLimit (h : Host β) (n : Nat) : (h.readLimit n).2.1.engines = h.engines := by
  unfold Host.readLimit
  split <;> rfl

/-- A new engine comes after all others, and its id is its place. -/
theorem exists_new_makeEngine (h : Host β) (device : Device) (backend : β) (s : Settings) :
    ∃ logger, (h.makeEngine device backend s).2.1.engines =
      h.engines ++ [.new ⟨h.engines.length⟩ device backend s.memory logger] := by
  have hl := engines_readLimit h device.totalMemory
  simp only [Host.makeEngine]
  rw [hl]
  exact ⟨_, rfl⟩

theorem engines_makeEngine (h : Host β) (device : Device) (backend : β) (s : Settings) :
    ∃ e, (h.makeEngine device backend s).2.1.engines = h.engines ++ [e] ∧
      e.id = ⟨h.engines.length⟩ ∧ e.ledger = .empty := by
  obtain ⟨logger, he⟩ := exists_new_makeEngine h device backend s
  exact ⟨_, he, rfl, rfl⟩

/-! ### All cases -/

theorem change_begin [Backend β ρ] {t : Traffic β ρ} {thread : ThreadId} {engine : EngineId} {name : String}
    {request : Call ρ} {held : List (String × Block ρ)} (hc : t.canBegin thread engine)
    (hb : (↑request.block?.toList + ↑(held.map Prod.snd) : Multiset (Block ρ)) ≤ t.blocks) :
    Change t { t.begin thread engine name request with held } := by
  obtain ⟨hi, he⟩ : t.errandOf thread = none ∧ (t.host.engine? engine).isSome := by
    simpa [canBegin] using hc
  exact .began hi he hb

/-- Every move changes the state in one of these ways. -/
theorem change_move [Backend β ρ] (t : Traffic β ρ) (m : Move β ρ) : Change t (t.move m) := by
  cases m with
  | make device backend settings =>
    obtain ⟨e, he, hi, hl⟩ := engines_makeEngine t.host device backend settings
    exact .made he hi hl rfl
  | makeAmong target devices selector backend settings =>
    simp only [move, Host.makeEngineAmong]
    cases devices.select selector with
    | some device =>
      obtain ⟨e, he, hi, hl⟩ := engines_makeEngine t.host device backend settings
      exact .made he hi hl rfl
    | none => exact .aside rfl rfl
  | stream thread => exact .aside rfl rfl
  | call thread engine name request =>
    simp only [move]
    by_cases hc : t.canBegin thread engine && !request.isFree
    · rw [if_pos hc]
      obtain ⟨hb, hf⟩ : t.canBegin thread engine ∧ request.isFree = false := by simpa using hc
      have hn : request.block? = none := by
        cases request with
        | free b => cases hf
        | _ => rfl
      exact change_begin hb (by simp [hn, blocks])
    · rw [if_neg hc]
      exact .unchanged
  | giveBack thread engine name =>
    simp only [move]
    cases hb : t.held.lookup name with
    | none => exact .unchanged
    | some b =>
      simp only
      by_cases hc : t.canBegin thread engine
      · rw [if_pos hc]
        exact change_begin hc (cons_without_le hb)
      · rw [if_neg hc]
        exact .unchanged
  | step thread =>
    simp only [move]
    cases hx : t.errandOf thread with
    | none => exact .unchanged
    | some x =>
      have hm : x ∈ t.errands := List.mem_of_find?_eq_some hx
      simp only
      cases hr : x.stage.reply? with
      | none => exact .wentOn hm
      | some reply => exact .ended hm (Stage.eq_closing_of_reply? hr)
  | drop name => exact .dropped

/-! ### What becomes of the jobs -/

variable {t : Traffic β ρ}

theorem errandOf_eq_none {thread : ThreadId} :
    t.errandOf thread = none ↔ ∀ x ∈ t.errands, x.thread ≠ thread := by
  simp [errandOf]

/-- The call of a thread among the calls of others. -/
theorem exists_split (hn : (t.errands.map Errand.thread).Nodup) {x : Errand ρ} (hx : x ∈ t.errands) :
    ∃ l r, t.errands = l ++ x :: r ∧ ∀ y ∈ l ++ r, y.thread ≠ x.thread := by
  obtain ⟨l, r, h⟩ := List.append_of_mem hx
  refine ⟨l, r, h, ?_⟩
  rw [h, List.map_append, List.map_cons, List.nodup_middle, List.nodup_cons, ← List.map_append] at hn
  intro y hy hyx
  exact hn.1 (List.mem_map.mpr ⟨y, hy, hyx⟩)

theorem past_aside {host : Host β} {x : Happening ρ} (hx : x.isAside) :
    ({ t with host, trace := x :: t.trace } : Traffic β ρ).past = t.past := by
  rw [past, past, pastJobs_aside hx]

theorem jobs_aside {host : Host β} {x : Happening ρ} (hx : x.isAside) :
    ({ t with host, trace := x :: t.trace } : Traffic β ρ).jobs = t.jobs := by
  simp only [jobs, running, past, pastJobs_aside hx, Errand.job, callDeeds_aside hx]

/-- A call that begins is a new job. -/
theorem jobs_begin {thread : ThreadId} (engine : EngineId) (name : String) (request : Call ρ)
    (held : List (String × Block ρ)) (hi : t.errandOf thread = none) :
    ({ t.begin thread engine name request with held } : Traffic β ρ).jobs =
      ⟨thread, engine, request, .opening request, []⟩ ::ₘ t.jobs := by
  have hidle := errandOf_eq_none.mp hi
  have hothers : t.errands.map (·.job (.began thread engine request :: t.trace)) =
      t.errands.map (·.job t.trace) := by
    apply List.map_congr_left
    intro y hy
    simp [Errand.job, callDeeds, Ne.symm (hidle y hy)]
  simp only [jobs, running, past, begin, pastJobs, List.map_cons, hothers, ← Multiset.cons_coe,
    Multiset.cons_add]
  congr 1
  simp [Errand.job, callDeeds]

theorem coe_map_middle {γ : Type} (f : Errand ρ → γ) (l r : List (Errand ρ)) (x : Errand ρ) :
    (↑((l ++ x :: r).map f) : Multiset γ) = f x ::ₘ ↑((l ++ r).map f) := by
  rw [Multiset.cons_coe, Multiset.coe_eq_coe, ← List.map_cons]
  exact List.perm_middle.map f

/-- The end of a call changes no job; the call is among those that have ended. -/
theorem jobs_finish (hn : (t.errands.map Errand.thread).Nodup) {x : Errand ρ} (hx : x ∈ t.errands)
    {reply : Reply ρ} (hs : x.stage = .closing none reply) :
    (t.finish x reply).past = x.job t.trace ::ₘ t.past ∧ (t.finish x reply).jobs = t.jobs := by
  obtain ⟨l, r, h, hne⟩ := exists_split hn hx
  have hpast : (t.finish x reply).past = x.job t.trace ::ₘ t.past := by
    simp [past, finish, pastJobs, Errand.job, hs]
  have hothers : (t.finish x reply).errands = l ++ r := by
    have hrest : (l ++ r).filter (fun other => other.thread ≠ x.thread) = l ++ r :=
      List.filter_eq_self.mpr fun y hy => decide_eq_true (hne y hy)
    rw [List.filter_append] at hrest
    simpa [finish, h] using hrest
  have hrunning : t.running = x.job t.trace ::ₘ (t.finish x reply).running := by
    rw [running, running, hothers, h]
    exact coe_map_middle (·.job t.trace) l r x
  refine ⟨hpast, ?_⟩
  rw [jobs, jobs, hpast, hrunning, Multiset.add_cons, Multiset.cons_add]

variable [Backend β ρ]

theorem goOn_eq {x : Errand ρ} {e : Engine β} (he : t.host.engine? x.engine = some e) :
    t.goOn x =
      { host := { t.host.setEngine x.engine (e.advance x.thread t.host.commons x.stage).engine with
          commons := (e.advance x.thread t.host.commons x.stage).commons }
        errands := t.errands.map fun other =>
          if other.thread = x.thread then
            { other with stage := (e.advance x.thread t.host.commons x.stage).stage }
          else other
        held := t.held
        trace := didAll x.thread x.engine (e.advance x.thread t.host.commons x.stage).deeds ++ t.trace } := by
  simp [goOn, Host.advance, he, didAll]

theorem threads_goOn {x : Errand ρ} {e : Engine β} (he : t.host.engine? x.engine = some e) :
    (t.goOn x).errands.map Errand.thread = t.errands.map Errand.thread := by
  rw [goOn_eq he, List.map_map]
  apply List.map_congr_left
  intro y _
  by_cases hy : y.thread = x.thread <;> simp [hy]

/-- The engine of the call is the only one that a step changes. -/
theorem engine?_goOn {x : Errand ρ} {e : Engine β} (he : t.host.engine? x.engine = some e) (id : EngineId) :
    (t.goOn x).host.engine? id =
      if id = x.engine then some (e.advance x.thread t.host.commons x.stage).engine else t.host.engine? id := by
  obtain ⟨hlt, -⟩ := List.getElem?_eq_some_iff.mp he
  rw [goOn_eq he]
  simp only [Host.engine?, Host.setEngine, List.getElem?_set]
  by_cases hid : id = x.engine
  · simp [hid, hlt]
  · have hn : x.engine.number ≠ id.number := by
      intro hn
      apply hid
      cases id
      cases hx : x.engine
      simp_all
    simp [hid, hn]

theorem deeds_goOn {x : Errand ρ} {e : Engine β} (he : t.host.engine? x.engine = some e) (id : EngineId) :
    (t.goOn x).deeds id =
      t.deeds id ++ if x.engine = id then (e.advance x.thread t.host.commons x.stage).deeds else [] := by
  rw [deeds, goOn_eq he, deedsOn_append, deedsOn_didAll]
  rfl

/-- A call that has ended stays one that has ended. -/
theorem Change.past_le {t' : Traffic β ρ} (h : t.Change t') : t.past ≤ t'.past := by
  cases h with
  | unchanged => exact le_rfl
  | aside he hx => rw [past_aside hx]
  | made he hi hl hx => rw [past_aside hx]
  | began hi he hb => exact le_rfl
  | @wentOn x hx =>
    have hpast : (t.goOn x).past = t.past := congrArg Multiset.ofList (pastJobs_didAll x.thread x.engine _ t.trace)
    rw [hpast]
  | @ended x reply hx hs => exact Multiset.le_cons_self _ _
  | dropped => exact le_rfl

theorem past_le_run (t : Traffic β ρ) (ms : List (Move β ρ)) : t.past ≤ (t.run ms).past := by
  induction ms generalizing t with
  | nil => exact le_rfl
  | cons m ms ih => exact (change_move t m).past_le.trans (ih (t.move m))

/-- A step of a call changes one job. -/
theorem jobs_goOn (hn : (t.errands.map Errand.thread).Nodup) {x : Errand ρ} (hx : x ∈ t.errands)
    {e : Engine β} (he : t.host.engine? x.engine = some e) :
    ∃ rest, t.running = x.job t.trace ::ₘ rest ∧
      (t.goOn x).running =
        { x.job t.trace with
          stage := (e.advance x.thread t.host.commons x.stage).stage
          deeds := (x.job t.trace).deeds ++ (e.advance x.thread t.host.commons x.stage).deeds } ::ₘ rest ∧
      (t.goOn x).past = t.past := by
  obtain ⟨l, r, h, hne⟩ := exists_split hn hx
  refine ⟨↑((l ++ r).map (·.job t.trace)), ?_, ?_, ?_⟩
  · rw [running, h]
    exact coe_map_middle (·.job t.trace) l r x
  · rw [running, goOn_eq he]
    generalize e.advance x.thread t.host.commons x.stage = p
    simp only [h, List.map_map]
    rw [coe_map_middle]
    congr 1
    · simp [Errand.job, callDeeds_didAll]
    · congr 1
      apply List.map_congr_left
      intro y hy
      simp [Errand.job, callDeeds_didAll, hne y hy, Ne.symm (hne y hy)]
  · rw [past, past, goOn_eq he, pastJobs_didAll]

end Traffic

end DeviceMemory
