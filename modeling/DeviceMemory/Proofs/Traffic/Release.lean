import DeviceMemory.Proofs.Traffic.Sound

/-!
# Memory is given back exactly when it should be

Whatever an engine gives back to its backend, the backend had handed out before and not got back yet.
Once no call is in progress, memory has been given back if and only if its bytes were refused by the
ledger or its block was freed by the engine that made it (`Traffic.Reachable.releases`). Calls that
have nothing to do with memory of the backend leave it alone at every moment.

The backend is one of which nothing is known but that it hands out distinct resources.
-/

namespace DeviceMemory

variable {β ρ : Type}

/-! ### What one call gives back -/

/-- The calls that have nothing to do with memory of the backend: imports, and frees of blocks that an
engine does not own or that belong to another engine. -/
def Call.Spares (id : EngineId) : Call ρ → Prop
  | .share _ _ | .attach _ _ => True
  | .free b => b.holding? = none ∨ b.engine ≠ id
  | .allocate _ _ | .allocateLockable _ | .allocateAs _ _ _ => False

/-- Before its event is logged, a call that succeeds has given nothing back, and the ledger has refused
it nothing. -/
theorem Achieves.not_mem {n : Nature} {call : Call ρ} {event : Event} {b : Block ρ}
    {release : Option (Holding ρ)} {reply : Reply ρ} {ds : List (Deed ρ)}
    (ha : Achieves n call event b release reply ds) :
    (∀ h, .released h ∉ ds) ∧ ∀ p, .refused p ∉ ds := by
  cases ha with
  | allocated ho hp he => simp
  | imported hi hp he => simp
  | attached hi hp he => simp
  | freed he hr => split <;> simp

theorem Nature.Logs.not_mem {n : Nature} {event : Event} {b : Block ρ} {log : List (Deed ρ)}
    (hl : n.Logs event b log) : (∀ h, .released h ∉ log) ∧ ∀ p, .refused p ∉ log := by
  cases hl <;> simp

theorem Nature.Logs.not_callsBackend {n : Nature} {event : Event} {b : Block ρ} {log : List (Deed ρ)}
    (hl : n.Logs event b log) : ∀ d ∈ log, d.callsBackend = false := by
  cases hl <;> simp [Deed.callsBackend]

/-- A call that has nothing to do with memory of the backend does not ask for any. -/
theorem Nature.order?_of_spares {n : Nature} {call : Call ρ} (hs : call.Spares n.id) :
    n.order? call = none := by
  cases call with
  | share layout handle => rfl
  | attach layout raw => rfl
  | free b => rfl
  | _ => cases hs

theorem Prepares.not_callsBackend {n : Nature} {call : Call ρ} {p : Plan ρ} {ds : List (Deed ρ)}
    (hp : Prepares n call p ds) (hs : call.Spares n.id) : ∀ d ∈ ds, d.callsBackend = false := by
  cases hp with
  | allocated ho =>
    rw [Nature.order?_of_spares hs] at ho
    cases ho
  | imported hi => simp
  | attached hi => simp

/-- If such a call succeeds, it has nothing to give back either. -/
theorem Achieves.not_callsBackend {n : Nature} {call : Call ρ} {event : Event} {b : Block ρ}
    {release : Option (Holding ρ)} {reply : Reply ρ} {ds : List (Deed ρ)}
    (ha : Achieves n call event b release reply ds) (hs : call.Spares n.id) :
    release = none ∧ ∀ d ∈ ds, d.callsBackend = false := by
  cases ha with
  | allocated ho hp he =>
    rw [Nature.order?_of_spares hs] at ho
    cases ho
  | imported hi hp he => simp [Deed.callsBackend]
  | attached hi hp he => simp [Deed.callsBackend]
  | freed he hr =>
    rcases hs with hs | hs
    · exact ⟨hr.trans hs, by split <;> simp [Deed.callsBackend]⟩
    · exact absurd he hs

theorem Engine.Does.loss_le [Backend β ρ] {e e' : Engine β} {s : Stage ρ} {ds : List (Deed ρ)} (h : e.Does s e' ds)
    (id : EngineId) : (Deed.loss ds).2 ≤ (s.assets id).2 := by
  cases h with
  | @released holding reply =>
    show {holding} ≤ {holding} + reply.worth.2
    exact Multiset.le_add_right _ _
  | _ => exact Multiset.zero_le _

/-- A step gives back no more than the call holds. -/
theorem Engine.loss_advance_le [Backend β ρ] (thread : ThreadId) (e : Engine β) (c : Commons)
    (s : Stage ρ) (id : EngineId) :
    (Deed.loss (e.advance thread c s).deeds).2 ≤ (s.assets id).2 := by
  rw [← Deed.loss_effects]
  exact (e.does_advance thread c s).loss_le id

namespace Course

variable {n : Nature} {call : Call ρ} {ds : List (Deed ρ)}

/-- Memory is given back because the ledger refused its bytes, or because its block was freed. -/
theorem refused_or_freed_of_released {reply : Reply ρ} {h : Holding ρ}
    (hc : Course n call (.closing none reply) ds) (hm : .released h ∈ ds) :
    (∃ p, .refused p ∈ ds ∧ p.holding? = some h) ∨
      ∃ b, call = .free b ∧ b.engine = n.id ∧ b.holding? = some h ∧ reply = .freed := by
  cases hc with
  | declined ho hf => cases hm
  | denied ho => simp at hm
  | @returned _ r resource f ho =>
    have hh : h = r.holding resource := by simpa using hm
    exact .inl ⟨r.plan resource, by simp, by rw [hh]; rfl⟩
  | unenrolled hp => simp at hm
  | concluded ha hl => simp [ha.not_mem, hl.not_mem] at hm
  | @released _ _ _ holding _ _ _ ha hl =>
    have hh : h = holding := by simpa [ha.not_mem, hl.not_mem] using hm
    cases ha with
    | freed he hr => exact .inr ⟨_, rfl, he, by rw [hh, ← hr], rfl⟩

/-- Memory whose bytes the ledger refused is given back. -/
theorem released_of_refused {reply : Reply ρ} {p : Plan ρ} {h : Holding ρ}
    (hc : Course n call (.closing none reply) ds) (hm : .refused p ∈ ds) (hp : p.holding? = some h) :
    .released h ∈ ds := by
  cases hc with
  | declined ho hf => cases hm
  | denied ho => simp at hm
  | @returned _ r resource f ho =>
    have hpr : p = r.plan resource := by simpa using hm
    rw [hpr] at hp
    cases hp
    simp [Request.holding, Request.plan]
  | @unenrolled _ _ b _ hb =>
    have hpb : p = b.plan := by simpa using hm
    rw [hpb, hb] at hp
    cases hp
  | concluded ha hl => simp [ha.not_mem, hl.not_mem] at hm
  | released ha hl => simp [ha.not_mem, hl.not_mem] at hm

/-- The memory of a block that was freed is given back. -/
theorem released_of_freed {b : Block ρ} {h : Holding ρ}
    (hc : Course n (.free b) (.closing none .freed) ds) (hb : b.holding? = some h) : .released h ∈ ds := by
  cases hc with
  | concluded ha hl =>
    cases ha with
    | freed he hr =>
      rw [hb] at hr
      cases hr
  | released ha hl =>
    cases ha with
    | freed he hr =>
      rw [hb] at hr
      cases hr
      simp

/-- Calls that have nothing to do with memory of the backend leave it alone. -/
theorem not_callsBackend {s : Stage ρ} (hc : Course n call s ds) (hs : call.Spares n.id) :
    ∀ d ∈ ds, d.callsBackend = false := by
  have hn := Nature.order?_of_spares hs
  cases hc with
  | requesting ho | denied ho | crediting ho | overdrawn ho | returned ho =>
    rw [hn] at ho
    cases ho
  | opening => simp
  | declined ho hf => simp
  | naming hp => exact hp.not_callsBackend hs
  | placing hp =>
    intro d hd
    rcases List.mem_append.mp hd with hd | hd
    · exact hp.not_callsBackend hs d hd
    · rw [List.mem_singleton.mp hd]
      rfl
  | enrolling hi hp he => simp [Deed.callsBackend]
  | unenrolled hp => simp [Deed.callsBackend]
  | settling he => simp
  | tracing ha => exact (ha.not_callsBackend hs).2
  | surveying ha hd ht => exact (ha.not_callsBackend hs).2
  | writing ha hd ht => exact (ha.not_callsBackend hs).2
  | concluded ha hl =>
    intro d hd
    rcases List.mem_append.mp hd with hd | hd
    · exact (ha.not_callsBackend hs).2 d hd
    · exact hl.not_callsBackend d hd
  | released ha hl => cases (ha.not_callsBackend hs).1

end Course

/-! ### What all calls give back -/

namespace Traffic

/-- The ledger refused the bytes of memory. -/
def Refused (t : Traffic β ρ) (id : EngineId) (h : Holding ρ) : Prop :=
  ∃ thread p, .did thread id (.refused p) ∈ t.trace ∧ p.holding? = some h

/-- The block in memory was freed by the engine that had made it. -/
def Freed (t : Traffic β ρ) (id : EngineId) (h : Holding ρ) : Prop :=
  ∃ maker request thread b, .ended maker id request (.made b) ∈ t.trace ∧
    .ended thread id (.free b) .freed ∈ t.trace ∧ b.holding? = some h

/-- What an engine gives back to its backend, and when. -/
structure Releases [Backend β ρ] (t : Traffic β ρ) (id : EngineId) : Prop where
  /-- No resource is given back twice. -/
  once : ((t.released id).map Holding.resource).Nodup
  /-- At every moment, only what had been obtained on the engine had been given back. -/
  obtained_before (before : List (Happening ρ)) : before <:+ t.trace →
    (Deed.loss (deedsOn id before)).2 ≤ (Deed.gain (deedsOn id before)).2
  /-- All this became of the backend of the engine itself. -/
  served (e : Engine β) : t.host.engine? id = some e → ∃ start, Backend.Serves start (t.deeds id) e.backend
  /-- While no call is in progress, a resource has been given back exactly if its bytes were refused or
  its block was freed. -/
  released_iff : t.Quiet id → ∀ h ∈ t.obtained id,
    (h.resource ∈ (t.released id).map Holding.resource ↔ t.Refused id h ∨ t.Freed id h)
  /-- Calls that have nothing to do with memory of the backend leave it alone. -/
  spares : ∀ j ∈ t.jobs, j.engine = id → j.request.Spares id → ∀ d ∈ j.deeds, d.callsBackend = false

namespace Sound

variable [Backend β ρ] {t : Traffic β ρ} {id : EngineId}

/-- What was given back had been refused or was freed. -/
theorem refused_or_freed (h : t.Sound) (hq : t.Quiet id) {x : Holding ρ} (hx : x ∈ t.released id) :
    t.Refused id x ∨ t.Freed id x := by
  obtain ⟨j, hj, hid, hd⟩ := h.mem_deeds.mp (Deed.mem_loss_snd.mp hx)
  have hpast := hq.mem_past hj hid
  obtain ⟨reply, hs, hended⟩ := ended_of_mem_pastJobs hpast
  obtain ⟨n, hn, hc⟩ := h.course_of_mem hj
  rw [hs] at hc
  rcases hc.refused_or_freed_of_released (Deed.mem_effects.mpr ⟨hd, rfl⟩) with
    ⟨p, hp, hh⟩ | ⟨b, hr, hb, hh, rfl⟩
  · obtain ⟨thread, hm⟩ := mem_deedsOn.mp (h.mem_deeds.mpr ⟨j, hj, hid, (Deed.mem_effects.mp hp).1⟩)
    exact .inl ⟨thread, p, hm, hh⟩
  · obtain ⟨maker, hmaker, hmade⟩ := h.exists_maker hj (b := b) (by rw [Job.given?, hr]; rfl)
    obtain ⟨reply, hms, hmended⟩ := ended_of_mem_pastJobs hmaker
    have hme : maker.engine = id := (h.engine_of_made hmaker hmade).symm.trans (hb.trans (hn.trans hid))
    rw [Job.made?_of_stage hms] at hmade
    rw [Reply.eq_made_of_block? hmade, hme] at hmended
    rw [hr, hid] at hended
    exact .inr ⟨maker.thread, maker.request, j.thread, b, hmended, hended, hh⟩

/-- What was refused or freed was given back. -/
theorem mem_released (h : t.Sound) (hq : t.Quiet id) {x : Holding ρ} (hx : t.Refused id x ∨ t.Freed id x) :
    x ∈ t.released id := by
  apply Deed.mem_loss_snd.mpr
  rcases hx with ⟨thread, p, hm, hp⟩ | ⟨-, -, thread, b, -, hm, hb⟩
  · obtain ⟨j, hj, hid, hd⟩ := h.mem_deeds.mp (mem_deedsOn.mpr ⟨thread, hm⟩)
    obtain ⟨reply, hs⟩ := stage_of_mem_pastJobs (hq.mem_past hj hid)
    obtain ⟨n, -, hc⟩ := h.course_of_mem hj
    rw [hs] at hc
    have hr := hc.released_of_refused (Deed.mem_effects.mpr ⟨hd, rfl⟩) hp
    exact h.mem_deeds.mpr ⟨j, hj, hid, (Deed.mem_effects.mp hr).1⟩
  · obtain ⟨ds, hds⟩ := exists_mem_pastJobs hm
    have hj : _ ∈ t.jobs := mem_jobs_of_past hds
    obtain ⟨n, -, hc⟩ := h.course_of_mem hj
    have hr := hc.released_of_freed hb
    exact h.mem_deeds.mpr ⟨_, hj, rfl, (Deed.mem_effects.mp hr).1⟩

theorem spares (h : t.Sound) {j : Job ρ} (hj : j ∈ t.jobs) (hs : j.request.Spares j.engine) :
    ∀ d ∈ j.deeds, d.callsBackend = false := by
  obtain ⟨n, hn, hc⟩ := h.course_of_mem hj
  intro d hd
  cases d with
  | said out => rfl
  | _ => exact hc.not_callsBackend (hn ▸ hs) _ (Deed.mem_effects.mpr ⟨hd, rfl⟩)

end Sound

/-! ### In what order -/

/-- At every moment, only what had been obtained on an engine had been given back. -/
def InOrder (id : EngineId) (trace : List (Happening ρ)) : Prop :=
  ∀ before, before <:+ trace → (Deed.loss (deedsOn id before)).2 ≤ (Deed.gain (deedsOn id before)).2

/-- A happening that is no deed changes nothing about the order. -/
theorem InOrder.cons {id : EngineId} {x : Happening ρ} {trace : List (Happening ρ)} (h : InOrder id trace)
    (hx : deedsOn id (x :: trace) = deedsOn id trace) : InOrder id (x :: trace) := by
  intro before hb
  rcases List.suffix_cons_iff.mp hb with rfl | hb
  · rw [hx]
    exact h trace List.suffix_rfl
  · exact h before hb

variable [Backend β ρ] {t : Traffic β ρ}

/-- Calls hold only what the backend handed out and did not get back. -/
theorem Sound.released_add_carried_le (h : t.Sound) (id : EngineId) :
    t.released id + (t.carried id).2 ≤ t.obtained id := by
  obtain ⟨out, -, hbal⟩ := h.exists_balance id
  have hsnd : t.obtained id = t.released id + ((t.carried id).2 + (worths out).2) := congrArg Prod.snd hbal
  rw [hsnd, ← add_assoc]
  exact Multiset.le_add_right _ _

theorem InOrder.goOn (h : t.Sound) {id : EngineId} (ho : InOrder id t.trace) {x : Errand ρ}
    (hx : x ∈ t.errands) : InOrder id (t.goOn x).trace := by
  obtain ⟨e, he, -⟩ := h.course_of_errand hx
  have hle := e.loss_advance_le x.thread t.host.commons x.stage x.engine
  rw [goOn_eq he]
  generalize e.advance x.thread t.host.commons x.stage = p at *
  intro before hb
  rcases suffix_didAll_append hb with hb | ⟨ds, hp, rfl⟩
  · exact ho before hb
  · rw [deedsOn_append, deedsOn_didAll]
    by_cases hid : x.engine = id
    -- what the step gives back, the call held before it
    · obtain ⟨rest, hrest⟩ := hp
      have hds : (Deed.loss ds).2 ≤ (t.carried id).2 := by
        calc (Deed.loss ds).2 ≤ (Deed.loss p.deeds).2 := by
              rw [← hrest, Deed.loss_append]
              exact Multiset.le_add_right _ _
          _ ≤ (x.stage.assets x.engine).2 := hle
          _ ≤ (t.carried id).2 := hid ▸ (t.assets_le_carried hx).2
      rw [if_pos hid, Deed.loss_append, Deed.gain_append]
      calc (Deed.loss (deedsOn id t.trace)).2 + (Deed.loss ds).2
          ≤ t.released id + (t.carried id).2 := add_le_add le_rfl hds
        _ ≤ t.obtained id := h.released_add_carried_le id
        _ ≤ t.obtained id + (Deed.gain ds).2 := Multiset.le_add_right _ _
    · rw [if_neg hid, List.append_nil]
      exact ho _ List.suffix_rfl

theorem InOrder.change {t' : Traffic β ρ} (h : t.Sound) {id : EngineId} (ho : InOrder id t.trace)
    (hc : t.Change t') : InOrder id t'.trace := by
  cases hc with
  | unchanged => exact ho
  | aside he hx => exact ho.cons (deedsOn_aside hx id t.trace)
  | made he hi hl hx => exact ho.cons (deedsOn_aside hx id t.trace)
  | began hi he hb => exact ho.cons (deedsOn_began ..)
  | wentOn hx => exact InOrder.goOn h ho hx
  | ended hx hs => exact ho.cons (deedsOn_ended ..)
  | dropped => exact ho

theorem Reachable.inOrder (h : t.Reachable) (id : EngineId) : InOrder id t.trace := by
  induction h with
  | start host hh =>
    intro before hb
    rw [List.suffix_nil.mp hb]
    exact le_rfl
  | move m hr ih => exact InOrder.change hr.sound ih (change_move _ m)

/-- **Memory is given back exactly when it should be**, on every engine whose backend hands out distinct
resources. -/
theorem Reachable.releases (h : t.Reachable) {id : EngineId}
    (hd : ((t.obtained id).map Holding.resource).Nodup) : t.Releases id := by
  have hle : t.released id ≤ t.obtained id := h.inOrder id t.trace List.suffix_rfl
  exact {
    once := Multiset.nodup_of_le (Multiset.map_le_map hle) hd
    obtained_before := h.inOrder id
    served := fun e he => h.sound.served id e he
    released_iff := fun hq x hx => by
      constructor
      · intro hr
        obtain ⟨y, hy, hyx⟩ := Multiset.mem_map.mp hr
        have heq : y = x := Multiset.inj_on_of_nodup_map hd y (Multiset.mem_of_le hle hy) x hx hyx
        exact h.sound.refused_or_freed hq (heq ▸ hy)
      · intro hr
        exact Multiset.mem_map_of_mem _ (h.sound.mem_released hq hr)
    spares := fun j hj hid hs => h.sound.spares hj (hid ▸ hs) }

/-- The memory behind the block that was given back is back, once, and no other. -/
theorem midway_releases :
    (midway.obtained ⟨0⟩).map Holding.resource =
        {⟨0, 24, .plainBuffer, false⟩, ⟨1, 24, .plainBuffer, false⟩, ⟨2, 24, .plainBuffer, true⟩} ∧
      (midway.released ⟨0⟩).map Holding.resource = {⟨0, 24, .plainBuffer, false⟩} ∧
      midway.Releases ⟨0⟩ :=
  ⟨by decide, by decide, midway_reachable.releases (by decide)⟩

end Traffic

end DeviceMemory
