import DeviceMemory.Proofs.Traffic.Sound

/-!
# Bytes are conserved

Threads allocate, import, attach and free at the same time, and the call to the backend and the entry
into the ledger are separate steps. In every state that they come to, in any order of their steps, an
engine has in use exactly the bytes of the blocks that it credited and has not debited, and never more
than the memory that its backend has handed out and not got back (`Traffic.Reachable.conserves`). As
soon as no call is in progress the two agree. No block is refused by the engine that made it.

Blocks that were dropped, and blocks that were given to an engine that did not make them, are never
debited, so they stay in use.
-/

namespace DeviceMemory

variable {β ρ : Type}

namespace Traffic

/-- What an engine has in use, and what is behind it. -/
structure Conserves (t : Traffic β ρ) (id : EngineId) (e : Engine β) (live : Multiset (Plan ρ))
    (out : Multiset (Holding ρ)) : Prop where
  /-- The blocks that were credited and not yet debited. -/
  credited_eq : t.credited id = t.debited id + live
  /-- The memory that the backend handed out and did not get back yet. -/
  obtained_eq : t.obtained id = t.released id + out
  /-- The bytes in use with a placement are those of its blocks. -/
  used_eq (p : Placement) : e.used p = bytesIn (.allocated p) live
  /-- The backend has handed out at least as much. -/
  used_le (p : Placement) : e.used p ≤ bytesHeld p out
  /-- It has handed out as much while no call is in progress. -/
  used_eq_held (p : Placement) : t.Quiet id → e.used p = bytesHeld p out
  /-- The bytes of imported memory in use are those of the imported blocks. -/
  imported_eq : e.imported = bytesIn .imported live

theorem carried_eq_zero {t : Traffic β ρ} {id : EngineId} (h : t.Quiet id) : t.carried id = 0 := by
  rw [carried, h.running_eq]
  rfl

theorem backed_carried (t : Traffic β ρ) (id : EngineId) : (t.carried id).Backed := by
  apply Assets.backed_sum
  intro x hx
  obtain ⟨j, -, rfl⟩ := Multiset.mem_map.mp hx
  exact j.stage.backed_assets id

variable [Backend β ρ]

theorem Sound.exists_conserves {t : Traffic β ρ} (h : t.Sound) {id : EngineId} {e : Engine β}
    (he : t.host.engine? id = some e) : ∃ live out, t.Conserves id e live out := by
  obtain ⟨out, -, hbal⟩ := h.exists_balance id
  have hcurrent := h.current_eq he hbal
  refine ⟨(t.carried id + worths out).1, (t.carried id + worths out).2, ?_⟩
  exact {
    credited_eq := congrArg Prod.fst hbal
    obtained_eq := congrArg Prod.snd hbal
    used_eq := fun p => hcurrent (.allocated p)
    used_le := fun p => by
      rw [Engine.used, hcurrent]
      exact (t.backed_carried id).add (even_worths out).backed p
    used_eq_held := fun p hq => by
      rw [Engine.used, hcurrent, carried_eq_zero hq, zero_add]
      exact even_worths out p
    imported_eq := hcurrent .imported }

/-- A call that gives a block back to the engine that made it ends well. -/
theorem Sound.reply_of_free {t : Traffic β ρ} (h : t.Sound) {id : EngineId} {maker thread : ThreadId}
    {request : Call ρ} {b : Block ρ} {reply : Reply ρ} (hm : .ended maker id request (.made b) ∈ t.trace)
    (hf : .ended thread id (.free b) reply ∈ t.trace) : reply = .freed := by
  obtain ⟨ds, hds⟩ := exists_mem_pastJobs hm
  obtain ⟨es, hes⟩ := exists_mem_pastJobs hf
  have hb : b.engine = id := h.engine_of_made hds rfl
  obtain ⟨n, hn, hc⟩ := h.course_of_mem (mem_jobs_of_past hes)
  exact hc.reply_of_free (hb.trans hn.symm)

/-- **Bytes are conserved**, whatever the order in which threads take their steps, and no block is
refused by the engine that made it. -/
theorem Reachable.conserves {t : Traffic β ρ} (h : t.Reachable) {id : EngineId} {e : Engine β}
    (he : t.host.engine? id = some e) :
    (∃ live out, t.Conserves id e live out) ∧
      ∀ maker thread request b reply, .ended maker id request (.made b) ∈ t.trace →
        .ended thread id (.free b) reply ∈ t.trace → reply = .freed :=
  ⟨h.sound.exists_conserves he, fun _ _ _ _ _ hm hf => h.sound.reply_of_free hm hf⟩

theorem midway_conserves :
    ∃ e, midway.host.engine? ⟨0⟩ = some e ∧ e.used .plainBuffer = 24 ∧
      (∃ live out, midway.Conserves ⟨0⟩ e live out) ∧
      ∀ maker thread request b reply, .ended maker ⟨0⟩ request (.made b) ∈ midway.trace →
        .ended thread ⟨0⟩ (.free b) reply ∈ midway.trace → reply = .freed := by
  have hused : (midway.host.engine? ⟨0⟩).map (·.used .plainBuffer) = some 24 := by rfl
  obtain ⟨e, he, hu⟩ := Option.map_eq_some_iff.mp hused
  exact ⟨e, he, hu, midway_reachable.conserves he⟩

end Traffic

end DeviceMemory
