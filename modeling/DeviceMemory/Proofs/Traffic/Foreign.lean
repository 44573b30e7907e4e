import DeviceMemory.Proofs.Traffic.Lookup

/-!
# Blocks that are given to another engine

An engine that is given a block which it did not make declines at once. Whatever else happens at the same
time, the reply names the block, its owner and the engine that was asked, and no engine has done anything
(`Traffic.Reachable.disowns`).
-/

namespace DeviceMemory

variable {β ρ : Type}

/-- Whether a call gives an engine a block of another. -/
def Call.isForeign (id : EngineId) : Call ρ → Bool
  | .free b => decide (b.engine ≠ id)
  | _ => false

theorem Call.isForeign_iff {id : EngineId} {call : Call ρ} :
    call.isForeign id = true ↔ ∃ b, call = .free b ∧ b.engine ≠ id := by
  cases call <;> simp [isForeign]

/-- The failure of a call that gives an engine a block of another. -/
def Block.disowned (b : Block ρ) (id : EngineId) (trace : Backtrace) : Failure :=
  ⟨.foreignBlock b.id b.engine id, trace⟩

/-- All that a call can come to that gives an engine a block of another: it has not begun, or has failed. -/
inductive Stage.Disowned (id : EngineId) (b : Block ρ) : Stage ρ → Prop
  /-- It has not begun. -/
  | opening : Disowned id b (.opening (.free b))
  /-- It has failed. -/
  | closing (trace : Backtrace) : Disowned id b (.closing none (.failed (b.disowned id trace)))

variable [Backend β ρ]

/-- A step of such a call does nothing but fail. -/
theorem Stage.Disowned.advance (thread : ThreadId) {e : Engine β} (c : Commons) {b : Block ρ}
    (hb : b.engine ≠ e.id) {s : Stage ρ} (h : s.Disowned e.id b) :
    ∃ c' trace, e.advance thread c s = ⟨e, c', .closing none (.failed (b.disowned e.id trace)), []⟩ := by
  cases h with
  | opening =>
    simp only [Engine.advance, Engine.begin]
    rw [if_neg hb, Engine.fail_eq]
    exact ⟨_, _, rfl⟩
  | closing trace => exact ⟨c, trace, rfl⟩

namespace Traffic

/-- Calls that give an engine a block of another have come no further than to fail. -/
def Disowning (t : Traffic β ρ) : Prop :=
  ∀ j ∈ t.jobs, ∀ b, j.request = .free b → b.engine ≠ j.engine → j.stage.Disowned j.engine b

variable {t t' : Traffic β ρ}

omit [Backend β ρ] in
theorem Disowning.of_errand (h : t.Disowning) {x : Errand ρ} (hx : x ∈ t.errands) {b : Block ρ}
    (hr : x.request = .free b) (hb : b.engine ≠ x.engine) : x.stage.Disowned x.engine b :=
  h (x.job t.trace) (job_mem_jobs hx) b hr hb

/-- A step of such a call changes no engine, adds no deed, and fails. -/
theorem Disowning.goOn (h : t.Disowning) (hs : t.Sound) {x : Errand ρ} (hx : t.errandOf x.thread = some x)
    {b : Block ρ} (hr : x.request = .free b) (hb : b.engine ≠ x.engine) :
    (∀ id, (t.goOn x).host.engine? id = t.host.engine? id) ∧ (t.goOn x).trace = t.trace ∧
      ∃ trace, (t.goOn x).errandOf x.thread =
        some { x with stage := .closing none (.failed (b.disowned x.engine trace)) } := by
  have hm := (mem_of_errandOf hx).1
  obtain ⟨e, he, -⟩ := hs.course_of_errand hm
  have hid : e.id = x.engine := hs.ids _ _ he
  obtain ⟨c', trace, hp⟩ := (hid ▸ h.of_errand hm hr hb).advance x.thread t.host.commons (hid ▸ hb)
  refine ⟨fun id => ?_, ?_, trace, ?_⟩
  · rw [engine?_goOn he, hp]
    split
    · rename_i hx
      rw [hx, he]
    · rfl
  · rw [goOn_eq he, hp]
    rfl
  · rw [errandOf_goOn hx he, if_pos rfl, hp, hid]

/-- The invariant is preserved by every move. -/
theorem Disowning.change (h : t.Disowning) (hs : t.Sound) (hc : t.Change t') : t'.Disowning := by
  have hjobs := Sound.forall_jobs
    (P := fun n call s => ∀ b, call = .free b → b.engine ≠ n.id → s.Disowned n.id b)
    (by rintro n call b rfl hne; exact .opening)
    (fun thread e c call s hbefore b hr hne => by
      obtain ⟨c', trace, hp⟩ := (hbefore b hr hne).advance thread c hne
      rw [hp]
      exact .closing trace)
    hs hc (fun j hj e he => by
      have hid : e.nature.id = j.engine := hs.ids _ _ he
      rw [hid]
      exact h j hj)
  intro j hj
  obtain ⟨e, he, -⟩ := (hs.change hc).course j hj
  have hid : e.nature.id = j.engine := (hs.change hc).ids _ _ he
  exact hid ▸ hjobs j hj e he

theorem Reachable.disowning (h : t.Reachable) : t.Disowning := by
  induction h with
  | start host hh =>
    intro j hj
    simp [jobs, running, past, pastJobs] at hj
  | move m h ih => exact ih.change h.sound (change_move _ m)

/-- What becomes of blocks that are given to engines which did not make them. -/
structure Disowns (t : Traffic β ρ) : Prop where
  /-- Every such call that has ended has failed, and the failure names the block, its owner, and the engine
  that was asked. -/
  reply (thread : ThreadId) (id : EngineId) (b : Block ρ) (reply : Reply ρ) :
    .ended thread id (.free b) reply ∈ t.trace → b.engine ≠ id → ∃ trace, reply = .failed (b.disowned id trace)
  /-- The next step of such a call ends it, or brings it to its end; it changes no engine and adds no deed. -/
  step (thread : ThreadId) (x : Errand ρ) (b : Block ρ) : t.errandOf thread = some x → x.request = .free b →
    b.engine ≠ x.engine →
      (∀ id, (t.move (.step thread)).host.engine? id = t.host.engine? id) ∧
      (∀ id, (t.move (.step thread)).deeds id = t.deeds id) ∧
      ∃ trace, (t.move (.step thread)).errandOf thread =
          some { x with stage := .closing none (.failed (b.disowned x.engine trace)) } ∨
        (t.move (.step thread)).errandOf thread = none ∧
          (t.move (.step thread)).trace =
            .ended thread x.engine (.free b) (.failed (b.disowned x.engine trace)) :: t.trace
  /-- A call that nothing interrupts is over after two steps. -/
  returns (thread : ThreadId) (id : EngineId) (name : String) (b : Block ρ) : t.canBegin thread id = true →
    t.held.lookup name = some b → b.engine ≠ id →
      ∃ t', t' = t.run [.giveBack thread id name, .step thread, .step thread] ∧
        (∀ other, t'.host.engine? other = t.host.engine? other) ∧
        ∃ trace, t'.errandOf thread = none ∧
          t'.trace = .ended thread id (.free b) (.failed (b.disowned id trace)) ::
            .began thread id (.free b) :: t.trace

theorem Disowning.step (h : t.Disowning) (hs : t.Sound) {thread : ThreadId} {x : Errand ρ} {b : Block ρ}
    (hx : t.errandOf thread = some x) (hr : x.request = .free b) (hb : b.engine ≠ x.engine) :
    (∀ id, (t.move (.step thread)).host.engine? id = t.host.engine? id) ∧
      (∀ id, (t.move (.step thread)).deeds id = t.deeds id) ∧
      ∃ trace, (t.move (.step thread)).errandOf thread =
          some { x with stage := .closing none (.failed (b.disowned x.engine trace)) } ∨
        (t.move (.step thread)).errandOf thread = none ∧
          (t.move (.step thread)).trace =
            .ended thread x.engine (.free b) (.failed (b.disowned x.engine trace)) :: t.trace := by
  obtain ⟨hm, rfl⟩ := mem_of_errandOf hx
  cases hreply : x.stage.reply? with
  | none =>
    obtain ⟨hengines, htrace, trace, herrand⟩ := h.goOn hs hx hr hb
    rw [move_step_goOn hx hreply]
    exact ⟨hengines, fun id => by rw [deeds, htrace, deeds], trace, .inl herrand⟩
  | some reply =>
    have hdisowned := h.of_errand hm hr hb
    rw [Stage.eq_closing_of_reply? hreply] at hdisowned
    cases hdisowned with
    | closing trace =>
      rw [move_step_finish hx hreply]
      refine ⟨fun _ => rfl, fun id => deedsOn_ended id _ _ _ _ t.trace, trace, .inr ⟨?_, ?_⟩⟩
      · rw [errandOf_finish, if_pos rfl]
      · rw [finish, hr]

theorem Disowning.returns (h : t.Disowning) (hs : t.Sound) {thread : ThreadId} {id : EngineId} {name : String}
    {b : Block ρ} (hc : t.canBegin thread id = true) (hl : t.held.lookup name = some b) (hb : b.engine ≠ id) :
    ∃ t', t' = t.run [.giveBack thread id name, .step thread, .step thread] ∧
      (∀ other, t'.host.engine? other = t.host.engine? other) ∧
      ∃ trace, t'.errandOf thread = none ∧
        t'.trace = .ended thread id (.free b) (.failed (b.disowned id trace)) ::
          .began thread id (.free b) :: t.trace := by
  let x : Errand ρ := ⟨thread, id, name, .free b, .opening (.free b)⟩
  -- it begins,
  obtain ⟨t₁, h₁⟩ : ∃ t₁, t₁ = t.move (.giveBack thread id name) := ⟨_, rfl⟩
  have hbegin : t₁ = { t.begin thread id name (.free b) with held := without name t.held } :=
    h₁.trans (move_giveBack hc hl)
  have hsound₁ : t₁.Sound := h₁ ▸ hs.change (change_move t _)
  have hdisowning₁ : t₁.Disowning := h₁ ▸ h.change hs (change_move t _)
  have herrand₁ : t₁.errandOf thread = some x := by rw [hbegin, errandOf_begin_with, if_pos rfl]
  -- fails,
  obtain ⟨hengines, htrace, trace, herrand₂⟩ := hdisowning₁.goOn hsound₁ (x := x) herrand₁ rfl hb
  have hgo : t₁.move (.step thread) = t₁.goOn x := move_step_goOn herrand₁ rfl
  -- and ends
  have hend : t.run [.giveBack thread id name, .step thread, .step thread] =
      (t₁.goOn x).finish { x with stage := .closing none (.failed (b.disowned id trace)) }
        (.failed (b.disowned id trace)) := by
    change ((t.move (.giveBack thread id name)).move (.step thread)).move (.step thread) = _
    rw [← h₁, hgo, move_step_finish herrand₂ rfl]
  refine ⟨_, rfl, ?_, trace, ?_, ?_⟩
  · intro other
    rw [hend]
    exact (hengines other).trans (by rw [hbegin]; rfl)
  · rw [hend, errandOf_finish, if_pos rfl]
  · rw [hend, finish, htrace, hbegin]
    rfl

/-- **An engine that is given a block of another declines**, whatever else happens meanwhile. -/
theorem Reachable.disowns (h : t.Reachable) : t.Disowns where
  reply thread id b reply hm hb := by
    obtain ⟨ds, hj⟩ := exists_mem_pastJobs hm
    have hstage : (Stage.closing none reply).Disowned id b :=
      h.disowning _ (Multiset.mem_add.mpr (.inr (Multiset.mem_coe.mpr hj))) b rfl hb
    cases hstage with
    | closing trace => exact ⟨trace, rfl⟩
  step _ _ _ hx hr hb := h.disowning.step h.sound hx hr hb
  returns _ _ _ _ hc hl hb := h.disowning.returns h.sound hc hl hb

end Traffic

end DeviceMemory
