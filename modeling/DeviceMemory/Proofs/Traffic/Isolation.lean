import DeviceMemory.Backend.Scripted
import DeviceMemory.Proofs.Traffic.Mirrors

/-!
# Engines do not interfere

A run and its shadow for one engine look the same from that engine: the calls on it come to the same, ask its
backend for the same and leave the same ledger, at every moment (`Traffic.isolated`).

A move of the run is followed by its shadow (`Traffic.Mirrors.move`), which may be no move at all, and so is
the whole run (`Traffic.Mirrors.run`).
-/

namespace DeviceMemory

variable {β ρ : Type} {kept : EngineId → Bool} {id : EngineId}

namespace Traffic

namespace Mirrors

variable [Backend β ρ] {t t' : Traffic β ρ}

/-! ### Moves -/

theorem run_singleton (t : Traffic β ρ) (m : Move β ρ) : t.run [m] = t.move m := rfl

theorem move_call (h : t.Mirrors kept id t') (thread : ThreadId) (engine : EngineId) (name : String)
    (request : Call ρ) : Mirrors kept id (t.move (.call thread engine name request))
      (t'.run (t.shadow kept id (.call thread engine name request))) := by
  rw [shadow]
  by_cases hc : (t.canBegin thread engine && !request.isFree) = true
  · obtain ⟨hcan, hf⟩ : t.canBegin thread engine = true ∧ request.isFree = false := by simpa using hc
    rw [Traffic.move_call hcan hf]
    by_cases he : engine = id
    · subst he
      have hmakes (b : Block ρ) : request ≠ .free b := by
        rintro rfl
        cases hf
      rw [if_pos (by simp [hc]), run_singleton, Traffic.move_call (h.canBegin hcan) hf]
      exact h.began (.same hmakes) h.held
    · rw [if_neg (by simp [he])]
      exact h.began_left (canBegin_iff.mp hcan).1 (fun hfor => he hfor.1) h.held
  · have hsame : t.move (.call thread engine name request) = t := by rw [Traffic.move, if_neg hc]
    rw [hsame, if_neg (by simp [hc])]
    exact h

theorem move_giveBack (h : t.Mirrors kept id t') (thread : ThreadId) (engine : EngineId) (name : String) :
    Mirrors kept id (t.move (.giveBack thread engine name))
      (t'.run (t.shadow kept id (.giveBack thread engine name))) := by
  cases hl : t.held.lookup name with
  | none =>
    have hsame : t.move (.giveBack thread engine name) = t := by simp [Traffic.move, hl]
    simp only [shadow, hl, hsame]
    exact h
  | some b =>
    simp only [shadow, hl]
    by_cases hc : t.canBegin thread engine = true
    · have hidle := (canBegin_iff.mp hc).1
      rw [Traffic.move_giveBack hc hl]
      by_cases hb : b.engine = id
      · rw [if_pos (by simp [hb, hc])]
        by_cases he : engine = id
        · subst he
          have hheld := h.held name
          rw [hl, Option.filter_some, if_pos (by simpa using hb)] at hheld
          obtain ⟨b', hl', hbb⟩ := rel_some_left hheld
          rw [if_pos rfl, run_singleton, Traffic.move_giveBack (h.canBegin hc) hl']
          exact h.began (.free hbb) (h.held.without name)
        · rw [if_neg he]
          exact h.began_left hidle (fun hfor => he hfor.1) (h.held.without name)
      · rw [if_neg (by simp [hb])]
        refine h.began_left hidle ?_ (h.held.without_left ?_)
        · rintro ⟨-, hfor⟩
          simp [Call.isForeign, hb] at hfor
        · intro c hc
          rw [hl] at hc
          cases hc
          exact hb
    · have hsame : t.move (.giveBack thread engine name) = t := by simp [Traffic.move, hl, hc]
      rw [hsame, if_neg (by simp [hc])]
      exact h

theorem move_step (h : t.Mirrors kept id t') (hs : t.Sound) (hs' : t'.Sound) (hd : t.Disowning)
    (thread : ThreadId) :
    Mirrors kept id (t.move (.step thread)) (t'.run (t.shadow kept id (.step thread))) := by
  cases hx : t.errandOf thread with
  | none =>
    simp only [shadow, hx, move_step_idle hx]
    exact h
  | some x =>
    obtain ⟨hm, rfl⟩ := mem_of_errandOf hx
    simp only [shadow, hx]
    by_cases hfor : x.isFor id = true
    · obtain ⟨x', hx', ha⟩ := h.errandOf_of_isFor hx hfor
      have hreply := ha.stage.reply?
      rw [if_pos hfor, run_singleton]
      cases hr : x.stage.reply? with
      | none =>
        rw [hr] at hreply
        rw [move_step_goOn hx hr, move_step_goOn hx' (rel_none_left hreply)]
        exact h.wentOn hs hs' hx (ha.thread_eq ▸ hx') ha
      | some reply =>
        rw [hr] at hreply
        obtain ⟨reply', hr', hrr⟩ := rel_some_left hreply
        rw [move_step_finish hx hr, move_step_finish hx' hr']
        exact h.ended ha hrr
    · have hother : x.isFor id = false := Bool.eq_false_iff.mpr hfor
      rw [if_neg hfor]
      cases hr : x.stage.reply? with
      | none =>
        rw [move_step_goOn hx hr]
        exact h.wentOn_left hs hd hx hother
      | some reply =>
        rw [move_step_finish hx hr]
        cases reply with
        | made b => exact h.ended_left hx hother (h.held.keep_left x.name (hs.engine_ne_of_made hd hm hother hr))
        | freed => exact h.ended_left hx hother h.held
        | failed f => exact h.ended_left hx hother h.held

/-- **A move of the run is followed by its shadow.** -/
theorem move (h : t.Mirrors kept id t') (hid : kept id = true) (hs : t.Sound) (hs' : t'.Sound) (hd : t.Disowning)
    (m : Move β ρ) : Mirrors kept id (t.move m) (t'.run (t.shadow kept id m)) := by
  cases m with
  | make device backend settings =>
    have hm := h.host.makeEngine hid device backend settings
    rw [shadow]
    by_cases hk : kept ⟨t.host.engines.length⟩ = true
    · rw [if_pos hk]
      exact h.aside rfl rfl (hm.1 hk)
    · rw [if_neg hk]
      exact h.aside_left rfl (hm.2 (Bool.eq_false_iff.mpr hk))
  | makeAmong target devices selector backend settings =>
    have hm := h.host.makeEngineAmong hid target devices selector backend settings
    rw [shadow]
    by_cases hk : kept ⟨t.host.engines.length⟩ = true
    · rw [if_pos hk]
      exact h.aside rfl rfl (hm.1 hk)
    · rw [if_neg hk]
      exact h.aside_left rfl (hm.2 (Bool.eq_false_iff.mpr hk))
  | stream thread =>
    have hw := h.host.wanted_eq
    rw [← t.host.commons.wanted_streamOf thread, ← t'.host.commons.wanted_streamOf thread] at hw
    exact h.aside rfl rfl (h.host.aside rfl rfl hw)
  | call thread engine name request => exact h.move_call thread engine name request
  | giveBack thread engine name => exact h.move_giveBack thread engine name
  | step thread => exact h.move_step hs hs' hd thread
  | drop name => exact { h with held := h.held.without name }

/-- A run is followed by its shadow. -/
theorem run (h : t.Mirrors kept id t') (hid : kept id = true) (ht : t.Reachable) (ht' : t'.Reachable)
    (ms : List (Move β ρ)) : Mirrors kept id (t.run ms) (t'.run (t.shadows kept id ms)) := by
  induction ms generalizing t t' with
  | nil => exact h
  | cons m ms ih =>
    have hnext := h.move hid ht.sound ht'.sound ht.disowning m
    have hrest := ih hnext (.move m ht) (ht'.run _)
    rw [shadows, Traffic.run, Traffic.run, List.foldl_append]
    exact hrest

end Mirrors

/-! ### What follows for the engine -/

/-- What a state of a run and one of its shadow have in common: they look the same from one engine. -/
structure Indistinct (kept : EngineId → Bool) (id : EngineId) (t t' : Traffic β ρ) : Prop where
  /-- The calls on the engine came to the same, and so did those of its backend, in one order. -/
  seen_eq : seenOn id t.trace = seenOn (id.among kept) t'.trace
  /-- The engine has one ledger in both, -/
  ledger_eq : (t.host.engine? id).map Engine.ledger = (t'.host.engine? (id.among kept)).map Engine.ledger
  /-- and one backend. -/
  backend_eq : (t.host.engine? id).map Engine.backend = (t'.host.engine? (id.among kept)).map Engine.backend
  /-- In the shadow there were no other calls: none on other engines, and none that gave this one a block of
  theirs. -/
  alone (thread : ThreadId) (engine : EngineId) (request : Call ρ) : .began thread engine request ∈ t'.trace →
    engine = id.among kept ∧ request.isForeign engine = false

theorem Mirrors.indistinct {t t' : Traffic β ρ} (h : t.Mirrors kept id t') : t.Indistinct kept id t' := by
  have hengine := h.host.engine
  cases he : t.host.engine? id with
  | none =>
    rw [he] at hengine
    have he' := rel_none_left hengine
    exact ⟨h.seen_eq, by rw [he, he'], by rw [he, he'], h.alone⟩
  | some e =>
    rw [he] at hengine
    obtain ⟨e', he', ha⟩ := rel_some_left hengine
    exact ⟨h.seen_eq, by simp [he, he', ha.ledger_eq], by simp [he, he', ha.backend_eq], h.alone⟩

variable [Backend β ρ]

/-- **Engines do not interfere.** At every moment of a run, its shadow for an engine looks the same from that
engine, and blocks that were given to the wrong engine have been declined. -/
theorem isolated (host : Host β) (hh : host.engines = []) (kept : EngineId → Bool) (id : EngineId)
    (hid : kept id = true) (ms before : List (Move β ρ)) (hb : before <+: ms) :
    ({ host } : Traffic β ρ).shadows kept id before <+: ({ host } : Traffic β ρ).shadows kept id ms ∧
      (({ host } : Traffic β ρ).run before).Indistinct kept id
        (({ host } : Traffic β ρ).run (({ host } : Traffic β ρ).shadows kept id before)) ∧
      (({ host } : Traffic β ρ).run before).Disowns := by
  have hstart : ({ host } : Traffic β ρ).Reachable := .start host hh
  obtain ⟨after, rfl⟩ := hb
  refine ⟨?_, ?_, (hstart.run before).disowns⟩
  · rw [shadows_append]
    exact List.prefix_append _ _
  · exact ((Mirrors.start host hh).run hid hstart hstart before).indistinct

/-! ### Two blocks that are given to the wrong engines -/

/-- Two threads make a block each, on two engines, and give it to the engine of the other. Then the first makes
one more block, for which the lost one leaves no room. -/
def crossed : List (Move ScriptedBackend ScriptedResource) :=
  let device : Device := ⟨"0", "device", 1024, .plainBuffer, .ofList [.plainBuffer]⟩
  let request : Call ScriptedResource := .allocate ⟨[2, 3], .f32, false⟩ false
  [.make device ({} : ScriptedBackend) {}, .make device { capacity := some 40 } {},
      .call (.numbered 0) ⟨1⟩ "a" request, .call (.numbered 1) ⟨0⟩ "b" request] ++ Move.toEnd (.numbered 1) ++ Move.toEnd (.numbered 0) ++
    [.giveBack (.numbered 0) ⟨0⟩ "a", .giveBack (.numbered 1) ⟨1⟩ "b"] ++ Move.toEnd (.numbered 0) ++
    Move.toEnd (.numbered 1) ++ [.call (.numbered 0) ⟨1⟩ "c" request] ++ Move.toEnd (.numbered 0)

/-- Only the second engine is kept. -/
def onlySecond (id : EngineId) : Bool := decide (id = ⟨1⟩)

/-- In the shadow of that run for the second engine there is one engine, and both blocks are dropped. Two calls
and what they ask the backend for are seen in both; giving back the block of the other engine is not. -/
theorem crossed_isolated :
    let start : Traffic ScriptedBackend ScriptedResource := { host := {} }
    let shadow := start.shadows onlySecond ⟨1⟩ crossed
    (start.run shadow).host.engines.length = 1 ∧
      (shadow.filterMap fun | .drop name => some name | _ => none) = ["b", "a"] ∧
      (seenOn ⟨1⟩ (start.run crossed).trace).length = 6 ∧
      (start.run crossed).Indistinct onlySecond ⟨1⟩ (start.run shadow) ∧ (start.run crossed).Disowns := by
  intro start shadow
  have h := isolated (ρ := ScriptedResource) ({} : Host ScriptedBackend) rfl onlySecond ⟨1⟩ rfl crossed crossed
    List.prefix_rfl
  exact ⟨by decide +kernel, by decide +kernel, by decide +kernel, h.2⟩

end Traffic

end DeviceMemory
