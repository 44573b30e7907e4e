import DeviceMemory.Proofs.Engine.Entries
import DeviceMemory.Proofs.Traffic.Lookup
import Mathlib.Algebra.Order.BigOperators.Group.Multiset

/-!
# No two blocks have one id

All engines of a process draw the ids of their blocks from one counter, each in a step of its own. Whatever
comes between, no id is drawn twice (`Traffic.Reachable.numbered`), so no two blocks that calls have made
have the same (`Traffic.Reachable.nodup_ids`).

The trace is read here as a whole, and not engine by engine. Whatever can be read off single deeds is the
same read off the trace or call by call (`Traffic.Sound.coe_filterMap_deedsOf`).
-/

namespace DeviceMemory

variable {β ρ : Type}

open Deed

/-! ### The deeds of all engines -/

/-- The deed of a happening with the engine that it was done on, if it is one. -/
def Happening.deed? : Happening ρ → Option (EngineId × Deed ρ)
  | did _ engine deed => some (engine, deed)
  | _ => none

/-- All deeds with their engines, the latest first. -/
def deedsOf (trace : List (Happening ρ)) : List (EngineId × Deed ρ) := trace.filterMap Happening.deed?

/-- What belongs to one engine. -/
def on? {γ : Type} (id : EngineId) (x : EngineId × γ) : Option γ := if x.1 = id then some x.2 else none

/-- All ids that were drawn, the latest first. -/
def drawnIn (trace : List (Happening ρ)) : List BlockId := (deedsOf trace).filterMap fun x => x.2.name?

/-! ### One more happening -/

theorem deedsOf_didAll (thread : ThreadId) (engine : EngineId) (ds : List (Deed ρ))
    (trace : List (Happening ρ)) :
    deedsOf (didAll thread engine ds ++ trace) = (ds.map (engine, ·)).reverse ++ deedsOf trace := by
  simp [deedsOf, didAll, List.filterMap_append, Happening.deed?, Function.comp_def]

theorem deedsOf_aside {x : Happening ρ} (hx : x.isAside) (trace : List (Happening ρ)) :
    deedsOf (x :: trace) = deedsOf trace := by
  cases x with
  | told thread stream => rfl
  | made result => rfl
  | _ => cases hx

theorem drawnIn_didAll (thread : ThreadId) (engine : EngineId) (ds : List (Deed ρ))
    (trace : List (Happening ρ)) :
    drawnIn (didAll thread engine ds ++ trace) = (drawn ds).reverse ++ drawnIn trace := by
  rw [drawnIn, deedsOf_didAll, List.filterMap_append, List.filterMap_reverse, List.filterMap_map]
  rfl

theorem deedsOn_eq (id : EngineId) (trace : List (Happening ρ)) :
    deedsOn id trace = ((deedsOf trace).filterMap (on? id)).reverse := by
  rw [deedsOn, List.filterMap_reverse, deedsOf, List.filterMap_filterMap]
  congr
  funext x
  cases x <;> rfl

section Fibres

variable {γ : Type}

theorem count_on [DecidableEq γ] (id : EngineId) (x : γ) (M : Multiset (EngineId × γ)) :
    (M.filterMap (on? id)).count x = M.count (id, x) := by
  induction M using Multiset.induction with
  | empty => rfl
  | cons y M ih =>
    obtain ⟨engine, y⟩ := y
    by_cases h : engine = id
    · have hon : on? id (engine, y) = some y := if_pos h
      rw [Multiset.filterMap_cons_some _ _ _ hon, Multiset.count_cons, Multiset.count_cons, ih]
      simp [h]
    · have hon : on? id (engine, y) = none := if_neg h
      rw [Multiset.filterMap_cons_none _ _ hon, Multiset.count_cons_of_ne (by simp [Ne.symm h]), ih]

/-- Bags are the same if they are for each engine. -/
theorem eq_of_on {M N : Multiset (EngineId × γ)} (h : ∀ id, M.filterMap (on? id) = N.filterMap (on? id)) :
    M = N := by
  classical
  ext ⟨id, x⟩
  rw [← count_on, h, count_on]

end Fibres

theorem eq_of_nodup_filterMap {α γ : Type} {f : α → Option γ} {l : List α} (hn : (l.filterMap f).Nodup) {x y : α}
    {c : γ} (hx : x ∈ l) (hy : y ∈ l) (hfx : f x = some c) (hfy : f y = some c) : x = y := by
  by_contra hne
  have hsymm : Std.Symm fun a b => ∀ c, f a = some c → ∀ c', f b = some c' → c ≠ c' :=
    ⟨fun a b hab c hc c' hc' h => hab c' hc' c hc h.symm⟩
  exact (List.pairwise_filterMap.mp hn).forall hx hy hne c hfx c hfy rfl

/-! ### What a move draws -/

namespace Traffic

theorem commons_readLimit (h : Host β) (n : Nat) : (h.readLimit n).2.1.commons = h.commons := by
  unfold Host.readLimit
  split <;> rfl

theorem blocks_makeEngine (h : Host β) (device : Device) (backend : β) (s : Settings) :
    (h.makeEngine device backend s).2.1.commons.blocks = h.commons.blocks := by
  change (h.readLimit device.totalMemory).2.1.commons.blocks = h.commons.blocks
  rw [commons_readLimit]

variable [Backend β ρ] {t : Traffic β ρ}

/-- A move draws no id, or the next one. -/
theorem drawnIn_move (t : Traffic β ρ) (m : Move β ρ) :
    drawnIn (t.move m).trace = drawnIn t.trace ∧ (t.move m).host.commons.blocks = t.host.commons.blocks ∨
      drawnIn (t.move m).trace = ⟨t.host.commons.blocks⟩ :: drawnIn t.trace ∧
        (t.move m).host.commons.blocks = t.host.commons.blocks + 1 := by
  cases m with
  | make device backend settings => exact .inl ⟨rfl, blocks_makeEngine t.host device backend settings⟩
  | makeAmong target devices selector backend settings =>
    simp only [move, Host.makeEngineAmong]
    split
    · exact .inl ⟨rfl, blocks_makeEngine t.host _ backend settings⟩
    · exact .inl ⟨rfl, rfl⟩
  | stream thread => exact .inl ⟨rfl, t.host.commons.blocks_streamOf thread⟩
  | call thread engine name request =>
    simp only [move]
    split <;> exact .inl ⟨rfl, rfl⟩
  | giveBack thread engine name =>
    simp only [move]
    split
    · exact .inl ⟨rfl, rfl⟩
    · split <;> exact .inl ⟨rfl, rfl⟩
  | step thread =>
    simp only [move]
    split
    · exact .inl ⟨rfl, rfl⟩
    · rename_i x hx
      split
      · exact .inl ⟨rfl, rfl⟩
      · cases he : t.host.engine? x.engine with
        | none =>
          exact .inl (by simp [goOn, Host.advance, he])
        | some e =>
          rw [goOn_eq he, drawnIn_didAll]
          rcases e.drawn_advance x.thread t.host.commons x.stage with ⟨hd, hb⟩ | ⟨hd, hb⟩
          · exact .inl ⟨by rw [hd]; rfl, hb⟩
          · exact .inr ⟨by rw [hd]; rfl, hb⟩
  | drop name => exact .inl ⟨rfl, rfl⟩

/-- No id is drawn twice: all come before the next one. -/
structure Numbered (t : Traffic β ρ) : Prop where
  nodup : (drawnIn t.trace).Nodup
  below : ∀ id ∈ drawnIn t.trace, id.number < t.host.commons.blocks

theorem Numbered.move (h : t.Numbered) (m : Move β ρ) : (t.move m).Numbered := by
  rcases drawnIn_move t m with ⟨hd, hb⟩ | ⟨hd, hb⟩
  · exact ⟨hd ▸ h.nodup, by rw [hd, hb]; exact h.below⟩
  · constructor
    · rw [hd]
      refine List.nodup_cons.mpr ⟨fun hm => ?_, h.nodup⟩
      exact Nat.lt_irrefl _ (h.below _ hm)
    · rw [hd, hb]
      intro id hid
      rcases List.mem_cons.mp hid with rfl | hid
      · exact Nat.lt_succ_self _
      · exact Nat.lt_succ_of_lt (h.below id hid)

theorem Reachable.numbered (h : t.Reachable) : t.Numbered := by
  induction h with
  | start host hh => exact ⟨List.nodup_nil, fun id hid => by cases hid⟩
  | move m _ ih => exact ih.move m

omit [Backend β ρ] in
/-- An id is drawn by one thread. -/
theorem Numbered.drawer_unique (h : t.Numbered) {a b : ThreadId} {engine engine' : EngineId} {id : BlockId}
    (ha : .did a engine (.named id) ∈ t.trace) (hb : .did b engine' (.named id) ∈ t.trace) : a = b := by
  have hn := h.nodup
  rw [drawnIn, deedsOf, List.filterMap_filterMap] at hn
  cases eq_of_nodup_filterMap hn ha hb rfl rfl
  rfl

end Traffic

/-! ### Bags that are read call by call -/

/-- The event that a call has come to, with its block. -/
def Job.event? (j : Job ρ) : Option (Event × Block ρ) := j.stage.event? j.request

namespace Traffic

theorem bind_le_bind {γ : Type} {js : Multiset (Job ρ)} {f g : Job ρ → Multiset γ}
    (h : ∀ j ∈ js, f j ≤ g j) : js.bind f ≤ js.bind g :=
  Multiset.sum_map_le_sum_map f g h

theorem filterMap_le_bind {γ : Type} {js : Multiset (Job ρ)} {f : Job ρ → Option γ} {g : Job ρ → Multiset γ}
    (h : ∀ j ∈ js, ∀ x, f j = some x → x ∈ g j) : js.filterMap f ≤ js.bind g := by
  rw [Multiset.filterMap_eq_bind]
  apply bind_le_bind
  intro j hj
  cases hx : f j with
  | none => exact Multiset.zero_le _
  | some x => exact Multiset.singleton_le.mpr (h j hj x hx)

theorem bind_le_filterMap {γ : Type} {js : Multiset (Job ρ)} {f : Job ρ → Option γ} {g : Job ρ → Multiset γ}
    (h : ∀ j ∈ js, g j = 0 ∨ ∃ x, f j = some x ∧ g j = {x}) : js.bind g ≤ js.filterMap f := by
  rw [Multiset.filterMap_eq_bind]
  apply bind_le_bind
  intro j hj
  rcases h j hj with hg | ⟨x, hx, hg⟩
  · rw [hg]
    exact Multiset.zero_le _
  · rw [hg, hx]
    exact le_rfl

namespace Sound

variable [Backend β ρ] {t : Traffic β ρ}

/-- All deeds are those of all calls. -/
theorem coe_deedsOf (h : t.Sound) : (↑(deedsOf t.trace) : Multiset (EngineId × Deed ρ)) =
    t.jobs.bind fun j => ↑(j.deeds.map (j.engine, ·)) := by
  apply eq_of_on
  intro id
  have hd := h.deeds id
  rw [Traffic.deeds, deedsOn_eq, Multiset.coe_reverse] at hd
  rw [Multiset.filterMap_coe, hd, Multiset.filterMap_bind, Multiset.bind_filter]
  apply Multiset.bind_congr
  intro j _
  rw [Multiset.filterMap_coe, List.filterMap_map]
  by_cases hj : j.engine = id
  · have hon : (on? id ∘ fun d => (j.engine, d)) = (some : Deed ρ → Option (Deed ρ)) := by
      funext d
      exact if_pos hj
    rw [if_pos hj, hon, List.filterMap_some]
  · have hon : (on? id ∘ fun d => (j.engine, d)) = fun _ : Deed ρ => (none : Option (Deed ρ)) := by
      funext d
      exact if_neg hj
    rw [if_neg hj, hon, List.filterMap_none]
    rfl

/-- What can be read off deeds one by one is read call by call. -/
theorem coe_filterMap_deedsOf {γ : Type} (h : t.Sound) (f : Deed ρ → Option γ) :
    (↑((deedsOf t.trace).filterMap fun x => f x.2) : Multiset γ) = t.jobs.bind fun j => ↑(j.deeds.filterMap f) := by
  rw [← Multiset.filterMap_coe, h.coe_deedsOf, Multiset.filterMap_bind]
  apply Multiset.bind_congr
  intro j _
  rw [Multiset.filterMap_coe, List.filterMap_map]
  rfl

theorem coe_drawnIn (h : t.Sound) :
    (↑(drawnIn t.trace) : Multiset BlockId) = t.jobs.bind fun j => ↑(drawn j.deeds) :=
  h.coe_filterMap_deedsOf name?

/-- A call that made a block has come to the event that tells so. -/
theorem event?_of_made (h : t.Sound) {j : Job ρ} (hj : j ∈ t.past) {b : Block ρ} (hb : j.made? = some b) :
    ∃ event, event ≠ .freed ∧ j.event? = some (event, b) := by
  obtain ⟨n, reply, -, hs, hc⟩ := h.course_of_past hj
  rw [Job.made?_of_stage hs] at hb
  cases Reply.eq_made_of_block? hb
  rcases hc.ended_cases with ⟨event, b', hr, hne, he, -⟩ | ⟨b', hr, -⟩ | ⟨f, hr, -⟩
  · cases hr
    exact ⟨event, hne, by rw [Job.event?, hs]; exact he⟩
  · cases hr
  · cases hr

/-- The ids of blocks that were made were drawn. -/
theorem made_le_drawn (h : t.Sound) :
    (t.past.filterMap Job.made?).map Block.id ≤ (↑(drawnIn t.trace) : Multiset BlockId) := by
  rw [h.coe_drawnIn, Multiset.map_filterMap, jobs, Multiset.add_bind]
  refine le_trans (filterMap_le_bind ?_) (Multiset.le_add_left _ _)
  intro j hj x hx
  obtain ⟨b, hb, rfl⟩ := Option.map_eq_some_iff.mp hx
  obtain ⟨event, hne, he⟩ := h.event?_of_made hj hb
  obtain ⟨n, -, hc⟩ := h.course_of_mem (mem_jobs_of_past hj)
  rw [← drawn_effects, hc.drawn_of_event? he hne]
  exact Multiset.mem_singleton_self _

end Sound

/-- **No two blocks that calls have made have the same id.** -/
theorem Reachable.nodup_ids [Backend β ρ] {t : Traffic β ρ} (h : t.Reachable) :
    ((t.past.filterMap Job.made?).map Block.id).Nodup :=
  Multiset.nodup_of_le h.sound.made_le_drawn (Multiset.coe_nodup.mpr h.numbered.nodup)

end Traffic

end DeviceMemory
