import DeviceMemory.Proofs.Engine.Allotment
import DeviceMemory.Proofs.Traffic.Ids
import DeviceMemory.Proofs.Traffic.Intake

/-!
# Ids are drawn in order, and just for what is made

Engines are numbered from zero in the order in which they are made, and blocks from zero in the order in which they
come into being on any of them. An engine that cannot be made takes no number. A call takes one if it makes a block,
and else only if it is an import that passed its checks and had no room. So no two engines share an id, and no two
blocks do, however threads take turns (`Traffic.allots_ids`).
-/

namespace DeviceMemory

variable {β ρ : Type}

open Deed

/-! ### Lists that count -/

/-- What counts up to a number, the latest first, still does with the number in front. -/
theorem reverse_cons_eq_range {α : Type} {mk : Nat → α} {l : List α} {n : Nat} (h : l.reverse = (List.range n).map mk) :
    (mk n :: l).reverse = (List.range (n + 1)).map mk := by
  rw [List.reverse_cons, h, List.range_succ, List.map_append, List.map_singleton]

theorem nodup_of_reverse_eq_range {α : Type} {mk : Nat → α} (hmk : Function.Injective mk) {l : List α} {n : Nat}
    (h : l.reverse = (List.range n).map mk) : l.Nodup := by
  rw [← List.nodup_reverse, h]
  exact List.nodup_range.map hmk

/-! ### Engines -/

/-- The id of an engine that was made, if one was. -/
def Happening.engine? : Happening ρ → Option EngineId
  | made (.ok id) => some id
  | _ => none

/-- The ids of the engines that were made, the latest first. -/
def enginesIn (trace : List (Happening ρ)) : List EngineId := trace.filterMap Happening.engine?

theorem enginesIn_didAll (thread : ThreadId) (engine : EngineId) (ds : List (Deed ρ)) (trace : List (Happening ρ)) :
    enginesIn (didAll thread engine ds ++ trace) = enginesIn trace := by
  have hnone : (didAll thread engine ds).filterMap Happening.engine? = [] := by
    rw [List.filterMap_eq_nil_iff]
    intro x hx
    obtain ⟨d, -, rfl⟩ := List.mem_map.mp (List.mem_reverse.mp hx)
    rfl
  rw [enginesIn, List.filterMap_append, hnone, List.nil_append, enginesIn]

/-- What the making of an engine comes to: an engine with the next id, or a failure that uses none. -/
inductive Host.MakesEngine (h : Host β) (result : Except Failure EngineId) (h' : Host β) : Prop
  /-- There is one more engine. -/
  | made (hr : result = .ok ⟨h.engines.length⟩) (hl : h'.engines.length = h.engines.length + 1)
  /-- The engines are as before. -/
  | failed {f : Failure} (hr : result = .error f) (he : h'.engines = h.engines)

theorem Host.makes_makeEngine (h : Host β) (device : Device) (backend : β) (s : Settings) :
    h.MakesEngine (.ok (h.makeEngine device backend s).1) (h.makeEngine device backend s).2.1 := by
  obtain ⟨e, he, -, -⟩ := Traffic.engines_makeEngine h device backend s
  refine .made ?_ (by rw [he, List.length_append, List.length_singleton])
  change Except.ok (EngineId.mk (h.readLimit device.totalMemory).2.1.engines.length) = _
  rw [Traffic.engines_readLimit]

theorem Host.makes_makeEngineAmong (h : Host β) (target : Target) (devices : Devices) (selector : Selector)
    (backend : β) (s : Settings) : h.MakesEngine (h.makeEngineAmong target devices selector backend s).1
      (h.makeEngineAmong target devices selector backend s).2.1 := by
  simp only [Host.makeEngineAmong]
  split
  · exact h.makes_makeEngine _ backend s
  · exact .failed rfl rfl

theorem Host.makes_makeEngineUnderSettings (h : Host β) (target : Target) (devices : Devices) (selector : Selector)
    (backend : β) : h.MakesEngine (h.makeEngineUnderSettings target devices selector backend).1
      (h.makeEngineUnderSettings target devices selector backend).2.1 := by
  have hsame : h.readSettings.2.1.engines = h.engines := by
    unfold Host.readSettings
    split <;> rfl
  have hmakes := h.readSettings.2.1.makes_makeEngineAmong target devices selector backend h.readSettings.1
  change h.MakesEngine (h.readSettings.2.1.makeEngineAmong target devices selector backend h.readSettings.1).1
    (h.readSettings.2.1.makeEngineAmong target devices selector backend h.readSettings.1).2.1
  cases hmakes with
  | made hr hl => exact .made (by rw [hr, hsame]) (by rw [hl, hsame])
  | failed hr he => exact .failed hr (he.trans hsame)

/-! ### Calls -/

/-- Whether a call has ended that was an import, passed its checks, and failed. -/
def Job.isBarred (j : Job ρ) : Bool := j.stage.reply?.any j.request.isBarred

/-- One id is drawn for a block that is made, and one for an import that passes its checks and fails. -/
theorem Call.Draws.length_eq {call : Call ρ} {reply : Reply ρ} {ids : List BlockId} (h : call.Draws reply ids) :
    ids.length = reply.block?.toList.length + if call.isBarred reply then 1 else 0 := by
  cases h with
  | @made _ b hf => cases call <;> rfl
  | freed => rfl
  | barred ha hf => simp [Reply.block?, Call.isBarred, ha]
  | @failed _ f hn =>
    cases call with
    | share layout handle =>
      cases ha : handle.admit layout with
      | error err => simp [Reply.block?, Call.isBarred, ha]
      | ok size => exact absurd ha (hn layout handle size rfl)
    | _ => rfl

namespace Traffic

variable [Backend β ρ] {t : Traffic β ρ}

/-- Every import has come as far as it has by its stages. -/
theorem Reachable.importing (h : t.Reachable) {j : Job ρ} (hj : j ∈ t.jobs) {layout : Layout} {handle : SharedHandle}
    (hcall : j.request = .share layout handle) : Importing layout handle j.stage (drawn j.deeds) := by
  obtain ⟨e, he, -⟩ := h.sound.course j hj
  refine h.forall_deeds
    (P := fun _ call s ds => ∀ layout handle, call = .share layout handle → Importing layout handle s (drawn ds))
    ?_ ?_ j hj e he layout handle hcall
  · rintro n call layout handle rfl
    exact .opening
  · intro thread e c call s ds hs layout handle hcall
    rw [drawn_append]
    exact (hs layout handle hcall).advance thread e c

/-- What a call that has ended has drawn. -/
theorem Reachable.draws (h : t.Reachable) {j : Job ρ} (hj : j ∈ t.past) :
    ∃ reply, j.stage = .closing none reply ∧ j.request.Draws reply (drawn j.deeds) := by
  obtain ⟨reply, hs, hended⟩ := ended_of_mem_pastJobs (Multiset.mem_coe.mp hj)
  obtain ⟨n, -, hc⟩ := h.sound.course_of_mem (mem_jobs_of_past hj)
  rw [hs] at hc
  refine ⟨reply, hs, ?_⟩
  rw [← drawn_effects]
  refine hc.draws (fun layout handle hcall => ?_) (fun layout handle size f hcall ha hr => ?_)
  · rw [drawn_effects, ← hs]
    exact h.importing (mem_jobs_of_past hj) hcall
  · rw [hcall] at hended
    obtain ⟨n, l, -, -, htakes⟩ := h.takes hended rfl
    have hhead := htakes.failed hr
    rw [Call.objections, SharedHandle.objections_of_ok ha] at hhead
    split at hhead
    · cases hhead
    · exact ⟨_, (Option.some.inj hhead).symm⟩

/-- So many ids were drawn by calls that have ended. -/
theorem Reachable.sum_drawn_past (h : t.Reachable) : (t.past.map fun j => (drawn j.deeds).length).sum =
    (t.past.filterMap Job.made?).card + (t.past.filter fun j => j.isBarred).card := by
  have hjob : ∀ j ∈ t.past, (drawn j.deeds).length = j.made?.toList.length + if j.isBarred then 1 else 0 := by
    intro j hj
    obtain ⟨reply, hs, hdraws⟩ := h.draws hj
    rw [hdraws.length_eq, Job.made?_of_stage hs, Job.isBarred, hs]
    rfl
  rw [Multiset.map_congr rfl hjob, Multiset.sum_map_add]
  congr 1
  · rw [Multiset.filterMap_eq_bind, Multiset.card_bind]
    congr 2
    funext j
    cases hm : j.made? <;> simp [hm]
  · rw [Multiset.filter_eq_bind, Multiset.card_bind]
    congr 2
    funext j
    cases hb : j.isBarred <;> simp [hb]

/-- So many ids were drawn by all calls. -/
theorem Reachable.length_drawnIn (h : t.Reachable) : (drawnIn t.trace).length =
    (t.past.filterMap Job.made?).card + (t.past.filter fun j => j.isBarred).card +
      (t.running.map fun j => (drawn j.deeds).length).sum := by
  rw [← Multiset.coe_card, h.sound.coe_drawnIn, Multiset.card_bind, jobs, Multiset.map_add, Multiset.sum_add,
    Nat.add_comm, ← h.sum_drawn_past]
  rfl

/-! ### Order -/

/-- A move makes no engine, or the next one. -/
theorem enginesIn_move (t : Traffic β ρ) (m : Move β ρ) :
    enginesIn (t.move m).trace = enginesIn t.trace ∧ (t.move m).host.engines.length = t.host.engines.length ∨
      enginesIn (t.move m).trace = ⟨t.host.engines.length⟩ :: enginesIn t.trace ∧
        (t.move m).host.engines.length = t.host.engines.length + 1 := by
  have of_makes {result : Except Failure EngineId} {host : Host β} (h : t.host.MakesEngine result host) :
      enginesIn (.made result :: t.trace) = enginesIn t.trace ∧ host.engines.length = t.host.engines.length ∨
        enginesIn (.made result :: t.trace) = ⟨t.host.engines.length⟩ :: enginesIn t.trace ∧
          host.engines.length = t.host.engines.length + 1 := by
    cases h with
    | made hr hl =>
      subst hr
      exact .inr ⟨rfl, hl⟩
    | failed hr he =>
      subst hr
      exact .inl ⟨rfl, congrArg List.length he⟩
  cases m with
  | make device backend settings => exact of_makes (t.host.makes_makeEngine device backend settings)
  | makeAmong target devices selector backend settings =>
    exact of_makes (t.host.makes_makeEngineAmong target devices selector backend settings)
  | stream thread => exact .inl ⟨rfl, rfl⟩
  | call thread engine name request =>
    simp only [move]
    split <;> exact .inl ⟨rfl, rfl⟩
  | giveBack thread engine name =>
    simp only [move]
    split
    · exact .inl ⟨rfl, rfl⟩
    · split <;> exact .inl ⟨rfl, rfl⟩
  | step thread =>
    simp only [move]
    split
    · exact .inl ⟨rfl, rfl⟩
    · rename_i x hx
      split
      · exact .inl ⟨rfl, rfl⟩
      · cases he : t.host.engine? x.engine with
        | none => exact .inl (by simp [goOn, Host.advance, he])
        | some e =>
          rw [goOn_eq he, enginesIn_didAll]
          exact .inl ⟨rfl, by simp [Host.setEngine]⟩
  | drop name => exact .inl ⟨rfl, rfl⟩

/-- Ids count from zero. -/
structure CountsUp (t : Traffic β ρ) : Prop where
  /-- Those of engines, in the order in which these are made, -/
  engines : (enginesIn t.trace).reverse = (List.range t.host.engines.length).map EngineId.mk
  /-- and those of blocks, in the order in which they are drawn. -/
  blocks : (drawnIn t.trace).reverse = (List.range t.host.commons.blocks).map BlockId.mk

theorem CountsUp.move (h : t.CountsUp) (m : Move β ρ) : (t.move m).CountsUp where
  engines := by
    rcases enginesIn_move t m with ⟨he, hl⟩ | ⟨he, hl⟩
    · rw [he, hl]
      exact h.engines
    · rw [he, hl]
      exact reverse_cons_eq_range h.engines
  blocks := by
    rcases drawnIn_move t m with ⟨hd, hb⟩ | ⟨hd, hb⟩
    · rw [hd, hb]
      exact h.blocks
    · rw [hd, hb]
      exact reverse_cons_eq_range h.blocks

theorem CountsUp.run (h : t.CountsUp) (ms : List (Move β ρ)) : (t.run ms).CountsUp := by
  induction ms generalizing t with
  | nil => exact h
  | cons m ms ih => exact ih (h.move m)

/-- The id of an engine is its place. -/
theorem Sound.ids_eq_range (h : t.Sound) :
    t.host.engines.map Engine.id = (List.range t.host.engines.length).map EngineId.mk := by
  apply List.ext_getElem
  · simp
  · intro i hi _
    rw [List.length_map] at hi
    have hid := h.ids ⟨i⟩ t.host.engines[i] (List.getElem?_eq_getElem hi)
    simpa using hid

/-! ### All together -/

/-- How the ids of engines and of blocks are given out. -/
structure AllotsIds (t : Traffic β ρ) : Prop where
  /-- Engines are numbered from zero, in the order in which they were made, -/
  engines_made : (enginesIn t.trace).reverse = (List.range t.host.engines.length).map EngineId.mk
  /-- and have these ids. -/
  engine_ids : t.host.engines.map Engine.id = (List.range t.host.engines.length).map EngineId.mk
  /-- The next engine gets the next id, and what fails to make one leaves that id for another, with settings that are
  given -/
  next_engine (target : Host.Target) (devices : Devices) (selector : Selector) (backend : β) (s : Settings) :
    t.host.MakesEngine (t.host.makeEngineAmong target devices selector backend s).1
      (t.host.makeEngineAmong target devices selector backend s).2.1
  /-- or with those of the process. -/
  next_engine_under_settings (target : Host.Target) (devices : Devices) (selector : Selector) (backend : β) :
    t.host.MakesEngine (t.host.makeEngineUnderSettings target devices selector backend).1
      (t.host.makeEngineUnderSettings target devices selector backend).2.1
  /-- Blocks are numbered from zero, in the order in which calls on any engine draw their ids. -/
  blocks_drawn : (drawnIn t.trace).reverse = (List.range t.host.commons.blocks).map BlockId.mk
  /-- A call that has ended has drawn the id of the block that it made; or it has drawn one, if it is an import that
  passed its checks and was refused by the ledger for want of room; or else it has drawn none. -/
  ended : ∀ j ∈ t.past, ∃ reply, j.stage = .closing none reply ∧ j.request.Draws reply (drawn j.deeds)
  /-- A call in progress has drawn one id at most. -/
  in_progress : ∀ j ∈ t.running, (drawn j.deeds).length ≤ 1
  /-- So these are all that were drawn. -/
  total : t.host.commons.blocks = (t.past.filterMap Job.made?).card + (t.past.filter fun j => j.isBarred).card +
    (t.running.map fun j => (drawn j.deeds).length).sum
  /-- No two engines have the same id, -/
  engines_nodup : (t.host.engines.map Engine.id).Nodup
  /-- no id is drawn twice, -/
  drawn_nodup : (drawnIn t.trace).Nodup
  /-- and no two blocks that were ever made have the same. -/
  blocks_nodup : ((t.past.filterMap Job.made?).map Block.id).Nodup
  /-- Counters of words of which the last is an error give out the same ids until they are exhausted, to engines -/
  engines_counted (w : Nat) : t.host.engines.length < 2 ^ w →
    (Counted.takes t.host.engines.length (0 : BitVec w)).map (Option.map BitVec.toNat) =
      (enginesIn t.trace).reverse.map fun id => some id.number
  /-- and to blocks. -/
  blocks_counted (w : Nat) : t.host.commons.blocks < 2 ^ w →
    (Counted.takes t.host.commons.blocks (0 : BitVec w)).map (Option.map BitVec.toNat) =
      (drawnIn t.trace).reverse.map fun id => some id.number

/-- **Ids are unique, and drawn just for what is made** and for imports that are refused after their checks, by any
engines and threads that take turns in any order. -/
theorem allots_ids {host : Host β} (hh : host.engines = []) (hb : host.commons.blocks = 0) (ms : List (Move β ρ)) :
    (({ host } : Traffic β ρ).run ms).AllotsIds := by
  have hreach : (({ host } : Traffic β ρ).run ms).Reachable := (Reachable.start host hh).run ms
  have horder : (({ host } : Traffic β ρ).run ms).CountsUp :=
    CountsUp.run ⟨by rw [hh]; rfl, by rw [hb]; rfl⟩ ms
  generalize ({ host } : Traffic β ρ).run ms = t at *
  have hengine : Function.Injective EngineId.mk := fun _ _ => EngineId.mk.inj
  have hblock : Function.Injective BlockId.mk := fun _ _ => BlockId.mk.inj
  have hlength : (drawnIn t.trace).length = t.host.commons.blocks := by
    rw [← List.length_reverse, horder.blocks, List.length_map, List.length_range]
  exact {
    engines_made := horder.engines
    engine_ids := hreach.sound.ids_eq_range
    next_engine := t.host.makes_makeEngineAmong
    next_engine_under_settings := t.host.makes_makeEngineUnderSettings
    blocks_drawn := horder.blocks
    ended := fun j hj => hreach.draws hj
    in_progress := fun j hj => by
      obtain ⟨n, -, hc⟩ := hreach.sound.course_of_mem (Multiset.mem_add.mpr (.inl hj))
      rw [← drawn_effects]
      exact hc.length_drawn_le
    total := hlength ▸ hreach.length_drawnIn
    engines_nodup := by
      rw [hreach.sound.ids_eq_range]
      exact List.nodup_range.map hengine
    drawn_nodup := nodup_of_reverse_eq_range hblock horder.blocks
    blocks_nodup := hreach.nodup_ids
    engines_counted := fun w hw => by
      rw [Counted.map_toNat_takes hw, horder.engines, List.map_map]
      rfl
    blocks_counted := fun w hw => by
      rw [Counted.map_toNat_takes hw, horder.blocks, List.map_map]
      rfl }

/-- Two engines, and between them one that could not be made. Two imports of which only the first has room, a null
pointer, a block that is given to the wrong engine; three blocks in between, the last of them on its way. -/
def crowded : List (Move ScriptedBackend ScriptedResource) :=
  let device : Device := ⟨"0", "device", 1024, .plainBuffer, .ofList [.plainBuffer]⟩
  let layout : Layout := ⟨[2, 3], .f32, false⟩
  let huge : Call ScriptedResource := .share ⟨[0x1000000000000000], .f64, false⟩ (.buffer ⟨12288, by decide⟩)
  let whole (thread engine : Nat) (name : String) (request : Call ScriptedResource) :
      List (Move ScriptedBackend ScriptedResource) :=
    .call (.numbered thread) ⟨engine⟩ name request :: Move.toEnd (.numbered thread)
  List.flatten
    [[.make device {} {}, .makeAmong ⟨"backend", "runtime"⟩ {} .first {} {}, .make device {} {}],
      .call (.numbered 1) ⟨0⟩ "a" (.allocate layout false) :: whole 2 1 "b" huge, Move.toEnd (.numbered 1),
      whole 2 1 "c" huge, whole 2 1 "d" (.attach layout 0),
      .giveBack (.numbered 1) ⟨1⟩ "a" :: Move.toEnd (.numbered 1), whole 2 1 "e" (.allocate layout false),
      [.call (.numbered 1) ⟨0⟩ "f" (.attach layout 8192), .step (.numbered 1), .step (.numbered 1)]]

theorem crowded_allots_ids :
    let t : Traffic ScriptedBackend ScriptedResource := run { host := {} } crowded
    (enginesIn t.trace).reverse = [⟨0⟩, ⟨1⟩] ∧ (drawnIn t.trace).reverse = [⟨0⟩, ⟨1⟩, ⟨2⟩, ⟨3⟩, ⟨4⟩] ∧
      (pastJobs t.trace).reverse.map (fun j => (j.made?.map Block.id, j.isBarred, Deed.drawn j.deeds)) =
        [(some ⟨0⟩, false, [⟨0⟩]), (some ⟨1⟩, false, [⟨1⟩]), (none, true, [⟨2⟩]), (none, false, []), (none, false, []),
          (some ⟨3⟩, false, [⟨3⟩])] ∧
      t.AllotsIds :=
  ⟨by decide +kernel, by decide +kernel, by decide +kernel, allots_ids rfl rfl crowded⟩

end Traffic

end DeviceMemory
