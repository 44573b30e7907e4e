import DeviceMemory.Proofs.Traffic.Sound

/-!
# The call of a thread and the block of a name

Threads are told apart by the call that they are in the middle of (`Traffic.errandOf`), and blocks by
their names. Here stands what a move makes of both: it touches the call of one thread and the block
of one name, and leaves all others alone.

Names are told apart too: no two blocks are held under one (`Traffic.Reachable.nodup_names`), so a block
that is taken out of those that are held leaves exactly the others (`Traffic.coe_without`).
-/

namespace DeviceMemory

variable {β ρ : Type}

namespace Traffic

/-! ### Calls -/

theorem mem_of_errandOf {t : Traffic β ρ} {thread : ThreadId} {x : Errand ρ} (h : t.errandOf thread = some x) :
    x ∈ t.errands ∧ x.thread = thread :=
  ⟨List.mem_of_find?_eq_some h, by simpa using List.find?_some h⟩

@[simp] theorem errandOf_begin (t : Traffic β ρ) (thread other : ThreadId) (engine : EngineId) (name : String)
    (request : Call ρ) : (t.begin thread engine name request).errandOf other =
      if other = thread then some ⟨thread, engine, name, request, .opening request⟩ else t.errandOf other := by
  by_cases h : other = thread
  · simp [errandOf, begin, h]
  · simp [errandOf, begin, h, Ne.symm h]

/-- It does not matter what is held. -/
theorem errandOf_begin_with (t : Traffic β ρ) (thread other : ThreadId) (engine : EngineId) (name : String)
    (request : Call ρ) (held : List (String × Block ρ)) :
    ({ t.begin thread engine name request with held } : Traffic β ρ).errandOf other =
      if other = thread then some ⟨thread, engine, name, request, .opening request⟩ else t.errandOf other :=
  errandOf_begin t thread other engine name request

@[simp] theorem errandOf_finish (t : Traffic β ρ) (x : Errand ρ) (reply : Reply ρ) (thread : ThreadId) :
    (t.finish x reply).errandOf thread = if thread = x.thread then none else t.errandOf thread := by
  rw [errandOf, finish, List.find?_filter]
  by_cases h : thread = x.thread
  · simp [h]
  · rw [if_neg h, errandOf]
    congr
    funext y
    by_cases hy : y.thread = thread <;> simp [hy, h]

/-- A step of a call leaves the calls of other threads as they are. -/
theorem errandOf_goOn [Backend β ρ] {t : Traffic β ρ} {x : Errand ρ} (hx : t.errandOf x.thread = some x)
    {e : Engine β} (he : t.host.engine? x.engine = some e) (thread : ThreadId) :
    (t.goOn x).errandOf thread =
      if thread = x.thread then some { x with stage := (e.advance x.thread t.host.commons x.stage).stage }
      else t.errandOf thread := by
  rw [goOn_eq he]
  generalize e.advance x.thread t.host.commons x.stage = p
  have hsame (y : Errand ρ) :
      (if y.thread = x.thread then { y with stage := p.stage } else y).thread = y.thread := by
    split <;> rfl
  simp only [errandOf, List.find?_map, Function.comp_def, hsame]
  by_cases h : thread = x.thread
  · rw [errandOf] at hx
    rw [if_pos h, h, hx]
    simp
  · rw [if_neg h]
    cases hy : t.errands.find? fun y => decide (y.thread = thread) with
    | none => rfl
    | some y =>
      have hyt : y.thread = thread := by simpa using List.find?_some hy
      simp [hyt, h]

/-! ### Moves that change something -/

section

variable {t : Traffic β ρ} {thread : ThreadId} {engine : EngineId}

theorem canBegin_iff :
    t.canBegin thread engine = true ↔ t.errandOf thread = none ∧ (t.host.engine? engine).isSome := by
  simp [canBegin]

variable [Backend β ρ]

theorem move_call (hc : t.canBegin thread engine = true) {request : Call ρ} (hf : request.isFree = false)
    (name : String) : t.move (.call thread engine name request) = t.begin thread engine name request := by
  simp [move, hc, hf]

theorem move_giveBack (hc : t.canBegin thread engine = true) {name : String} {b : Block ρ}
    (hl : t.held.lookup name = some b) : t.move (.giveBack thread engine name) =
      { t.begin thread engine name (.free b) with held := without name t.held } := by
  simp [move, hl, hc]

theorem move_step_idle (hx : t.errandOf thread = none) : t.move (.step thread) = t := by
  simp [move, hx]

theorem move_step_goOn {x : Errand ρ} (hx : t.errandOf thread = some x) (hr : x.stage.reply? = none) :
    t.move (.step thread) = t.goOn x := by
  simp [move, hx, hr]

theorem move_step_finish {x : Errand ρ} (hx : t.errandOf thread = some x) {reply : Reply ρ}
    (hr : x.stage.reply? = some reply) : t.move (.step thread) = t.finish x reply := by
  simp [move, hx, hr]

end

/-! ### Blocks that are held -/

theorem lookup_without (name other : String) (held : List (String × Block ρ)) :
    (without name held).lookup other = if other = name then none else held.lookup other :=
  Association.lookup_erase name other held

theorem lookup_keep (name other : String) (held : List (String × Block ρ)) (reply : Reply ρ) :
    (keep name held reply).lookup other =
      if other = name then reply.block?.or (held.lookup other) else held.lookup other := by
  cases reply with
  | made b =>
    exact (Association.lookup_insert name other b held).trans (by simp [Reply.block?])
  | freed => simp [keep, Reply.block?]
  | failed f => simp [keep, Reply.block?]

/-- A name that no block has changes nothing when it is taken out. -/
theorem without_of_lookup {name : String} {held : List (String × Block ρ)} (h : held.lookup name = none) :
    without name held = held := by
  apply List.filter_eq_self.mpr
  intro x hx
  have hne := List.lookup_eq_none_iff.mp h x hx
  rw [bne_iff_ne] at hne
  exact decide_eq_true (Ne.symm hne)

/-- A block under a new name is held beside all others. -/
theorem coe_keep_made {name : String} {held : List (String × Block ρ)} (h : held.lookup name = none)
    (b : Block ρ) : (↑(keep name held (.made b)) : Multiset (String × Block ρ)) = (name, b) ::ₘ ↑held := by
  rw [keep, without_of_lookup h]
  rfl

/-- A block that is taken out leaves exactly the others. -/
theorem coe_without {name : String} {held : List (String × Block ρ)} {b : Block ρ}
    (hn : (held.map Prod.fst).Nodup) (h : held.lookup name = some b) :
    (↑held : Multiset (String × Block ρ)) = (name, b) ::ₘ ↑(without name held) := by
  induction held with
  | nil => cases h
  | cons x held ih =>
    obtain ⟨n, c⟩ := x
    rw [List.map_cons, List.nodup_cons] at hn
    by_cases hx : n = name
    · rw [hx, Association.lookup_cons, if_pos rfl] at h
      cases h
      have hrest : held.lookup name = none := by
        rw [List.lookup_eq_none_iff]
        intro y hy
        rw [bne_iff_ne]
        rintro rfl
        exact hn.1 (List.mem_map.mpr ⟨y, hy, hx.symm⟩)
      have hw : without name ((n, b) :: held) = without name held := by simp [without, hx]
      rw [hw, without_of_lookup hrest, hx]
      rfl
    · rw [Association.lookup_cons, if_neg (Ne.symm hx)] at h
      have hw : without name ((n, c) :: held) = (n, c) :: without name held := by simp [without, hx]
      rw [hw, ← Multiset.cons_coe, ← Multiset.cons_coe, ih hn.2 h, Multiset.cons_swap]

theorem nodup_without {held : List (String × Block ρ)} (hn : (held.map Prod.fst).Nodup) (name : String) :
    ((without name held).map Prod.fst).Nodup :=
  hn.sublist (List.filter_sublist.map _)

theorem nodup_keep {held : List (String × Block ρ)} (hn : (held.map Prod.fst).Nodup) (name : String)
    (reply : Reply ρ) : ((keep name held reply).map Prod.fst).Nodup := by
  cases reply with
  | made b =>
    rw [keep, List.map_cons, List.nodup_cons]
    refine ⟨?_, nodup_without hn name⟩
    simp [without]
  | freed => exact hn
  | failed f => exact hn

/-- No move holds two blocks under one name. -/
theorem nodup_names_move [Backend β ρ] {t : Traffic β ρ} (hn : (t.held.map Prod.fst).Nodup) (m : Move β ρ) :
    ((t.move m).held.map Prod.fst).Nodup := by
  cases m with
  | make device backend settings => exact hn
  | makeAmong target devices selector backend settings => exact hn
  | stream thread => exact hn
  | call thread engine name request =>
    rw [move]
    split <;> exact hn
  | giveBack thread engine name =>
    rw [move]
    split
    · exact hn
    · split
      · exact nodup_without hn name
      · exact hn
  | step thread =>
    rw [move]
    split
    · exact hn
    · split
      · exact nodup_keep hn _ _
      · exact hn
  | drop name => exact nodup_without hn name

/-- **No two blocks are held under one name.** -/
theorem Reachable.nodup_names [Backend β ρ] {t : Traffic β ρ} (h : t.Reachable) :
    (t.held.map Prod.fst).Nodup := by
  induction h with
  | start host hh => exact List.nodup_nil
  | move m _ ih => exact nodup_names_move ih m

end Traffic

end DeviceMemory
