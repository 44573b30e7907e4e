import DeviceMemory.Proofs.Engine.Outcome
import DeviceMemory.Proofs.Traffic.Workers

/-!
# A phase of allocations and a phase of frees

Threads that only allocate fill the process with blocks under new names (`Traffic.Fills`), and threads that
only give back empty it again (`Traffic.Empties`). Both are invariants of a run that is under way: what has
been done and what the rest of the run is about to do add up to the whole of it, so that at the end of the
run the names tell which blocks there are.
-/

namespace DeviceMemory

variable {β ρ : Type}

/-- What a move begins to ask for, and by which thread, with the name for the block. -/
def Move.call? : Move β ρ → Option (String × ThreadId × Call ρ)
  | .call thread _ name request => some (name, thread, request)
  | _ => none

/-- The name of the block that a move gives back. -/
def Move.given? : Move β ρ → Option String
  | .giveBack _ _ name => some name
  | _ => none

attribute [simp] Move.call? Move.given?

namespace Traffic

variable {ι : Type}

/-- What a run begins to ask for, with the names for the blocks. -/
def calls (run : List (ι × Move β ρ)) : Multiset (String × ThreadId × Call ρ) :=
  (↑run : Multiset (ι × Move β ρ)).filterMap fun turn => turn.2.call?

/-- The names of the blocks that a run gives back. -/
def gifts (run : List (ι × Move β ρ)) : Multiset String :=
  (↑run : Multiset (ι × Move β ρ)).filterMap fun turn => turn.2.given?

@[simp] theorem calls_nil : calls ([] : List (ι × Move β ρ)) = 0 := rfl

@[simp] theorem calls_cons (i : ι) (m : Move β ρ) (rest : List (ι × Move β ρ)) :
    calls ((i, m) :: rest) = ↑m.call?.toList + calls rest := by
  rw [calls, ← Multiset.cons_coe, filterMap_cons_toList]
  rfl

@[simp] theorem gifts_nil : gifts ([] : List (ι × Move β ρ)) = 0 := rfl

@[simp] theorem gifts_cons (i : ι) (m : Move β ρ) (rest : List (ι × Move β ρ)) :
    gifts ((i, m) :: rest) = ↑m.given?.toList + gifts rest := by
  rw [gifts, ← Multiset.cons_coe, filterMap_cons_toList]
  rfl

/-! ### Names of blocks that are being made -/

/-- The name for the block of the call of a thread. -/
def pendingOf (t : Traffic β ρ) (thread : ThreadId) : Multiset String :=
  ↑((t.errandOf thread).map Errand.name).toList

theorem pendingOf_eq_zero {t : Traffic β ρ} {thread : ThreadId} (h : t.errandOf thread = none) :
    t.pendingOf thread = 0 := by
  simp [pendingOf, h]

theorem pendingOf_eq_singleton {t : Traffic β ρ} {thread : ThreadId} {x : Errand ρ}
    (h : t.errandOf thread = some x) : t.pendingOf thread = {x.name} := by
  simp [pendingOf, h]

variable {who : ι → ThreadId}

section

variable [Fintype ι]

/-- The names for the blocks of the calls of several threads. -/
def pending (t : Traffic β ρ) (who : ι → ThreadId) : Multiset String := ∑ i, t.pendingOf (who i)

theorem pending_eq_zero {t : Traffic β ρ} (h : ∀ i, t.errandOf (who i) = none) : t.pending who = 0 :=
  Finset.sum_eq_zero fun i _ => pendingOf_eq_zero (h i)

/-- The name of a call in progress is among those of all of them. -/
theorem singleton_le_pending [DecidableEq ι] {t : Traffic β ρ} {i : ι} {x : Errand ρ} (h : t.errandOf (who i) = some x) :
    {x.name} ≤ t.pending who := by
  rw [pending, ← Finset.add_sum_erase _ _ (Finset.mem_univ i), pendingOf_eq_singleton h]
  exact Multiset.le_add_right _ _

/-- The turn of one thread changes only the name of its own call. -/
theorem pending_add [DecidableEq ι] (who : ι → ThreadId) (t t' : Traffic β ρ) (i : ι)
    (h : ∀ j, j ≠ i → t'.errandOf (who j) = t.errandOf (who j)) :
    t'.pending who + t.pendingOf (who i) = t.pending who + t'.pendingOf (who i) := by
  have hothers : ∑ j ∈ Finset.univ.erase i, t'.pendingOf (who j) =
      ∑ j ∈ Finset.univ.erase i, t.pendingOf (who j) := by
    apply Finset.sum_congr rfl
    intro j hj
    rw [pendingOf, h j (Finset.ne_of_mem_erase hj), pendingOf]
  rw [pending, pending, ← Finset.add_sum_erase _ _ (Finset.mem_univ i),
    ← Finset.add_sum_erase _ _ (Finset.mem_univ i), hothers]
  ac_rfl

/-! ### A phase of allocations -/

/-- Threads have come some way with a run that begins all of some calls; what is left of it is `rest`. -/
structure Fills (t₀ t : Traffic β ρ) (id : EngineId) (who : ι → ThreadId)
    (all : Multiset (String × ThreadId × Call ρ)) (rest : List (ι × Move β ρ)) (own past : Multiset (Job ρ))
    (demands : Multiset (ThreadId × Call ρ)) (pairs : Multiset (String × Block ρ)) (lost : Multiset String) : Prop where
  /-- They have worked on nothing else. -/
  shift : t₀.Shift t id who own past demands
  /-- What they have asked for, and what the rest of the run will ask for, is all. -/
  demands_eq : demands + (calls rest).map Prod.snd = all.map Prod.snd
  /-- Blocks were added to those that are held, -/
  held_eq : (↑t.held : Multiset (String × Block ρ)) = pairs + ↑t₀.held
  /-- and these are the blocks that calls made. -/
  made_eq : pairs.map Prod.snd = past.filterMap Job.made?
  /-- Every name is that of a block, or of one still to be made, or of a call that made none. -/
  names_eq : pairs.map Prod.fst + (t.pending who + (calls rest).map Prod.fst) + lost = all.map Prod.fst
  /-- There is a name of the last kind for every such call. -/
  lost_eq : lost.card = (past.filter fun j => j.made?.isNone).card

theorem not_mem_names {held : List (String × Block ρ)} {name : String} :
    name ∉ (↑(held.map Prod.fst) : Multiset String) ↔ held.lookup name = none := by
  rw [List.lookup_eq_none_iff, Multiset.mem_coe, List.mem_map]
  constructor
  · intro h x hx
    rw [bne_iff_ne]
    rintro rfl
    exact h ⟨x, hx, rfl⟩
  · rintro h ⟨x, hx, rfl⟩
    simpa using h x hx

variable [DecidableEq ι] [Backend β ρ] {t₀ t : Traffic β ρ} {id : EngineId} {i : ι}
  {all : Multiset (String × ThreadId × Call ρ)} {rest : List (ι × Move β ρ)} {own past : Multiset (Job ρ)}
  {demands : Multiset (ThreadId × Call ρ)}
  {pairs : Multiset (String × Block ρ)} {lost : Multiset String}

omit [Backend β ρ] in
/-- A call begins, and its name is one more of a block to be made. -/
theorem Fills.called {name : String} {request : Call ρ}
    (h : t₀.Fills t id who all ((i, .call (who i) id name request) :: rest) own past demands pairs lost)
    (hinj : Function.Injective who) (hw : t.errandOf (who i) = none) :
    t₀.Fills (t.begin (who i) id name request) id who all rest
      (⟨who i, id, request, .opening request, []⟩ ::ₘ own) past ((who i, request) ::ₘ demands) pairs lost := by
  have hbegin (thread : ThreadId) := errandOf_begin t (who i) thread id name request
  have hpending := pending_add who t (t.begin (who i) id name request) i
    fun j hj => (hbegin (who j)).trans (if_neg fun hji => hj (hinj hji))
  rw [pendingOf_eq_zero hw, add_zero,
    pendingOf_eq_singleton ((hbegin (who i)).trans (if_pos rfl))] at hpending
  exact {
    shift := h.shift.began hw rfl name request t.held
    demands_eq := by
      rw [← h.demands_eq]
      simp
    held_eq := h.held_eq
    made_eq := h.made_eq
    names_eq := by
      rw [← h.names_eq, hpending]
      simp [add_assoc]
    lost_eq := h.lost_eq }

/-- A call goes on, and its name stays. -/
theorem Fills.wentOn {x : Errand ρ} (h : t₀.Fills t id who all ((i, .step (who i)) :: rest) own past demands pairs lost)
    (hs : t.Sound) (hinj : Function.Injective who) (hidle : ∀ i, t₀.errandOf (who i) = none)
    (hx : t.errandOf (who i) = some x) :
    ∃ own', t₀.Fills (t.goOn x) id who all rest own' past demands pairs lost := by
  obtain ⟨own', hshift⟩ := h.shift.wentOn hs hidle hx
  obtain ⟨hmem, ht⟩ := mem_of_errandOf hx
  obtain ⟨e, he, -⟩ := hs.course_of_errand hmem
  have hgo (thread : ThreadId) := errandOf_goOn (ht ▸ hx) he thread
  have hpending := pending_add who t (t.goOn x) i
    fun j hj => (hgo (who j)).trans (if_neg fun hji => hj (hinj (hji.trans ht)))
  rw [pendingOf_eq_singleton hx, pendingOf_eq_singleton ((hgo (who i)).trans (if_pos ht.symm))] at hpending
  have hdemands := h.demands_eq
  have hnames := h.names_eq
  rw [← add_right_cancel hpending] at hnames
  exact ⟨own', hshift, by simpa using hdemands, h.held_eq, h.made_eq, by simpa using hnames, h.lost_eq⟩

omit [Backend β ρ] in
/-- No block has the name of a call in progress yet, as no name comes up twice. -/
theorem Fills.lookup_name {run : List (ι × Move β ρ)} (h : t₀.Fills t id who all run own past demands pairs lost)
    (hnew : (all.map Prod.fst + ↑(t₀.held.map Prod.fst)).Nodup) {x : Errand ρ}
    (hx : t.errandOf (who i) = some x) : t.held.lookup x.name = none := by
  obtain ⟨others, hothers⟩ := Multiset.le_iff_exists_add.mp (singleton_le_pending hx)
  have hheld := congrArg (Multiset.map Prod.fst) h.held_eq
  rw [Multiset.map_add, Multiset.map_coe, Multiset.map_coe] at hheld
  have hone : (x.name ::ₘ ↑(t.held.map Prod.fst) : Multiset String).Nodup := by
    refine Multiset.nodup_of_le ?_ hnew
    rw [← h.names_eq, hheld, hothers, ← Multiset.singleton_add]
    calc ({x.name} + (pairs.map Prod.fst + ↑(t₀.held.map Prod.fst)) : Multiset String)
        ≤ {x.name} + (pairs.map Prod.fst + ↑(t₀.held.map Prod.fst)) +
            (others + (calls run).map Prod.fst + lost) := Multiset.le_add_right _ _
      _ = _ := by ac_rfl
  exact not_mem_names.mp (Multiset.nodup_cons.mp hone).1

/-- A call ends, with a block under its name or with none. -/
theorem Fills.ended {x : Errand ρ} {reply : Reply ρ}
    (h : t₀.Fills t id who all ((i, .step (who i)) :: rest) own past demands pairs lost)
    (hs : t.Sound) (hinj : Function.Injective who) (hidle : ∀ i, t₀.errandOf (who i) = none)
    (hnew : (all.map Prod.fst + ↑(t₀.held.map Prod.fst)).Nodup)
    (hx : t.errandOf (who i) = some x) (hr : x.stage = .closing none reply) :
    ∃ own' pairs' lost',
      t₀.Fills (t.finish x reply) id who all rest own' (x.job t.trace ::ₘ past) demands pairs' lost' := by
  obtain ⟨own', hshift⟩ := h.shift.ended hs hidle hx hr
  have ht := (mem_of_errandOf hx).2
  have hmade : (x.job t.trace).made? = reply.block? := Job.made?_of_stage hr
  have hfinish (thread : ThreadId) := errandOf_finish t x reply thread
  have hpending := pending_add who t (t.finish x reply) i
    fun j hj => (hfinish (who j)).trans (if_neg fun hji => hj (hinj (hji.trans ht)))
  rw [pendingOf_eq_singleton hx, pendingOf_eq_zero ((hfinish (who i)).trans (if_pos ht.symm)), add_zero] at hpending
  have hdemands : demands + (calls rest).map Prod.snd = all.map Prod.snd := by simpa using h.demands_eq
  have hnames : {x.name} + (pairs.map Prod.fst + ((t.finish x reply).pending who + (calls rest).map Prod.fst) +
      lost) = all.map Prod.fst := by
    rw [← h.names_eq, ← hpending]
    simp [add_assoc, add_left_comm]
  cases hb : reply.block? with
  | some b =>
    have hreply := Reply.eq_made_of_block? hb
    have hfree := h.lookup_name hnew hx
    refine ⟨own', (x.name, b) ::ₘ pairs, lost, ?_⟩
    exact {
      shift := hshift
      demands_eq := hdemands
      held_eq := by rw [finish, hreply, coe_keep_made hfree b, h.held_eq, Multiset.cons_add]
      made_eq := by rw [Multiset.map_cons, h.made_eq, Multiset.filterMap_cons_some _ _ _ (hmade.trans hb)]
      names_eq := by
        rw [← hnames, Multiset.map_cons, ← Multiset.singleton_add]
        ac_rfl
      lost_eq := by
        rw [Multiset.filter_cons_of_neg _ (by simp [hmade, hb])]
        exact h.lost_eq }
  | none =>
    have hkeep : keep x.name t.held reply = t.held := by
      cases reply with
      | made b => cases hb
      | freed => rfl
      | failed f => rfl
    refine ⟨own', pairs, x.name ::ₘ lost, ?_⟩
    exact {
      shift := hshift
      demands_eq := hdemands
      held_eq := by
        rw [finish, hkeep]
        exact h.held_eq
      made_eq := by
        rw [Multiset.filterMap_cons_none _ _ (hmade.trans hb)]
        exact h.made_eq
      names_eq := by
        rw [← hnames, ← Multiset.singleton_add]
        ac_rfl
      lost_eq := by
        rw [Multiset.filter_cons_of_pos _ (by simp [hmade, hb]), Multiset.card_cons, Multiset.card_cons,
          h.lost_eq] }

/-- The turn of a thread takes all of them one step further. -/
theorem Fills.turn {t' : Traffic β ρ} {m : Move β ρ}
    (h : t₀.Fills t id who all ((i, m) :: rest) own past demands pairs lost) (hs : t.Sound)
    (hinj : Function.Injective who) (hidle : ∀ i, t₀.errandOf (who i) = none)
    (hnew : (all.map Prod.fst + ↑(t₀.held.map Prod.fst)).Nodup) (hm : m.given? = none)
    (hturn : t.Turn (who i) id m t') :
    ∃ own' past' demands' pairs' lost',
      t₀.Fills t' id who all rest own' past' demands' pairs' lost' := by
  cases hturn with
  | waited hw =>
    have hdemands := h.demands_eq
    have hnames := h.names_eq
    exact ⟨own, past, demands, pairs, lost, h.shift, by simpa using hdemands, h.held_eq, h.made_eq,
      by simpa using hnames, h.lost_eq⟩
  | missed hl => cases hm
  | gave hw hb => cases hm
  | called hw => exact ⟨_, _, _, _, _, h.called hinj hw⟩
  | wentOn hx =>
    obtain ⟨own', hfills⟩ := h.wentOn hs hinj hidle hx
    exact ⟨own', past, demands, pairs, lost, hfills⟩
  | ended hx hr =>
    obtain ⟨own', pairs', lost', hfills⟩ := h.ended hs hinj hidle hnew hx hr
    exact ⟨own', _, demands, pairs', lost', hfills⟩

/-- **At the end of a run of allocations** every call has ended, and every name is that of a block or of a
call that made none. -/
theorem Pace.fills {run : List (ι × Move β ρ)} (hp : t.Pace id who run) (hinj : Function.Injective who)
    (hidle : ∀ i, t.errandOf (who i) = none)
    (hnew : ((calls run).map Prod.fst + ↑(t.held.map Prod.fst)).Nodup)
    (hm : ∀ turn ∈ run, turn.2.given? = none) :
    ∃ past pairs lost, t.Fills (t.run (run.map Prod.snd)) id who (calls run) [] 0 past
      ((calls run).map Prod.snd) pairs lost := by
  have hstart : t.Fills t id who (calls run) run 0 0 0 0 0 :=
    ⟨.start t, by simp, by simp, by simp, by simp [pending_eq_zero hidle], by simp⟩
  suffices hall : ∀ rest (t' : Traffic β ρ) own past demands pairs lost, t'.Pace id who rest →
      (∀ turn ∈ rest, turn.2.given? = none) →
      t.Fills t' id who (calls run) rest own past demands pairs lost →
      ∃ past pairs lost, t.Fills (t'.run (rest.map Prod.snd)) id who (calls run) [] 0 past
        ((calls run).map Prod.snd) pairs lost from
    hall run t 0 0 0 0 0 hp hm hstart
  intro rest
  induction rest with
  | nil =>
    intro t' own past demands pairs lost hp _ h
    have hzero := h.shift.own_eq_zero hp.idle
    have hdemands : demands = (calls run).map Prod.snd := by simpa using h.demands_eq
    subst hzero hdemands
    exact ⟨past, pairs, lost, h⟩
  | cons turn rest ih =>
    obtain ⟨i, m⟩ := turn
    intro t' own past demands pairs lost hp hm h
    obtain ⟨hturn, hp'⟩ := hp.turn hinj
    obtain ⟨own', past', demands', pairs', lost', h'⟩ :=
      h.turn hp.reachable.sound hinj hidle hnew (hm _ List.mem_cons_self) hturn
    exact ih _ own' past' demands' pairs' lost' hp' (fun turn ht => hm turn (List.mem_cons_of_mem _ ht)) h'

end

/-! ### A phase of frees -/

/-- Threads have come some way with a run that gives back the blocks of some names; what is left of it is
`rest`. -/
structure Empties (t₀ t : Traffic β ρ) (id : EngineId) (who : ι → ThreadId) (names : Multiset String)
    (rest : List (ι × Move β ρ)) (own past : Multiset (Job ρ)) (demands : Multiset (ThreadId × Call ρ))
    (given : Multiset (String × Block ρ)) : Prop where
  /-- They have worked on nothing else, -/
  shift : t₀.Shift t id who own past demands
  /-- and have asked for nothing but that blocks be taken back. -/
  demands_eq : demands.map Prod.snd = given.map fun g => .free g.2
  /-- These blocks are held no longer. -/
  held_eq : (↑t₀.held : Multiset (String × Block ρ)) = given + ↑t.held
  /-- Their names, and those that the rest of the run will give back, are all. -/
  names_eq : given.map Prod.fst + gifts rest = names

section

variable [Backend β ρ] {t₀ t : Traffic β ρ} {id : EngineId} {names : Multiset String} {i : ι}
  {rest : List (ι × Move β ρ)} {own past : Multiset (Job ρ)} {demands : Multiset (ThreadId × Call ρ)}
  {given : Multiset (String × Block ρ)}

omit [Backend β ρ] in
/-- A block that is still to be given back is held. -/
theorem Empties.exists_held {name : String}
    (h : t₀.Empties t id who names ((i, .giveBack (who i) id name) :: rest) own past demands given)
    (hheld : names ≤ ↑(t₀.held.map Prod.fst)) : t.held.lookup name ≠ none := by
  intro hl
  have hkeys := congrArg (Multiset.map Prod.fst) h.held_eq
  rw [Multiset.map_add, Multiset.map_coe, Multiset.map_coe] at hkeys
  rw [← h.names_eq, hkeys, Multiset.add_le_add_iff_left, gifts_cons] at hheld
  exact not_mem_names.mpr hl (Multiset.mem_of_le hheld (by simp))

/-- The turn of a thread takes all of them one step further. -/
theorem Empties.turn {t' : Traffic β ρ} {m : Move β ρ}
    (h : t₀.Empties t id who names ((i, m) :: rest) own past demands given) (hr : t.Reachable)
    (hidle : ∀ i, t₀.errandOf (who i) = none) (hheld : names ≤ ↑(t₀.held.map Prod.fst)) (hm : m.call? = none)
    (hturn : t.Turn (who i) id m t') :
    ∃ own' past' demands' given', t₀.Empties t' id who names rest own' past' demands' given' := by
  cases hturn with
  | waited hw => exact ⟨own, past, demands, given, h.shift, h.demands_eq, h.held_eq, by simpa using h.names_eq⟩
  | missed hl => exact absurd hl (h.exists_held hheld)
  | called hw => cases hm
  | @gave name b hw hb =>
    have hshift := h.shift.began hw rfl name (.free b) (without name t.held)
    have hnames := h.names_eq
    refine ⟨_, past, _, (name, b) ::ₘ given, hshift, by simp [h.demands_eq], ?_, ?_⟩
    · rw [h.held_eq, coe_without hr.nodup_names hb, Multiset.add_cons, Multiset.cons_add]
    · rw [← hnames, Multiset.map_cons, ← Multiset.singleton_add]
      simp
  | wentOn hx =>
    obtain ⟨own', hshift⟩ := h.shift.wentOn hr.sound hidle hx
    exact ⟨own', past, demands, given, hshift, h.demands_eq, h.held_eq, by simpa using h.names_eq⟩
  | @ended x reply hx hs =>
    obtain ⟨own', hshift⟩ := h.shift.ended hr.sound hidle hx hs
    have hkeep : keep x.name t.held reply = t.held := by
      cases reply with
      | freed => rfl
      | failed f => rfl
      | made b =>
        -- the call gives a block back, so it makes none
        obtain ⟨others, hown⟩ := h.shift.exists_own hidle hx
        have hmem : x.request ∈ given.map fun g => Call.free g.2 := by
          rw [← h.demands_eq, ← h.shift.demands_eq, hown]
          simp [Job.demand, Errand.job]
        obtain ⟨g, -, hg⟩ := Multiset.mem_map.mp hmem
        obtain ⟨e, -, hc⟩ := hr.sound.course_of_errand (mem_of_errandOf hx).1
        rw [hs, ← hg] at hc
        exact hc.not_made_of_free.elim
    refine ⟨own', _, demands, given, hshift, h.demands_eq, ?_, by simpa using h.names_eq⟩
    rw [finish, hkeep]
    exact h.held_eq

/-- **At the end of a run of frees** every call has ended, and the blocks of all names are gone. -/
theorem Pace.empties [DecidableEq ι] {run : List (ι × Move β ρ)} (hp : t.Pace id who run)
    (hinj : Function.Injective who)
    (hidle : ∀ i, t.errandOf (who i) = none) (hheld : gifts run ≤ ↑(t.held.map Prod.fst))
    (hm : ∀ turn ∈ run, turn.2.call? = none) :
    ∃ past demands given, t.Empties (t.run (run.map Prod.snd)) id who (gifts run) [] 0 past demands given := by
  have hstart : t.Empties t id who (gifts run) run 0 0 0 0 := ⟨.start t, by simp, by simp, by simp⟩
  suffices hall : ∀ rest (t' : Traffic β ρ) own past demands given, t'.Pace id who rest →
      (∀ turn ∈ rest, turn.2.call? = none) → t.Empties t' id who (gifts run) rest own past demands given →
      ∃ past demands given,
        t.Empties (t'.run (rest.map Prod.snd)) id who (gifts run) [] 0 past demands given from
    hall run t 0 0 0 0 hp hm hstart
  intro rest
  induction rest with
  | nil =>
    intro t' own past demands given hp _ h
    have hzero := h.shift.own_eq_zero hp.idle
    subst hzero
    exact ⟨past, demands, given, h⟩
  | cons turn rest ih =>
    obtain ⟨i, m⟩ := turn
    intro t' own past demands given hp hm h
    obtain ⟨hturn, hp'⟩ := hp.turn hinj
    obtain ⟨own', past', demands', given', h'⟩ := h.turn hp.reachable hidle hheld (hm _ List.mem_cons_self) hturn
    exact ih _ own' past' demands' given' hp' (fun turn ht => hm turn (List.mem_cons_of_mem _ ht)) h'

end

/-! ### The deeds of a phase -/

section

variable [Backend β ρ] {t₀ t : Traffic β ρ} {id : EngineId} {past : Multiset (Job ρ)}
  {demands : Multiset (ThreadId × Call ρ)} {ds : List (Deed ρ)}

/-- When all calls of a shift have ended, the deeds on the engine are theirs. -/
theorem Shift.deeds_eq (h : t₀.Shift t id who 0 past demands) (hs₀ : t₀.Sound) (hs : t.Sound)
    (hd : t.deeds id = t₀.deeds id ++ ds) : (↑ds : Multiset (Deed ρ)) = past.bind fun j => ↑j.deeds := by
  have hall := hs.deeds id
  have hpast : past.filter (fun j => j.engine = id) = past :=
    Multiset.filter_eq_self.mpr fun j hj => (h.mem j (by simpa using hj)).1
  rw [jobs, h.running_eq, zero_add, h.past_eq, hd, ← Multiset.coe_add, hs₀.deeds id, jobs] at hall
  simp only [Multiset.filter_add, Multiset.add_bind, hpast] at hall
  apply add_left_cancel (a :=
    ((t₀.running.filter fun j => j.engine = id).bind fun j => (↑j.deeds : Multiset (Deed ρ))) +
    (t₀.past.filter fun j => j.engine = id).bind fun j => (↑j.deeds : Multiset (Deed ρ)))
  rw [hall]
  ac_rfl

end

end Traffic

end DeviceMemory
