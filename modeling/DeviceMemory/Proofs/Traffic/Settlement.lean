import DeviceMemory.Proofs.Traffic.Workload

/-!
# What is left of a workload

Whether all calls of a workload succeed is a matter of room, and the room that is needed does not depend on
the order in which threads take their turns (`Traffic.Done.hasRoom_of_made`, `Traffic.Done.made_of_hasRoom`). If
they succeed, the second phase gives back exactly the blocks that the first has made, because names tell
blocks apart; so what is left is the same in all orders too (`Traffic.Reachable.settles`).
-/

namespace DeviceMemory

variable {β ρ ι : Type}

namespace Traffic

/-- Why calls failed. -/
def failures (t : Traffic β ρ) : Multiset Failure := t.past.filterMap Job.failure?

end Traffic

namespace Workload

variable [Fintype ι] [DecidableEq ι] [Backend β ρ] {w : Workload ι}

/-- The state between the phases. -/
def Schedule.middle (s : w.Schedule β ρ) (t : Traffic β ρ) : Traffic β ρ := t.run (s.first.map Prod.snd)

/-- The state in the end. -/
def Schedule.after (s : w.Schedule β ρ) (t : Traffic β ρ) : Traffic β ρ :=
  (s.middle t).run (s.second.map Prod.snd)

/-- All calls succeed. -/
def Schedule.Succeeds (s : w.Schedule β ρ) (t : Traffic β ρ) : Prop := (s.after t).failures = t.failures

/-- **What is left of a workload** on an engine, if all its calls succeed. -/
structure Settles (w : Workload ι) (held : β → Nat) (t t' : Traffic β ρ) (e e' : Engine β) : Prop where
  /-- This is the engine now. -/
  engine?_eq : t'.host.engine? w.engine = some e'
  /-- The bytes in use are what they were, and the peak of an account that was used is what it was before
  or what was in use between the phases, whatever the policies that used it. An account that was not used
  is as it was. -/
  ledger (a : Account) : e'.ledger.get? a =
    if a ∈ (w.orders e.nature).map fun r => .allocated r.placement then
      some ⟨e.ledger.current a,
        max (e.ledger.peak a) (e.ledger.current a + Request.bytesIn a (w.orders e.nature))⟩
    else e.ledger.get? a
  /-- The backend was asked for memory twice in every round of every thread, -/
  requests_eq : (Deed.requests (t'.deeds w.engine)).length =
    (Deed.requests (t.deeds w.engine)).length + 2 * (Fintype.card ι * w.rounds)
  /-- gave it every time, -/
  obtained_eq : (t'.obtained w.engine).card = (t.obtained w.engine).card + 2 * (Fintype.card ι * w.rounds)
  /-- and got it back every time. -/
  released_eq : (t'.released w.engine).card = (t.released w.engine).card + 2 * (Fintype.card ι * w.rounds)
  /-- It holds the bytes that it held. -/
  held_eq : held e'.backend = held e.backend
  /-- An id was drawn for every block. -/
  blocks_eq : t'.host.commons.blocks = t.host.commons.blocks + 2 * (Fintype.card ι * w.rounds)
  /-- Every thread has got a stream number, unless it did nothing. -/
  streams_eq : t'.host.commons.streams.length =
    t.host.commons.streams.length + if w.rounds = 0 then 0 else Fintype.card ι
  /-- All calls have ended, -/
  past_eq : t'.past.card = t.past.card + 4 * (Fintype.card ι * w.rounds)
  /-- those of others went no further, -/
  running_eq : t'.running = t.running
  /-- and the blocks that were held are held. -/
  kept_eq : (↑t'.held : Multiset (String × Block ρ)) = ↑t.held

/-! ### The first phase -/

open Traffic

variable {t : Traffic β ρ} {e e₁ : Engine β} {past : Multiset (Job ρ)} {pairs : Multiset (String × Block ρ)}
  {lost : Multiset String} {ds : List (Deed ρ)} (s : w.Schedule β ρ)

/-- What the first phase has done by its end. -/
structure Schedule.Filled (s : w.Schedule β ρ) (t : Traffic β ρ) (e e₁ : Engine β) (past : Multiset (Job ρ))
    (pairs : Multiset (String × Block ρ)) (lost : Multiset String) (ds : List (Deed ρ)) : Prop where
  /-- Blocks were made under new names. -/
  fills : t.Fills (s.middle t) w.engine w.thread (Traffic.calls s.first) [] 0 past
    ((Traffic.calls s.first).map Prod.snd) pairs lost
  /-- These are the deeds on the engine, -/
  since : t.Since (s.middle t) w.engine e e₁ ds
  /-- and those of the calls. -/
  done : Done e.nature w.calls past ds

namespace Schedule

theorem exists_filled (hr : t.Reachable) (hw : w.Fresh t) (he : t.host.engine? w.engine = some e) :
    ∃ e₁ past pairs lost ds, s.Filled t e e₁ past pairs lost ds := by
  have hpace : t.Pace w.engine w.thread s.first :=
    { reachable := hr
      engine := by simp [he]
      paced := fun i => by
        rw [busy_eq_zero.mpr (hw.idle i), s.allocates i]
        exact w.paced_allocations i }
  have hnames := hw.nodup_names hr.nodup_names
  rw [← s.map_fst_calls] at hnames
  obtain ⟨past, pairs, lost, hfills⟩ := hpace.fills hw.injective hw.idle hnames s.given?_first
  obtain ⟨e₁, ds, hsince⟩ := hr.since_run he (s.first.map Prod.snd)
  have hdone := hfills.shift.done hr.sound (hr.run _).sound hsince
  rw [s.map_snd_calls] at hdone
  exact ⟨e₁, past, pairs, lost, ds, hfills, hsince, hdone⟩

namespace Filled

variable {s} (h : s.Filled t e e₁ past pairs lost ds)
include h

/-- If all calls succeed in the end, they have all made blocks by now. -/
theorem made_of_succeeds (hgood : s.Succeeds t) {j : Job ρ} (hj : j ∈ past) : j.made?.isSome := by
  have hle := Multiset.filterMap_le_filterMap Job.failure? (past_le_run (s.middle t) (s.second.map Prod.snd))
  rw [h.fills.shift.past_eq, Multiset.filterMap_add] at hle
  have hfailures : past.filterMap Job.failure? = 0 := by
    have hcard := Multiset.card_le_card hle
    rw [Multiset.card_add] at hcard
    have hsame := congrArg Multiset.card hgood
    rw [failures, failures] at hsame
    rw [← Multiset.card_eq_zero]
    unfold Schedule.after at hsame
    omega
  rw [h.done.made_iff (fun _ => isAllocation_of_mem_calls) hj]
  cases hf : j.failure? with
  | none => rfl
  | some f =>
    have hm : f ∈ past.filterMap Job.failure? := (Multiset.mem_filterMap _ _).mpr ⟨j, hj, hf⟩
    simp [hfailures] at hm

theorem idle (hw : w.Fresh t) (i : ι) : (s.middle t).errandOf (w.thread i) = none :=
  h.fills.shift.idle hw.idle i

section

variable (hm : ∀ j ∈ past, j.made?.isSome)
include hm

/-- If all calls have made blocks, there is one under every name. -/
theorem names_eq (hw : w.Fresh t) : pairs.map Prod.fst = w.allNames := by
  have hlost : lost = 0 := by
    rw [← Multiset.card_eq_zero, h.fills.lost_eq, Multiset.card_eq_zero, Multiset.filter_eq_nil]
    intro j hj hn
    have hs := hm j hj
    rw [Option.isNone_iff_eq_none.mp hn] at hs
    cases hs
  have hnames := h.fills.names_eq
  rw [pending_eq_zero (h.idle hw), hlost, s.map_fst_calls] at hnames
  simpa using hnames

theorem card_pairs (hw : w.Fresh t) : pairs.card = 2 * (Fintype.card ι * w.rounds) := by
  have hnames := congrArg Multiset.card (h.names_eq hm hw)
  have hcalls := congrArg Multiset.card s.map_snd_calls
  rw [← s.map_fst_calls, Multiset.card_map, Multiset.card_map] at hnames
  rw [Multiset.card_map, Multiset.card_map, card_calls] at hcalls
  exact hnames.trans hcalls

/-- The blocks are worth what was gained. -/
theorem gain_eq : Deed.gain ds = worths (pairs.map Prod.snd) := by
  rw [h.done.gain_eq (fun _ => isAllocation_of_mem_calls) hm, h.fills.made_eq]

omit hm in
/-- They are blocks of the engine. -/
theorem engine_eq (hr : t.Reachable) (he : t.host.engine? w.engine = some e) :
    ∀ b ∈ pairs.map Prod.snd, b.engine = e.nature.id := by
  intro b hb
  rw [h.fills.made_eq] at hb
  obtain ⟨j, hj, hjb⟩ := (Multiset.mem_filterMap _ _).mp hb
  have hpast : j ∈ (s.middle t).past := by
    rw [h.fills.shift.past_eq]
    exact Multiset.mem_add.mpr (.inl hj)
  have hid : e.nature.id = w.engine := hr.sound.ids _ _ he
  rw [(hr.run _).sound.engine_of_made hpast hjb, (h.fills.shift.mem j (by simpa using hj)).1, hid]

/-- Every thread that makes rounds has got a number. -/
theorem numbered (h0 : w.rounds ≠ 0) (i : ι) : w.thread i ∈ (s.middle t).host.commons.streams := by
  have hask : (w.thread i, .allocate w.layout w.zeroed) ∈ (Traffic.calls s.first).map Prod.snd := by
    rw [s.calls_first]
    refine Multiset.mem_map.mpr ⟨((w.names i 0).1, w.thread i, .allocate w.layout w.zeroed), ?_, rfl⟩
    refine Multiset.mem_sum.mpr ⟨i, Finset.mem_univ i, ?_⟩
    rw [Multiset.mem_coe, asks, List.mem_flatMap]
    exact ⟨0, List.mem_range.mpr (Nat.pos_of_ne_zero h0), List.mem_cons_self⟩
  rw [← h.fills.shift.demands_eq, zero_add] at hask
  obtain ⟨j, hj, hd⟩ := Multiset.mem_map.mp hask
  have hthread : j.thread = w.thread i := congrArg Prod.fst hd
  rw [← hthread]
  refine h.fills.shift.placed j (by simpa using hj) ?_
  obtain ⟨b, hb⟩ := Option.isSome_iff_exists.mp (hm j hj)
  obtain ⟨reply, hr, -⟩ := h.done.course j hj
  rw [Job.made?_of_stage hr] at hb
  rw [hr, Reply.eq_made_of_block? hb]
  rfl

/-- Every thread that makes rounds gets a number in the first phase, and nobody else does. -/
theorem length_streams (hw : w.Fresh t) : (s.middle t).host.commons.streams.length =
    t.host.commons.streams.length + if w.rounds = 0 then 0 else Fintype.card ι := by
  obtain ⟨new, hnew, hnodup, hall⟩ := h.fills.shift.streams_eq
  rw [hnew, List.length_append, Nat.add_left_cancel_iff]
  split
  · rename_i h0
    have hnone : past = 0 := by
      rw [← Multiset.card_eq_zero, h.done.card_eq, card_calls, h0]
      rfl
    rw [List.length_eq_zero_iff]
    apply List.eq_nil_iff_forall_not_mem.mpr
    intro v hv
    obtain ⟨-, j, hj, -⟩ := hall v hv
    simp [hnone] at hj
  · rename_i h0
    have himage : new.toFinset = Finset.univ.image w.thread := by
      ext v
      rw [List.mem_toFinset, Finset.mem_image]
      constructor
      · intro hv
        obtain ⟨-, j, hj, rfl⟩ := hall v hv
        obtain ⟨-, i, hi⟩ := h.fills.shift.mem j hj
        exact ⟨i, Finset.mem_univ i, hi⟩
      · rintro ⟨i, -, rfl⟩
        have hnum := h.numbered hm h0 i
        rw [hnew, List.mem_append] at hnum
        exact hnum.resolve_left (hw.unnumbered i)
    rw [← List.toFinset_card_of_nodup hnodup, himage, Finset.card_image_of_injective _ hw.injective,
      Finset.card_univ]

end

end Filled

/-! ### The second phase -/

/-- What the second phase has done by its end. -/
structure Emptied (s : w.Schedule β ρ) (t : Traffic β ρ) (e e₁ e₂ : Engine β) (past : Multiset (Job ρ))
    (demands : Multiset (ThreadId × Call ρ)) (pairs : Multiset (String × Block ρ)) (ds : List (Deed ρ)) : Prop where
  /-- The blocks are held no longer. -/
  empties : (s.middle t).Empties (s.after t) w.engine w.thread (gifts s.second) [] 0 past demands pairs
  /-- These are the deeds on the engine, -/
  since : (s.middle t).Since (s.after t) w.engine e₁ e₂ ds
  /-- and those of the calls. -/
  done : Done e.nature ((pairs.map Prod.snd).map .free) past ds

end Schedule

/-- Bags of pairs with the same keys are the same, if they are among pairs of which no two have one key. -/
theorem eq_of_keys_eq {γ δ : Type} (all : Multiset (γ × δ)) {xs ys : Multiset (γ × δ)}
    (hn : (all.map Prod.fst).Nodup) (hx : xs ≤ all) (hy : ys ≤ all)
    (hk : xs.map Prod.fst = ys.map Prod.fst) : xs = ys := by
  have mem_of {xs ys : Multiset (γ × δ)} (hx : xs ≤ all) (hy : ys ≤ all)
      (hk : xs.map Prod.fst = ys.map Prod.fst) {p : γ × δ} (hp : p ∈ xs) : p ∈ ys := by
    have hm := Multiset.mem_map_of_mem Prod.fst hp
    rw [hk] at hm
    obtain ⟨q, hq, hpq⟩ := Multiset.mem_map.mp hm
    rwa [← Multiset.inj_on_of_nodup_map hn q (Multiset.mem_of_le hy hq) p (Multiset.mem_of_le hx hp) hpq]
  have hnodup := Multiset.Nodup.of_map _ hn
  refine (Multiset.Nodup.ext (Multiset.nodup_of_le hx hnodup) (Multiset.nodup_of_le hy hnodup)).mpr fun p => ?_
  exact ⟨mem_of hx hy hk, mem_of hy hx hk.symm⟩

namespace Schedule

variable {s}

/-- **The second phase gives back the blocks that the first has made**, in whatever orders. -/
theorem Filled.exists_emptied (h : s.Filled t e e₁ past pairs lost ds) (hm : ∀ j ∈ past, j.made?.isSome)
    (hr : t.Reachable) (hw : w.Fresh t) :
    ∃ e₂ past' demands ds', s.Emptied t e e₁ e₂ past' demands pairs ds' := by
  have hpace : (s.middle t).Pace w.engine w.thread s.second :=
    { reachable := hr.run _
      engine := by simp [h.since.engine?_eq]
      paced := fun i => by
        rw [busy_eq_zero.mpr (h.idle hw i), s.frees i]
        exact w.paced_frees i _ }
  have hgifts : gifts s.second = pairs.map Prod.fst := by rw [s.gifts_second, h.names_eq hm hw]
  have hkeys := congrArg (Multiset.map Prod.fst) h.fills.held_eq
  have hheld : gifts s.second ≤ ↑((s.middle t).held.map Prod.fst) := by
    rw [hgifts, ← Multiset.map_coe, hkeys, Multiset.map_add]
    exact Multiset.le_add_right _ _
  obtain ⟨past', demands, given, hempties⟩ := hpace.empties hw.injective (h.idle hw) hheld s.call?_second
  have hsame : given = pairs := by
    refine eq_of_keys_eq ↑(s.middle t).held ?_ ?_ ?_ ?_
    · exact Multiset.coe_nodup.mpr (hr.run _).nodup_names
    · rw [hempties.held_eq]
      exact Multiset.le_add_right _ _
    · rw [h.fills.held_eq]
      exact Multiset.le_add_right _ _
    · have hnames := hempties.names_eq
      rw [gifts_nil, add_zero] at hnames
      rw [hnames, hgifts]
  subst hsame
  obtain ⟨e₂, ds', hsince⟩ := (hr.run _).since_run h.since.engine?_eq (s.second.map Prod.snd)
  have hdone := hempties.shift.done (hr.run _).sound ((hr.run _).run _).sound hsince
  rw [h.since.nature_eq, hempties.demands_eq] at hdone
  refine ⟨e₂, past', demands, ds', hempties, hsince, ?_⟩
  rw [Multiset.map_map]
  exact hdone

namespace Emptied

variable {e₂ : Engine β} {past' : Multiset (Job ρ)} {demands : Multiset (ThreadId × Call ρ)} {ds' : List (Deed ρ)}
  (h : s.Filled t e e₁ past pairs lost ds) (h' : s.Emptied t e e₁ e₂ past' demands pairs ds')
  (hm : ∀ j ∈ past, j.made?.isSome) (hr : t.Reachable) (hw : w.Fresh t)
  (he : t.host.engine? w.engine = some e)
section

include h h' hm hr he

/-- What the first phase has gained, the second spends. -/
theorem loss_eq : Deed.loss ds' = Deed.gain ds := by
  rw [h'.done.loss_eq (h.engine_eq hr he), h.gain_eq hm]

/-- The ledger comes back to what it was, but for the peaks. -/
theorem get?_eq (a : Account) : e₂.ledger.get? a =
    if a ∈ (w.orders e.nature).map fun r => .allocated r.placement then
      some ⟨e.ledger.current a,
        max (e.ledger.peak a) (e.ledger.current a + Request.bytesIn a (w.orders e.nature))⟩
    else e.ledger.get? a := by
  have hall : ∀ call ∈ (w.calls : Multiset (Call ρ)), call.isAllocation = true := fun _ => isAllocation_of_mem_calls
  have hloss : (Deed.loss ds).1 = 0 := congrArg Prod.fst (h.done.loss_eq_zero hall hm)
  have hgain : (Deed.gain ds').1 = 0 := congrArg Prod.fst (h'.done.gain_eq_zero (h.engine_eq hr he))
  have hback : (Deed.loss ds').1 = (Deed.gain ds).1 := congrArg Prod.fst (h'.loss_eq h hm hr he)
  rw [Ledger.get?_of_round_trip h.since.ledger h'.since.ledger hloss hgain hback,
    h.done.accounts_gain hall hm, h.done.bytesIn_gain hall hm, orders_calls]
  exact if_congr (by simp) rfl rfl

/-- The backend comes back to the bytes that it held. -/
theorem held_eq {held : β → Nat} {bytes : ρ → Nat} (ht : Backend.Tallies held bytes) :
    held e₂.backend = held e.backend := by
  have hkept : ∀ holding, .released holding ∉ ds := fun holding hd =>
    Option.some_ne_none _ (h.done.smooth (fun _ => isAllocation_of_mem_calls) hm hd).2.1
  refine ht.held_of_losses h'.since.served h'.done.requests_eq_nil ?_
  rw [h'.loss_eq h hm hr he, ht.held_of_gains h.since.served hkept]

/-- No call of either phase has failed. -/
theorem succeeds : s.Succeeds t := by
  have hfirst : past.filterMap Job.failure? = 0 := by
    apply Multiset.eq_zero_of_forall_notMem
    intro f hf
    obtain ⟨j, hj, hjf⟩ := (Multiset.mem_filterMap _ _).mp hf
    have hs := (h.done.made_iff (fun _ => isAllocation_of_mem_calls) hj).mp (hm j hj)
    rw [hs] at hjf
    cases hjf
  have hsecond : past'.filterMap Job.failure? = 0 := by
    apply Multiset.eq_zero_of_forall_notMem
    intro f hf
    obtain ⟨j, hj, hjf⟩ := (Multiset.mem_filterMap _ _).mp hf
    rw [h'.done.not_failed (h.engine_eq hr he) hj] at hjf
    cases hjf
  rw [Succeeds, failures, h'.empties.shift.past_eq, h.fills.shift.past_eq, Multiset.filterMap_add,
    Multiset.filterMap_add, hfirst, hsecond, zero_add, zero_add]
  rfl

end

section

include h h' hm hw

theorem card_past : past'.card = 2 * (Fintype.card ι * w.rounds) := by
  rw [h'.done.card_eq, Multiset.card_map, Multiset.card_map, h.card_pairs hm hw]

/-- Nobody gets a number in the second phase. -/
theorem length_streams :
    (s.after t).host.commons.streams.length = (s.middle t).host.commons.streams.length := by
  obtain ⟨new, hnew, -, hall⟩ := h'.empties.shift.streams_eq
  have hnone : new = [] := by
    apply List.eq_nil_iff_forall_not_mem.mpr
    intro v hv
    obtain ⟨hn, j, hj, rfl⟩ := hall v hv
    obtain ⟨-, i, hi⟩ := h'.empties.shift.mem j hj
    have h0 : w.rounds ≠ 0 := by
      intro h0
      have hcard := h'.card_past h hm hw
      rw [h0, mul_zero, mul_zero, Multiset.card_eq_zero] at hcard
      simp [hcard] at hj
    exact hn (hi ▸ h.numbered hm h0 i)
  rw [hnew, hnone, List.append_nil]

end

include h h' hm hr hw he in
/-- If all blocks could be made, nothing is left of the workload but peaks and numbers. -/
theorem settled {held : β → Nat} {bytes : ρ → Nat} (ht : Backend.Tallies held bytes) :
    w.Settles held t (s.after t) e e₂ := by
  have hall : ∀ call ∈ (w.calls : Multiset (Call ρ)), call.isAllocation = true := fun _ => isAllocation_of_mem_calls
  have hgain := h'.done.gain_eq_zero (h.engine_eq hr he)
  have hloss := h.done.loss_eq_zero hall hm
  have hback := h'.loss_eq h hm hr he
  have hcard := h.done.card_gain hall hm
  have hdeeds : (s.after t).deeds w.engine = t.deeds w.engine ++ ds ++ ds' := by
    rw [h'.since.deeds_eq, h.since.deeds_eq]
  exact {
    engine?_eq := h'.since.engine?_eq
    ledger := h'.get?_eq h hm hr he
    requests_eq := by
      rw [hdeeds, Deed.requests_append, Deed.requests_append, h'.done.requests_eq_nil, List.append_nil,
        List.length_append, h.done.length_requests hall hm, card_calls]
    obtained_eq := by
      rw [obtained, obtained, hdeeds, Deed.gain_append, Deed.gain_append, hgain, add_zero, Prod.snd_add,
        Multiset.card_add, hcard.2, card_calls]
    released_eq := by
      rw [released, released, hdeeds, Deed.loss_append, Deed.loss_append, hloss, add_zero, hback, Prod.snd_add,
        Multiset.card_add, hcard.2, card_calls]
    held_eq := h'.held_eq h hm hr he ht
    blocks_eq := by
      rw [h'.empties.shift.blocks_eq, h.fills.shift.blocks_eq, zero_add, zero_add, h.done.drawn_eq hall hm,
        h'.done.drawn_eq_zero (h.engine_eq hr he), card_calls, add_zero]
    streams_eq := by rw [h'.length_streams h hm hw, h.length_streams hm hw]
    past_eq := by
      rw [h'.empties.shift.past_eq, h.fills.shift.past_eq, Multiset.card_add, Multiset.card_add,
        h'.card_past h hm hw, h.done.card_eq, card_calls]
      omega
    running_eq := by rw [h'.empties.shift.running_eq, h.fills.shift.running_eq, zero_add, zero_add]
    kept_eq := by
      have hheld := h'.empties.held_eq
      rw [h.fills.held_eq] at hheld
      exact (add_left_cancel hheld).symm }

end Emptied

end Schedule

end Workload

/-! ### All schedules -/

/-- **What becomes of a workload does not depend on the schedule.** If all calls succeed in one order, they
succeed in every order, and then the ledger of the engine is the same in the end; so is everything that
`Workload.Settles` tells. The backend may refuse what would exceed its capacity, and nothing else. -/
theorem Traffic.Reachable.settles [Fintype ι] [DecidableEq ι] [Backend β ρ] {t : Traffic β ρ} (hr : t.Reachable)
    {w : Workload ι} (hw : w.Fresh t) {e : Engine β} (he : t.host.engine? w.engine = some e) {ok : β → Prop}
    {capacity : Option Nat} {held : β → Nat} {bytes : ρ → Nat} (hc : Backend.Capped ok capacity held bytes)
    (hok : ok e.backend) (s s' : w.Schedule β ρ) (hs : s.Succeeds t) :
    s'.Succeeds t ∧ ∃ e₁ e₂, w.Settles held t (s.after t) e e₁ ∧ w.Settles held t (s'.after t) e e₂ ∧
      e₁.ledger = e₂.ledger := by
  have hall : ∀ call ∈ (w.calls : Multiset (Call ρ)), call.isAllocation = true :=
    fun _ => Workload.isAllocation_of_mem_calls
  obtain ⟨_, past, pairs, lost, ds, h⟩ := s.exists_filled hr hw he
  obtain ⟨_, past', pairs', lost', ds', h'⟩ := s'.exists_filled hr hw he
  have hm : ∀ j ∈ past, j.made?.isSome := fun j hj => h.made_of_succeeds hs hj
  -- there was room for all blocks in one order, and so there is in the other
  have hroom := h.done.hasRoom_of_made hall hr.sound h.since he hc hok hm
  have hm' : ∀ j ∈ past', j.made?.isSome := fun j hj => h'.done.made_of_hasRoom hall h'.since hc hok hroom hj
  obtain ⟨e₁, _, _, _, hemptied⟩ := h.exists_emptied hm hr hw
  obtain ⟨e₂, _, _, _, hemptied'⟩ := h'.exists_emptied hm' hr hw
  have hsettles := hemptied.settled h hm hr hw he hc.toTallies
  have hsettles' := hemptied'.settled h' hm' hr hw he hc.toTallies
  refine ⟨hemptied'.succeeds h' hm' hr he, e₁, e₂, hsettles, hsettles', Ledger.ext_get? fun a => ?_⟩
  rw [hsettles.ledger, hsettles'.ledger]

/-! ### Two threads -/

namespace Workload

/-- Two threads make two blocks of 24 bytes each; on a device whose only unified memory is on the host,
both policies take it. -/
def twoThreads : Workload Bool where
  engine := ⟨0⟩
  layout := ⟨[2, 3], .f32, false⟩
  zeroed := false
  thread i := .numbered (if i then 2 else 1)
  rounds := 1
  names i _ := if i then ("c", "d") else ("a", "b")

/-- One thread after the other. -/
def oneByOne : twoThreads.Schedule ScriptedBackend ScriptedResource where
  first := (twoThreads.allocations false).map (false, ·) ++ (twoThreads.allocations true).map (true, ·)
  allocates i := by cases i <;> rfl
  back := twoThreads.namesOf
  all_back _ := .refl _
  second := (twoThreads.frees false (twoThreads.namesOf false)).map (false, ·) ++
    (twoThreads.frees true (twoThreads.namesOf true)).map (true, ·)
  frees i := by cases i <;> rfl

/-- The threads take turns, and give their blocks back in the other order. -/
def inTurns : twoThreads.Schedule ScriptedBackend ScriptedResource where
  first := ((twoThreads.allocations false).zip (twoThreads.allocations true)).flatMap fun m =>
    [(false, m.1), (true, m.2)]
  allocates i := by cases i <;> rfl
  back i := (twoThreads.namesOf i).reverse
  all_back _ := List.reverse_perm _
  second := ((twoThreads.frees false (twoThreads.namesOf false).reverse).zip
    (twoThreads.frees true (twoThreads.namesOf true).reverse)).flatMap fun m => [(true, m.2), (false, m.1)]
  frees i := by cases i <;> rfl

/-- An engine with a block of 24 bytes before the threads begin, and room for four more. -/
def beforehand : Traffic ScriptedBackend ScriptedResource :=
  Traffic.run { host := {} }
    ([.make ⟨"0", "device", 1024, .plainBuffer, .ofList [.unifiedHost]⟩ { capacity := some 120 } {},
        .call (.numbered 0) ⟨0⟩ "old" (.allocate ⟨[2, 3], .f32, false⟩ true)] ++ Move.toEnd (.numbered 0))

theorem beforehand_fresh : twoThreads.Fresh beforehand where
  injective i j h := by cases i <;> cases j <;> first | rfl | cases h
  idle i := by cases i <;> rfl
  unnumbered i := by cases i <;> decide
  names := by decide
  unheld i name hm := by cases i <;> revert name <;> decide

theorem oneByOne_succeeds : oneByOne.Succeeds beforehand := by
  have hnone : (pastJobs (oneByOne.after beforehand).trace).filterMap Job.failure? = [] :=
    List.isEmpty_iff.mp (by decide +kernel)
  rw [Schedule.Succeeds, Traffic.failures, Traffic.past, Multiset.filterMap_coe, hnone]
  rfl

theorem twoThreads_settles : ∃ e, beforehand.host.engine? ⟨0⟩ = some e ∧ e.used .unifiedHost = 24 ∧
    oneByOne.Succeeds beforehand ∧ inTurns.Succeeds beforehand ∧
    ∃ e₁ e₂, twoThreads.Settles ScriptedBackend.inUse beforehand (oneByOne.after beforehand) e e₁ ∧
      twoThreads.Settles ScriptedBackend.inUse beforehand (inTurns.after beforehand) e e₂ ∧
      e₁.ledger = e₂.ledger ∧ e₁.ledger.unifiedHost = some ⟨24, 120⟩ := by
  have hreachable : beforehand.Reachable := (Traffic.Reachable.start _ rfl).run _
  have hsome : (beforehand.host.engine? ⟨0⟩).isSome := rfl
  have he := (Option.some_get hsome).symm
  obtain ⟨hs', e₁, e₂, hsettles, hsettles', hsame⟩ := hreachable.settles beforehand_fresh he
    (ScriptedBackend.capped (some 120)) ⟨rfl, rfl, rfl⟩ oneByOne inTurns
    oneByOne_succeeds
  refine ⟨_, he, rfl, oneByOne_succeeds, hs', e₁, e₂, hsettles, hsettles', hsame, ?_⟩
  exact (hsettles.ledger (.allocated .unifiedHost)).trans rfl

end Workload

end DeviceMemory
