import DeviceMemory.Proofs.Traffic.Phases
import Mathlib.Algebra.Order.BigOperators.Group.Multiset
import Mathlib.Algebra.Order.Ring.Nat

/-!
# What calls add up to

The calls of a phase end in some order, and between their deeds stand those of other calls. What all of
them have done together is a sum over the calls and does not depend on the order (`Traffic.Done`).

Calls that allocate all succeed if there is room for all of them at once, and only then
(`Traffic.Done.made_of_hasRoom`, `Traffic.Done.hasRoom_of_made`). The room is a matter of what is asked for and
not of the order in which it is, so neither is success.
-/

namespace DeviceMemory

variable {β ρ : Type}

/-- The requests that calls lead to on an engine, as far as they pass its checks. -/
def Nature.orders (n : Nature) (calls : Multiset (Call ρ)) : Multiset Request := calls.filterMap n.order?

/-- Why a call failed, if it did. -/
def Reply.failure? : Reply ρ → Option Failure
  | .failed f => some f
  | .made _ | .freed => none

/-- Why a call failed, if it has ended and did. -/
def Job.failure? (j : Job ρ) : Option Failure := j.stage.reply?.bind Reply.failure?

theorem Job.failure?_of_stage {j : Job ρ} {reply : Reply ρ} (h : j.stage = .closing none reply) :
    j.failure? = reply.failure? := by
  rw [Job.failure?, h]
  rfl

/-- There is room on an engine for calls that allocate, all at once. -/
structure Engine.HasRoom (e : Engine β) (capacity : Option Nat) (held : β → Nat) (calls : Multiset (Call ρ)) :
    Prop where
  /-- They pass its checks. -/
  passes : ∀ call ∈ calls, (e.nature.order? call).isSome
  /-- No account is to hold more than a machine word. -/
  ledger (a : Account) : e.ledger.current a + Request.bytesIn a (e.nature.orders calls) ≤ maxWord
  /-- The capacity is not exceeded. -/
  backend (c : Nat) : capacity = some c → e.nature.orders calls ≠ 0 →
    held e.backend + Request.total (e.nature.orders calls) ≤ c

namespace Traffic

/-- A sum over what a choice picks. -/
theorem sum_map_filterMap {γ δ M : Type} [AddCommMonoid M] (f : γ → Option δ) (g : δ → M) (xs : Multiset γ) :
    ((xs.filterMap f).map g).sum = (xs.map fun x => ((f x).map g).getD 0).sum := by
  induction xs using Multiset.induction with
  | empty => rfl
  | cons x xs ih =>
    rw [filterMap_cons_toList, Multiset.map_add, Multiset.sum_add, Multiset.map_cons, Multiset.sum_cons, ih]
    cases f x <;> simp

/-- Calls on an engine have all ended. -/
structure Done (n : Nature) (calls : Multiset (Call ρ)) (past : Multiset (Job ρ)) (ds : List (Deed ρ)) : Prop where
  /-- These are their jobs. -/
  requests_eq : past.map Job.request = calls
  /-- Each has followed its course to the end. -/
  course : ∀ j ∈ past, ∃ reply, j.stage = .closing none reply ∧
    Course n j.request (.closing none reply) (Deed.effects j.deeds)
  /-- The deeds are theirs. -/
  deeds_eq : (↑ds : Multiset (Deed ρ)) = past.bind fun j => ↑j.deeds

/-- What a shift has done by its end. -/
theorem Shift.done {ι : Type} [Backend β ρ] {t₀ t : Traffic β ρ} {id : EngineId} {who : ι → ThreadId}
    {past : Multiset (Job ρ)} {demands : Multiset (ThreadId × Call ρ)} {e₀ e : Engine β} {ds : List (Deed ρ)}
    (h : t₀.Shift t id who 0 past demands) (hs₀ : t₀.Sound) (hs : t.Sound) (hsince : t₀.Since t id e₀ e ds) :
    Done e₀.nature (demands.map Prod.snd) past ds where
  requests_eq := by
    rw [← h.demands_eq, zero_add, Multiset.map_map]
    rfl
  course j hj := by
    have hpast : j ∈ t.past := by
      rw [h.past_eq]
      exact Multiset.mem_add.mpr (.inl hj)
    obtain ⟨reply, hr⟩ := stage_of_mem_pastJobs hpast
    have hid := (h.mem j (by simpa using hj)).1
    have hc := hs.course_on hsince.engine?_eq (Multiset.mem_add.mpr (.inr hpast)) hid
    rw [hsince.nature_eq, hr] at hc
    exact ⟨reply, hr, hc⟩
  deeds_eq := h.deeds_eq hs₀ hs hsince.deeds_eq

namespace Done

variable {n : Nature} {calls : Multiset (Call ρ)} {past : Multiset (Job ρ)} {ds : List (Deed ρ)}

theorem mem_deeds (h : Done n calls past ds) {d : Deed ρ} : d ∈ ds ↔ ∃ j ∈ past, d ∈ j.deeds := by
  rw [← Multiset.mem_coe, h.deeds_eq]
  simp

theorem card_eq (h : Done n calls past ds) : past.card = calls.card := by
  rw [← h.requests_eq, Multiset.card_map]

/-- A reading of deeds that sees the effects only, and adds up in any order, is summed call by call. -/
theorem sum_eq (h : Done n calls past ds) {M : Type} [AddCommMonoid M] (f : List (Deed ρ) → M) (hnil : f [] = 0)
    (happ : ∀ ds ds', f (ds ++ ds') = f ds + f ds')
    (hperm : ∀ ds ds' : List (Deed ρ), (↑ds : Multiset (Deed ρ)) = ↑ds' → f ds = f ds')
    (heffects : ∀ ds, f (Deed.effects ds) = f ds) :
    f ds = (past.map fun j => f (Deed.effects j.deeds)).sum := by
  rw [reading_eq_sum hnil happ hperm h.deeds_eq]
  simp only [heffects]

theorem gain_eq_sum (h : Done n calls past ds) :
    Deed.gain ds = (past.map fun j => Deed.gain (Deed.effects j.deeds)).sum :=
  h.sum_eq Deed.gain Deed.gain_nil Deed.gain_append (fun _ _ => Deed.gain_congr) Deed.gain_effects

theorem loss_eq_sum (h : Done n calls past ds) :
    Deed.loss ds = (past.map fun j => Deed.loss (Deed.effects j.deeds)).sum :=
  h.sum_eq Deed.loss Deed.loss_nil Deed.loss_append (fun _ _ => Deed.loss_congr) Deed.loss_effects

theorem requests_eq_sum (h : Done n calls past ds) : (↑(Deed.requests ds) : Multiset Request) =
    (past.map fun j => (↑(Deed.requests (Deed.effects j.deeds)) : Multiset Request)).sum :=
  h.sum_eq (fun ds => (↑(Deed.requests ds) : Multiset Request)) rfl (fun _ _ => by simp [← Multiset.coe_add])
    (fun _ _ hd => congrArg (Multiset.filterMap Deed.request?) hd) fun ds => by rw [Deed.requests_effects]

/-- What they asked the backend for does not depend on the order, nor on how they ended. -/
theorem orders_eq (h : Done n calls past ds) : (↑(Deed.requests ds) : Multiset Request) = n.orders calls := by
  rw [h.requests_eq_sum, Nature.orders, ← h.requests_eq, Multiset.filterMap_map, ← Multiset.sum_map_singleton
    (past.filterMap _), sum_map_filterMap]
  congr 1
  apply Multiset.map_congr rfl
  intro j hj
  obtain ⟨reply, -, hc⟩ := h.course j hj
  rw [hc.requests_eq]
  simp only [Function.comp_apply]
  cases n.order? j.request <;> rfl

/-- A reading of what they asked for is summed call by call. -/
theorem sum_orders (h : Done n calls past ds) {M : Type} [AddCommMonoid M] {f : Multiset Request → M}
    (hzero : f 0 = 0) (hadd : ∀ rs qs, f (rs + qs) = f rs + f qs) :
    f (n.orders calls) = (past.map fun j => f ↑(Deed.requests (Deed.effects j.deeds))).sum := by
  rw [← h.orders_eq, h.requests_eq_sum]
  refine (map_multiset_sum (⟨⟨f, hzero⟩, hadd⟩ : Multiset Request →+ M) _).trans ?_
  rw [Multiset.map_map]
  rfl

/-- A reading of what they credited is summed call by call. -/
theorem sum_credited (h : Done n calls past ds) {M : Type} [AddCommMonoid M] {f : Multiset (Plan ρ) → M}
    (hzero : f 0 = 0) (hadd : ∀ ps qs, f (ps + qs) = f ps + f qs) :
    f (Deed.gain ds).1 = (past.map fun j => f (Deed.gain (Deed.effects j.deeds)).1).sum := by
  rw [h.gain_eq_sum]
  refine (map_multiset_sum
    ((⟨⟨f, hzero⟩, hadd⟩ : Multiset (Plan ρ) →+ M).comp (AddMonoidHom.fst _ (Multiset (Holding ρ)))) _).trans ?_
  rw [Multiset.map_map]
  rfl

/-! ### Allocations -/

variable (h : Done n calls past ds) (ha : ∀ call ∈ calls, call.isAllocation = true)
include h ha

/-- How each of them has ended. -/
theorem allocates {j : Job ρ} (hj : j ∈ past) :
    ∃ reply, j.stage = .closing none reply ∧ Allocates n j.request reply (Deed.effects j.deeds) := by
  obtain ⟨reply, hr, hc⟩ := h.course j hj
  refine ⟨reply, hr, hc.allocation_cases (ha _ ?_)⟩
  rw [← h.requests_eq]
  exact Multiset.mem_map_of_mem _ hj

/-- They try to credit no more than they ask for. -/
theorem tried_le (a : Account) : bytesIn a (Deed.tried ds) ≤ Request.bytesIn a (n.orders calls) := by
  rw [h.sum_orders (Request.bytesIn_zero a) (Request.bytesIn_add a),
    h.sum_eq (fun ds => bytesIn a (Deed.tried ds)) rfl (fun _ _ => by simp)
      (fun _ _ hd => congrArg (bytesIn a) (Deed.tried_congr hd)) (fun ds => by rw [Deed.tried_effects])]
  apply Multiset.sum_map_le_sum_map
  intro j hj
  obtain ⟨reply, -, hall⟩ := h.allocates ha hj
  exact hall.tried_le a

/-- One that made no block has failed. -/
theorem made_iff {j : Job ρ} (hj : j ∈ past) : j.made?.isSome ↔ j.failure? = none := by
  obtain ⟨reply, hr, hall⟩ := h.allocates ha hj
  rw [Job.made?_of_stage hr, Job.failure?_of_stage hr]
  rcases hall.made_or_failed with ⟨b, rfl⟩ | ⟨f, rfl⟩
  · simp [Reply.block?, Reply.failure?]
  · simp [Reply.block?, Reply.failure?]

theorem madeBy {j : Job ρ} (hj : j ∈ past) {b : Block ρ} (hb : j.made? = some b) :
    b.MadeBy n j.request (Deed.effects j.deeds) := by
  obtain ⟨reply, hr, hall⟩ := h.allocates ha hj
  rw [Job.made?_of_stage hr] at hb
  rw [Reply.eq_made_of_block? hb] at hall
  exact hall.madeBy

section

variable (hm : ∀ j ∈ past, j.made?.isSome)
include hm

/-- If all of them made blocks, nothing was refused, debited or given back. -/
theorem smooth {d : Deed ρ} (hd : d ∈ ds) : d.debit? = none ∧ d.release? = none ∧
    (∀ r err, d ≠ .asked r (.error err)) ∧ ∀ p, d ≠ .refused p := by
  obtain ⟨j, hj, hdj⟩ := h.mem_deeds.mp hd
  obtain ⟨b, hb⟩ := Option.isSome_iff_exists.mp (hm j hj)
  cases d with
  | said out => simp
  | _ => exact (h.madeBy ha hj hb).smooth _ (Deed.mem_effects.mpr ⟨hdj, rfl⟩)

theorem loss_eq_zero : Deed.loss ds = 0 := by
  have hdebit : ds.filterMap Deed.debit? = [] :=
    List.filterMap_eq_nil_iff.mpr fun d hd => (h.smooth ha hm hd).1
  have hrelease : ds.filterMap Deed.release? = [] :=
    List.filterMap_eq_nil_iff.mpr fun d hd => (h.smooth ha hm hd).2.1
  rw [Deed.loss, hdebit, hrelease]
  rfl

/-- What they gained are the blocks that they made. -/
theorem gain_eq : Deed.gain ds = worths (past.filterMap Job.made?) := by
  rw [h.gain_eq_sum, worths, sum_map_filterMap]
  congr 1
  apply Multiset.map_congr rfl
  intro j hj
  obtain ⟨b, hb⟩ := Option.isSome_iff_exists.mp (hm j hj)
  rw [(h.madeBy ha hj hb).gain_eq, hb]
  rfl

theorem bytesIn_gain (a : Account) : bytesIn a (Deed.gain ds).1 = Request.bytesIn a (n.orders calls) := by
  rw [h.sum_orders (Request.bytesIn_zero a) (Request.bytesIn_add a),
    h.sum_credited (bytesIn_zero a) (bytesIn_add a)]
  congr 1
  apply Multiset.map_congr rfl
  intro j hj
  obtain ⟨b, hb⟩ := Option.isSome_iff_exists.mp (hm j hj)
  exact (h.madeBy ha hj hb).bytesIn_eq a

theorem accounts_gain : (Deed.gain ds).1.map Plan.account? =
    (n.orders calls).map fun r => some (.allocated r.placement) := by
  rw [h.sum_orders (Multiset.map_zero _) (Multiset.map_add _),
    h.sum_credited (Multiset.map_zero _) (Multiset.map_add _)]
  congr 1
  apply Multiset.map_congr rfl
  intro j hj
  obtain ⟨b, hb⟩ := Option.isSome_iff_exists.mp (hm j hj)
  exact (h.madeBy ha hj hb).accounts_eq

/-- Each of them got memory and credited it. -/
theorem card_gain : (Deed.gain ds).1.card = calls.card ∧ (Deed.gain ds).2.card = calls.card := by
  rw [h.gain_eq_sum, ← h.card_eq, ← Multiset.card_map (fun j => Deed.gain (Deed.effects j.deeds)) past]
  apply Assets.card_sum
  intro g hg
  obtain ⟨j, hj, rfl⟩ := Multiset.mem_map.mp hg
  obtain ⟨b, hb⟩ := Option.isSome_iff_exists.mp (hm j hj)
  exact (h.madeBy ha hj hb).card_eq

/-- Each of them asked the backend. -/
theorem length_requests : (Deed.requests ds).length = calls.card := by
  have hcard := congrArg Multiset.card (h.accounts_gain ha hm)
  rw [Multiset.card_map, Multiset.card_map, (h.card_gain ha hm).1, ← h.orders_eq, Multiset.coe_card] at hcard
  exact hcard.symm

/-- Each of them drew one id. -/
theorem drawn_eq : drawn past = calls.card := by
  have hone : past.map (fun j => Deed.names j.deeds) = past.map fun _ => 1 := by
    apply Multiset.map_congr rfl
    intro j hj
    obtain ⟨b, hb⟩ := Option.isSome_iff_exists.mp (hm j hj)
    rw [← Deed.names_effects, (h.madeBy ha hj hb).names_eq]
  rw [drawn, hone, ← h.card_eq]
  simp

end

end Done

/-! ### Room for allocations -/

section

variable [Backend β ρ] {t₀ t : Traffic β ρ} {id : EngineId} {e₀ e : Engine β} {ok : β → Prop}
  {capacity : Option Nat} {held : β → Nat} {bytes : ρ → Nat} {calls : Multiset (Call ρ)}
  {past : Multiset (Job ρ)} {ds : List (Deed ρ)}

/-- **If there is room for all of them at once, all of them make blocks**, whatever their order. -/
theorem Done.made_of_hasRoom (h : Done e₀.nature calls past ds) (ha : ∀ call ∈ calls, call.isAllocation = true)
    (hsince : t₀.Since t id e₀ e ds) (hc : Backend.Capped ok capacity held bytes) (hok : ok e₀.backend)
    (hr : e₀.HasRoom capacity held calls) {j : Job ρ} (hj : j ∈ past) : j.made?.isSome := by
  obtain ⟨reply, hstage, hall⟩ := h.allocates ha hj
  have hcall : j.request ∈ calls := by
    rw [← h.requests_eq]
    exact Multiset.mem_map_of_mem _ hj
  have hpasses := hr.passes _ hcall
  have hasks : e₀.nature.orders calls ≠ 0 := by
    obtain ⟨r, ho⟩ := Option.isSome_iff_exists.mp hpasses
    intro hzero
    have hmem : r ∈ e₀.nature.orders calls := (Multiset.mem_filterMap _ _).mpr ⟨_, hcall, ho⟩
    simp [hzero] at hmem
  have hdeeds {d : Deed ρ} (hd : d ∈ Deed.effects j.deeds) : d ∈ ds :=
    h.mem_deeds.mpr ⟨j, hj, (Deed.mem_effects.mp hd).1⟩
  have hgranted (r : Request) (err : BackendError) : .asked r (.error err) ∉ ds := by
    refine hc.not_denied hok hsince.served (fun c hcap => ?_) r err
    rw [h.orders_eq]
    exact hr.backend c hcap hasks
  have hcredited (p : Plan ρ) (a : Account) (hp : p.account? = some a) : .refused p ∉ ds := by
    refine Ledger.not_refused hsince.ledger hsince.rightly ?_ hp
    exact (Nat.add_le_add_left (h.tried_le ha a) _).trans (hr.ledger a)
  obtain ⟨b, rfl⟩ := hall.exists_made hpasses (fun r err hd => hgranted r err (hdeeds hd))
    fun p a hp hd => hcredited p a hp (hdeeds hd)
  rw [Job.made?_of_stage hstage]
  rfl

/-- **If all of them make blocks, there was room for all of them at once.** -/
theorem Done.hasRoom_of_made (h : Done e₀.nature calls past ds) (ha : ∀ call ∈ calls, call.isAllocation = true)
    (hs : t₀.Sound) (hsince : t₀.Since t id e₀ e ds) (he : t₀.host.engine? id = some e₀)
    (hc : Backend.Capped ok capacity held bytes) (hok : ok e₀.backend) (hm : ∀ j ∈ past, j.made?.isSome) :
    e₀.HasRoom capacity held calls where
  passes call hcall := by
    rw [← h.requests_eq] at hcall
    obtain ⟨j, hj, rfl⟩ := Multiset.mem_map.mp hcall
    obtain ⟨b, hb⟩ := Option.isSome_iff_exists.mp (hm j hj)
    obtain ⟨r, resource, ho, -⟩ := (h.madeBy ha hj hb).order
    simp [ho]
  ledger a := by
    have hword : ∀ a, e₀.ledger.current a ≤ maxWord :=
      Ledger.current_le (hs.ledger id e₀ he) fun a => by simp [Ledger.current, Ledger.balance]
    have hbooks := Ledger.bytesIn_gain hsince.ledger a
    rw [h.bytesIn_gain ha hm, h.loss_eq_zero ha hm, Prod.fst_zero, bytesIn_zero, zero_add] at hbooks
    rw [hbooks]
    exact Ledger.current_le hsince.ledger hword a
  backend c hcap hne := by
    rw [← h.orders_eq] at hne ⊢
    refine hc.room_of_granted hok hsince.served (fun r err hd => ?_) (fun holding hd => ?_) ?_ hcap
    · exact (h.smooth ha hm hd).2.2.1 r err rfl
    · have hnone := (h.smooth ha hm hd).2.1
      cases hnone
    · simpa using hne

end

/-! ### Frees -/

namespace Done

variable {n : Nature} {bs : Multiset (Block ρ)} {past : Multiset (Job ρ)} {ds : List (Deed ρ)}
  (h : Done n (bs.map .free) past ds) (hb : ∀ b ∈ bs, b.engine = n.id)
include h hb

/-- Blocks that are given back to the engine that made them are taken back. -/
theorem freedBy {j : Job ρ} (hj : j ∈ past) : ∃ b reply, j.request = .free b ∧ b.engine = n.id ∧
    j.stage = .closing none reply ∧ b.FreedBy reply (Deed.effects j.deeds) := by
  obtain ⟨reply, hr, hc⟩ := h.course j hj
  have hcall := Multiset.mem_map_of_mem Job.request hj
  rw [h.requests_eq] at hcall
  obtain ⟨b, hbs, hreq⟩ := Multiset.mem_map.mp hcall
  rw [← hreq] at hc
  exact ⟨b, reply, hreq.symm, hb b hbs, hr, hc.freedBy (hb b hbs)⟩

theorem not_failed {j : Job ρ} (hj : j ∈ past) : j.failure? = none := by
  obtain ⟨b, reply, -, -, hr, hf⟩ := h.freedBy hb hj
  rw [Job.failure?_of_stage hr, hf.reply_eq]
  rfl

theorem gain_eq_zero : Deed.gain ds = 0 := by
  rw [h.gain_eq_sum]
  apply Multiset.sum_eq_zero
  intro g hg
  obtain ⟨j, hj, rfl⟩ := Multiset.mem_map.mp hg
  obtain ⟨b, reply, -, -, -, hf⟩ := h.freedBy hb hj
  exact hf.gain_eq

/-- What they spend are the blocks that are given back. -/
theorem loss_eq : Deed.loss ds = worths bs := by
  have hworth : bs.map (fun b => b.plan.worth) = past.map fun j => j.request.brings n.id := by
    have hcalls := congrArg (Multiset.map (Call.brings n.id)) h.requests_eq
    rw [Multiset.map_map, Multiset.map_map] at hcalls
    refine Eq.trans (Multiset.map_congr rfl fun b hm => ?_) hcalls.symm
    rw [Function.comp_apply, Call.brings, if_pos (hb b hm)]
  rw [h.loss_eq_sum, worths, hworth]
  congr 1
  apply Multiset.map_congr rfl
  intro j hj
  obtain ⟨b, reply, hreq, hid, -, hf⟩ := h.freedBy hb hj
  rw [hf.loss_eq, hreq, Call.brings, if_pos hid]

theorem drawn_eq_zero : drawn past = 0 := by
  apply Multiset.sum_eq_zero
  intro k hk
  obtain ⟨j, hj, rfl⟩ := Multiset.mem_map.mp hk
  obtain ⟨b, reply, -, -, -, hf⟩ := h.freedBy hb hj
  rw [← Deed.names_effects, hf.names_eq]

omit hb in
/-- They ask the backend for nothing. -/
theorem requests_eq_nil : Deed.requests ds = [] := by
  have hnone : n.orders (bs.map .free) = 0 := by
    apply Multiset.eq_zero_of_forall_notMem
    intro r hr
    obtain ⟨call, hcall, ho⟩ := (Multiset.mem_filterMap _ _).mp hr
    obtain ⟨b, -, rfl⟩ := Multiset.mem_map.mp hcall
    cases ho
  rw [← h.orders_eq] at hnone
  simpa using hnone

end Done

end Traffic

end DeviceMemory
