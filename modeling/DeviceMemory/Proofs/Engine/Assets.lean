import DeviceMemory.Proofs.Engine.Course
import Mathlib.Algebra.BigOperators.Group.Multiset.Basic
import Mathlib.Algebra.Order.Group.Multiset

/-!
# What a call holds on to

A call that is half done holds bytes that are credited, or memory of the backend, or both. These are
its assets, and they are a matter of its stage alone. What a call has got on its way, together with
what it was given, is what it has spent and what it still holds (`Course.balance`).

## The model

`Assets` are two bags: the blocks whose bytes are counted in the ledger, and the memory that
the backend has handed out. A bag says how often something happened and not in which order, which is
what a balance is about. `Plan.worth` are the assets of a block that is complete; both bags then have
the same bytes in every placement (`Plan.even_worth`). While a call is in progress the ledger lags
behind the backend, never the other way (`Stage.backed_assets`).
-/

namespace DeviceMemory

variable {β ρ : Type}

/-! ### Assets -/

/-- Blocks whose bytes are counted, and memory that the backend has handed out. -/
abbrev Assets (ρ : Type) := Multiset (Plan ρ) × Multiset (Holding ρ)

/-- The bytes that blocks take in an account. -/
def bytesIn (a : Account) (ps : Multiset (Plan ρ)) : Nat :=
  ((ps.filter fun p => p.account? = some a).map Plan.size).sum

/-- The bytes that memory of the backend takes in a placement. -/
def bytesHeld (p : Placement) (hs : Multiset (Holding ρ)) : Nat :=
  ((hs.filter fun h => h.placement = p).map Holding.size).sum

@[simp] theorem bytesIn_zero (a : Account) : bytesIn a (0 : Multiset (Plan ρ)) = 0 := rfl

@[simp] theorem bytesIn_add (a : Account) (ps qs : Multiset (Plan ρ)) :
    bytesIn a (ps + qs) = bytesIn a ps + bytesIn a qs := by
  simp [bytesIn, Multiset.filter_add]

@[simp] theorem bytesIn_cons (a : Account) (p : Plan ρ) (ps : Multiset (Plan ρ)) :
    bytesIn a (p ::ₘ ps) = (if p.account? = some a then p.size else 0) + bytesIn a ps := by
  by_cases h : p.account? = some a <;> simp [bytesIn, h]

@[simp] theorem bytesIn_singleton (a : Account) (p : Plan ρ) :
    bytesIn a {p} = if p.account? = some a then p.size else 0 :=
  bytesIn_cons a p 0

theorem size_le_bytesIn {a : Account} {p : Plan ρ} {ps : Multiset (Plan ρ)} (hp : p ∈ ps)
    (ha : p.account? = some a) : p.size ≤ bytesIn a ps := by
  obtain ⟨rest, rfl⟩ := Multiset.exists_cons_of_mem hp
  simp [ha]

@[simp] theorem bytesHeld_zero (p : Placement) : bytesHeld p (0 : Multiset (Holding ρ)) = 0 := rfl

@[simp] theorem bytesHeld_add (p : Placement) (hs ks : Multiset (Holding ρ)) :
    bytesHeld p (hs + ks) = bytesHeld p hs + bytesHeld p ks := by
  simp [bytesHeld, Multiset.filter_add]

@[simp] theorem bytesHeld_cons (p : Placement) (h : Holding ρ) (hs : Multiset (Holding ρ)) :
    bytesHeld p (h ::ₘ hs) = (if h.placement = p then h.size else 0) + bytesHeld p hs := by
  by_cases hp : h.placement = p <;> simp [bytesHeld, hp]

@[simp] theorem bytesHeld_singleton (p : Placement) (h : Holding ρ) :
    bytesHeld p {h} = if h.placement = p then h.size else 0 :=
  bytesHeld_cons p h 0

namespace Assets

/-- No more bytes are counted in a placement than the backend has handed out. -/
def Backed (x : Assets ρ) : Prop := ∀ p, bytesIn (.allocated p) x.1 ≤ bytesHeld p x.2

/-- The bytes counted in each placement are what the backend has handed out. -/
def Even (x : Assets ρ) : Prop := ∀ p, bytesIn (.allocated p) x.1 = bytesHeld p x.2

theorem Even.backed {x : Assets ρ} (h : x.Even) : x.Backed := fun p => (h p).le

theorem even_zero : Even (0 : Assets ρ) := fun _ => rfl

theorem Even.add {x y : Assets ρ} (hx : x.Even) (hy : y.Even) : Even (x + y) := by
  intro p
  simp [hx p, hy p]

theorem Backed.add {x y : Assets ρ} (hx : x.Backed) (hy : y.Backed) : Backed (x + y) := by
  intro p
  simpa using Nat.add_le_add (hx p) (hy p)

/-- Memory that has to be given back and whose bytes are counted no longer. -/
def owed (release : Option (Holding ρ)) : Assets ρ := (0, ↑release.toList)

@[simp] theorem owed_none : owed (none : Option (Holding ρ)) = 0 := rfl

@[simp] theorem owed_some (h : Holding ρ) : owed (some h) = (0, {h}) := rfl

theorem backed_owed (release : Option (Holding ρ)) : (owed release).Backed := fun _ => Nat.zero_le _

theorem even_sum {xs : Multiset (Assets ρ)} (h : ∀ x ∈ xs, x.Even) : Even xs.sum := by
  induction xs using Multiset.induction with
  | empty => exact even_zero
  | cons x xs ih =>
    rw [Multiset.sum_cons]
    exact (h x (Multiset.mem_cons_self x xs)).add (ih fun y hy => h y (Multiset.mem_cons_of_mem hy))

theorem backed_sum {xs : Multiset (Assets ρ)} (h : ∀ x ∈ xs, x.Backed) : Backed xs.sum := by
  induction xs using Multiset.induction with
  | empty => exact even_zero.backed
  | cons x xs ih =>
    rw [Multiset.sum_cons]
    exact (h x (Multiset.mem_cons_self x xs)).add (ih fun y hy => h y (Multiset.mem_cons_of_mem hy))

theorem le_sum {x : Assets ρ} {xs : Multiset (Assets ρ)} (hx : x ∈ xs) : x ≤ xs.sum := by
  obtain ⟨rest, rfl⟩ := Multiset.exists_cons_of_mem hx
  rw [Multiset.sum_cons]
  exact ⟨Multiset.le_add_right _ _, Multiset.le_add_right _ _⟩

theorem mem_sum {x : Assets ρ} {xs : Multiset (Assets ρ)} (hx : x ∈ xs) {p : Plan ρ} (hp : p ∈ x.1) :
    p ∈ xs.sum.1 :=
  Multiset.mem_of_le (le_sum hx).1 hp

/-- Assets that are one of each kind are counted. -/
theorem card_sum {xs : Multiset (Assets ρ)} (h : ∀ x ∈ xs, x.1.card = 1 ∧ x.2.card = 1) :
    xs.sum.1.card = xs.card ∧ xs.sum.2.card = xs.card := by
  induction xs using Multiset.induction with
  | empty => exact ⟨rfl, rfl⟩
  | cons x xs ih =>
    obtain ⟨h₁, h₂⟩ := h x (Multiset.mem_cons_self x xs)
    obtain ⟨ih₁, ih₂⟩ := ih fun y hy => h y (Multiset.mem_cons_of_mem hy)
    rw [Multiset.sum_cons, Prod.fst_add, Prod.snd_add, Multiset.card_add, Multiset.card_add,
      Multiset.card_cons, h₁, h₂, ih₁, ih₂, Nat.add_comm]
    exact ⟨rfl, rfl⟩

end Assets

/-- The assets of a block that is complete: its bytes are counted, unless it was attached, and if the
engine owns the memory, the backend has handed it out. -/
def Plan.worth (p : Plan ρ) : Assets ρ := (if p.account?.isSome then {p} else 0, ↑p.holding?.toList)

theorem Plan.mem_worth {p : Plan ρ} {a : Account} (ha : p.account? = some a) : p ∈ p.worth.1 := by
  simp [worth, ha]

theorem Plan.even_worth (p : Plan ρ) : p.worth.Even := by
  intro placement
  obtain ⟨layout, size, origin⟩ := p
  cases origin with
  | allocated q resource => simp [worth, account?, holding?]
  | imported handle => simp [worth, account?, holding?]
  | attached handle => simp [worth, account?, holding?]

/-! ### What deeds change -/

namespace Deed

/-- The block whose bytes a deed credited. -/
def credit? : Deed ρ → Option (Plan ρ)
  | credited p => some p
  | _ => none

/-- The block whose bytes a deed debited. -/
def debit? : Deed ρ → Option (Plan ρ)
  | debited b => some b.plan
  | _ => none

/-- The memory that a deed got from the backend. -/
def obtain? : Deed ρ → Option (Holding ρ)
  | asked r (.ok resource) => some (r.holding resource)
  | _ => none

/-- The memory that a deed gave back to the backend. -/
def release? : Deed ρ → Option (Holding ρ)
  | released h => some h
  | _ => none

/-- The assets that deeds brought. -/
def gain (ds : List (Deed ρ)) : Assets ρ := (↑(ds.filterMap credit?), ↑(ds.filterMap obtain?))

/-- The assets that deeds spent. -/
def loss (ds : List (Deed ρ)) : Assets ρ := (↑(ds.filterMap debit?), ↑(ds.filterMap release?))

attribute [simp] credit? debit? obtain? release?

@[simp] theorem gain_nil : gain ([] : List (Deed ρ)) = 0 := rfl

@[simp] theorem loss_nil : loss ([] : List (Deed ρ)) = 0 := rfl

@[simp] theorem gain_append (ds ds' : List (Deed ρ)) : gain (ds ++ ds') = gain ds + gain ds' := by
  simp [gain, ← Multiset.coe_add]

@[simp] theorem loss_append (ds ds' : List (Deed ρ)) : loss (ds ++ ds') = loss ds + loss ds' := by
  simp [loss, ← Multiset.coe_add]

@[simp] theorem gain_cons (d : Deed ρ) (ds : List (Deed ρ)) :
    gain (d :: ds) = ((↑d.credit?.toList, ↑d.obtain?.toList) : Assets ρ) + gain ds := by
  rw [gain, List.filterMap_cons, List.filterMap_cons, gain, Prod.mk_add_mk, Multiset.coe_add,
    Multiset.coe_add]
  cases d.credit? <;> cases d.obtain? <;> rfl

@[simp] theorem loss_cons (d : Deed ρ) (ds : List (Deed ρ)) :
    loss (d :: ds) = ((↑d.debit?.toList, ↑d.release?.toList) : Assets ρ) + loss ds := by
  rw [loss, List.filterMap_cons, List.filterMap_cons, loss, Prod.mk_add_mk, Multiset.coe_add,
    Multiset.coe_add]
  cases d.debit? <;> cases d.release? <;> rfl

theorem mem_gain_fst {ds : List (Deed ρ)} {p : Plan ρ} : p ∈ (gain ds).1 ↔ .credited p ∈ ds := by
  simp only [gain, Multiset.mem_coe, List.mem_filterMap]
  constructor
  · rintro ⟨d, hd, hp⟩
    cases d with
    | credited other =>
      cases hp
      exact hd
    | _ => cases hp
  · intro hm
    exact ⟨_, hm, rfl⟩

theorem mem_loss_fst {ds : List (Deed ρ)} {p : Plan ρ} :
    p ∈ (loss ds).1 ↔ ∃ b, .debited b ∈ ds ∧ b.plan = p := by
  simp only [loss, Multiset.mem_coe, List.mem_filterMap]
  constructor
  · rintro ⟨d, hd, hp⟩
    cases d with
    | debited b => exact ⟨b, hd, Option.some.inj hp⟩
    | _ => cases hp
  · rintro ⟨b, hm, rfl⟩
    exact ⟨_, hm, rfl⟩

theorem mem_loss_snd {ds : List (Deed ρ)} {h : Holding ρ} : h ∈ (loss ds).2 ↔ .released h ∈ ds := by
  simp only [loss, Multiset.mem_coe, List.mem_filterMap]
  constructor
  · rintro ⟨d, hd, hh⟩
    cases d with
    | released other =>
      cases hh
      exact hd
    | _ => cases hh
  · intro hm
    exact ⟨_, hm, rfl⟩

/-- The order of deeds does not matter to what they bring. -/
theorem gain_congr {ds ds' : List (Deed ρ)} (h : (↑ds : Multiset (Deed ρ)) = ↑ds') : gain ds = gain ds' :=
  congrArg (fun s => (Multiset.filterMap credit? s, Multiset.filterMap obtain? s)) h

/-- The order of deeds does not matter to what they spend. -/
theorem loss_congr {ds ds' : List (Deed ρ)} (h : (↑ds : Multiset (Deed ρ)) = ↑ds') : loss ds = loss ds' :=
  congrArg (fun s => (Multiset.filterMap debit? s, Multiset.filterMap release? s)) h

/-- A reading that passes over texts sees the effects only. -/
theorem filterMap_effects {γ : Type} {f : Deed ρ → Option γ} (hf : ∀ out, f (.said out) = none)
    (ds : List (Deed ρ)) : (effects ds).filterMap f = ds.filterMap f := by
  rw [effects, List.filterMap_filter]
  congr
  funext d
  cases d <;> simp [hf]

@[simp] theorem gain_effects (ds : List (Deed ρ)) : gain (effects ds) = gain ds := by
  rw [gain, filterMap_effects fun _ => rfl, filterMap_effects fun _ => rfl]
  rfl

@[simp] theorem loss_effects (ds : List (Deed ρ)) : loss (effects ds) = loss ds := by
  rw [loss, filterMap_effects fun _ => rfl, filterMap_effects fun _ => rfl]
  rfl

end Deed

/-! ### What a call holds on to -/

/-- The assets that a call is given: those of a block that is given back to the engine that made it. -/
def Call.brings (id : EngineId) : Call ρ → Assets ρ
  | .free b => if b.engine = id then b.plan.worth else 0
  | _ => 0

/-- The assets that a reply gives to the caller. -/
def Reply.worth : Reply ρ → Assets ρ
  | .made b => b.plan.worth
  | .freed | .failed _ => 0

/-- The assets of a block before it has an id; the bytes of a handle of others are credited later. -/
def Plan.inHand (p : Plan ρ) : Assets ρ := if p.holding?.isSome then p.worth else 0

/-- The assets of a call in a stage. -/
def Stage.assets (id : EngineId) : Stage ρ → Assets ρ
  | .opening call => call.brings id
  | .requesting _ => 0
  | .crediting r resource => .owed (some (r.holding resource))
  | .naming p | .placing p _ => p.inHand
  | .enrolling _ _ => 0
  | .settling b => b.plan.worth
  | .tracing b reply => .owed b.holding? + reply.worth
  | .surveying _ release reply | .writing _ release reply | .closing release reply =>
    .owed release + reply.worth

theorem Stage.assets_closing_none (id : EngineId) (reply : Reply ρ) :
    (Stage.closing none reply).assets id = reply.worth :=
  zero_add reply.worth

theorem Reply.even_worth (reply : Reply ρ) : reply.worth.Even := by
  cases reply with
  | made b => exact b.plan.even_worth
  | freed => exact Assets.even_zero
  | failed f => exact Assets.even_zero

theorem Plan.even_inHand (p : Plan ρ) : p.inHand.Even := by
  unfold inHand
  split
  · exact p.even_worth
  · exact Assets.even_zero

/-- While a call is in progress the ledger lags behind the backend, never the other way. -/
theorem Stage.backed_assets (id : EngineId) (s : Stage ρ) : (s.assets id).Backed := by
  have ends (release : Option (Holding ρ)) (reply : Reply ρ) :
      Assets.Backed (.owed release + reply.worth) :=
    (Assets.backed_owed release).add reply.even_worth.backed
  cases s with
  | opening call =>
    cases call with
    | free b =>
      simp only [assets, Call.brings]
      split
      · exact b.plan.even_worth.backed
      · exact Assets.even_zero.backed
    | _ => exact Assets.even_zero.backed
  | requesting r => exact Assets.even_zero.backed
  | crediting r resource => exact Assets.backed_owed _
  | naming p => exact p.even_inHand.backed
  | placing p id => exact p.even_inHand.backed
  | enrolling b handle => exact Assets.even_zero.backed
  | settling b => exact b.plan.even_worth.backed
  | tracing b reply => exact ends _ reply
  | surveying entry release reply => exact ends _ reply
  | writing entry release reply => exact ends _ reply
  | closing release reply => exact ends _ reply

/-! ### The balance of a call -/

variable {n : Nature} {call : Call ρ} {ds : List (Deed ρ)}

/-- A call that asks the backend is given nothing. -/
theorem Nature.brings_of_order? {r : Request} (h : n.order? call = some r) (id : EngineId) :
    call.brings id = 0 := by
  cases call with
  | free b => simp [order?] at h
  | _ => rfl

/-- A block as the caller has it and as it was planned. -/
theorem Request.worth_plan (r : Request) (resource : ρ) :
    (r.plan resource).worth = ({r.plan resource}, {r.holding resource}) := by
  simp [Plan.worth, plan, holding, Plan.account?, Plan.holding?]

theorem Prepares.balance {p : Plan ρ} (h : Prepares n call p ds) :
    call.brings n.id + Deed.gain ds = Deed.loss ds + p.inHand := by
  cases h with
  | @allocated _ r resource ho =>
    have hp : (r.plan resource).inHand = (r.plan resource).worth := rfl
    rw [Nature.brings_of_order? ho, hp, r.worth_plan]
    simp
  | imported ha => simp [Call.brings, Plan.inHand, Plan.holding?]
  | attached ha => simp [Call.brings, Plan.inHand, Plan.holding?]

theorem Achieves.balance {event : Event} {b : Block ρ} {release : Option (Holding ρ)} {reply : Reply ρ}
    (h : Achieves n call event b release reply ds) :
    call.brings n.id + Deed.gain ds = Deed.loss ds + (Assets.owed release + reply.worth) := by
  cases h with
  | @allocated _ _ r resource ho hp he =>
    rw [Nature.brings_of_order? ho, Reply.worth, hp, r.worth_plan]
    simp
  | imported ha hp he => simp [Call.brings, Reply.worth, hp, Plan.worth, Plan.account?, Plan.holding?]
  | attached ha hp he => simp [Call.brings, Reply.worth, hp, Plan.worth, Plan.account?, Plan.holding?]
  | @freed b release he hr =>
    have hh : b.holding? = b.plan.holding? := rfl
    rw [hr, hh]
    by_cases hs : b.plan.account?.isSome
    · simp [Call.brings, he, Plan.worth, hs, Assets.owed, Reply.worth]
    · simp [Call.brings, he, Plan.worth, hs, Assets.owed, Reply.worth]

/-- Writing to the log changes no assets. -/
theorem Nature.Logs.balance {event : Event} {b : Block ρ} {log : List (Deed ρ)} (h : n.Logs event b log) :
    Deed.gain log = 0 ∧ Deed.loss log = 0 := by
  cases h with
  | disabled hd => exact ⟨rfl, rfl⟩
  | logged hd ht => exact ⟨rfl, rfl⟩

/-- **The balance of a call**: what it was given and what it got is what it spent and what it holds. -/
theorem Course.balance {s : Stage ρ} (h : Course n call s ds) :
    call.brings n.id + Deed.gain ds = Deed.loss ds + s.assets n.id := by
  cases h with
  | opening => simp [Stage.assets]
  | declined ho hf =>
    cases call with
    | free b => simp [Call.brings, hf b rfl, Stage.assets, Reply.worth]
    | _ => simp [Call.brings, Stage.assets, Reply.worth]
  | requesting ho => simp [n.brings_of_order? ho, Stage.assets]
  | denied ho => simp [n.brings_of_order? ho, Stage.assets, Reply.worth]
  | crediting ho => simp [n.brings_of_order? ho, Stage.assets]
  | overdrawn ho => simp [n.brings_of_order? ho, Stage.assets, Reply.worth]
  | returned ho => simp [n.brings_of_order? ho, Stage.assets, Reply.worth]
  | naming hp => exact hp.balance
  | placing hp => simpa [Stage.assets, Prod.mk_zero_zero] using hp.balance
  | enrolling ha hp he => simp [Call.brings, Stage.assets]
  | unenrolled hp => simp [Call.brings, Stage.assets, Reply.worth]
  | settling he => simp [Call.brings, he, Stage.assets]
  | tracing ha => exact ha.balance
  | surveying ha hd ht => exact ha.balance
  | writing ha hd ht => exact ha.balance
  | concluded ha hl =>
    obtain ⟨hg, hs⟩ := hl.balance
    simpa [hg, hs, Stage.assets] using ha.balance
  | @released _ _ _ holding reply ds log ha hl =>
    obtain ⟨hg, hs⟩ := hl.balance
    have hb := ha.balance
    simpa [hg, hs, Stage.assets, Prod.mk_zero_zero, add_assoc] using hb

end DeviceMemory
