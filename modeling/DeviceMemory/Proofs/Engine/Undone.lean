import DeviceMemory.Backend.Scripted
import DeviceMemory.Proofs.Engine.Run

/-!
# What a call asks for, and what it leaves behind if it fails

A call asks the backend once for what its checks lead to, or not at all if one of them fails
(`Course.requests_eq_or`). A call that fails after the backend has answered gives back at once what it
got, and whatever fails, it has changed no account and logged no event (`Course.undone`).

For the backend this is told in two ways: by its calls, which cancel out (`Deed.Cancel`), and by any
tally of what it has handed out, which is what it was (`Deed.Undone.tally_eq`).
-/

namespace DeviceMemory

variable {β ρ : Type}

/-! ### What a call asks for -/

namespace Deed

/-- The request of a deed, if it asked the backend. -/
def request? : Deed ρ → Option Request
  | asked r _ => some r
  | _ => none

/-- The requests to the backend among deeds, in order. -/
def requests (ds : List (Deed ρ)) : List Request := ds.filterMap request?

attribute [simp] request?

@[simp] theorem requests_nil : requests ([] : List (Deed ρ)) = [] := rfl

@[simp] theorem requests_cons (d : Deed ρ) (ds : List (Deed ρ)) :
    requests (d :: ds) = d.request?.toList ++ requests ds := by
  rw [requests, List.filterMap_cons]
  cases d.request? <;> rfl

@[simp] theorem requests_append (ds ds' : List (Deed ρ)) :
    requests (ds ++ ds') = requests ds ++ requests ds' :=
  List.filterMap_append

theorem requests_effects (ds : List (Deed ρ)) : requests (effects ds) = requests ds :=
  filterMap_effects (fun _ => rfl) ds

end Deed

variable {n : Nature} {call : Call ρ} {s : Stage ρ} {ds : List (Deed ρ)}

open Deed

theorem Prepares.requests_eq {p : Plan ρ} (h : Prepares n call p ds) :
    requests ds = (n.order? call).toList := by
  cases h with
  | allocated ho => simp [ho]
  | imported ha => rfl
  | attached ha => rfl

theorem Achieves.requests_eq {event : Event} {b : Block ρ} {release : Option (Holding ρ)} {reply : Reply ρ}
    (h : Achieves n call event b release reply ds) : requests ds = (n.order? call).toList := by
  cases h with
  | allocated ho hp he => simp [ho]
  | imported ha hp he => rfl
  | attached ha hp he => rfl
  | freed he hr => split <;> rfl

theorem Nature.Logs.requests_eq {event : Event} {b : Block ρ} (h : n.Logs event b ds) : requests ds = [] := by
  cases h <;> rfl

/-- **A call asks the backend for what its checks lead to**, once it gets that far. -/
theorem Course.requests_eq_or (h : Course n call s ds) :
    requests ds = (n.order? call).toList ∨ requests ds = [] ∧ s.reply? = none := by
  cases h with
  | opening => exact .inr ⟨rfl, rfl⟩
  | requesting ho => exact .inr ⟨rfl, rfl⟩
  | declined ho hf => exact .inl (by simp [ho])
  | denied ho | crediting ho | overdrawn ho | returned ho => exact .inl (by simp [ho])
  | naming hp => exact .inl hp.requests_eq
  | placing hp => exact .inl (by simp [hp.requests_eq])
  | enrolling ha hp he => exact .inl rfl
  | unenrolled hp => exact .inl rfl
  | settling he => exact .inl rfl
  | tracing ha => exact .inl ha.requests_eq
  | surveying ha hd ht => exact .inl ha.requests_eq
  | writing ha hd ht => exact .inl ha.requests_eq
  | concluded ha hl => exact .inl (by simp [ha.requests_eq, hl.requests_eq])
  | released ha hl => exact .inl (by simp [ha.requests_eq, hl.requests_eq])

theorem Course.prefix_order (h : Course n call s ds) : requests ds <+: (n.order? call).toList := by
  rcases h.requests_eq_or with hr | ⟨hr, -⟩
  · rw [hr]
  · rw [hr]
    exact List.nil_prefix

theorem Course.requests_eq {reply : Reply ρ} (h : Course n call (.closing none reply) ds) :
    requests ds = (n.order? call).toList := by
  rcases h.requests_eq_or with hr | ⟨-, hs⟩
  · exact hr
  · cases hs

/-! ### What a call that fails leaves behind -/

namespace Deed

/-- Calls of a backend that cancel out. -/
inductive Cancel : List (Deed ρ) → Prop
  /-- It was not called. -/
  | untouched : Cancel []
  /-- It refused. -/
  | denied (r : Request) (err : BackendError) : Cancel [.asked r (.error err)]
  /-- It got back what it gave. -/
  | returned (r : Request) (resource : ρ) : Cancel [.asked r (.ok resource), .released (r.holding resource)]

/-- Deeds that leave nothing behind. -/
structure Undone (ds : List (Deed ρ)) : Prop where
  /-- No bytes were credited. -/
  not_credited : (gain ds).1 = 0
  /-- No bytes were debited. -/
  not_debited : (loss ds).1 = 0
  /-- The calls of the backend cancel out. -/
  cancel : Cancel (backendCalls ds)
  /-- No event was logged. -/
  not_logged (entry : Entry) : .logged entry ∉ ds

theorem backendCalls_effects (ds : List (Deed ρ)) : backendCalls (effects ds) = backendCalls ds := by
  rw [backendCalls, effects, List.filter_filter, backendCalls]
  congr
  funext d
  cases d <;> rfl

/-- Texts leave nothing behind. -/
theorem Undone.of_effects (h : Undone (effects ds)) : Undone ds where
  not_credited := gain_effects ds ▸ h.not_credited
  not_debited := loss_effects ds ▸ h.not_debited
  cancel := backendCalls_effects ds ▸ h.cancel
  not_logged entry hm := h.not_logged entry (mem_effects.mpr ⟨hm, rfl⟩)

end Deed

/-- **A call that failed has left nothing behind.** -/
theorem Course.undone {f : Failure} (h : Course n call (.closing none (.failed f)) ds) : Undone ds := by
  cases h with
  | declined ho hf => exact ⟨rfl, rfl, .untouched, by simp⟩
  | @denied _ r err _ ho => exact ⟨rfl, rfl, .denied r err, by simp⟩
  | @returned _ r resource _ ho => exact ⟨rfl, rfl, .returned r resource, by simp⟩
  | unenrolled hp => exact ⟨rfl, rfl, .untouched, by simp⟩
  | concluded ha hl => cases ha
  | released ha hl => cases ha

/-! ### What is left of it in the engine -/

variable [Backend β ρ]

/-- A tally of what a backend has handed out and not got back; a resource counts `w` in it. -/
structure Backend.Tallies {M : Type} [AddCommMonoid M] (out : β → M) (w : ρ → M) : Prop where
  /-- A refusal changes nothing. -/
  denied {b : β} {r : Request} {err : BackendError} : (Backend.allocate b r).1 = .error err →
    out (Backend.allocate b r).2 = out b
  /-- What is handed out counts from then on. -/
  granted {b : β} {r : Request} {resource : ρ} : (Backend.allocate b r).1 = .ok resource →
    out (Backend.allocate b r).2 = out b + w resource
  /-- What is given back counts no longer. -/
  returned {b : β} {resource : ρ} {rest : M} : out b = rest + w resource →
    out (Backend.release b resource) = rest

/-- The bytes in use are a tally of a scripted backend. -/
theorem ScriptedBackend.tallies_inUse : Backend.Tallies ScriptedBackend.inUse ScriptedResource.bytes where
  denied {b r err} h := by
    simp only [Backend.allocate, ScriptedBackend.allocate] at h ⊢
    split at h
    · rfl
    · cases h
  granted {b r resource} h := by
    simp only [Backend.allocate, ScriptedBackend.allocate] at h ⊢
    split at h
    · cases h
    · cases h
      rfl
  returned {b resource rest} h := by
    show b.inUse - resource.bytes = rest
    omega

theorem Deed.Undone.tally_eq (h : Undone ds) {b b' : β} (hs : Backend.Serves b ds b') {M : Type}
    [AddCommMonoid M] {out : β → M} {w : ρ → M} (ht : Backend.Tallies out w) : out b' = out b := by
  have hcalls := Backend.serves_backendCalls.mpr hs
  have hcancel := h.cancel
  generalize backendCalls ds = calls at hcalls hcancel
  cases hcancel with
  | untouched =>
    cases hcalls
    rfl
  | denied r err =>
    obtain ⟨ha, hb⟩ := hcalls
    cases hb
    exact ht.denied ha.symm
  | returned r resource =>
    obtain ⟨ha, hb⟩ := hcalls
    cases hb
    exact ht.returned (ht.granted ha.symm)

/-- A call has left an engine as it was. -/
structure Progress.Reverts (p : Progress β ρ) (e : Engine β) : Prop where
  /-- The ledger is what it was, down to the accounts that it lists. -/
  ledger_eq : p.engine.ledger = e.ledger
  /-- All that the call did is undone. -/
  undone : Undone p.deeds
  /-- The backend was called as the call tells, and no more. -/
  served : Backend.Serves e.backend p.deeds p.engine.backend
  /-- What the backend has handed out is what it was. -/
  tally_eq {M : Type} [AddCommMonoid M] {out : β → M} {w : ρ → M} : Backend.Tallies out w →
    out p.engine.backend = out e.backend

/-- A call that nothing interrupts and that fails leaves the engine as it was. -/
theorem Engine.Runs.reverts {e : Engine β} {p : Progress β ρ} (h : e.Runs call p) {f : Failure}
    (hf : p.stage = .closing none (.failed f)) : p.Reverts e := by
  have hcourse := h.course
  rw [hf] at hcourse
  have hundone : Undone p.deeds := hcourse.undone.of_effects
  have hledger := h.ledger
  rw [Ledger.enterAll?_of_not_counted hundone.not_credited hundone.not_debited] at hledger
  exact {
    ledger_eq := (Option.some.inj hledger).symm
    undone := hundone
    served := h.served
    tally_eq := hundone.tally_eq h.served }

end DeviceMemory
