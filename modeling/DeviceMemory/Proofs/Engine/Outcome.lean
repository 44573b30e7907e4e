import DeviceMemory.Proofs.Engine.Draws
import DeviceMemory.Proofs.Engine.Room

/-!
# How allocations and frees end

An allocation ends in one of four ways, and what it has done says which (`Course.allocation_cases`); a
block that is given back to the engine that made it is taken back (`Course.freed_of_free`). What it tried
to credit is never more than what it asked for (`Course.tried_le`).
-/

namespace DeviceMemory

variable {β ρ : Type}

/-- Whether a call asks for memory of the backend. -/
def Call.isAllocation : Call ρ → Bool
  | .allocate _ _ | .allocateLockable _ | .allocateAs _ _ _ => true
  | .share _ _ | .attach _ _ | .free _ => false

/-- The bytes that requests ask for in an account. -/
def Request.bytesIn (a : Account) (rs : Multiset Request) : Nat :=
  ((rs.filter fun r => .allocated r.placement = a).map Request.size).sum

@[simp] theorem Request.bytesIn_zero (a : Account) : Request.bytesIn a 0 = 0 := rfl

@[simp] theorem Request.bytesIn_add (a : Account) (rs qs : Multiset Request) :
    Request.bytesIn a (rs + qs) = Request.bytesIn a rs + Request.bytesIn a qs := by
  simp [bytesIn, Multiset.filter_add]

@[simp] theorem Request.bytesIn_cons (a : Account) (r : Request) (rs : Multiset Request) :
    Request.bytesIn a (r ::ₘ rs) = (if .allocated r.placement = a then r.size else 0) + Request.bytesIn a rs := by
  by_cases h : Account.allocated r.placement = a <;> simp [bytesIn, h]

@[simp] theorem Request.bytesIn_singleton (a : Account) (r : Request) :
    Request.bytesIn a {r} = if .allocated r.placement = a then r.size else 0 :=
  Request.bytesIn_cons a r 0

variable {n : Nature} {call : Call ρ} {reply : Reply ρ} {ds : List (Deed ρ)}

/-- **How an allocation ends**, and what it has done by then. -/
inductive Allocates (n : Nature) (call : Call ρ) : Reply ρ → List (Deed ρ) → Prop
  /-- A check that comes before the backend is asked has failed. -/
  | declined {f : Failure} (ho : n.order? call = none) : Allocates n call (.failed f) []
  /-- The backend refused. -/
  | denied {r : Request} {err : BackendError} {f : Failure} (ho : n.order? call = some r) :
    Allocates n call (.failed f) [.asked r (.error err)]
  /-- The ledger refused, and the memory was given back. -/
  | overdrawn {r : Request} {resource : ρ} {f : Failure} (ho : n.order? call = some r) :
    Allocates n call (.failed f)
      [.asked r (.ok resource), .refused (r.plan resource), .released (r.holding resource)]
  /-- A block was made. -/
  | made {r : Request} {resource : ρ} {b : Block ρ} {log : List (Deed ρ)} (ho : n.order? call = some r)
    (hp : b.plan = r.plan resource) (hl : n.Logs .allocated b log) :
    Allocates n call (.made b) ([.asked r (.ok resource), .credited (r.plan resource), .named b.id] ++ log)

theorem Course.allocation_cases (h : Course n call (.closing none reply) ds) (hc : call.isAllocation = true) :
    Allocates n call reply ds := by
  cases h with
  | declined ho hf => exact .declined ho
  | denied ho => exact .denied ho
  | returned ho => exact .overdrawn ho
  | unenrolled hp => cases hc
  | concluded ha hl =>
    cases ha with
    | allocated ho hp he =>
      rw [hp]
      exact .made ho hp hl
    | imported hi hp he => cases hc
    | attached hi hp he => cases hc
    | freed he hr => cases hc
  | released ha hl =>
    cases ha with
    | freed he hr => cases hc

namespace Allocates

/-- What was tried is part of what was asked for. -/
theorem tried_le (h : Allocates n call reply ds) (a : Account) :
    bytesIn a (Deed.tried ds) ≤ Request.bytesIn a ↑(Deed.requests ds) := by
  have none_tried {event : Event} {b : Block ρ} {log : List (Deed ρ)} (hl : n.Logs event b log) :
      Deed.tried log = 0 := by
    cases hl <;> rfl
  cases h with
  | declined ho => exact le_rfl
  | denied ho => exact Nat.zero_le _
  | @overdrawn r resource f ho => simp [Request.plan, Plan.account?]
  | @made r resource b log ho hp hl =>
    simp [none_tried hl, hl.requests_eq, Request.plan, Plan.account?]

/-- A block is made by an allocation that passed its checks, whatever else was refused it. -/
theorem made_or_failed (h : Allocates n call reply ds) : (∃ b, reply = .made b) ∨ ∃ f, reply = .failed f := by
  cases h with
  | made ho hp hl => exact .inl ⟨_, rfl⟩
  | _ => exact .inr ⟨_, rfl⟩

/-- An allocation that passes its checks and is refused nothing makes a block. -/
theorem exists_made (h : Allocates n call reply ds) (ho : (n.order? call).isSome)
    (hd : ∀ r err, .asked r (.error err) ∉ ds) (hr : ∀ p a, p.account? = some a → .refused p ∉ ds) :
    ∃ b, reply = .made b := by
  cases h with
  | declined hn => simp [hn] at ho
  | denied ho => exact absurd List.mem_cons_self (hd _ _)
  | overdrawn ho => exact absurd (List.mem_cons_of_mem _ List.mem_cons_self) (hr _ _ rfl)
  | made ho hp hl => exact ⟨_, rfl⟩

end Allocates

/-- What an allocation has done that made a block. -/
structure Block.MadeBy (b : Block ρ) (n : Nature) (call : Call ρ) (ds : List (Deed ρ)) : Prop where
  /-- It got what its checks led to. -/
  order : ∃ r resource, n.order? call = some r ∧ b.plan = r.plan resource ∧ .credited (r.plan resource) ∈ ds
  /-- What it gained is the block. -/
  gain_eq : Deed.gain ds = b.plan.worth
  /-- Memory was got once, and once credited. -/
  card_eq : (Deed.gain ds).1.card = 1 ∧ (Deed.gain ds).2.card = 1
  /-- Its bytes are those that were asked for. -/
  bytesIn_eq (a : Account) : bytesIn a (Deed.gain ds).1 = Request.bytesIn a ↑(Deed.requests ds)
  /-- They are counted where they were asked for. -/
  accounts_eq : (Deed.gain ds).1.map Plan.account? =
    (↑(Deed.requests ds) : Multiset Request).map fun r => some (.allocated r.placement)
  /-- It drew one id. -/
  names_eq : Deed.names ds = 1
  /-- Nothing was refused, debited or given back. -/
  smooth : ∀ d ∈ ds, d.debit? = none ∧ d.release? = none ∧ (∀ r err, d ≠ .asked r (.error err)) ∧
    ∀ p, d ≠ .refused p

theorem Allocates.madeBy {b : Block ρ} (h : Allocates n call (.made b) ds) : b.MadeBy n call ds := by
  cases h with
  | @made r resource _ log ho hp hl =>
    have hgain : Deed.gain log = 0 := hl.balance.1
    have hnames : Deed.names log = 0 := by cases hl <;> rfl
    have hlog : ∀ d ∈ log, d.debit? = none ∧ d.release? = none ∧ (∀ r err, d ≠ .asked r (.error err)) ∧
        ∀ p, d ≠ .refused p := by
      cases hl <;> simp
    exact {
      order := ⟨r, resource, ho, hp, by simp⟩
      gain_eq := by
        rw [hp, r.worth_plan]
        simp [hgain]
      card_eq := by simp [hgain]
      bytesIn_eq := fun a => by simp [hgain, hl.requests_eq, Request.plan, Plan.account?]
      accounts_eq := by simp [hgain, hl.requests_eq, Request.plan, Plan.account?]
      names_eq := by simp [hnames]
      smooth := by
        intro d hd
        rcases List.mem_append.mp hd with hd | hd
        · simp only [List.mem_cons, List.not_mem_nil, or_false] at hd
          rcases hd with rfl | rfl | rfl <;> simp
        · exact hlog d hd }

/-! ### Blocks that are given back -/

/-- A call that gives a block back makes none. -/
theorem Course.not_made_of_free {b b' : Block ρ} (h : Course n (.free b) (.closing none (.made b')) ds) :
    False := by
  cases h with
  | concluded ha hl =>
    cases ha with
    | allocated ho hp he => cases ho
  | released ha hl => cases ha

/-- What a call has done that gave a block back. -/
structure Block.FreedBy (b : Block ρ) (reply : Reply ρ) (ds : List (Deed ρ)) : Prop where
  /-- The block was taken back. -/
  reply_eq : reply = .freed
  /-- The backend was asked for nothing. -/
  requests_eq : Deed.requests ds = []
  /-- Nothing was credited. -/
  gain_eq : Deed.gain ds = 0
  /-- What was spent is the block. -/
  loss_eq : Deed.loss ds = b.plan.worth
  /-- No id was drawn. -/
  names_eq : Deed.names ds = 0

/-- **A block that is given back to the engine that made it is taken back**, with all that it is worth. -/
theorem Course.freedBy {b : Block ρ} (h : Course n (.free b) (.closing none reply) ds) (hb : b.engine = n.id) :
    b.FreedBy reply ds := by
  have hreply := h.reply_of_free hb
  have hrequests : Deed.requests ds = [] := h.requests_eq
  have hquiet : Deed.gain ds = 0 ∧ Deed.names ds = 0 := by
    have of_logs {event : Event} {log : List (Deed ρ)} (hl : n.Logs event b log) :
        Deed.gain log = 0 ∧ Deed.names log = 0 := ⟨hl.balance.1, by cases hl <;> rfl⟩
    subst hreply
    cases h with
    | concluded ha hl =>
      cases ha with
      | freed he hr =>
        obtain ⟨hg, hn⟩ := of_logs hl
        split <;> simp [hg, hn]
    | released ha hl =>
      cases ha with
      | freed he hr =>
        obtain ⟨hg, hn⟩ := of_logs hl
        split <;> simp [hg, hn, Prod.mk_zero_zero]
  have hbalance := h.balance
  rw [hquiet.1, hreply, Stage.assets_closing_none, Call.brings, if_pos hb, Reply.worth, add_zero,
    add_zero] at hbalance
  exact ⟨hreply, hrequests, hquiet.1, hbalance.symm, hquiet.2⟩

end DeviceMemory
