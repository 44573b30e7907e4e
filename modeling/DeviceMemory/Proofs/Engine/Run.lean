import DeviceMemory.Proofs.Engine.Books
import DeviceMemory.Proofs.Engine.Service

/-!
# A call that nothing interrupts

When no other thread runs in between, the engine that a call works on is at every step the one that
the call itself left. So what is shown of single steps holds from the first step to the last, with
one condition on the engine at the beginning: that the bytes of a block to be freed are in use
(`Engine.runs_run`). What the ledger has changed by in the end is the bytes of one block
(`Engine.Runs.get?_of_made`, `Engine.Runs.get?_of_free`).
-/

namespace DeviceMemory

variable {β ρ : Type}

/-- Before a block of the engine's own is debited, a call that frees it has done nothing. -/
theorem Course.eq_nil_of_free {n : Nature} {call : Call ρ} {s : Stage ρ} {ds : List (Deed ρ)} {b : Block ρ}
    (h : Course n call s ds) (hs : (s = .opening (.free b) ∧ b.engine = n.id) ∨ s = .settling b) :
    call = .free b ∧ b.engine = n.id ∧ ds = [] := by
  rcases hs with ⟨rfl, hb⟩ | rfl
  · cases h with
    | opening => exact ⟨rfl, hb, rfl⟩
  · cases h with
    | settling hb => exact ⟨rfl, hb, rfl⟩

/-! ### What a call enters in the end -/

namespace Ledger

variable {n : Nature} {call : Call ρ} {b : Block ρ} {ds : List (Deed ρ)} {l l' : Ledger}

/-- Deeds that are not entered can be left out at the end. -/
theorem enterAll?_append_idle {ds' : List (Deed ρ)} (h : ∀ l : Ledger, l.enterAll? ds' = some l) (l : Ledger) :
    l.enterAll? (ds ++ ds') = l.enterAll? ds := by
  rw [enterAll?_append, funext h, Option.bind_fun_some]

/-- What is logged is not entered. -/
theorem enterAll?_of_logs {event : Event} {log : List (Deed ρ)} (h : n.Logs event b log) (l : Ledger) :
    l.enterAll? log = some l := by
  cases h <;> rfl

/-- A call that makes a block enters its bytes, if they are counted, and nothing else. -/
theorem enterAll?_of_made (h : Course n call (.closing none (.made b)) ds) (l : Ledger) :
    l.enterAll? ds = l.enterAll? (if b.plan.account?.isSome then [.credited b.plan] else []) := by
  cases h with
  | concluded ha hl =>
    rw [enterAll?_append_idle (enterAll?_of_logs hl)]
    cases ha with
    | allocated ho hp he => simp [hp, Request.plan, Plan.account?, enter?]
    | imported hi hp he => simp [hp, Plan.account?, enter?]
    | attached hi hp he => simp [hp, Plan.account?, enter?]
  | released ha hl => cases ha

/-- A call that takes a block back takes its bytes off, if they are counted, and does nothing else. -/
theorem enterAll?_of_free {reply : Reply ρ} (h : Course n (.free b) (.closing none reply) ds)
    (hb : b.engine = n.id) (l : Ledger) :
    l.enterAll? ds = l.enterAll? (if b.plan.account?.isSome then [.debited b] else []) := by
  obtain rfl := h.reply_of_free hb
  cases h with
  | concluded ha hl =>
    rw [enterAll?_append_idle (enterAll?_of_logs hl)]
    cases ha with
    | freed he hr => rfl
  | released ha hl =>
    rw [enterAll?_append_idle fun _ => rfl, enterAll?_append_idle (enterAll?_of_logs hl)]
    cases ha with
    | freed he hr => rfl

theorem get?_of_credited {p : Plan ρ}
    (h : l.enterAll? (if p.account?.isSome then [.credited p] else ([] : List (Deed ρ))) = some l') (a : Account) :
    l'.get? a = if p.account? = some a then some ⟨l.current a + p.size, max (l.peak a) (l.current a + p.size)⟩
      else l.get? a := by
  cases hk : p.account? with
  | none => simp_all
  | some k =>
    have he : outcome? (l.credit k p.size) = some l' := by simpa [hk, enter?] using h
    rw [outcome?_credit he, get?_set]
    by_cases hak : a = k <;> simp [hak, eq_comm]

theorem get?_of_debited (h : l.enterAll? (if b.plan.account?.isSome then [.debited b] else []) = some l')
    (a : Account) :
    l'.get? a = if b.plan.account? = some a then some ⟨l.current a - b.size, l.peak a⟩ else l.get? a := by
  cases hk : b.plan.account? with
  | none => simp_all
  | some k =>
    have he : outcome? (l.debit k b.size) = some l' := by simpa [hk, enter?] using h
    rw [(outcome?_debit he).2, get?_set]
    by_cases hak : a = k <;> simp [hak, eq_comm]

end Ledger

/-! ### The engine that a call works on alone -/

variable [Backend β ρ]

/-- What a call has made of an engine that only it works on. -/
structure Engine.Runs (e : Engine β) (call : Call ρ) (p : Progress β ρ) : Prop where
  /-- It is the same engine. -/
  nature_eq : p.engine.nature = e.nature
  /-- The call has followed its course. -/
  course : Course e.nature call p.stage (Deed.effects p.deeds)
  /-- The ledger was changed by what the call has done. -/
  ledger : e.ledger.enterAll? p.deeds = some p.engine.ledger
  /-- The backend was asked and given back what the call has done. -/
  served : Backend.Serves e.backend p.deeds p.engine.backend

namespace Engine.Runs

variable {e : Engine β} {call : Call ρ} {p : Progress β ρ}

/-- The bytes of a block to be freed are still in use when they are to be debited. -/
theorem covers (h : e.Runs call p) (hc : e.Covers (.opening call)) : p.engine.Covers p.stage := by
  intro b hb a ha
  have hid : p.engine.id = e.id := congrArg Nature.id h.nature_eq
  rw [hid] at hb
  obtain ⟨rfl, hbe, hds⟩ := h.course.eq_nil_of_free hb
  -- the call has done nothing yet, so the ledger is the one that it began with
  have hl : p.engine.ledger = e.ledger := by
    have hledger := h.ledger
    rw [← Ledger.enterAll?_effects, hds] at hledger
    exact (Option.some.inj hledger).symm
  rw [hl]
  exact hc b (.inl ⟨rfl, hbe⟩) a ha

theorem next (h : e.Runs call p) (hc : e.Covers (.opening call)) (thread : ThreadId) :
    e.Runs call (p.next thread) := by
  have hcov := h.covers hc
  have hcourse : Course p.engine.nature call p.stage (Deed.effects p.deeds) := h.nature_eq ▸ h.course
  have hfollows := hcourse.advance thread p.commons hcov
  have hledger := enterAll?_advance thread p.commons hcourse hcov
  have hnature := p.engine.nature_advance thread p.commons p.stage
  exact {
    nature_eq := hnature.trans h.nature_eq
    course := by
      rw [Progress.next, Deed.effects_append, ← h.nature_eq]
      exact hfollows
    ledger := by
      rw [Progress.next, Ledger.enterAll?_append, h.ledger]
      exact hledger
    served := Backend.serves_append h.served (p.engine.serves_advance thread p.commons p.stage) }

theorem steps (h : e.Runs call p) (hc : e.Covers (.opening call)) (thread : ThreadId) (n : Nat) :
    e.Runs call (p.steps thread n) := by
  induction n generalizing p with
  | zero => exact h
  | succ n ih => exact ih (h.next hc thread)

end Engine.Runs

/-- **A call that nothing interrupts follows its course to the end**, and changes the engine by what it
has done and by nothing else. -/
theorem Engine.runs_run (thread : ThreadId) (e : Engine β) (c : Commons) {call : Call ρ}
    (hc : e.Covers (.opening call)) : e.Runs call (e.run thread c call) := by
  have hstart : e.Runs call ⟨e, c, .opening call, []⟩ := ⟨rfl, .opening, rfl, rfl⟩
  exact hstart.steps hc thread _

namespace Engine.Runs

variable {e : Engine β} {call : Call ρ} {p : Progress β ρ} {b : Block ρ}

/-- **A call that makes a block enters its bytes in one account**, or in none, and nothing else. -/
theorem get?_of_made (h : e.Runs call p) (hs : p.stage = .closing none (.made b)) (a : Account) :
    p.engine.ledger.get? a = if b.plan.account? = some a then
      some ⟨e.ledger.current a + b.size, max (e.ledger.peak a) (e.ledger.current a + b.size)⟩
      else e.ledger.get? a := by
  have hledger := h.ledger
  rw [← Ledger.enterAll?_effects, Ledger.enterAll?_of_made (hs ▸ h.course)] at hledger
  exact Ledger.get?_of_credited hledger a

/-- **A call that takes a block back takes its bytes off one account**, or off none, and nothing else. -/
theorem get?_of_free {reply : Reply ρ} (h : e.Runs (.free b) p) (hb : b.engine = e.id)
    (hs : p.stage = .closing none reply) (a : Account) :
    p.engine.ledger.get? a = if b.plan.account? = some a then some ⟨e.ledger.current a - b.size, e.ledger.peak a⟩
      else e.ledger.get? a := by
  have hledger := h.ledger
  rw [← Ledger.enterAll?_effects, Ledger.enterAll?_of_free (hs ▸ h.course) hb] at hledger
  exact Ledger.get?_of_debited hledger a

end Engine.Runs

end DeviceMemory
