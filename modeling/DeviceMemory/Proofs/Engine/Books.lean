import DeviceMemory.Proofs.Engine.Assets

/-!
# An engine keeps its books

The ledger of an engine is what its deeds enter into it, and every credit and debit among its deeds
was accepted (`Engine.enterAll?_advance`). So what it holds of an account is what was credited less
what was debited (`Ledger.bytesIn_gain`), and an account exists as soon as a block was credited in it
(`Ledger.isSome_of_mem_gain`).

A credit of the ledger that is refused leaves it as it was only because the size of a block is a
machine word; the course of the call says so.
-/

namespace DeviceMemory

variable {β ρ : Type}

namespace Ledger

/-- The ledger after an operation that has to be accepted. -/
def outcome? : Except LedgerError Unit × Ledger → Option Ledger
  | (.ok (), l) => some l
  | (.error _, _) => none

/-- The ledger after a deed; a credit or a debit has to be accepted. -/
def enter? (l : Ledger) : Deed ρ → Option Ledger
  | .credited p => p.account?.bind fun a => outcome? (l.credit a p.size)
  | .debited b => b.plan.account?.bind fun a => outcome? (l.debit a b.size)
  | _ => some l

/-- The ledger after several deeds, in order. -/
def enterAll? (l : Ledger) (ds : List (Deed ρ)) : Option Ledger := ds.foldlM enter? l

/-! ### One deed -/

theorem outcome?_credit {l l' : Ledger} {a : Account} {bytes : Nat}
    (h : outcome? (l.credit a bytes) = some l') :
    l' = l.set ⟨l.current a + bytes, max (l.peak a) (l.current a + bytes)⟩ a := by
  by_cases hle : l.current a + bytes ≤ maxWord
  · rw [credit_of_le hle] at h
    cases h
    rfl
  · have hn : ¬ (l.balance a).current + bytes ≤ maxWord := hle
    simp [credit, hn, outcome?] at h

theorem outcome?_debit {l l' : Ledger} {a : Account} {bytes : Nat}
    (h : outcome? (l.debit a bytes) = some l') :
    bytes ≤ l.current a ∧ l' = l.set ⟨l.current a - bytes, l.peak a⟩ a := by
  cases hg : l.get? a with
  | none =>
    rw [debit_of_none bytes hg] at h
    cases h
  | some b =>
    by_cases hle : bytes ≤ l.current a
    · rw [debit_of_le hg hle] at h
      cases h
      exact ⟨hle, rfl⟩
    · rw [debit_of_lt hg (Nat.lt_of_not_le hle)] at h
      cases h

/-- What one deed does to the ledger: it adds to an account, or takes from one, or does nothing. -/
theorem enter?_cases {l l' : Ledger} {d : Deed ρ} (h : l.enter? d = some l') :
    (∃ p a, d = .credited p ∧ p.account? = some a ∧
      l' = l.set ⟨l.current a + p.size, max (l.peak a) (l.current a + p.size)⟩ a) ∨
    (∃ b a, d = .debited b ∧ b.plan.account? = some a ∧ b.size ≤ l.current a ∧
      l' = l.set ⟨l.current a - b.size, l.peak a⟩ a) ∨
    (d.credit? = none ∧ d.debit? = none ∧ l' = l) := by
  cases d with
  | credited p =>
    obtain ⟨a, ha, ho⟩ := Option.bind_eq_some_iff.mp h
    exact .inl ⟨p, a, rfl, ha, outcome?_credit ho⟩
  | debited b =>
    obtain ⟨a, ha, ho⟩ := Option.bind_eq_some_iff.mp h
    obtain ⟨hle, hl⟩ := outcome?_debit ho
    exact .inr (.inl ⟨b, a, rfl, ha, hle, hl⟩)
  | _ =>
    cases h
    exact .inr (.inr ⟨rfl, rfl, rfl⟩)

theorem isSome_of_enter? {l l' : Ledger} {d : Deed ρ} (h : l.enter? d = some l') {a : Account}
    (ha : (l.get? a).isSome) : (l'.get? a).isSome := by
  rcases enter?_cases h with ⟨p, k, -, -, rfl⟩ | ⟨b, k, -, -, -, rfl⟩ | ⟨-, -, rfl⟩
  · by_cases hk : a = k <;> simp [hk, ha]
  · by_cases hk : a = k <;> simp [hk, ha]
  · exact ha

/-! ### Several deeds -/

@[simp] theorem enterAll?_nil (l : Ledger) : l.enterAll? ([] : List (Deed ρ)) = some l := rfl

@[simp] theorem enterAll?_cons (l : Ledger) (d : Deed ρ) (ds : List (Deed ρ)) :
    l.enterAll? (d :: ds) = (l.enter? d).bind (·.enterAll? ds) := rfl

theorem enterAll?_append (l : Ledger) (ds ds' : List (Deed ρ)) :
    l.enterAll? (ds ++ ds') = (l.enterAll? ds).bind (·.enterAll? ds') := by
  simp [enterAll?, List.foldlM_append]

theorem enterAll?_effects (l : Ledger) (ds : List (Deed ρ)) :
    l.enterAll? (Deed.effects ds) = l.enterAll? ds := by
  induction ds generalizing l with
  | nil => rfl
  | cons d ds ih => cases d <;> simp [ih, enter?]

/-- **The books balance**: what was there and what was credited is what was debited and what is there
now. -/
theorem bytesIn_gain {l l' : Ledger} {ds : List (Deed ρ)} (h : l.enterAll? ds = some l') (a : Account) :
    l.current a + bytesIn a (Deed.gain ds).1 = bytesIn a (Deed.loss ds).1 + l'.current a := by
  induction ds generalizing l with
  | nil =>
    cases h
    simp
  | cons d ds ih =>
    obtain ⟨m, hm, hl⟩ := Option.bind_eq_some_iff.mp h
    have hrest := ih hl
    rcases enter?_cases hm with ⟨p, k, rfl, hp, rfl⟩ | ⟨b, k, rfl, hb, hle, rfl⟩ | ⟨hc, hd, rfl⟩
    · by_cases hk : a = k
      · simp [hk, hp] at hrest ⊢
        omega
      · simp [hk, hp, Ne.symm hk] at hrest ⊢
        omega
    · have hs : b.plan.size = b.size := rfl
      by_cases hk : a = k
      · simp [hk, hb, hs] at hrest ⊢
        omega
      · simp [hk, hb, Ne.symm hk] at hrest ⊢
        omega
    · rw [Deed.gain_cons, Deed.loss_cons, hc, hd]
      simpa using hrest

theorem isSome_of_enterAll? {l l' : Ledger} {ds : List (Deed ρ)} (h : l.enterAll? ds = some l') {a : Account}
    (ha : (l.get? a).isSome) : (l'.get? a).isSome := by
  induction ds generalizing l with
  | nil =>
    cases h
    exact ha
  | cons d ds ih =>
    obtain ⟨m, hm, hl⟩ := Option.bind_eq_some_iff.mp h
    exact ih hl (isSome_of_enter? hm ha)

/-- An account exists once a block was credited in it, be it one of no bytes. -/
theorem isSome_of_mem_gain {l l' : Ledger} {ds : List (Deed ρ)} (h : l.enterAll? ds = some l')
    {p : Plan ρ} (hp : p ∈ (Deed.gain ds).1) {a : Account} (ha : p.account? = some a) :
    (l'.get? a).isSome := by
  induction ds generalizing l with
  | nil => simp [Deed.gain] at hp
  | cons d ds ih =>
    obtain ⟨m, hm, hl⟩ := Option.bind_eq_some_iff.mp h
    rw [Deed.gain_cons, Prod.fst_add, Multiset.mem_add] at hp
    rcases hp with hp | hp
    · rcases enter?_cases hm with ⟨q, k, rfl, hq, rfl⟩ | ⟨b, k, rfl, -, -, rfl⟩ | ⟨hc, -, rfl⟩
      · have hpq : p = q := by simpa using hp
        rw [hpq, hq] at ha
        cases ha
        exact isSome_of_enterAll? hl (by simp)
      · simp at hp
      · rw [hc] at hp
        simp at hp
    · exact ih hl hp

/-- An account comes into existence only when a block is credited in it. -/
theorem mem_gain_of_isSome {l l' : Ledger} {ds : List (Deed ρ)} (h : l.enterAll? ds = some l') {a : Account}
    (hnone : l.get? a = none) (hs : (l'.get? a).isSome) :
    ∃ p ∈ (Deed.gain ds).1, p.account? = some a := by
  induction ds generalizing l with
  | nil =>
    cases h
    simp [hnone] at hs
  | cons d ds ih =>
    obtain ⟨m, hm, hl⟩ := Option.bind_eq_some_iff.mp h
    rw [Deed.gain_cons, Prod.fst_add]
    have later (hma : m.get? a = none) : ∃ p ∈ (↑d.credit?.toList : Multiset (Plan ρ)) + (Deed.gain ds).1,
        p.account? = some a := by
      obtain ⟨p, hp, ha⟩ := ih hl hma
      exact ⟨p, Multiset.mem_add.mpr (.inr hp), ha⟩
    rcases enter?_cases hm with ⟨p, k, rfl, hp, rfl⟩ | ⟨b, k, rfl, hb, hle, rfl⟩ | ⟨hc, hd, rfl⟩
    · by_cases hk : a = k
      · exact ⟨p, by simp, hk ▸ hp⟩
      · exact later (by simp [hk, hnone])
    · -- what is debited has an account already
      have hne : a ≠ k := by
        rintro rfl
        simp [enter?, hb, debit_of_none b.size hnone, outcome?] at hm
      exact later (by simp [hne, hnone])
    · exact later hnone

/-- Deeds without a credit or a debit leave the ledger as it is. -/
theorem enterAll?_of_not_counted {l : Ledger} {ds : List (Deed ρ)} (hg : (Deed.gain ds).1 = 0)
    (hl : (Deed.loss ds).1 = 0) : l.enterAll? ds = some l := by
  have hc : ∀ d ∈ ds, d.credit? = none := by simpa [Deed.gain] using hg
  have hd : ∀ d ∈ ds, d.debit? = none := by simpa [Deed.loss] using hl
  clear hg hl
  induction ds with
  | nil => rfl
  | cons d ds ih =>
    have hrest := ih (fun x hx => hc x (List.mem_cons_of_mem d hx))
      fun x hx => hd x (List.mem_cons_of_mem d hx)
    have hcd := hc d List.mem_cons_self
    have hdd := hd d List.mem_cons_self
    cases d with
    | credited p => simp at hcd
    | debited b => simp at hdd
    | _ => exact hrest

theorem enterAll?_credited {l l' : Ledger} {p : Plan ρ} {a : Account} (ha : p.account? = some a)
    (h : l.credit a p.size = (.ok (), l')) : l.enterAll? [.credited p] = some l' := by
  simp [enter?, ha, h, outcome?]

theorem enterAll?_debited {l l' : Ledger} {b : Block ρ} {a : Account} (ha : b.plan.account? = some a)
    (h : l.debit a b.size = (.ok (), l')) : l.enterAll? [.debited b] = some l' := by
  simp [enter?, ha, h, outcome?]

/-- A credit of a machine word that is refused leaves the ledger as it was. -/
theorem eq_of_credit_error {l l' : Ledger} {a : Account} {bytes : Nat} {err : LedgerError}
    (hb : bytes ≤ maxWord) (h : l.credit a bytes = (.error err, l')) : l' = l := by
  by_cases hle : l.current a + bytes ≤ maxWord
  · rw [credit_of_le hle] at h
    cases h
  · rw [credit_of_lt hb (Nat.lt_of_not_le hle)] at h
    cases h
    rfl

end Ledger

/-! ### The steps of a call -/

namespace Engine

variable [Backend β ρ]

theorem Does.enterAll? {e e' : Engine β} {call : Call ρ} {s : Stage ρ} {done ds : List (Deed ρ)}
    (h : e.Does s e' ds) (hcourse : Course e.nature call s done) (hc : e.Covers s) :
    e.ledger.enterAll? ds = some e'.ledger := by
  cases h with
  | credited h => exact Ledger.enterAll?_credited rfl h
  | @overdrawn r resource err ledger h =>
    rw [Ledger.eq_of_credit_error r.size_le h]
    rfl
  | enrolled h =>
    cases hcourse with
    | enrolling ha hp he => exact Ledger.enterAll?_credited (by rw [hp]; rfl) h
  | unenrolled h =>
    cases hcourse with
    | enrolling ha hp he =>
      rw [Ledger.eq_of_credit_error (SharedHandle.admit_le ha) h]
      rfl
  | debited hb h => exact Ledger.enterAll?_debited hb h
  | undebited hb h =>
    obtain ⟨hs, hle⟩ := hc _ (.inr rfl) _ hb
    obtain ⟨_, hg⟩ := Option.isSome_iff_exists.mp hs
    rw [Ledger.debit_of_le hg hle] at h
    cases h
  | _ => rfl

/-- **Every step of a call enters its deeds into the ledger**, and nothing else changes it. -/
theorem enterAll?_advance (thread : ThreadId) {e : Engine β} (c : Commons) {call : Call ρ} {s : Stage ρ}
    {done : List (Deed ρ)} (h : Course e.nature call s done) (hc : e.Covers s) :
    e.ledger.enterAll? (e.advance thread c s).deeds = some (e.advance thread c s).engine.ledger := by
  rw [← Ledger.enterAll?_effects]
  exact (e.does_advance thread c s).enterAll? h hc

end Engine

end DeviceMemory
