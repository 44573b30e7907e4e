import DeviceMemory.Proofs.Interleaving
import DeviceMemory.Proofs.Ledger.History
import Mathlib.Algebra.BigOperators.Ring.Finset
import Mathlib.Algebra.Order.BigOperators.Group.Finset
import Mathlib.Data.Finset.Lattice.Fold
import Mathlib.Order.Lattice.Nat

/-!
# A ledger that threads share

Threads credit and debit one ledger, each in an order of its own, and what they do interleaves in any
way. If no thread ever takes out more than it has brought in itself, and the most that all of them could
have in use at once is a machine word, then no operation is refused, whatever the order; every order
ends with the same accounts and the same bytes in use, and only the peaks depend on it, within bounds
(`Ledger.converges`).

## The model

`Ledger.flow` is what operations bring into an account less what they take out, and `Ledger.crest` the
most that this comes to on the way. A thread is `Solvent` if it only ever takes out its own.
`Ledger.Adds` is the invariant that one operation preserves: what is in use is what was there and the
flow of each thread so far, and so it lies between the flow of one thread and the crests of all.
-/

namespace DeviceMemory

namespace Movement

/-- What an operation adds to an account; it is below zero if bytes are taken out. -/
def change (a : Account) (m : Movement) : Int := m.creditTo a - m.debitFrom a

end Movement

namespace Ledger

/-! ### One thread -/

/-- What operations bring into an account less what they take out of it. -/
def flow (a : Account) (ms : List Movement) : Int := (ms.map (·.change a)).sum

/-- The most that the flow comes to on the way, from none of the operations to all of them. -/
def crest (a : Account) (ms : List Movement) : Nat :=
  (Finset.range (ms.length + 1)).sup fun n => (flow a (ms.take n)).toNat

/-- Some operation credits an account, be it with nothing. -/
def CreditsSome (a : Account) (ms : List Movement) : Prop := ∃ m ∈ ms, m.Credits a

/-- Operations that only take out what they have brought in. -/
structure Solvent (ms : List Movement) : Prop where
  /-- The flow never drops below zero. -/
  flow_nonneg (a : Account) (p : List Movement) : p <+: ms → 0 ≤ flow a p
  /-- A debit of an account comes after a credit of it. -/
  credits_before (a : Account) (p : List Movement) (bytes : UInt64) :
    p ++ [.debit a bytes] <+: ms → CreditsSome a p

instance (a : Account) (m : Movement) : Decidable (m.Credits a) :=
  match m with
  | .credit k bytes => decidable_of_iff (k = a) (by simp [Movement.Credits])
  | .debit _ _ => isFalse (by simp [Movement.Credits])

instance (a : Account) (ms : List Movement) : Decidable (CreditsSome a ms) :=
  inferInstanceAs (Decidable (∃ m ∈ ms, m.Credits a))

/-- Whether an operation may come after others, as far as the order of credits and debits goes. -/
def mayFollow (before : List Movement) : Movement → Bool
  | .credit _ _ => true
  | .debit a _ => decide (CreditsSome a before)

instance (ms : List Movement) : Decidable (Solvent ms) :=
  decidable_of_iff (∀ p ∈ ms.inits, (∀ a ∈ Account.byName, 0 ≤ flow a p) ∧
      ∀ m ∈ p.getLast?, mayFollow p.dropLast m) <| by
    constructor
    · intro h
      refine ⟨fun a p hp => (h p ((List.mem_inits _ _).mpr hp)).1 a (Account.mem_byName a), ?_⟩
      intro a p bytes hp
      simpa [mayFollow] using (h _ ((List.mem_inits _ _).mpr hp)).2 (.debit a bytes) (by simp)
    · intro h p hp
      have hp := (List.mem_inits _ _).mp hp
      refine ⟨fun a _ => h.flow_nonneg a p hp, ?_⟩
      intro m hm
      obtain ⟨q, rfl⟩ := List.mem_getLast?_eq_getLast hm |>.elim fun hne he =>
        (⟨p.dropLast, by rw [he, List.dropLast_append_getLast hne]⟩ : ∃ q, p = q ++ [m])
      cases m with
      | credit a bytes => rfl
      | debit a bytes => simpa [mayFollow] using h.credits_before a q bytes hp

theorem Solvent.mono {ms p : List Movement} (h : Solvent ms) (hp : p <+: ms) : Solvent p where
  flow_nonneg a q hq := h.flow_nonneg a q (hq.trans hp)
  credits_before a q bytes hq := h.credits_before a q bytes (hq.trans hp)

@[simp] theorem flow_nil (a : Account) : flow a [] = 0 := rfl

@[simp] theorem flow_append_singleton (a : Account) (ms : List Movement) (m : Movement) :
    flow a (ms ++ [m]) = flow a ms + m.change a := by
  simp [flow]

@[simp] theorem crest_nil (a : Account) : crest a [] = 0 := rfl

@[simp] theorem crest_append_singleton (a : Account) (ms : List Movement) (m : Movement) :
    crest a (ms ++ [m]) = max (crest a ms) (flow a ms + m.change a).toNat := by
  have hbefore : ((Finset.range (ms.length + 1)).sup fun n => (flow a ((ms ++ [m]).take n)).toNat) =
      crest a ms := by
    apply Finset.sup_congr rfl
    intro n hn
    rw [List.take_append_of_le_length (Nat.lt_succ_iff.mp (Finset.mem_range.mp hn))]
  have hafter : (ms ++ [m]).take (ms.length + 1) = ms ++ [m] := List.take_of_length_le (by simp)
  rw [crest, List.length_append, List.length_singleton, Finset.range_add_one, Finset.sup_insert, hbefore,
    hafter, flow_append_singleton]
  exact max_comm _ _

theorem creditsSome_append_singleton {a : Account} {ms : List Movement} {m : Movement} :
    CreditsSome a (ms ++ [m]) ↔ CreditsSome a ms ∨ m.Credits a := by
  simp [CreditsSome, or_and_right, exists_or]

/-- The flow is no more than the crest. -/
theorem flow_le_crest (a : Account) (ms : List Movement) : flow a ms ≤ crest a ms := by
  have h : (flow a (ms.take ms.length)).toNat ≤ crest a ms :=
    Finset.le_sup (f := fun n => (flow a (ms.take n)).toNat) (Finset.mem_range.mpr (Nat.lt_succ_self _))
  rw [List.take_length] at h
  omega

/-- The crest only rises. -/
theorem crest_mono (a : Account) {ms p : List Movement} (h : p <+: ms) : crest a p ≤ crest a ms := by
  obtain ⟨rest, rfl⟩ := h
  induction rest using List.reverseRecOn with
  | nil => simp
  | append_singleton rest m ih =>
    rw [← List.append_assoc, crest_append_singleton]
    exact ih.trans (le_max_left _ _)

/-! ### All threads -/

variable {ι : Type} [DecidableEq ι] [Fintype ι]

/-- There is room in every account for the crests of all threads at once. -/
def Fits (l : Ledger) (threads : ι → List Movement) : Prop :=
  ∀ a, l.current a + ∑ i, crest a (threads i) ≤ maxWord

/-- A ledger after threads have worked on it for part of a run. -/
structure Adds (l : Ledger) (run : List (ι × Movement)) (l' : Ledger) : Prop where
  /-- What is in use is what was there and what each thread has added. -/
  current_eq (a : Account) : (l'.current a : Int) = l.current a + ∑ i, flow a (turnsOf i run)
  /-- An account exists if it did before or if some thread has credited it. -/
  isSome_iff (a : Account) : (l'.get? a).isSome ↔ (l.get? a).isSome ∨ ∃ i, CreditsSome a (turnsOf i run)
  /-- The peak is no less than it was. -/
  peak_mono (a : Account) : l.peak a ≤ l'.peak a
  /-- If some thread has credited an account, the peak is no less than what was in use there. -/
  current_le_peak (a : Account) : (∃ i, CreditsSome a (turnsOf i run)) → l.current a ≤ l'.peak a
  /-- The crest of each thread shows in the peak. -/
  crest_le_peak (a : Account) (i : ι) : 0 < crest a (turnsOf i run) →
    l.current a + crest a (turnsOf i run) ≤ l'.peak a
  /-- The crests of all threads together bound the peak. -/
  peak_le (a : Account) : l'.peak a ≤ max (l.peak a) (l.current a + ∑ i, crest a (turnsOf i run))

/-- Of one more turn, only what its thread does is different. -/
theorem sum_turnsOf_append_singleton (a : Account) (run : List (ι × Movement)) (i : ι) (m : Movement) :
    ∑ j, flow a (turnsOf j (run ++ [(i, m)])) = ∑ j, flow a (turnsOf j run) + m.change a := by
  have hturn (j : ι) : flow a (turnsOf j (run ++ [(i, m)])) =
      flow a (turnsOf j run) + if i = j then m.change a else 0 := by
    by_cases h : i = j <;> simp [h]
  rw [Finset.sum_congr rfl fun j _ => hturn j, Finset.sum_add_distrib]
  simp

omit [DecidableEq ι] in
/-- The flows of all threads together are no more than their crests. -/
theorem sum_flow_le (a : Account) (threads : ι → List Movement) :
    ∑ i, flow a (threads i) ≤ ((∑ i, crest a (threads i) : Nat) : Int) := by
  rw [Nat.cast_sum]
  exact Finset.sum_le_sum fun i _ => flow_le_crest a (threads i)

omit [DecidableEq ι] in
/-- The flow of one thread is no more than that of all, as no other is below zero. -/
theorem flow_le_sum {threads : ι → List Movement} (hs : ∀ i, Solvent (threads i)) (a : Account) (i : ι) :
    flow a (threads i) ≤ ∑ j, flow a (threads j) :=
  Finset.single_le_sum (f := fun j => flow a (threads j))
    (fun j _ => (hs j).flow_nonneg a _ List.prefix_rfl) (Finset.mem_univ i)

/-! ### One operation -/

/-- What an operation that is accepted does to an account. -/
structure Enters (l : Ledger) (m : Movement) (a : Account) (l' : Ledger) : Prop where
  /-- It adds to what is in use. -/
  current_eq : (l'.current a : Int) = l.current a + m.change a
  /-- The account exists if it did, or if this is a credit of it. -/
  isSome_iff : (l'.get? a).isSome ↔ (l.get? a).isSome ∨ m.Credits a
  /-- Only a credit can raise the peak, and only to what is in use after it. -/
  peak_eq : m.Credits a ∧ l'.peak a = max (l.peak a) (l'.current a) ∨
    ¬ m.Credits a ∧ m.change a ≤ 0 ∧ l'.peak a = l.peak a

theorem enters_of_accepted {l : Ledger} {m : Movement} (h : l.refusal? m = none) (a : Account) :
    l.Enters m a (l.after m) := by
  cases m with
  | credit k bytes =>
    obtain ⟨-, hl⟩ := after_credit h
    rw [hl]
    by_cases hk : a = k
    · subst hk
      exact ⟨by simp [Movement.change, Movement.creditTo, Movement.debitFrom], by simp [Movement.Credits],
        .inl ⟨⟨bytes, rfl⟩, by simp⟩⟩
    · have hn : ¬ (Movement.credit k bytes).Credits a := by simp [Movement.Credits, Ne.symm hk]
      have hc : (Movement.credit k bytes).change a = 0 := by
        simp [Movement.change, Movement.creditTo, Movement.debitFrom, Ne.symm hk]
      exact ⟨by simp [hk, hc], by simp [hk, hn], .inr ⟨hn, hc.le, by simp [hk]⟩⟩
  | debit k bytes =>
    obtain ⟨hs, hle, hl⟩ := after_debit h
    rw [hl]
    have hn : ¬ (Movement.debit k bytes).Credits a := by simp [Movement.Credits]
    by_cases hk : a = k
    · subst hk
      have hc : (Movement.debit a bytes).change a = -bytes.toNat := by
        simp [Movement.change, Movement.creditTo, Movement.debitFrom]
      refine ⟨?_, by simp [hn, hs], .inr ⟨hn, by omega, by simp⟩⟩
      simp only [current_set, if_true, hc]
      omega
    · have hc : (Movement.debit k bytes).change a = 0 := by
        simp [Movement.change, Movement.creditTo, Movement.debitFrom, Ne.symm hk]
      exact ⟨by simp [hk, hc], by simp [hk, hn], .inr ⟨hn, hc.le, by simp [hk]⟩⟩

variable {l l' : Ledger} {run : List (ι × Movement)} {i : ι} {m : Movement}

/-- The next operation is accepted: there is room for a credit, and a debit takes out what its own
thread has brought in. -/
theorem Adds.refusal?_eq_none (h : l.Adds run l') (hs : ∀ j, Solvent (turnsOf j (run ++ [(i, m)])))
    (hfits : l.Fits fun j => turnsOf j (run ++ [(i, m)])) : l'.refusal? m = none := by
  cases m with
  | credit k bytes =>
    have hsum := sum_turnsOf_append_singleton k run i (.credit k bytes)
    have hle := sum_flow_le k fun j => turnsOf j (run ++ [(i, .credit k bytes)])
    have hroom : l.current k + ∑ j, crest k (turnsOf j (run ++ [(i, .credit k bytes)])) ≤ maxWord := hfits k
    have hcur := h.current_eq k
    have hc : (Movement.credit k bytes).change k = bytes.toNat := by
      simp [Movement.change, Movement.creditTo, Movement.debitFrom]
    rw [refusal?_credit, if_pos]
    omega
  | debit k bytes =>
    have hsum := sum_turnsOf_append_singleton k run i (.debit k bytes)
    have hle := flow_le_sum hs k i
    have hnonneg := (hs i).flow_nonneg k _ List.prefix_rfl
    have hcur := h.current_eq k
    have hc : (Movement.debit k bytes).change k = -bytes.toNat := by
      simp [Movement.change, Movement.creditTo, Movement.debitFrom]
    have hown : CreditsSome k (turnsOf i run) := (hs i).credits_before k _ bytes (by simp)
    have hexists : (l'.get? k).isSome := (h.isSome_iff k).mpr (.inr ⟨i, hown⟩)
    rw [refusal?_debit, if_neg (by simpa [Option.isNone_iff_eq_none] using Option.isSome_iff_ne_none.mp hexists),
      if_neg]
    omega

/-- The invariant is preserved by every operation that is accepted. -/
theorem Adds.after (h : l.Adds run l') (hs : ∀ j, Solvent (turnsOf j (run ++ [(i, m)])))
    (hm : l'.refusal? m = none) : l.Adds (run ++ [(i, m)]) (l'.after m) := by
  have henters := enters_of_accepted hm
  have hcurrent (a : Account) : ((l'.after m).current a : Int) =
      l.current a + ∑ j, flow a (turnsOf j (run ++ [(i, m)])) := by
    rw [sum_turnsOf_append_singleton, (henters a).current_eq, h.current_eq a, add_assoc]
  have hcredits (a : Account) : (∃ j, CreditsSome a (turnsOf j (run ++ [(i, m)]))) ↔
      (∃ j, CreditsSome a (turnsOf j run)) ∨ m.Credits a := by
    constructor
    · rintro ⟨j, hj⟩
      by_cases hij : i = j
      · rw [turnsOf_append_singleton, if_pos hij, creditsSome_append_singleton] at hj
        exact hj.imp_left fun hj => ⟨j, hj⟩
      · rw [turnsOf_append_singleton, if_neg hij, List.append_nil] at hj
        exact .inl ⟨j, hj⟩
    · rintro (⟨j, x, hx, hj⟩ | hm)
      · exact ⟨j, x, by simp [hx], hj⟩
      · exact ⟨i, m, by simp, hm⟩
  have hcrest (a : Account) (j : ι) : crest a (turnsOf j (run ++ [(i, m)])) =
      max (crest a (turnsOf j run)) (flow a (turnsOf j (run ++ [(i, m)]))).toNat := by
    have := flow_le_crest a (turnsOf j run)
    by_cases hij : i = j <;> simp [hij]
    omega
  have hbelow (a : Account) (j : ι) := flow_le_sum hs a j
  have habove (a : Account) := sum_flow_le a fun j => turnsOf j (run ++ [(i, m)])
  have hrises (a : Account) :
      ∑ j, crest a (turnsOf j run) ≤ ∑ j, crest a (turnsOf j (run ++ [(i, m)])) :=
    Finset.sum_le_sum fun j _ => crest_mono a (by simp)
  exact {
    current_eq := hcurrent
    isSome_iff := fun a => by rw [(henters a).isSome_iff, h.isSome_iff a, hcredits a, or_assoc]
    peak_mono := fun a => by
      have := h.peak_mono a
      rcases (henters a).peak_eq with ⟨-, hp⟩ | ⟨-, -, hp⟩ <;> omega
    current_le_peak := fun a ha => by
      rcases (henters a).peak_eq with ⟨-, hp⟩ | ⟨hn, -, hp⟩
      · have hnonneg := (hs i).flow_nonneg a _ List.prefix_rfl
        have := hcurrent a
        have := hbelow a i
        omega
      · have := h.current_le_peak a (((hcredits a).mp ha).resolve_right hn)
        omega
    crest_le_peak := fun a j hpos => by
      have hold := h.crest_le_peak a j
      have := hcurrent a
      have := hbelow a j
      rw [hcrest a j] at hpos ⊢
      rcases (henters a).peak_eq with ⟨-, hp⟩ | ⟨-, hd, hp⟩
      · omega
      · -- without a credit, no crest rises
        have hle := flow_le_crest a (turnsOf j run)
        have hfalls : flow a (turnsOf j (run ++ [(i, m)])) ≤ flow a (turnsOf j run) := by
          by_cases hij : i = j <;> simp [hij, hd]
        omega
    peak_le := fun a => by
      have := h.peak_le a
      have := hcurrent a
      have := habove a
      have := hrises a
      rcases (henters a).peak_eq with ⟨-, hp⟩ | ⟨-, -, hp⟩ <;> omega }

/-! ### Whole runs -/

omit [Fintype ι] in
theorem statements_append_singleton (l : Ledger) (ms : List Movement) (m : Movement) :
    l.statements (ms ++ [m]) =
      l.statements ms ++ [((l.replay ms).refusal? m, (l.replay ms).after m)] := by
  induction ms generalizing l with
  | nil => rfl
  | cons x rest ih =>
    rw [List.cons_append, statements, ih, statements]
    rfl

theorem adds_nil (l : Ledger) : l.Adds ([] : List (ι × Movement)) l where
  current_eq a := by simp
  isSome_iff a := by simp [CreditsSome]
  peak_mono a := le_rfl
  current_le_peak a h := by simp [CreditsSome] at h
  crest_le_peak a i h := by simp at h
  peak_le a := by simp

/-- All operations of part of a run are accepted, and what they make of the ledger is the invariant. -/
theorem adds_replay {threads : ι → List Movement} (hs : ∀ i, Solvent (threads i)) (hfits : l.Fits threads)
    (hrun : ∀ i, turnsOf i run <+: threads i) :
    (∀ s ∈ l.statements (run.map Prod.snd), s.1 = none) ∧ l.Adds run (l.replay (run.map Prod.snd)) := by
  induction run using List.reverseRecOn with
  | nil => exact ⟨by simp [statements], l.adds_nil⟩
  | append_singleton run turn ih =>
    obtain ⟨i, m⟩ := turn
    have hbefore (j : ι) : turnsOf j run <+: turnsOf j (run ++ [(i, m)]) := by simp
    obtain ⟨haccepted, hadds⟩ := ih fun j => (hbefore j).trans (hrun j)
    have hsolvent (j : ι) := (hs j).mono (hrun j)
    have hroom : l.Fits fun j => turnsOf j (run ++ [(i, m)]) := fun a =>
      (Nat.add_le_add_left (Finset.sum_le_sum fun j _ => crest_mono a (hrun j)) _).trans (hfits a)
    have hm := hadds.refusal?_eq_none hsolvent hroom
    rw [List.map_append, List.map_singleton, statements_append_singleton, replay_append_singleton]
    refine ⟨?_, hadds.after hsolvent hm⟩
    intro s hx
    rcases List.mem_append.mp hx with hx | hx
    · exact haccepted s hx
    · rw [List.mem_singleton.mp hx]
      exact hm

/-- What becomes of a ledger that threads share; only the peaks depend on the order. -/
structure Converges (l : Ledger) (threads : ι → List Movement) (run : List (ι × Movement)) : Prop where
  /-- No operation is refused. -/
  accepted : ∀ s ∈ l.statements (run.map Prod.snd), s.1 = none
  /-- What is in use in the end is what was there and what each thread adds. -/
  current_eq (a : Account) :
    ((l.replay (run.map Prod.snd)).current a : Int) = l.current a + ∑ i, flow a (threads i)
  /-- The accounts in the end are those before and those that some thread credits. -/
  isSome_iff (a : Account) : ((l.replay (run.map Prod.snd)).get? a).isSome ↔
    (l.get? a).isSome ∨ ∃ i, CreditsSome a (threads i)
  /-- The peak of an account that is credited is no less than before, and no less than what each thread
  alone would have brought it to. -/
  le_peak (a : Account) : (∃ i, CreditsSome a (threads i)) →
    max (l.peak a) (l.current a + Finset.univ.sup fun i => crest a (threads i)) ≤
      (l.replay (run.map Prod.snd)).peak a
  /-- It is no more than before or than what all threads would have brought it to with their crests at
  the same time. -/
  peak_le (a : Account) : (l.replay (run.map Prod.snd)).peak a ≤
    max (l.peak a) (l.current a + ∑ i, crest a (threads i))

/-- **Threads that only take out their own do not depend on the order of their turns**, if there is room
for all of them. -/
theorem converges {l : Ledger} {threads : ι → List Movement} (hs : ∀ i, Solvent (threads i))
    (hfits : l.Fits threads) {run : List (ι × Movement)} (hrun : Interleaves run threads) :
    l.Converges threads run := by
  obtain ⟨haccepted, hadds⟩ := adds_replay hs hfits fun i => hrun.turnsOf_before List.prefix_rfl i
  have hturns (i : ι) : turnsOf i run = threads i := hrun i
  exact {
    accepted := haccepted
    current_eq := fun a => by simpa only [hturns] using hadds.current_eq a
    isSome_iff := fun a => by simpa only [hturns] using hadds.isSome_iff a
    le_peak := fun a ha => by
      have hbase := hadds.current_le_peak a (by simpa only [hturns] using ha)
      refine max_le (hadds.peak_mono a) ?_
      have hsup : (Finset.univ.sup fun i => crest a (threads i)) ≤
          (l.replay (run.map Prod.snd)).peak a - l.current a := by
        apply Finset.sup_le
        intro i _
        have hcrest := hadds.crest_le_peak a i
        rw [hturns i] at hcrest
        omega
      omega
    peak_le := fun a => by simpa only [hturns] using hadds.peak_le a }

/-- Two threads, of which the second gives back what it takes first. -/
def pair : Fin 2 → List Movement
  | 0 => [.credit (.allocated .plainBuffer) 10, .credit .imported 0, .debit (.allocated .plainBuffer) 4]
  | 1 => [.credit (.allocated .plainBuffer) 5, .debit (.allocated .plainBuffer) 5,
      .credit (.allocated .plainBuffer) 7]

/-- The threads work on a ledger that is in use already; the peak lies between what one of them and what
both of them need. -/
theorem pair_converges :
    let start : Ledger := { plainBuffer := some ⟨100, 104⟩ }
    let run : List (Fin 2 × Movement) :=
      [(1, .credit (.allocated .plainBuffer) 5), (0, .credit (.allocated .plainBuffer) 10),
        (1, .debit (.allocated .plainBuffer) 5), (0, .credit .imported 0),
        (0, .debit (.allocated .plainBuffer) 4), (1, .credit (.allocated .plainBuffer) 7)]
    (∀ i, Solvent (pair i)) ∧ start.Fits pair ∧ Interleaves run pair ∧ start.Converges pair run ∧
      (start.replay (run.map Prod.snd)).get? (.allocated .plainBuffer) = some ⟨113, 115⟩ := by
  intro start run
  have hsolvent : ∀ i, Solvent (pair i) := by decide
  have hfits : start.Fits pair := by
    have hall : ∀ a ∈ Account.byName, start.current a + ∑ i, crest a (pair i) ≤ maxWord := by decide
    exact fun a => hall a (Account.mem_byName a)
  have hrun : Interleaves run pair := by decide
  exact ⟨hsolvent, hfits, hrun, converges hsolvent hfits hrun, by decide⟩

end Ledger

end DeviceMemory
