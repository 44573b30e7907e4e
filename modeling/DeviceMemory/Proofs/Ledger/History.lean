import DeviceMemory.Ledger
import Mathlib.Order.Bounds.Basic
import Mathlib.Data.List.Induction
import Mathlib.Algebra.Order.Ring.Int

/-!
# A ledger is its history

What a ledger says of an account, and what it will refuse, is a function of the history of
operations alone: of those that were accepted, in exact arithmetic (`Ledger.records_replay`). The
history is any list of operations, refused ones included, on a ledger that starts empty.

## The model

`Ledger.accepted` is the part of a history that was not refused. `Ledger.net` is what its credits
of an account exceed its debits by, and `Ledger.Opened` says that it credited the account at all, be
it with nothing. `Ledger.Agrees` is the invariant that one operation preserves; everything else is
read off it.
-/

namespace DeviceMemory

namespace Movement

/-- The bytes that an operation brings into an account. -/
def creditTo (a : Account) : Movement → Nat
  | credit k bytes => if k = a then bytes.toNat else 0
  | debit _ _ => 0

/-- The bytes that an operation takes out of an account. -/
def debitFrom (a : Account) : Movement → Nat
  | credit _ _ => 0
  | debit k bytes => if k = a then bytes.toNat else 0

/-- Whether an operation is a credit of an account. -/
def Credits (a : Account) (m : Movement) : Prop := ∃ bytes, m = credit a bytes

end Movement

theorem UInt64.toNat_le_maxWord (n : UInt64) : n.toNat ≤ maxWord := by
  have h := n.toNat_lt
  unfold maxWord
  omega

namespace Ledger

/-! ### What the history says -/

/-- The operations of a history that are not refused. -/
def accepted (l : Ledger) : List Movement → List Movement
  | [] => []
  | m :: rest =>
    if (l.refusal? m).isNone then m :: (l.after m).accepted rest else (l.after m).accepted rest

/-- The bytes that accepted credits of a history bring into an account, less those that accepted
debits take out of it. -/
def net (a : Account) (ms : List Movement) : Int :=
  ((empty.accepted ms).map (·.creditTo a)).sum - ((empty.accepted ms).map (·.debitFrom a)).sum

/-- Some credit of the account was accepted, be it of nothing. -/
def Opened (a : Account) (ms : List Movement) : Prop := ∃ m ∈ empty.accepted ms, m.Credits a

/-- The balances that an account has had in the course of a history. -/
def balances (a : Account) (ms : List Movement) : Set Int := {n | ∃ p, p <+: ms ∧ n = net a p}

theorem replay_append_singleton (l : Ledger) (ms : List Movement) (m : Movement) :
    l.replay (ms ++ [m]) = (l.replay ms).after m := by
  simp [replay]

theorem accepted_append_singleton (l : Ledger) (ms : List Movement) (m : Movement) :
    l.accepted (ms ++ [m]) =
      l.accepted ms ++ if ((l.replay ms).refusal? m).isNone then [m] else [] := by
  induction ms generalizing l with
  | nil => simp [accepted, replay]
  | cons x rest ih =>
    simp only [List.cons_append, accepted, ih]
    by_cases h : (l.refusal? x).isNone
    · simp only [h, if_true, List.cons_append]
      rfl
    · simp only [h]
      rfl

theorem net_of_refused {a : Account} {ms : List Movement} {m : Movement} {e : LedgerError}
    (h : (empty.replay ms).refusal? m = some e) : net a (ms ++ [m]) = net a ms := by
  simp [net, accepted_append_singleton, h]

theorem net_of_accepted {a : Account} {ms : List Movement} {m : Movement}
    (h : (empty.replay ms).refusal? m = none) :
    net a (ms ++ [m]) = net a ms + m.creditTo a - m.debitFrom a := by
  simp only [net, accepted_append_singleton, h, Option.isNone_none, if_true, List.map_append,
    List.sum_append, List.map_cons, List.map_nil, List.sum_singleton]
  omega

theorem opened_append_singleton {a : Account} {ms : List Movement} {m : Movement} :
    Opened a (ms ++ [m]) ↔
      Opened a ms ∨ ((empty.replay ms).refusal? m = none ∧ m.Credits a) := by
  simp only [Opened, accepted_append_singleton, List.mem_append]
  cases h : (empty.replay ms).refusal? m <;> simp [or_and_right, exists_or]

theorem balances_append_singleton (a : Account) (ms : List Movement) (m : Movement) :
    balances a (ms ++ [m]) = insert (net a (ms ++ [m])) (balances a ms) := by
  ext n
  simp only [balances, Set.mem_ofPred_eq, Set.mem_insert_iff]
  constructor
  · rintro ⟨p, hp, rfl⟩
    rcases List.prefix_concat_iff.mp hp with rfl | hp
    · exact .inl rfl
    · exact .inr ⟨p, hp, rfl⟩
  · rintro (rfl | ⟨p, hp, rfl⟩)
    · exact ⟨_, List.prefix_rfl, rfl⟩
    · exact ⟨p, hp.trans (List.prefix_append _ _), rfl⟩

/-! ### What one operation does -/

/-- A credit is refused exactly if the account would hold more than a machine word. -/
theorem refusal?_credit (l : Ledger) (a : Account) (bytes : UInt64) :
    l.refusal? (.credit a bytes) =
      if l.current a + bytes.toNat ≤ maxWord then none
      else some (.overflow a bytes.toNat (l.current a)) := by
  by_cases h : l.current a + bytes.toNat ≤ maxWord
  · simp [refusal?, perform, credit_of_le h, h]
  · simp [refusal?, perform, credit_of_lt (UInt64.toNat_le_maxWord bytes) (Nat.lt_of_not_le h), h]

/-- A debit is refused exactly if the account does not exist or holds less. -/
theorem refusal?_debit (l : Ledger) (a : Account) (bytes : UInt64) :
    l.refusal? (.debit a bytes) =
      if (l.get? a).isNone then some (.untracked a)
      else if l.current a < bytes.toNat then some (.underflow a bytes.toNat (l.current a))
      else none := by
  cases hg : l.get? a with
  | none => simp [refusal?, perform, debit_of_none _ hg]
  | some b =>
    by_cases h : l.current a < bytes.toNat
    · simp [refusal?, perform, debit_of_lt hg h, h]
    · simp [refusal?, perform, debit_of_le hg (Nat.le_of_not_lt h), h]

/-- An operation that is refused changes nothing. -/
theorem after_of_refused {l : Ledger} {m : Movement} {e : LedgerError} (h : l.refusal? m = some e) :
    l.after m = l := by
  cases m with
  | credit a bytes =>
    have hn : ¬ l.current a + bytes.toNat ≤ maxWord := by
      intro hle
      simp [refusal?_credit, hle] at h
    simp [after, perform, credit_of_lt (UInt64.toNat_le_maxWord bytes) (Nat.lt_of_not_le hn)]
  | debit a bytes =>
    cases hg : l.get? a with
    | none => simp [after, perform, debit_of_none _ hg]
    | some b =>
      have hlt : l.current a < bytes.toNat := by
        by_contra hlt
        simp [refusal?_debit, hg, hlt] at h
      simp [after, perform, debit_of_lt hg hlt]

/-- A credit that is accepted adds to its account and may raise the peak there. -/
theorem after_credit {l : Ledger} {a : Account} {bytes : UInt64}
    (h : l.refusal? (.credit a bytes) = none) :
    l.current a + bytes.toNat ≤ maxWord ∧
      l.after (.credit a bytes) =
        l.set ⟨l.current a + bytes.toNat, max (l.peak a) (l.current a + bytes.toNat)⟩ a := by
  have hle : l.current a + bytes.toNat ≤ maxWord := by
    by_contra hle
    simp [refusal?_credit, hle] at h
  exact ⟨hle, by simp [after, perform, credit_of_le hle]⟩

/-- A debit that is accepted takes from its account, which exists and holds as much. -/
theorem after_debit {l : Ledger} {a : Account} {bytes : UInt64}
    (h : l.refusal? (.debit a bytes) = none) :
    (l.get? a).isSome ∧ bytes.toNat ≤ l.current a ∧
      l.after (.debit a bytes) = l.set ⟨l.current a - bytes.toNat, l.peak a⟩ a := by
  cases hg : l.get? a with
  | none => simp [refusal?_debit, hg] at h
  | some b =>
    have hle : bytes.toNat ≤ l.current a := by
      by_contra hlt
      simp [refusal?_debit, hg, Nat.lt_of_not_le hlt] at h
    exact ⟨rfl, hle, by simp [after, perform, debit_of_le hg hle]⟩

/-! ### The invariant -/

/-- The ledger after a history holds the net balances and their maxima, in the accounts that were
opened. -/
structure Agrees (l : Ledger) (ms : List Movement) : Prop where
  /-- An account exists once a credit of it was accepted. -/
  isSome_iff (a : Account) : (l.get? a).isSome ↔ Opened a ms
  /-- The bytes in use are the net balance. -/
  current_eq (a : Account) : (l.current a : Int) = net a ms
  /-- The bytes in use are a machine word. -/
  current_le (a : Account) : l.current a ≤ maxWord
  /-- The peak is the greatest of all balances so far. -/
  peak_greatest (a : Account) : IsGreatest (balances a ms) (l.peak a : Int)

theorem agrees_empty : Agrees empty [] where
  isSome_iff a := by simp [Opened, accepted]
  current_eq a := by simp [current, balance, net, accepted]
  current_le a := by simp [current, balance]
  peak_greatest a := by
    have h : balances a [] = {0} := by
      ext n
      simp [balances, List.prefix_nil, net, accepted]
    rw [h]
    simp [peak, balance, isGreatest_singleton]

/-- The bytes in use are no more than the peak. -/
theorem Agrees.current_le_peak {l : Ledger} {ms : List Movement} (h : Agrees l ms) (a : Account) :
    l.current a ≤ l.peak a := by
  have hm : net a ms ∈ balances a ms := ⟨ms, List.prefix_rfl, rfl⟩
  have hle := (h.peak_greatest a).2 hm
  rw [← h.current_eq a] at hle
  exact_mod_cast hle

/-- What has to be shown of an account after one more operation. -/
theorem Agrees.snoc {l l' : Ledger} {ms : List Movement} {m : Movement} (h : Agrees l ms)
    (hs : ∀ a, (l'.get? a).isSome ↔ Opened a (ms ++ [m]))
    (hc : ∀ a, (l'.current a : Int) = net a (ms ++ [m])) (hle : ∀ a, l'.current a ≤ maxWord)
    (hp : ∀ a, l'.peak a = max (l'.current a) (l.peak a)) : Agrees l' (ms ++ [m]) where
  isSome_iff := hs
  current_eq := hc
  current_le := hle
  peak_greatest a := by
    have hmax : (l'.peak a : Int) = max (net a (ms ++ [m])) (l.peak a) := by
      rw [hp a, ← hc a]
      omega
    rw [balances_append_singleton, hmax]
    exact (h.peak_greatest a).insert _

/-- The invariant is preserved by every operation. -/
theorem Agrees.after {ms : List Movement} (h : Agrees (empty.replay ms) ms) (m : Movement) :
    Agrees ((empty.replay ms).after m) (ms ++ [m]) := by
  generalize hl : empty.replay ms = l at h ⊢
  cases hr : l.refusal? m with
  | some e =>
    rw [after_of_refused hr]
    apply h.snoc
    · intro a
      rw [opened_append_singleton, hl, hr]
      simpa using h.isSome_iff a
    · intro a
      rw [net_of_refused (hl ▸ hr)]
      exact h.current_eq a
    · exact h.current_le
    · intro a
      exact (Nat.max_eq_right (h.current_le_peak a)).symm
  | none =>
    have hnet (a : Account) := net_of_accepted (a := a) (hl ▸ hr : (empty.replay ms).refusal? m = none)
    cases m with
    | credit k bytes =>
      obtain ⟨hle, ha⟩ := after_credit hr
      rw [ha]
      apply h.snoc
      · intro a
        rw [opened_append_singleton, hl, hr]
        by_cases hak : a = k
        · simp [hak, Movement.Credits]
        · simpa [hak, Ne.symm hak, Movement.Credits] using h.isSome_iff a
      · intro a
        rw [hnet, ← h.current_eq a]
        by_cases hak : a = k
        · simp [hak, Movement.creditTo, Movement.debitFrom]
        · simp [hak, Ne.symm hak, Movement.creditTo, Movement.debitFrom]
      · intro a
        by_cases hak : a = k
        · simpa [hak] using hle
        · simpa [hak] using h.current_le a
      · intro a
        by_cases hak : a = k
        · simp [hak, Nat.max_comm]
        · simpa [hak] using (Nat.max_eq_right (h.current_le_peak a)).symm
    | debit k bytes =>
      obtain ⟨hk, hle, ha⟩ := after_debit hr
      rw [ha]
      have hpeak := h.current_le_peak k
      apply h.snoc
      · intro a
        rw [opened_append_singleton, hl, hr]
        by_cases hak : a = k
        · simpa [hak, Movement.Credits] using (h.isSome_iff k).mp hk
        · simpa [hak, Movement.Credits] using h.isSome_iff a
      · intro a
        rw [hnet, ← h.current_eq a]
        by_cases hak : a = k
        · simp [hak, Movement.creditTo, Movement.debitFrom]
          omega
        · simp [hak, Ne.symm hak, Movement.creditTo, Movement.debitFrom]
      · intro a
        by_cases hak : a = k
        · have := h.current_le k
          simp [hak]
          omega
        · simpa [hak] using h.current_le a
      · intro a
        by_cases hak : a = k
        · simp [hak]
          omega
        · simpa [hak] using (Nat.max_eq_right (h.current_le_peak a)).symm

theorem agrees_replay (ms : List Movement) : Agrees (empty.replay ms) ms := by
  induction ms using List.reverseRecOn with
  | nil => exact agrees_empty
  | append_singleton ms m ih =>
    rw [replay_append_singleton]
    exact ih.after m

/-! ### Snapshots -/

theorem map_fst_snapshot (l : Ledger) :
    l.snapshot.map Prod.fst = Account.byName.filter fun a => (l.get? a).isSome := by
  unfold snapshot
  induction Account.byName with
  | nil => rfl
  | cons a rest ih => cases h : l.get? a <;> simp [h, ih]

theorem mem_snapshot {l : Ledger} {a : Account} {n : Nat} :
    (a, n) ∈ l.snapshot ↔ (l.get? a).isSome ∧ n = l.current a := by
  simp only [snapshot, List.mem_filterMap, Option.map_eq_some_iff, Prod.mk.injEq]
  constructor
  · rintro ⟨_, -, b, hb, rfl, rfl⟩
    exact ⟨by simp [hb], (current_of_get? hb).symm⟩
  · rintro ⟨h, rfl⟩
    obtain ⟨b, hb⟩ := Option.isSome_iff_exists.mp h
    exact ⟨a, Account.mem_byName a, b, hb, rfl, (current_of_get? hb).symm⟩

/-- A snapshot tells of each account that exists what it has in use. -/
theorem snapshot_eq_map (l : Ledger) :
    l.snapshot = (l.snapshot.map Prod.fst).map fun a => (a, l.current a) := by
  rw [List.map_map]
  conv_lhs => rw [← List.map_id l.snapshot]
  apply List.map_congr_left
  rintro ⟨a, n⟩ hm
  rw [(mem_snapshot.mp hm).2]
  rfl

theorem byName_ascends : (Account.byName.map Account.name).Pairwise (· < ·) := by decide

/-- The names of a snapshot ascend, so none occurs twice. -/
theorem snapshot_names_ascend (l : Ledger) : (l.snapshot.map (·.1.name)).Pairwise (· < ·) := by
  have h : (l.snapshot.map (·.1.name)) = (l.snapshot.map Prod.fst).map Account.name := by simp
  rw [h, map_fst_snapshot]
  exact byName_ascends.sublist (List.filter_sublist.map _)

/-! ### The ledger and its history -/

/-- Everything that can be read off a ledger, or asked of it next, is what the history says. -/
structure Records (l : Ledger) (ms : List Movement) : Prop extends Agrees l ms where
  /-- A credit is refused exactly if the balance would exceed the greatest word. -/
  credit_refused_iff (a : Account) (bytes : UInt64) (e : LedgerError) :
    l.refusal? (.credit a bytes) = some e ↔
      maxWord < l.current a + bytes.toNat ∧ e = .overflow a bytes.toNat (l.current a)
  /-- A debit is refused exactly if the account was never credited, or holds less. -/
  debit_refused_iff (a : Account) (bytes : UInt64) (e : LedgerError) :
    l.refusal? (.debit a bytes) = some e ↔
      (¬ Opened a ms ∧ e = .untracked a) ∨
      (Opened a ms ∧ l.current a < bytes.toNat ∧ e = .underflow a bytes.toNat (l.current a))
  /-- A refusal changes nothing. -/
  after_refused (m : Movement) (e : LedgerError) : l.refusal? m = some e → l.after m = l
  /-- No name occurs twice in the snapshot. -/
  names_ascend : (l.snapshot.map (·.1.name)).Pairwise (· < ·)
  /-- The snapshot lists the accounts that were ever credited, under their names. -/
  mem_statistics_iff (name : String) (n : Nat) :
    (name, n) ∈ l.snapshot.map (fun s => (s.1.name, s.2)) ↔
      ∃ a, a.name = name ∧ Opened a ms ∧ (n : Int) = net a ms

/-- **The ledger is its history**: for every history of operations, refused ones included. -/
theorem records_replay (ms : List Movement) : (empty.replay ms).Records ms := by
  have h := agrees_replay ms
  refine { h with
    credit_refused_iff := fun a bytes e => ?_
    debit_refused_iff := fun a bytes e => ?_
    after_refused := fun m e => after_of_refused
    names_ascend := snapshot_names_ascend _
    mem_statistics_iff := fun name n => ?_ }
  · rw [refusal?_credit]
    split
    · simp
      omega
    · simp [eq_comm]
      omega
  · rw [refusal?_debit, ← h.isSome_iff a]
    cases hg : (empty.replay ms).get? a with
    | none => simp [eq_comm]
    | some b =>
      by_cases hlt : (empty.replay ms).current a < bytes.toNat <;> simp [hlt, eq_comm]
  · simp only [List.mem_map, Prod.mk.injEq, Prod.exists]
    constructor
    · rintro ⟨a, _, hm, rfl, rfl⟩
      obtain ⟨hs, rfl⟩ := mem_snapshot.mp hm
      exact ⟨a, rfl, (h.isSome_iff a).mp hs, h.current_eq a⟩
    · rintro ⟨a, rfl, ho, hn⟩
      rw [← h.current_eq a] at hn
      exact ⟨a, n, mem_snapshot.mpr ⟨(h.isSome_iff a).mpr ho, by exact_mod_cast hn⟩, rfl, rfl⟩

end Ledger

end DeviceMemory
