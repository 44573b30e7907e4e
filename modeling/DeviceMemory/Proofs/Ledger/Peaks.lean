import DeviceMemory.Proofs.Ledger.History
import Mathlib.Algebra.Order.BigOperators.Group.List
import Mathlib.Algebra.Order.Ring.Nat
import Mathlib.Data.Set.Finite.Lemmas

/-!
# The sum of the peaks

A ledger tells one number for all that was ever in use at once: the sum of the peaks of all placements. It is an
upper bound, since the peaks need not have been reached at the same time (`Ledger.tops_replay`).

The sum is a machine word, so it stays at the greatest one once it would exceed it. Such a sum does not depend
on the order in which it is taken (`foldl_addSaturating`), and the ledger need not say in which order it goes through
its accounts.
-/

namespace DeviceMemory

/-- Whether an account counts memory that was allocated. -/
def Account.isAllocated : Account → Bool
  | allocated _ => true
  | imported => false

namespace Ledger

variable {l : Ledger} {ms : List Movement}

/-! ### Sums held at the greatest word -/

/-- **A sum that is held at the greatest word at every step is the exact one, held there once.** -/
theorem foldl_addSaturating {α : Type} (f : α → Nat) (xs : List α) {start : Nat} (h : start ≤ maxWord) :
    xs.foldl (fun total x => addSaturating total (f x)) start = min maxWord (start + (xs.map f).sum) := by
  induction xs generalizing start with
  | nil => simp [h]
  | cons x xs ih =>
    have hle : addSaturating start (f x) ≤ maxWord := Nat.min_le_right _ _
    rw [List.foldl_cons, ih hle, List.map_cons, List.sum_cons, addSaturating]
    omega

/-- The accounts that exist, with what they hold. -/
def entries (l : Ledger) : List (Account × Balance) :=
  Account.byName.filterMap fun a => (l.get? a).map (a, ·)

/-- The sum of the peaks of the placements among some entries, taken in their order and held at the greatest word. -/
def peakTotalOf (es : List (Account × Balance)) : Nat :=
  (es.filter (·.1.isAllocated)).foldl (fun total e => addSaturating total e.2.peak) 0

/-- The exact sum of the peaks of every placement. -/
def peaks (l : Ledger) : Nat := (Placement.all.map fun p => l.peak (.allocated p)).sum

theorem peakTotal_eq (l : Ledger) : l.peakTotal = min maxWord l.peaks := by
  rw [peakTotal, foldl_addSaturating _ _ (Nat.zero_le _), Nat.zero_add, peaks]

/-- An account that does not exist adds nothing to a sum of peaks. -/
theorem sum_peak_filterMap (l : Ledger) (accounts : List Account) :
    (((accounts.filterMap fun a => (l.get? a).map (a, ·)).filter (·.1.isAllocated)).map (·.2.peak)).sum =
      ((accounts.filter Account.isAllocated).map l.peak).sum := by
  induction accounts with
  | nil => rfl
  | cons a rest ih =>
    cases hg : l.get? a with
    | none =>
      have hzero : l.peak a = 0 := by simp [peak, balance, hg]
      by_cases ha : a.isAllocated <;> simp [hg, ha, hzero, ih]
    | some b =>
      have hpeak : l.peak a = b.peak := peak_of_get? hg
      by_cases ha : a.isAllocated <;> simp [hg, ha, hpeak, ih]

theorem sum_peak_entries (l : Ledger) : ((l.entries.filter (·.1.isAllocated)).map (·.2.peak)).sum = l.peaks := by
  have hperm : (Account.byName.filter Account.isAllocated).Perm (Placement.all.map .allocated) := by decide
  rw [entries, sum_peak_filterMap, (hperm.map l.peak).sum_eq, List.map_map, peaks]
  rfl

/-- **The order in which the peaks are added up does not matter.** -/
theorem peakTotalOf_eq {es : List (Account × Balance)} (h : es.Perm l.entries) :
    peakTotalOf es = l.peakTotal := by
  have hsum := (((h.filter (·.1.isAllocated)).map (·.2.peak)).sum_eq).trans l.sum_peak_entries
  rw [peakTotalOf, foldl_addSaturating _ _ (Nat.zero_le _), Nat.zero_add, hsum, peakTotal_eq]

/-! ### Peaks in the course of a history -/

/-- An operation on imported memory leaves the peaks of all placements as they are. -/
theorem peak_after_of_imported {m : Movement} (h : (∃ n, m = .credit .imported n) ∨ ∃ n, m = .debit .imported n)
    (p : Placement) : (l.after m).peak (.allocated p) = l.peak (.allocated p) := by
  cases hr : l.refusal? m with
  | some e => rw [after_of_refused hr]
  | none =>
    rcases h with ⟨n, rfl⟩ | ⟨n, rfl⟩
    · obtain ⟨-, ha⟩ := after_credit hr
      simp [ha]
    · obtain ⟨-, -, ha⟩ := after_debit hr
      simp [ha]

/-- No operation lowers a peak. -/
theorem peak_le_after (l : Ledger) (m : Movement) (a : Account) : l.peak a ≤ (l.after m).peak a := by
  cases hr : l.refusal? m with
  | some e => rw [after_of_refused hr]
  | none =>
    cases m with
    | credit k bytes =>
      obtain ⟨-, ha⟩ := after_credit hr
      by_cases hak : a = k <;> simp [ha, hak]
    | debit k bytes =>
      obtain ⟨-, -, ha⟩ := after_debit hr
      by_cases hak : a = k <;> simp [ha, hak]

/-- No history lowers a peak. -/
theorem peak_le_replay (l : Ledger) (ms : List Movement) (a : Account) : l.peak a ≤ (l.replay ms).peak a := by
  induction ms generalizing l with
  | nil => exact le_rfl
  | cons m ms ih => exact (l.peak_le_after m a).trans (ih (l.after m))

theorem peaks_mono {l' : Ledger} (h : ∀ a, l.peak a ≤ l'.peak a) : l.peaks ≤ l'.peaks :=
  List.sum_le_sum fun _ _ => h _

theorem peakTotal_mono {l' : Ledger} (h : ∀ a, l.peak a ≤ l'.peak a) : l.peakTotal ≤ l'.peakTotal := by
  rw [peakTotal_eq, peakTotal_eq]
  exact min_le_min_left maxWord (peaks_mono h)

/-! ### The footprint -/

/-- The bytes in use with all placements together. -/
def footprint (l : Ledger) : Nat := (Placement.all.map fun p => l.current (.allocated p)).sum

/-- The footprints that a ledger has had in the course of a history. -/
def footprints (ms : List Movement) : Set Nat := {n | ∃ p, p <+: ms ∧ n = (empty.replay p).footprint}

/-- One of the footprints in the course of a history is the greatest. -/
theorem exists_isGreatest_footprints (ms : List Movement) : ∃ n, IsGreatest (footprints ms) n := by
  have himage : footprints ms = (fun p => (empty.replay p).footprint) '' {p | p ∈ ms.inits} := by
    ext n
    simp [footprints, eq_comm]
  have hfinite : (footprints ms).Finite := himage ▸ (List.finite_toSet ms.inits).image _
  obtain ⟨n, hn, hmax⟩ := Set.exists_max_image (footprints ms) id hfinite ⟨_, [], List.nil_prefix, rfl⟩
  exact ⟨n, hn, hmax⟩

/-- What is in use at one time is no more than the sum of the peaks, then or later. -/
theorem footprint_le_peaks {p : List Movement} (h : p <+: ms) :
    (empty.replay p).footprint ≤ (empty.replay ms).peaks := by
  obtain ⟨rest, rfl⟩ := h
  apply List.sum_le_sum
  intro placement _
  have hnow := (agrees_replay p).current_le_peak (.allocated placement)
  have hlater := (empty.replay p).peak_le_replay rest (.allocated placement)
  rw [replay, replay, ← List.foldl_append] at hlater
  exact hnow.trans hlater

/-- What the sum of the peaks tells after a history. -/
structure Tops (l : Ledger) (ms : List Movement) : Prop where
  /-- It is the exact sum of the peaks, held at the greatest word, -/
  peakTotal_eq : l.peakTotal = min maxWord (Placement.all.map fun p => l.peak (.allocated p)).sum
  /-- in whatever order the accounts are gone through. -/
  order {es : List (Account × Balance)} : es.Perm l.entries → peakTotalOf es = l.peakTotal
  /-- Imported memory adds nothing to it. -/
  imported (bytes : UInt64) : (l.after (.credit .imported bytes)).peakTotal = l.peakTotal ∧
    (l.after (.debit .imported bytes)).peakTotal = l.peakTotal
  /-- It is no less than it was at any time before. -/
  mono {p : List Movement} : p <+: ms → (empty.replay p).peakTotal ≤ l.peakTotal
  /-- It is no less than the most that was ever in use at once, as far as a word can tell. -/
  footprint : ∃ most, IsGreatest (footprints ms) most ∧ min maxWord most ≤ l.peakTotal

/-- **The sum of the peaks is an upper bound of all that was ever in use at once**, for every history of operations,
refused ones included. -/
theorem tops_replay (ms : List Movement) : (empty.replay ms).Tops ms where
  peakTotal_eq := Ledger.peakTotal_eq _
  order := peakTotalOf_eq
  imported bytes := by
    have of_imported {m : Movement} (h : (∃ n, m = .credit .imported n) ∨ ∃ n, m = .debit .imported n) :
        ((empty.replay ms).after m).peakTotal = (empty.replay ms).peakTotal := by
      simp only [Ledger.peakTotal_eq, peaks, peak_after_of_imported h]
    exact ⟨of_imported (.inl ⟨bytes, rfl⟩), of_imported (.inr ⟨bytes, rfl⟩)⟩
  mono {p} h := by
    obtain ⟨rest, rfl⟩ := h
    rw [replay, replay, List.foldl_append]
    exact peakTotal_mono ((empty.replay p).peak_le_replay rest)
  footprint := by
    obtain ⟨most, hmost⟩ := exists_isGreatest_footprints ms
    obtain ⟨p, hp, hn⟩ := hmost.1
    refine ⟨most, hmost, ?_⟩
    rw [Ledger.peakTotal_eq, hn]
    exact min_le_min_left maxWord (footprint_le_peaks hp)

end Ledger

end DeviceMemory
