import Mathlib.Algebra.BigOperators.Group.Finset.Piecewise
import Mathlib.Data.Fintype.Basic

/-!
# Interleavings

Threads that each have a list of things to do take turns in some order. A run is the list of all
turns, each with the thread whose turn it is; it interleaves the programs of the threads if the turns
of every thread are its program, in order and to the end.

Sums over all turns do not depend on the order (`Interleaves.coe_eq_sum`).
-/

namespace DeviceMemory

variable {ι α : Type} [DecidableEq ι]

/-- What one thread does in a run. -/
def turnsOf (i : ι) (run : List (ι × α)) : List α := (run.filter fun turn => turn.1 = i).map Prod.snd

/-- In a run, every thread goes through its program. -/
def Interleaves (run : List (ι × α)) (programs : ι → List α) : Prop := ∀ i, turnsOf i run = programs i

instance [Fintype ι] [DecidableEq α] (run : List (ι × α)) (programs : ι → List α) :
    Decidable (Interleaves run programs) :=
  inferInstanceAs (Decidable (∀ i, turnsOf i run = programs i))

@[simp] theorem turnsOf_nil (i : ι) : turnsOf i ([] : List (ι × α)) = [] := rfl

theorem turnsOf_append (i : ι) (run run' : List (ι × α)) :
    turnsOf i (run ++ run') = turnsOf i run ++ turnsOf i run' := by
  simp [turnsOf]

@[simp] theorem turnsOf_append_singleton (i j : ι) (run : List (ι × α)) (x : α) :
    turnsOf i (run ++ [(j, x)]) = turnsOf i run ++ if j = i then [x] else [] := by
  by_cases h : j = i <;> simp [turnsOf, h]

/-- What a thread has done after part of a run is the first part of its program. -/
theorem Interleaves.turnsOf_before {run before : List (ι × α)} {programs : ι → List α}
    (h : Interleaves run programs) (hb : before <+: run) (i : ι) : turnsOf i before <+: programs i := by
  obtain ⟨later, rfl⟩ := hb
  rw [← h i, turnsOf_append]
  exact List.prefix_append _ _

/-- All that is done is what the threads do. -/
theorem coe_map_snd_eq_sum [Fintype ι] (run : List (ι × α)) :
    (↑(run.map Prod.snd) : Multiset α) = ∑ i, (↑(turnsOf i run) : Multiset α) := by
  induction run with
  | nil => simp
  | cons turn run ih =>
    have hturn (i : ι) : (↑(turnsOf i (turn :: run)) : Multiset α) =
        (if turn.1 = i then {turn.2} else 0) + ↑(turnsOf i run) := by
      by_cases h : turn.1 = i <;> simp [turnsOf, h]
    simp only [hturn, Finset.sum_add_distrib, Finset.sum_ite_eq, Finset.mem_univ, if_true, ← ih]
    simp

/-- All that is done in an interleaving is what the programs say, in whatever order. -/
theorem Interleaves.coe_eq_sum [Fintype ι] {run : List (ι × α)} {programs : ι → List α}
    (h : Interleaves run programs) :
    (↑(run.map Prod.snd) : Multiset α) = ∑ i, (↑(programs i) : Multiset α) := by
  rw [coe_map_snd_eq_sum]
  exact Finset.sum_congr rfl fun i _ => by rw [h i]

/-- What one thread does is among all that is done. -/
theorem mem_turnsOf {i : ι} {run : List (ι × α)} {x : α} : x ∈ turnsOf i run ↔ (i, x) ∈ run := by
  simp [turnsOf]

/-- What a reading finds in an interleaving is what it finds in the programs, in whatever order. -/
theorem Interleaves.filterMap_eq_sum [Fintype ι] {γ : Type} {run : List (ι × α)} {programs : ι → List α}
    (h : Interleaves run programs) (f : α → Option γ) :
    (↑run : Multiset (ι × α)).filterMap (fun turn => f turn.2) = ∑ i, (↑((programs i).filterMap f) : Multiset γ) := by
  have hmap : (↑run : Multiset (ι × α)).filterMap (fun turn => f turn.2) =
      (↑(run.map Prod.snd) : Multiset α).filterMap f := by
    rw [← Multiset.map_coe, Multiset.filterMap_map]
    rfl
  rw [hmap, h.coe_eq_sum]
  exact map_sum (⟨⟨Multiset.filterMap f, Multiset.filterMap_zero f⟩, Multiset.filterMap_add f⟩ :
    Multiset α →+ Multiset γ) _ _

end DeviceMemory
