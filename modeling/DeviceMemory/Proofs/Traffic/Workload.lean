import DeviceMemory.Proofs.Traffic.Totals
import Mathlib.Data.Fintype.Card

/-!
# Threads that fill an engine and empty it again

Some threads each allocate in rounds, once by the general policy and once by the lockable one; when all of
them are done, each gives back what it has made. Here stands what they do and in which orders they can, and
what a whole schedule asks for: that is the same in all of them.

## The model

* `Workload` is what the threads are to do, `Workload.Fresh` that they are new to the process.
* `Workload.Schedule` is an order in which they do it. Between the two phases they wait for each other, so
  a schedule is a run of the first and then a run of the second. A thread may give its blocks back in any
  order.

A program leaves every call the most steps that it may need. The steps that it does not need change nothing,
so a schedule may have them anywhere, and every order of the steps that are needed is that of a schedule.
-/

namespace DeviceMemory

variable {β ρ ι : Type}

/-- What threads are to do on an engine. -/
structure Workload (ι : Type) where
  /-- The engine. -/
  engine : EngineId
  /-- The layout that memory is needed for. -/
  layout : Layout
  /-- Whether memory of the general policy has to be zeroed. -/
  zeroed : Bool
  /-- The threads. -/
  thread : ι → ThreadId
  /-- How many rounds each of them makes. -/
  rounds : Nat
  /-- The names of the two blocks that a thread makes in a round. -/
  names : ι → Nat → String × String

namespace Workload

/-! ### Programs -/

/-- One round of a thread. -/
def round (w : Workload ι) (i : ι) (k : Nat) : List (Move β ρ) :=
  .call (w.thread i) w.engine (w.names i k).1 (.allocate w.layout w.zeroed) :: Move.toEnd (w.thread i) ++
    (.call (w.thread i) w.engine (w.names i k).2 (.allocateLockable w.layout) :: Move.toEnd (w.thread i))

/-- What a thread does in the first phase. -/
def allocations (w : Workload ι) (i : ι) : List (Move β ρ) := (List.range w.rounds).flatMap (w.round i)

/-- The names of all blocks of a thread. -/
def namesOf (w : Workload ι) (i : ι) : List String :=
  (List.range w.rounds).flatMap fun k => [(w.names i k).1, (w.names i k).2]

/-- What a thread does in the second phase, if this is the order of its blocks. -/
def frees (w : Workload ι) (i : ι) (names : List String) : List (Move β ρ) :=
  names.flatMap fun name => .giveBack (w.thread i) w.engine name :: Move.toEnd (w.thread i)

/-- An order in which threads take their turns. -/
structure Schedule [DecidableEq ι] (w : Workload ι) (β ρ : Type) where
  /-- The turns of the first phase. -/
  first : List (ι × Move β ρ)
  /-- In it every thread makes its blocks. -/
  allocates : Interleaves first w.allocations
  /-- The orders in which threads give their blocks back. -/
  back : ι → List String
  /-- None is left out. -/
  all_back (i : ι) : (back i).Perm (w.namesOf i)
  /-- The turns of the second phase. -/
  second : List (ι × Move β ρ)
  /-- In it every thread gives its blocks back. -/
  frees : Interleaves second fun i => w.frees i (back i)

/-- All names of all threads. -/
def allNames [Fintype ι] (w : Workload ι) : Multiset String := ∑ i, ↑(w.namesOf i)

/-- The threads are new to the process, and their names are not taken. -/
structure Fresh [Fintype ι] (w : Workload ι) (t : Traffic β ρ) : Prop where
  /-- They are different threads. -/
  injective : Function.Injective w.thread
  /-- None of them is in the middle of a call, -/
  idle (i : ι) : t.errandOf (w.thread i) = none
  /-- and none has a stream. -/
  unnumbered (i : ι) : w.thread i ∉ t.host.commons.streams
  /-- All names are different. -/
  names : w.allNames.Nodup
  /-- No block is held under one of them. -/
  unheld (i : ι) : ∀ name ∈ w.namesOf i, t.held.lookup name = none

end Workload

/-! ### What the programs ask for -/

namespace Workload

theorem paced_flatMap {γ : Type} {thread : ThreadId} {id : EngineId} {f : γ → List (Move β ρ)}
    (hf : ∀ x ms, Paced thread id 0 ms → Paced thread id 0 (f x ++ ms)) (xs : List γ) :
    Paced thread id 0 (xs.flatMap f) := by
  induction xs with
  | nil => rfl
  | cons x xs ih => exact hf x _ ih

theorem paced_allocations (w : Workload ι) (i : ι) :
    Paced (w.thread i) w.engine 0 (w.allocations i : List (Move β ρ)) := by
  refine paced_flatMap (fun k ms h => ?_) _
  rw [round, List.append_assoc]
  exact paced_call rfl (paced_call rfl h)

theorem paced_frees (w : Workload ι) (i : ι) (names : List String) :
    Paced (w.thread i) w.engine 0 (w.frees i names : List (Move β ρ)) :=
  paced_flatMap (fun _ _ h => paced_giveBack h) _

/-- What a thread asks for in the first phase, with the names for the blocks. -/
def asks (w : Workload ι) (i : ι) : List (String × ThreadId × Call ρ) :=
  (List.range w.rounds).flatMap fun k =>
    [((w.names i k).1, w.thread i, .allocate w.layout w.zeroed),
      ((w.names i k).2, w.thread i, .allocateLockable w.layout)]

theorem call?_allocations (w : Workload ι) (i : ι) :
    (w.allocations i : List (Move β ρ)).filterMap Move.call? = w.asks i := by
  simp [allocations, round, asks, Move.toEnd, List.filterMap_flatMap, List.filterMap_replicate]

theorem given?_allocations (w : Workload ι) (i : ι) :
    (w.allocations i : List (Move β ρ)).filterMap Move.given? = [] := by
  simp [allocations, round, Move.toEnd, List.filterMap_flatMap]

theorem call?_frees (w : Workload ι) (i : ι) (names : List String) :
    (w.frees i names : List (Move β ρ)).filterMap Move.call? = [] := by
  simp [frees, Move.toEnd, List.filterMap_flatMap]

theorem given?_frees (w : Workload ι) (i : ι) (names : List String) :
    (w.frees i names : List (Move β ρ)).filterMap Move.given? = names := by
  simp [frees, Move.toEnd, List.filterMap_flatMap, List.filterMap_replicate]

section

variable [Fintype ι] {w : Workload ι}

/-- The calls of all rounds of all threads. -/
def calls (w : Workload ι) : Multiset (Call ρ) :=
  (Fintype.card ι * w.rounds) • {.allocate w.layout w.zeroed, .allocateLockable w.layout}

/-- The requests that they lead to on an engine. -/
def orders (w : Workload ι) (n : Nature) : Multiset Request :=
  (Fintype.card ι * w.rounds) • (↑(n.orderBy? .general w.layout w.zeroed).toList +
    ↑(n.orderBy? .lockable w.layout false).toList)

theorem isAllocation_of_mem_calls {call : Call ρ} (h : call ∈ w.calls) : call.isAllocation = true := by
  have hm := Multiset.mem_of_mem_nsmul h
  simp only [Multiset.insert_eq_cons, Multiset.mem_cons, Multiset.mem_singleton] at hm
  rcases hm with rfl | rfl <;> rfl

theorem card_calls : (w.calls : Multiset (Call ρ)).card = 2 * (Fintype.card ι * w.rounds) := by
  rw [calls, Multiset.card_nsmul]
  simp [mul_comm]

theorem orders_calls (n : Nature) : n.orders (w.calls : Multiset (Call ρ)) = w.orders n := by
  have hnsmul (k : Nat) (calls : Multiset (Call ρ)) : n.orders (k • calls) = k • n.orders calls :=
    map_nsmul (⟨⟨n.orders, Multiset.filterMap_zero _⟩, Multiset.filterMap_add _⟩ :
      Multiset (Call ρ) →+ Multiset Request) k calls
  rw [calls, hnsmul, orders]
  congr 1
  rw [Nature.orders, Multiset.insert_eq_cons, Traffic.filterMap_cons_toList, ← Multiset.cons_zero,
    Traffic.filterMap_cons_toList]
  simp [Nature.order?]

/-- The names of threads that are new are not taken, and none comes up twice. -/
theorem Fresh.nodup_names {t : Traffic β ρ} (hw : w.Fresh t) (ht : (t.held.map Prod.fst).Nodup) :
    (w.allNames + ↑(t.held.map Prod.fst)).Nodup := by
  rw [Multiset.nodup_add]
  refine ⟨hw.names, Multiset.coe_nodup.mpr ht, ?_⟩
  rw [Multiset.disjoint_left]
  intro name hm
  obtain ⟨i, -, hi⟩ := Multiset.mem_sum.mp hm
  exact Traffic.not_mem_names.mpr (hw.unheld i name (Multiset.mem_coe.mp hi))

end

/-! ### What a schedule asks for -/

namespace Schedule

variable [DecidableEq ι] {w : Workload ι} (s : w.Schedule β ρ)

theorem given?_first : ∀ turn ∈ s.first, turn.2.given? = none := by
  intro turn hturn
  have hm := mem_turnsOf.mpr hturn
  rw [s.allocates turn.1] at hm
  exact List.filterMap_eq_nil_iff.mp (w.given?_allocations turn.1) _ hm

theorem call?_second : ∀ turn ∈ s.second, turn.2.call? = none := by
  intro turn hturn
  have hm := mem_turnsOf.mpr hturn
  rw [s.frees turn.1] at hm
  exact List.filterMap_eq_nil_iff.mp (w.call?_frees turn.1 _) _ hm

variable [Fintype ι]

theorem calls_first :
    Traffic.calls s.first = ∑ i, Multiset.ofList (w.asks i : List (String × ThreadId × Call ρ)) := by
  rw [Traffic.calls, s.allocates.filterMap_eq_sum Move.call?]
  simp only [call?_allocations]

theorem gifts_second : Traffic.gifts s.second = w.allNames := by
  rw [Traffic.gifts, s.frees.filterMap_eq_sum Move.given?, allNames]
  apply Finset.sum_congr rfl
  intro i _
  rw [given?_frees]
  exact Multiset.coe_eq_coe.mpr (s.all_back i)

theorem map_fst_calls : (Traffic.calls s.first).map Prod.fst = w.allNames := by
  rw [s.calls_first, allNames]
  refine (map_sum (Multiset.mapAddMonoidHom _) _ _).trans (Finset.sum_congr rfl fun i _ => ?_)
  simp [asks, namesOf, List.map_flatMap]

theorem map_snd_calls : ((Traffic.calls s.first).map Prod.snd).map Prod.snd = w.calls := by
  have hthread (i : ι) : (Multiset.ofList (w.asks i : List (String × ThreadId × Call ρ))).map
      (Prod.snd ∘ Prod.snd) = w.rounds • {.allocate w.layout w.zeroed, .allocateLockable w.layout} := by
    rw [asks, ← Multiset.coe_bind, Multiset.map_bind, Multiset.bind, Multiset.join]
    simp only [Multiset.map_coe, List.map_cons, List.map_nil, Function.comp_apply, Multiset.coe_range,
      Multiset.map_const', Multiset.card_range, Multiset.sum_replicate]
    rfl
  rw [s.calls_first, Multiset.map_map, calls, mul_nsmul']
  refine (map_sum (Multiset.mapAddMonoidHom _) _ _).trans ?_
  simp only [Multiset.coe_mapAddMonoidHom, hthread, Finset.sum_const, Finset.card_univ]

end Schedule

end Workload

end DeviceMemory
