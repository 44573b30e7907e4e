import DeviceMemory.Proofs.Engine.Draws
import Mathlib.Algebra.Order.Ring.Nat
import Mathlib.Data.Finset.Card
import Mathlib.Data.List.Induction
import Mathlib.Logic.Function.Basic

/-!
# How threads get their numbers

The number of a thread is its place among the threads that have asked for one. Once it has a number it keeps
it, and no other thread gets the same (`Commons.stream?_mono`, `Commons.stream?_inj`).

In a process there is no list of threads. There is a counter, and each thread has a cell for its number, empty
until it first asks. To ask takes several steps: to look into the cell, to draw from the counter, to fill the
cell, to read it. Other threads come between, and the counter is a word that wraps around. For fewer than 2⁶⁴
threads this makes no difference (`Counter.stream?_of_answer`): whatever the order of the steps, every thread is
told its place in the order in which threads drew.

## The model

A `Counter` is the counter with the cells, and with what each thread has yet to do. `Counter.turn` is the next
step of one thread. A thread that asks for nothing begins to ask, so every list of threads is a run.
-/

namespace DeviceMemory

/-! ### Places -/

theorem getElem?_of_idxOf? {α : Type} [DecidableEq α] {l : List α} {x : α} {i : Nat} (h : l.idxOf? x = some i) :
    l[i]? = some x := by
  obtain ⟨hi, hx, -⟩ := List.idxOf?_eq_some_iff.mp h
  rw [List.getElem?_eq_getElem hi, hx]

theorem idxOf?_of_getElem? {α : Type} [DecidableEq α] {l : List α} (hn : l.Nodup) {x : α} {i : Nat}
    (h : l[i]? = some x) : l.idxOf? x = some i := by
  obtain ⟨j, hj⟩ := Option.isSome_iff_exists.mp (List.isSome_idxOf?.mpr (List.mem_of_getElem? h))
  have hi := (List.getElem?_eq_some_iff.mp h).1
  rw [hj, (List.getElem?_inj hi hn).mp (h.trans (getElem?_of_idxOf? hj).symm)]

theorem idxOf?_append {α : Type} [DecidableEq α] (l m : List α) (x : α) :
    (l ++ m).idxOf? x = (l.idxOf? x).or ((m.idxOf? x).map (· + l.length)) :=
  List.findIdx?_append

/-- What comes new at the end has the place after all others, and they keep theirs. -/
theorem idxOf?_concat {α : Type} [DecidableEq α] {l : List α} {x : α} (hx : x ∉ l) (y : α) :
    (l ++ [x]).idxOf? y = if y = x then some l.length else l.idxOf? y := by
  rw [idxOf?_append, List.idxOf?_singleton]
  by_cases hyx : y = x
  · subst hyx
    rw [List.idxOf?_eq_none_iff.mpr hx]
    simp
  · rw [if_neg (by simpa using Ne.symm hyx), if_neg hyx]
    simp

/-- What comes again does not count. -/
theorem eraseDups_concat {α : Type} [DecidableEq α] (l : List α) (x : α) :
    (l ++ [x]).eraseDups = if x ∈ l then l.eraseDups else l.eraseDups ++ [x] := by
  rw [List.eraseDups_append]
  by_cases hx : x ∈ l
  · have hnone : [x].removeAll l = [] := by simp [List.removeAll, hx]
    rw [hnone, List.eraseDups_nil, List.append_nil, if_pos hx]
  · have hone : [x].removeAll l = [x] := by simp [List.removeAll, hx]
    rw [hone, if_neg hx]
    rfl

theorem nodup_eraseDups {α : Type} [DecidableEq α] (l : List α) : l.eraseDups.Nodup := by
  induction l using List.reverseRecOn with
  | nil => exact List.nodup_nil
  | append_singleton l x ih =>
    rw [eraseDups_concat]
    split
    case isTrue => exact ih
    case isFalse hx =>
      rw [← List.concat_eq_append]
      exact ih.concat (mt List.mem_eraseDups.mp hx)

namespace Commons

variable {c c' : Commons} {a b : ThreadId} {s : Stream}

/-- The stream of a thread, if it has one. -/
def stream? (c : Commons) (thread : ThreadId) : Option Stream :=
  (c.streams.idxOf? thread).map fun i => ⟨i + 1⟩

theorem stream?_eq_some_iff : c.stream? a = some s ↔ ∃ i, c.streams.idxOf? a = some i ∧ s = ⟨i + 1⟩ := by
  rw [stream?, Option.map_eq_some_iff]
  exact exists_congr fun i => and_congr_right' eq_comm

theorem stream?_isSome_iff : (c.stream? a).isSome ↔ a ∈ c.streams := by
  rw [stream?, Option.isSome_map, List.isSome_idxOf?]

/-- The number of a thread is its place. -/
theorem stream?_eq_some_succ_iff (hn : c.streams.Nodup) {i : Nat} :
    c.stream? a = some ⟨i + 1⟩ ↔ c.streams[i]? = some a := by
  rw [stream?_eq_some_iff]
  constructor
  · rintro ⟨j, hj, hs⟩
    obtain rfl : i = j := by simpa using hs
    exact getElem?_of_idxOf? hj
  · intro h
    exact ⟨i, idxOf?_of_getElem? hn h, rfl⟩

/-- No two threads have the same number, -/
theorem stream?_inj (ha : c.stream? a = some s) (hb : c.stream? b = some s) : a = b := by
  obtain ⟨i, hi, rfl⟩ := stream?_eq_some_iff.mp ha
  obtain ⟨j, hj, hs⟩ := stream?_eq_some_iff.mp hb
  obtain rfl : i = j := by simpa using hs
  exact Option.some.inj ((getElem?_of_idxOf? hi).symm.trans (getElem?_of_idxOf? hj))

/-- so threads are told apart by their numbers, -/
theorem stream?_eq_iff {s' : Stream} (ha : c.stream? a = some s) (hb : c.stream? b = some s') : s = s' ↔ a = b := by
  constructor
  · rintro rfl
    exact stream?_inj ha hb
  · rintro rfl
    exact Option.some.inj (ha.symm.trans hb)

/-- and none has that of a process without threads. -/
theorem stream?_ne_main (h : c.stream? a = some s) : s ≠ .main := by
  obtain ⟨i, -, rfl⟩ := stream?_eq_some_iff.mp h
  simp [Stream.main]

/-- A thread keeps its number when more threads get theirs. -/
theorem stream?_mono (h : c.streams <+: c'.streams) (ha : c.stream? a = some s) : c'.stream? a = some s := by
  obtain ⟨i, hi, rfl⟩ := stream?_eq_some_iff.mp ha
  obtain ⟨later, hl⟩ := h
  exact stream?_eq_some_iff.mpr ⟨i, by rw [← hl, idxOf?_append, hi, Option.some_or], rfl⟩

/-- A thread that asks is told its number. -/
theorem stream?_streamOf (c : Commons) (thread : ThreadId) :
    (c.streamOf thread).2.stream? thread = some (c.streamOf thread).1 := by
  unfold streamOf
  cases h : c.streams.idxOf? thread with
  | some i => exact stream?_eq_some_iff.mpr ⟨i, h, rfl⟩
  | none =>
    have hn : thread ∉ c.streams := List.idxOf?_eq_none_iff.mp h
    exact stream?_eq_some_iff.mpr ⟨c.streams.length, by rw [idxOf?_concat hn, if_pos rfl], rfl⟩

theorem prefix_streamOf (c : Commons) (thread : ThreadId) : c.streams <+: (c.streamOf thread).2.streams := by
  rcases c.streams_streamOf thread with ⟨hs, -⟩ | ⟨hs, -⟩
  · rw [hs]
  · rw [hs]
    exact List.prefix_append _ _

end Commons

/-! ### Counter and cells -/

/-- What a thread that asks for its number has done so far. -/
inductive Asking
  /-- Nothing; it does not ask. -/
  | idle
  /-- It has found its cell empty. -/
  | empty
  /-- It has drawn a number. -/
  | drew (word : UInt64)
  /-- It has a number in its cell. -/
  | filled

/-- A counter that threads draw their numbers from, and the cells in which they keep them. -/
structure Counter where
  /-- The next number. -/
  next : UInt64 := 1
  /-- The cell of each thread; an empty one holds zero. -/
  cell : ThreadId → UInt64 := fun _ => 0
  /-- What each thread has done so far. -/
  asking : ThreadId → Asking := fun _ => .idle
  /-- The threads that have drawn, in order. -/
  draws : List ThreadId := []
  /-- What threads have been told, the latest first. -/
  answers : List (ThreadId × UInt64) := []

namespace Counter

/-- The next step of a thread. -/
def turn (n : Counter) (thread : ThreadId) : Counter :=
  match n.asking thread with
  | .idle =>
    { n with asking := Function.update n.asking thread (if n.cell thread = 0 then .empty else .filled) }
  | .empty =>
    { n with
      next := n.next + 1
      asking := Function.update n.asking thread (.drew n.next)
      draws := n.draws ++ [thread] }
  | .drew word =>
    { n with
      cell := Function.update n.cell thread word
      asking := Function.update n.asking thread .filled }
  | .filled =>
    { n with
      asking := Function.update n.asking thread .idle
      answers := (thread, n.cell thread) :: n.answers }

/-- A run of steps. -/
def run (turns : List ThreadId) : Counter := turns.foldl turn {}

theorem run_append_singleton (turns : List ThreadId) (thread : ThreadId) :
    run (turns ++ [thread]) = (run turns).turn thread := by
  rw [run, List.foldl_append, List.foldl_cons, List.foldl_nil, run]

/-- The number that a thread has drawn, if it has. -/
def word? (n : Counter) (thread : ThreadId) : Option UInt64 :=
  (n.draws.idxOf? thread).map fun i => .ofNat (i + 1)

/-- What a thread knows of its number. -/
def Knows (n : Counter) (thread : ThreadId) : Asking → Prop
  | .idle => n.cell thread = (n.word? thread).getD 0
  | .empty => n.cell thread = 0 ∧ n.word? thread = none
  | .drew word => n.word? thread = some word
  | .filled => n.word? thread = some (n.cell thread)

/-- What holds all the time. -/
structure Valid (n : Counter) : Prop where
  /-- No thread draws twice. -/
  nodup : n.draws.Nodup
  /-- There are enough numbers for those that have drawn. -/
  enough : n.draws.length < 2 ^ 64
  /-- The next number is that of the next to draw, as a word. -/
  next_eq : n.next = .ofNat (n.draws.length + 1)
  /-- Every thread knows its number. -/
  knows (thread : ThreadId) : n.Knows thread (n.asking thread)
  /-- Every thread that has been told a number was told its own. -/
  told (thread : ThreadId) (word : UInt64) : (thread, word) ∈ n.answers → n.word? thread = some word

variable {n : Counter} {thread other : ThreadId} {word : UInt64}

theorem word?_eq_none_iff : n.word? thread = none ↔ thread ∉ n.draws := by
  rw [word?, Option.map_eq_none_iff, List.idxOf?_eq_none_iff]

/-- A number that was drawn is a place, -/
theorem Valid.exists_place (h : n.Valid) (hw : n.word? thread = some word) :
    ∃ i, n.draws.idxOf? thread = some i ∧ word.toNat = i + 1 := by
  obtain ⟨i, hi, rfl⟩ := Option.map_eq_some_iff.mp hw
  obtain ⟨hlt, -⟩ := List.idxOf?_eq_some_iff.mp hi
  have := h.enough
  exact ⟨i, hi, UInt64.toNat_ofNat_of_lt' (by simp [UInt64.size]; omega)⟩

/-- and so it is not zero. -/
theorem Valid.ne_zero (h : n.Valid) (hw : n.word? thread = some word) : word ≠ 0 := by
  rintro rfl
  obtain ⟨i, -, hi⟩ := h.exists_place hw
  cases hi

/-- A thread that draws gets the next number, and the others have what they had. -/
theorem word?_of_draw {n' : Counter} (h : n'.draws = n.draws ++ [thread]) (hn : thread ∉ n.draws)
    (other : ThreadId) :
    n'.word? other = if other = thread then some (.ofNat (n.draws.length + 1)) else n.word? other := by
  rw [word?, h, idxOf?_concat hn]
  split <;> rfl

/-- A step of one thread leaves the others what they know. -/
theorem Valid.knows_update (h : n.Valid) {n' : Counter} {a : Asking}
    (hasking : n'.asking = Function.update n.asking thread a) (hself : n'.Knows thread a)
    (hcell : ∀ other ≠ thread, n'.cell other = n.cell other)
    (hword : ∀ other ≠ thread, n'.word? other = n.word? other) (other : ThreadId) :
    n'.Knows other (n'.asking other) := by
  rw [hasking]
  by_cases ho : other = thread
  · subst ho
    rwa [Function.update_self]
  · rw [Function.update_of_ne ho]
    have hknows := h.knows other
    unfold Knows at hknows ⊢
    rwa [hcell other ho, hword other ho]

/-- The invariant is preserved by every step, as long as there are enough numbers. -/
theorem Valid.turn (h : n.Valid) (hroom : thread ∉ n.draws → n.draws.length + 1 < 2 ^ 64) :
    (n.turn thread).Valid := by
  have hknows := h.knows thread
  unfold Counter.turn
  split
  case h_1 hidle =>
    rw [hidle, Knows] at hknows
    refine ⟨h.nodup, h.enough, h.next_eq, h.knows_update rfl ?_ (fun _ _ => rfl) (fun _ _ => rfl), h.told⟩
    -- no number is zero, so the cell is empty just if the thread has not drawn
    cases hw : n.word? thread with
    | none =>
      have hcell : n.cell thread = 0 := by rw [hknows, hw]; rfl
      rw [if_pos hcell]
      exact ⟨hcell, hw⟩
    | some word =>
      have hcell : n.cell thread = word := by rw [hknows, hw]; rfl
      rw [if_neg (hcell ▸ h.ne_zero hw)]
      exact hw.trans (congrArg some hcell.symm)
  case h_2 hempty =>
    rw [hempty] at hknows
    have hn : thread ∉ n.draws := word?_eq_none_iff.mp hknows.2
    exact {
      nodup := by
        rw [← List.concat_eq_append]
        exact h.nodup.concat hn
      enough := by simpa using hroom hn
      next_eq := by
        change n.next + 1 = _
        rw [h.next_eq, List.length_append, List.length_singleton]
        exact (UInt64.ofNat_add _ 1).symm
      knows := h.knows_update rfl (by rw [Knows, word?_of_draw rfl hn, if_pos rfl, h.next_eq]) (fun _ _ => rfl)
        fun other ho => by rw [word?_of_draw rfl hn, if_neg ho]
      told := fun other word ho => by
        have hother := h.told other word ho
        rw [word?_of_draw rfl hn, if_neg, hother]
        rintro rfl
        rw [hknows.2] at hother
        cases hother }
  case h_3 word hdrew =>
    rw [hdrew] at hknows
    refine ⟨h.nodup, h.enough, h.next_eq, h.knows_update rfl ?_ (fun other ho => Function.update_of_ne ho _ _)
      (fun _ _ => rfl), h.told⟩
    exact hknows.trans (congrArg some (Function.update_self thread word n.cell).symm)
  case h_4 hfilled =>
    rw [hfilled] at hknows
    refine ⟨h.nodup, h.enough, h.next_eq, h.knows_update rfl ?_ (fun _ _ => rfl) (fun _ _ => rfl), ?_⟩
    · change n.cell thread = (n.word? thread).getD 0
      rw [hknows, Option.getD_some]
    · intro other word ho
      rcases List.mem_cons.mp ho with heq | ho
      · cases heq
        exact hknows
      · exact h.told other word ho

theorem draws_turn (n : Counter) (thread : ThreadId) :
    (n.turn thread).draws = n.draws ∨ (n.turn thread).draws = n.draws ++ [thread] := by
  unfold turn
  split
  · exact .inl rfl
  · exact .inr rfl
  · exact .inl rfl
  · exact .inl rfl

/-- Only threads that take turns draw. -/
theorem mem_of_mem_draws {turns : List ThreadId} (h : thread ∈ (run turns).draws) : thread ∈ turns := by
  induction turns using List.reverseRecOn with
  | nil => cases h
  | append_singleton turns last ih =>
    rw [run_append_singleton] at h
    rcases draws_turn (run turns) last with hd | hd
    · exact List.mem_append_left _ (ih (hd ▸ h))
    · rcases List.mem_append.mp (hd ▸ h) with h | h
      · exact List.mem_append_left _ (ih h)
      · exact List.mem_append_right _ h

/-- **The invariant holds in every run** of fewer threads than there are words. -/
theorem valid_run {turns : List ThreadId} (h : turns.toFinset.card < 2 ^ 64) : (run turns).Valid := by
  induction turns using List.reverseRecOn with
  | nil =>
    exact ⟨List.nodup_nil, by simp [run], rfl, fun _ => rfl, fun _ _ hm => by cases hm⟩
  | append_singleton turns thread ih =>
    have hmono : turns.toFinset ⊆ (turns ++ [thread]).toFinset := by
      rw [List.toFinset_append]
      exact Finset.subset_union_left
    have hvalid := ih (lt_of_le_of_lt (Finset.card_le_card hmono) h)
    rw [run_append_singleton]
    refine hvalid.turn fun hn => lt_of_le_of_lt ?_ h
    -- whoever draws takes a turn, and nobody draws twice, so draws are no more than threads
    have hnodup : (thread :: (run turns).draws).Nodup := List.nodup_cons.mpr ⟨hn, hvalid.nodup⟩
    rw [← List.length_cons (a := thread), ← List.toFinset_card_of_nodup hnodup]
    refine Finset.card_le_card fun other ho => ?_
    rcases List.mem_cons.mp (List.mem_toFinset.mp ho) with rfl | ho
    · simp
    · simp [mem_of_mem_draws ho]

/-- **Every thread is told its place** in the order in which threads drew. -/
theorem stream?_of_answer {turns : List ThreadId} (h : turns.toFinset.card < 2 ^ 64) {c : Commons}
    (hc : c.streams = (run turns).draws) (ha : (thread, word) ∈ (run turns).answers) :
    word ≠ 0 ∧ c.stream? thread = some ⟨word.toNat⟩ := by
  have hvalid := valid_run h
  have hw := hvalid.told thread word ha
  obtain ⟨i, hi, hword⟩ := hvalid.exists_place hw
  exact ⟨hvalid.ne_zero hw, Commons.stream?_eq_some_iff.mpr ⟨i, hc ▸ hi, by rw [hword]⟩⟩

end Counter

/-! ### Who asks -/

variable {β ρ : Type}

/-- Whether the next step asks for the stream of the thread: to make a block, or to log that one is freed. -/
def Stage.asks : Stage ρ → Bool
  | placing _ _ | tracing _ _ => true
  | _ => false

/-- The id that a call has for a block that it is going to make. -/
def Stage.id? : Stage ρ → Option BlockId
  | placing _ id => some id
  | _ => none

/-- The entry that a call is going to write, as far as it is known. -/
def Stage.entry? : Stage ρ → Option Entry
  | surveying entry _ _ | writing entry _ _ => some entry
  | _ => none

namespace Engine

variable {e : Engine β} {c : Commons}

/-- A call that takes a block back does not have the id of one that it is to make, -/
theorem id?_takeBack (e : Engine β) {b : Block ρ} {reply : Reply ρ} : (e.takeBack b reply).id? = none := by
  unfold takeBack
  split <;> rfl

/-- and has nothing to log yet. -/
theorem entry_takeBack (e : Engine β) {b : Block ρ} {reply : Reply ρ} : Stage.entry? (e.takeBack b reply) = none := by
  unfold takeBack
  split <;> rfl

variable [Backend β ρ]

variable {thread : ThreadId} {s : Stage ρ} {p : Progress β ρ}

theorem Advances.streams_eq (h : e.Advances thread c s p) :
    p.commons.streams = if s.asks then (c.streamOf thread).2.streams else c.streams := by
  cases h with
  | refused => exact c.streams_traced _
  | _ => rfl

/-- **A step numbers its thread if it asks**, and no step numbers any other. -/
theorem streams_advance (thread : ThreadId) (e : Engine β) (c : Commons) (s : Stage ρ) :
    (e.advance thread c s).commons.streams =
      if s.asks then (c.streamOf thread).2.streams else c.streams :=
  (e.advances thread c s).streams_eq

end Engine

end DeviceMemory
