import DeviceMemory.Proofs.Engine.Entries
import DeviceMemory.Proofs.Engine.Intake
import Mathlib.Data.List.Range

/-!
# Which calls draw ids

The id of a block is drawn when everything else is known of it but its stream. For memory of the backend this comes
after the credit, so a call that fails has drawn none. An import is credited only after the id is drawn, so one that
passes its checks and is then refused has drawn an id that no block ever has (`Call.Draws`).

Ids come from a counter. In a process this is a word, of which the last value is an error; up to there, the words are
those that are counted (`Counted.takes_eq`).

## The model

`Importing` lists the stages of an import with the ids that it has drawn. What every other call has drawn follows from
its course.
-/

namespace DeviceMemory

variable {β ρ : Type}

open Deed

/-! ### Counting with words -/

namespace Counted

variable {w : Nat}

/-- The number that is drawn from a counter of `w` bits, and the counter after it. The last word is an error, and the
counter wraps around. -/
def take (next : BitVec w) : Option (BitVec w) × BitVec w :=
  (if next = BitVec.allOnes w then none else some next, next + 1)

/-- What so many draws give, one after another. -/
def takes : Nat → BitVec w → List (Option (BitVec w))
  | 0, _ => []
  | n + 1, next => (take next).1 :: takes n (take next).2

/-- A counter that is not exhausted counts. -/
theorem takes_eq (n : Nat) {k : Nat} (h : k + n < 2 ^ w) :
    takes n (BitVec.ofNat w k) = (List.range' k n).map fun i => some (BitVec.ofNat w i) := by
  induction n generalizing k with
  | zero => rfl
  | succ n ih =>
    have hlast : BitVec.ofNat w k ≠ BitVec.allOnes w := by
      intro heq
      have hnat := congrArg BitVec.toNat heq
      rw [BitVec.toNat_ofNat, Nat.mod_eq_of_lt (by omega), BitVec.toNat_allOnes] at hnat
      omega
    have hnext : BitVec.ofNat w k + 1 = BitVec.ofNat w (k + 1) := (BitVec.ofNat_add k 1).symm
    rw [takes, take, if_neg hlast, hnext, ih (by omega), List.range'_succ, List.map_cons]

/-- The numbers that words stand for are then those from zero on. -/
theorem map_toNat_takes {n : Nat} (h : n < 2 ^ w) :
    (takes n (0 : BitVec w)).map (Option.map BitVec.toNat) = (List.range n).map some := by
  have hcounts : takes n (0 : BitVec w) = _ := takes_eq n (k := 0) (by omega)
  rw [hcounts, List.map_map, ← List.range_eq_range']
  refine List.map_congr_left fun i hi => ?_
  have hlt : i < 2 ^ w := Nat.lt_trans (List.mem_range.mp hi) h
  simp [Nat.mod_eq_of_lt hlt]

end Counted

/-! ### What a call draws -/

/-- **The ids that a call draws**, given how it ends. -/
inductive Call.Draws : Call ρ → Reply ρ → List BlockId → Prop
  /-- A call that makes a block draws the id of the block. -/
  | made {call : Call ρ} {b : Block ρ} (hf : ∀ b', call ≠ .free b') : Draws call (.made b) [b.id]
  /-- A call that gives a block back draws none. -/
  | freed {b : Block ρ} : Draws (.free b) .freed []
  /-- An import that passes its checks and fails was refused by the ledger, and draws an id. -/
  | barred {layout : Layout} {handle : SharedHandle} {size inUse : Nat} {f : Failure} {id : BlockId}
    (ha : handle.admit layout = .ok size) (hf : f.cause = .ledger (.overflow .imported size inUse)) :
    Draws (.share layout handle) (.failed f) [id]
  /-- Any other call that fails draws none. -/
  | failed {call : Call ρ} {f : Failure}
    (hn : ∀ layout handle size, call = .share layout handle → handle.admit layout ≠ .ok size) :
    Draws call (.failed f) []

/-- Whether a call is an import that passed its checks and failed. -/
def Call.isBarred : Call ρ → Reply ρ → Bool
  | .share layout handle, .failed _ =>
    match handle.admit layout with
    | .ok _ => true
    | .error _ => false
  | _, _ => false

/-! ### The stages of an import -/

/-- How far an import has come, and what it has drawn by then. -/
inductive Importing (layout : Layout) (handle : SharedHandle) : Stage ρ → List BlockId → Prop
  /-- The import begins. -/
  | opening : Importing layout handle (.opening (.share layout handle)) []
  /-- It failed its checks. -/
  | declined {err : ImportError} {f : Failure} (ha : handle.admit layout = .error err) :
    Importing layout handle (.closing none (.failed f)) []
  /-- It passed them. -/
  | naming {size : Nat} {plan : Plan ρ} (ha : handle.admit layout = .ok size) :
    Importing layout handle (.naming plan) []
  /-- Its block has an id. -/
  | named {size : Nat} {s : Stage ρ} {ids : List BlockId} (ha : handle.admit layout = .ok size) (hne : ids ≠ []) :
    Importing layout handle s ids

theorem Importing.of_advances [Backend β ρ] {layout : Layout} {handle : SharedHandle} {s : Stage ρ}
    {ids : List BlockId} {thread : ThreadId} {e : Engine β} {c : Commons} {p : Progress β ρ}
    (h : e.Advances thread c s p) (hs : Importing layout handle s ids) :
    Importing layout handle p.stage (ids ++ drawn p.deeds) := by
  cases hs with
  | opening =>
    cases h with
    | refused hr =>
      rw [drawn_records]
      cases ha : handle.admit layout with
      | error err => exact .declined ha
      | ok size => simp [Nature.refusal?, ha] at hr
    | ordered ho => cases ho
    | imported ha =>
      rw [drawn_records]
      exact .naming ha
  | declined ha =>
    cases h with
    | closed => exact .declined ha
  | naming ha =>
    cases h with
    | named => exact .named ha (by simp)
  | named ha hne => exact .named ha (by simp [hne])

/-- Every step of an import goes from one of its stages to another. -/
theorem Importing.advance [Backend β ρ] {layout : Layout} {handle : SharedHandle} {s : Stage ρ} {ids : List BlockId}
    (h : Importing layout handle s ids) (thread : ThreadId) (e : Engine β) (c : Commons) :
    Importing layout handle (e.advance thread c s).stage (ids ++ drawn (e.advance thread c s).deeds) :=
  .of_advances (e.advances thread c s) h

/-! ### What has been drawn -/

variable {n : Nature} {call : Call ρ} {s : Stage ρ} {reply : Reply ρ} {ds : List (Deed ρ)}

theorem Prepares.drawn_eq_nil {p : Plan ρ} (h : Prepares n call p ds) : drawn ds = [] := by
  cases h <;> rfl

theorem Achieves.drawn_eq_of_freed {b : Block ρ} {release : Option (Holding ρ)}
    (h : Achieves n call .freed b release reply ds) : drawn ds = [] := by
  cases h with
  | freed he hr => split <;> rfl

theorem Achieves.length_drawn_le {event : Event} {b : Block ρ} {release : Option (Holding ρ)}
    (h : Achieves n call event b release reply ds) : (drawn ds).length ≤ 1 := by
  by_cases he : event = .freed
  · subst he
    rw [h.drawn_eq_of_freed]
    exact Nat.zero_le 1
  · rw [h.drawn_eq he]
    exact le_rfl

/-- No call draws more than one id. -/
theorem Course.length_drawn_le (h : Course n call s ds) : (drawn ds).length ≤ 1 := by
  cases h with
  | naming hp => simp [hp.drawn_eq_nil]
  | placing hp => simp [hp.drawn_eq_nil]
  | tracing ha => exact ha.length_drawn_le
  | surveying ha hd ht => exact ha.length_drawn_le
  | writing ha hd ht => exact ha.length_drawn_le
  | concluded ha hl => simpa [hl.drawn_eq_nil] using ha.length_drawn_le
  | released ha hl => simpa [hl.drawn_eq_nil] using ha.length_drawn_le
  | _ => simp

/-- What a call that has ended has drawn. An import has to have come by its stages, and to fail after its checks only
for want of room. -/
theorem Course.draws (h : Course n call (.closing none reply) ds)
    (hi : ∀ layout handle, call = .share layout handle → Importing layout handle (.closing none reply) (drawn ds))
    (hf : ∀ layout handle size f, call = .share layout handle → handle.admit layout = .ok size → reply = .failed f →
      ∃ inUse, f.cause = .ledger (.overflow .imported size inUse)) : call.Draws reply (drawn ds) := by
  have ordered {r : Request} (ho : n.order? call = some r) (layout : Layout) (handle : SharedHandle) (size : Nat)
      (hc : call = .share layout handle) : handle.admit layout ≠ .ok size := by
    subst hc
    cases ho
  cases h with
  | declined ho hforeign =>
    refine .failed fun layout handle size hc ha => ?_
    -- an import that passed its checks has drawn an id by then
    cases hi layout handle hc with
    | declined he => cases ha.symm.trans he
    | named ha hne => exact hne rfl
  | denied ho => exact .failed (ordered ho)
  | returned ho => exact .failed (ordered ho)
  | @unenrolled layout handle b f hp =>
    cases hi layout handle rfl with
    | named ha hne =>
      obtain ⟨inUse, hcause⟩ := hf layout handle _ f rfl ha rfl
      exact .barred ha hcause
  | @concluded _ event b _ _ _ _ ha hl =>
    rw [drawn_append, hl.drawn_eq_nil, List.append_nil]
    cases ha with
    | allocated ho hp he =>
      refine .made ?_
      rintro b' rfl
      cases ho
    | imported hadmit hp he => exact .made (by simp)
    | attached hadmit hp he => exact .made (by simp)
    | freed he hr =>
      rw [Achieves.drawn_eq_of_freed (.freed he hr)]
      exact .freed
  | released ha hl =>
    cases ha with
    | freed he hr =>
      rw [drawn_append, drawn_append, hl.drawn_eq_nil, Achieves.drawn_eq_of_freed (.freed he hr)]
      exact .freed

end DeviceMemory
