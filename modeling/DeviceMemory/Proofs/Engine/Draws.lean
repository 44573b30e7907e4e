import DeviceMemory.Proofs.Engine.Effects

/-!
# What a step draws from what engines share

The ids of blocks and the numbers of streams come from counters that all engines of a process share. A
step draws an id just where it says so, and gives its thread a number just where the thread has none yet;
whoever has made a block has a number (`Engine.draws_advance`).
-/

namespace DeviceMemory

variable {β ρ : Type}

/-- Whether a deed drew an id. -/
def Deed.isName : Deed ρ → Bool
  | named _ => true
  | _ => false

/-- How many ids deeds drew. -/
def Deed.names (ds : List (Deed ρ)) : Nat := ds.countP isName

namespace Deed

attribute [simp] isName

@[simp] theorem names_nil : names ([] : List (Deed ρ)) = 0 := rfl

@[simp] theorem names_cons (d : Deed ρ) (ds : List (Deed ρ)) :
    names (d :: ds) = (if d.isName = true then 1 else 0) + names ds := by
  rw [names, List.countP_cons, Nat.add_comm, names]

@[simp] theorem names_append (ds ds' : List (Deed ρ)) : names (ds ++ ds') = names ds + names ds' :=
  List.countP_append

@[simp] theorem names_said (out : List Output) : names (out.map (said (ρ := ρ))) = 0 := by
  rw [names, List.countP_map]
  exact List.countP_eq_zero.mpr fun _ _ => by simp

@[simp] theorem names_records (rs : List Record) : names (records (ρ := ρ) rs) = 0 := by
  simp [names, records, List.countP_map]

theorem names_effects (ds : List (Deed ρ)) : names (effects ds) = names ds := by
  rw [names, effects, List.countP_filter, names]
  congr
  funext d
  cases d <;> rfl

end Deed

/-- The block that a call has made by some stage. -/
def Stage.block? : Stage ρ → Option (Block ρ)
  | enrolling b _ => some b
  | tracing _ reply | surveying _ _ reply | writing _ _ reply | closing _ reply =>
    match reply with
    | .made b => some b
    | .freed | .failed _ => none
  | opening _ | requesting _ | crediting _ _ | naming _ | placing _ _ | settling _ => none

theorem Commons.streams_streamOf (c : Commons) (thread : ThreadId) :
    (c.streamOf thread).2.streams = c.streams ∧ thread ∈ c.streams ∨
      (c.streamOf thread).2.streams = c.streams ++ [thread] ∧ thread ∉ c.streams := by
  unfold streamOf
  cases h : c.streams.idxOf? thread with
  | none => exact .inr ⟨rfl, List.idxOf?_eq_none_iff.mp h⟩
  | some i =>
    have hm : thread ∈ c.streams := Decidable.byContradiction fun hn => by
      rw [List.idxOf?_eq_none_iff.mpr hn] at h
      cases h
    exact .inl ⟨rfl, hm⟩

theorem Commons.blocks_streamOf (c : Commons) (thread : ThreadId) :
    (c.streamOf thread).2.blocks = c.blocks := by
  unfold streamOf
  split <;> rfl

/-- What a step has drawn for its thread. -/
structure Progress.Draws (p : Progress β ρ) (thread : ThreadId) (c : Commons) (s : Stage ρ) : Prop where
  /-- It has drawn the ids that it tells. -/
  blocks_eq : p.commons.blocks = c.blocks + Deed.names p.deeds
  /-- Only its own thread may have got a number, and only if it had none. -/
  streams_eq : p.commons.streams = c.streams ∨
    thread ∉ c.streams ∧ p.commons.streams = c.streams ++ [thread]
  /-- A block is made by a thread with a number. -/
  placed : p.stage.block?.isSome → s.block?.isSome ∨ thread ∈ p.commons.streams

namespace Progress.Draws

variable {p : Progress β ρ} {thread : ThreadId} {c : Commons} {s : Stage ρ}

/-- No thread loses its number. -/
theorem mem_streams (h : p.Draws thread c s) {w : ThreadId} (hw : w ∈ c.streams) : w ∈ p.commons.streams := by
  rcases h.streams_eq with hsame | ⟨-, hnew⟩
  · exact hsame ▸ hw
  · rw [hnew]
    exact List.mem_append_left _ hw

/-- Those that have got numbers since an earlier time are the same, and perhaps the thread of the step. -/
theorem exists_new (h : p.Draws thread c s) {old new : List ThreadId} {P : ThreadId → Prop}
    (hc : c.streams = old ++ new) (hn : new.Nodup) (hnew : ∀ w ∈ new, w ∉ old ∧ P w) (hp : P thread) :
    ∃ new', p.commons.streams = old ++ new' ∧ new'.Nodup ∧ ∀ w ∈ new', w ∉ old ∧ P w := by
  rcases h.streams_eq with hsame | ⟨hnone, hgot⟩
  · exact ⟨new, hsame.trans hc, hn, hnew⟩
  · rw [hc, List.mem_append, not_or] at hnone
    refine ⟨new ++ [thread], by rw [hgot, hc, List.append_assoc], ?_, ?_⟩
    · refine List.nodup_append.mpr ⟨hn, by simp, ?_⟩
      rintro w hw _ hthread rfl
      exact hnone.2 (List.mem_singleton.mp hthread ▸ hw)
    · intro w hw
      rcases List.mem_append.mp hw with hw | hw
      · exact hnew w hw
      · rw [List.mem_singleton.mp hw]
        exact ⟨hnone.1, hp⟩

end Progress.Draws

namespace Engine

variable {e e' : Engine β} {c : Commons} {thread : ThreadId} {s s' : Stage ρ}

/-- A step that changes nothing that engines share, and makes no block. -/
theorem draws_of_same {ds : List (Deed ρ)} (hd : Deed.names ds = 0)
    (hb : s'.block?.isSome → s.block?.isSome) : (Progress.mk e' c s' ds).Draws thread c s :=
  ⟨by simp [hd], .inl rfl, fun h => .inl (hb h)⟩

/-- A block that is taken back is no block that was made. -/
theorem block?_takeBack (b : Block ρ) {reply : Reply ρ} (h : reply = .freed ∨ ∃ f, reply = .failed f) :
    (e.takeBack b reply).block? = none := by
  unfold takeBack
  rcases h with rfl | ⟨f, rfl⟩
  · split <;> rfl
  · split <;> rfl

/-- A step that asks for the stream of its thread. -/
theorem draws_streamOf {ds : List (Deed ρ)} (hd : Deed.names ds = 0) :
    (Progress.mk e' (c.streamOf thread).2 s' ds).Draws thread c s := by
  refine ⟨by simp [hd, Commons.blocks_streamOf], ?_, fun _ => .inr ?_⟩
  · rcases c.streams_streamOf thread with ⟨hs, -⟩ | ⟨hs, hn⟩
    · exact .inl hs
    · exact .inr ⟨hn, hs⟩
  · rcases c.streams_streamOf thread with ⟨hs, hm⟩ | ⟨hs, hn⟩
    · exact hs ▸ hm
    · simp [hs]

variable [Backend β ρ]

theorem Advances.draws {p : Progress β ρ} (h : e.Advances thread c s p) : p.Draws thread c s := by
  cases h with
  | refused => exact ⟨by simp, .inl (by simp), by simp [Stage.block?]⟩
  | ordered | imported | attached | owned => exact draws_of_same (by simp) (by simp [Stage.block?])
  | overdrawn | unenrolled => exact ⟨rfl, .inl rfl, by simp [Stage.block?]⟩
  | named => exact ⟨rfl, .inl rfl, by simp [Stage.block?]⟩
  | placed | placedShared | placedOutside | traced => exact draws_streamOf rfl
  | uncounted | debited => exact draws_of_same rfl fun h => by simp [block?_takeBack _ (.inl rfl)] at h
  | undebited => exact ⟨rfl, .inl rfl, fun h => by simp [block?_takeBack _ (.inr ⟨_, rfl⟩)] at h⟩
  | logged => exact ⟨by simp, .inl rfl, fun h => .inl h⟩
  | _ => exact draws_of_same rfl (by simp [Stage.block?])

/-- **What a step draws from what engines share.** -/
theorem draws_advance (thread : ThreadId) (e : Engine β) (c : Commons) (s : Stage ρ) :
    (e.advance thread c s).Draws thread c s :=
  (e.advances thread c s).draws

end Engine

end DeviceMemory
