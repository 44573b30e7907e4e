import DeviceMemory.Proofs.Engine.Entries

/-!
# What the statistics are read from

An engine that logs with statistics reads its ledger in one step and writes the entry in the next, so an
entry that is about to be written has the ledger as it was then (`Engine.statistics_advance`). What a call
has entered into the ledger by that time, and when it has ended, is a matter of what it was given and what
it comes to (`Achieves.enters`, `Course.counts_of_ended`): a call that fails has entered nothing.
-/

namespace DeviceMemory

variable {β ρ : Type}

/-! ### Entries that are ready -/

namespace Engine

variable {e : Engine β} {c : Commons}

/-- An entry with statistics is not ready before they are read. -/
theorem ready?_announce (hd : e.detail = .full) {entry : Entry} {release : Option (Holding ρ)}
    {reply : Reply ρ} : (e.announce entry release reply).ready? = none := by
  rw [announce, hd]
  rfl

theorem ready?_takeBack {b : Block ρ} {reply : Reply ρ} : (e.takeBack b reply).ready? = none := by
  unfold takeBack
  split <;> rfl

variable [Backend β ρ]

theorem Advances.exists_surveying {thread : ThreadId} {s : Stage ρ} {p : Progress β ρ} (h : e.Advances thread c s p)
    (hd : e.detail = .full) {entry : Entry} (hw : p.stage.ready? = some entry) :
    ∃ entry' release reply, s = .surveying entry' release reply := by
  cases h with
  | surveyed => exact ⟨_, _, _, rfl⟩
  | placed | placedOutside | traced | enrolled => cases (ready?_announce hd).symm.trans hw
  | uncounted | undebited | debited => cases ready?_takeBack.symm.trans hw
  | _ => cases hw

/-- Where entries have statistics, only the step that reads them gets one ready. -/
theorem exists_surveying (thread : ThreadId) (c : Commons) (hd : e.detail = .full) {s : Stage ρ} {entry : Entry}
    (hw : (e.advance thread c s).stage.ready? = some entry) :
    ∃ entry' release reply, s = .surveying entry' release reply :=
  (e.advances thread c s).exists_surveying hd hw

/-- **An entry that gets ready has the statistics of the ledger as it is.** -/
theorem statistics_advance (thread : ThreadId) (c : Commons) (hd : e.detail = .full) {s : Stage ρ}
    {entry : Entry} (hw : (e.advance thread c s).stage.ready? = some entry) :
    entry.statistics = (e.advance thread c s).engine.ledger.snapshot := by
  obtain ⟨entry', release, reply, rfl⟩ := exists_surveying thread c hd hw
  cases hw
  rfl

/-- A step that writes an entry does so before all else. -/
theorem logged_first (thread : ThreadId) (c : Commons) {s : Stage ρ} {past : List (Deed ρ)} {entry : Entry}
    (h : past ++ [.logged entry] <+: (e.advance thread c s).deeds) : past = [] ∧ s.ready? = some entry := by
  have hready : s.ready? = some entry := by
    have hmem : entry ∈ Deed.entries (e.advance thread c s).deeds :=
      List.mem_filterMap.mpr ⟨.logged entry, h.subset (by simp), rfl⟩
    rw [e.entries_advance] at hmem
    simpa using hmem
  refine ⟨?_, hready⟩
  cases s with
  | writing entry' release reply =>
    cases past with
    | nil => rfl
    | cons d past =>
      -- what follows the entry are texts
      have hrest := (List.cons_prefix_cons.mp h).2
      have hmem : Deed.logged entry ∈ (e.logger.write c.files entry'.text).2.2.map (Deed.said (ρ := ρ)) :=
        hrest.subset (by simp)
      simp at hmem
  | _ => cases hready

end Engine

/-! ### What a call enters into the ledger -/

variable {n : Nature} {call : Call ρ} {ds : List (Deed ρ)} {reply : Reply ρ}

/-- A call that can only succeed has credited what it makes and debited what it was given. -/
theorem Achieves.enters {event : Event} {b : Block ρ} {release : Option (Holding ρ)}
    (h : Achieves n call event b release reply ds) :
    (Deed.gain ds).1 = reply.worth.1 ∧ (Deed.loss ds).1 = (call.brings n.id).1 := by
  cases h with
  | @allocated _ _ r resource ho hp he =>
    rw [n.brings_of_order? ho, Reply.worth, hp, r.worth_plan]
    simp
  | imported ha hp he => simp [Call.brings, Reply.worth, hp, Plan.worth, Plan.account?]
  | attached ha hp he => simp [Call.brings, Reply.worth, hp, Plan.worth, Plan.account?]
  | @freed b release he hr =>
    by_cases hs : b.plan.account?.isSome <;> simp [Call.brings, he, Plan.worth, hs, Reply.worth]

/-- It has made the block of its event, or was given it. -/
theorem Achieves.made_or_freed {event : Event} {b : Block ρ} {release : Option (Holding ρ)}
    (h : Achieves n call event b release reply ds) :
    (event ≠ .freed ∧ reply = .made b ∧ (∀ b', call ≠ .free b') ∧ (call.brings n.id).1 = 0) ∨
      (event = .freed ∧ reply = .freed ∧ call = .free b ∧ (call.brings n.id).1 = b.plan.worth.1) := by
  cases h with
  | allocated ho hp he =>
    refine .inl ⟨by simp, rfl, ?_, by rw [n.brings_of_order? ho]; rfl⟩
    rintro b' rfl
    cases ho
  | imported ha hp he => exact .inl ⟨by simp, rfl, by simp, rfl⟩
  | attached ha hp he => exact .inl ⟨by simp, rfl, by simp, rfl⟩
  | freed he hr => exact .inr ⟨rfl, rfl, rfl, by rw [Call.brings, if_pos he]⟩

/-- So has a call that has ended. -/
theorem Course.counts_of_ended (h : Course n call (.closing none reply) ds) :
    (Deed.gain ds).1 = reply.worth.1 ∧ (Deed.loss ds).1 = (call.brings n.id).1 := by
  cases h with
  | declined ho hf =>
    cases call with
    | free b => simp [Call.brings, hf b rfl, Reply.worth]
    | _ => simp [Call.brings, Reply.worth]
  | denied ho => simp [n.brings_of_order? ho, Reply.worth]
  | returned ho => simp [n.brings_of_order? ho, Reply.worth]
  | unenrolled hp => simp [Call.brings, Reply.worth]
  | concluded ha hl =>
    obtain ⟨hg, hs⟩ := hl.balance
    simpa [hg, hs] using ha.enters
  | released ha hl =>
    obtain ⟨hg, hs⟩ := hl.balance
    simpa [hg, hs] using ha.enters

end DeviceMemory
