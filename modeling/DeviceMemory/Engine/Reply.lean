import DeviceMemory.Engine.Advance

/-!
# Calls end

Every step of a call leaves fewer steps to take (`Engine.remaining_advance`), so a call
that runs has a reply (`Engine.reply?_run_isSome`).
-/

namespace DeviceMemory

variable {β ρ : Type}

theorem Engine.remaining_announce (e : Engine β) (entry : Entry) (release : Option (Holding ρ)) (reply : Reply ρ) :
    (e.announce entry release reply).remaining ≤ 3 := by
  unfold Engine.announce
  split <;> cases release <;> simp [Stage.remaining]

theorem Engine.remaining_takeBack (e : Engine β) (b : Block ρ) (reply : Reply ρ) :
    (e.takeBack b reply).remaining ≤ 4 := by
  unfold Engine.takeBack
  split
  · simp [Stage.remaining]
  · cases b.holding? <;> simp [Stage.remaining]

variable [Backend β ρ]

theorem Engine.Advances.remaining_le {thread : ThreadId} {e : Engine β} {c : Commons} {s : Stage ρ}
    {p : Progress β ρ} (h : e.Advances thread c s p) : p.stage.remaining ≤ s.remaining - 1 := by
  cases h with
  | placed | placedOutside | enrolled | traced =>
    exact Nat.le_trans (Engine.remaining_announce ..) (by simp [Stage.remaining])
  | uncounted | undebited | debited => exact Engine.remaining_takeBack ..
  | @logged entry release reply => cases release <;> simp [Stage.remaining]
  | _ => simp [Stage.remaining, Stage.most]

/-- A step leaves fewer steps to take, unless none is left. -/
theorem Engine.remaining_advance (thread : ThreadId) (e : Engine β) (c : Commons) (s : Stage ρ) :
    (e.advance thread c s).stage.remaining ≤ s.remaining - 1 :=
  (e.advances thread c s).remaining_le

theorem Progress.remaining_steps (thread : ThreadId) (n : Nat) (p : Progress β ρ) :
    (p.steps thread n).stage.remaining ≤ p.stage.remaining - n := by
  induction n generalizing p with
  | zero => exact Nat.le_refl _
  | succ n ih =>
    have h := p.engine.remaining_advance thread p.commons p.stage
    exact Nat.le_trans (ih (p.next thread)) (by simp only [Progress.next]; omega)

omit [Backend β ρ] in
theorem Stage.reply?_isSome {s : Stage ρ} (h : s.remaining = 0) : s.reply?.isSome := by
  cases s with
  | closing release reply => cases release <;> simp_all [Stage.remaining, Stage.reply?]
  | _ => simp [Stage.remaining, Stage.most] at h

omit [Backend β ρ] in
theorem Stage.eq_closing_of_reply? {s : Stage ρ} {reply : Reply ρ} (h : s.reply? = some reply) :
    s = .closing none reply := by
  cases s with
  | closing release other =>
    cases release with
    | none =>
      cases h
      rfl
    | some holding => cases h
  | _ => cases h

/-- **Every call ends with a reply.** -/
theorem Engine.reply?_run_isSome (thread : ThreadId) (e : Engine β) (c : Commons) (call : Call ρ) :
    (e.run thread c call).stage.reply?.isSome := by
  apply Stage.reply?_isSome
  have := Progress.remaining_steps (β := β) thread (Stage.opening call).remaining
    ⟨e, c, .opening call, []⟩
  simpa [Engine.run] using this

/-- The reply to a call. -/
def Engine.replyTo (thread : ThreadId) (e : Engine β) (c : Commons) (call : Call ρ) : Reply ρ :=
  (e.run thread c call).stage.reply?.get (e.reply?_run_isSome thread c call)

theorem Engine.stage_run (thread : ThreadId) (e : Engine β) (c : Commons) (call : Call ρ) :
    (e.run thread c call).stage = .closing none (e.replyTo thread c call) :=
  Stage.eq_closing_of_reply? (Option.some_get (e.reply?_run_isSome thread c call)).symm

end DeviceMemory
