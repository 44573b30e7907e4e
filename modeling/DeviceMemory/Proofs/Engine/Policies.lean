import DeviceMemory.Backend.Scripted
import DeviceMemory.Proofs.Engine.Alike

/-!
# Calls that leave the placement to a policy

A call may name a placement or leave it to a policy. The two ways meet after the first step: if what the
policy chooses is available, a call that leaves the choice to it goes on exactly as the call that names
that placement, and all that tells the two apart is a record of the choice (`Engine.step_of_choose`).
Nothing that comes later looks back at what was asked for, so this holds whatever other threads do in
between; without them, the whole calls come to the same (`Engine.honours_policies`).

Where unified memory can be used and the layout is no image, what a policy chooses is always available.
Elsewhere it is the default of the device, which nobody checks.
-/

namespace DeviceMemory

variable {β ρ : Type}

/-! ### What a policy chooses from -/

namespace Policy

/-- The call that leaves the placement to a policy. Only the general policy lets memory be zeroed. -/
def call : Policy → Layout → Bool → Call ρ
  | general, layout, zeroed => .allocate layout zeroed
  | lockable, layout, _ => .allocateLockable layout

/-- Whether memory is zeroed that is left to a policy. -/
def zeroes : Policy → Bool → Bool
  | general, zeroed => zeroed
  | lockable, _ => false

/-- Whether a policy may choose a placement at all: the general one what the general path may use, the
lockable one what the host can map. -/
def Suits (a : Availability) : Policy → Placement → Prop
  | general, p => a.general p = true ∧ p ≠ .unifiedShared
  | lockable, p => p.isLockable = true

/-- What a policy says it has chosen. -/
def resolved (policy : Policy) (p : Placement) : Deed ρ :=
  .record .trace ("The " ++ policy.name ++ " policy resolved to " ++ p.name)

end Policy

theorem Availability.general_iff {a : Availability} {p : Placement} :
    a.general p = true ↔ p ≠ .unifiedShared ∧ a.lockable p = true := by
  simp [general]

/-- With unified memory to use, a policy chooses for a buffer what is available and suits it. -/
theorem Policy.suits_of_choose {policy : Policy} {a : Availability} {default p : Placement}
    (h : policy.choose false a default = .ok p) (hu : a.usesUnified = true) :
    a.lockable p = true ∧ policy.Suits a p := by
  simp only [choose, hu, Bool.not_true, Bool.or_self, Bool.false_eq_true, if_false] at h
  split at h
  · rename_i hp
    cases h
    cases policy with
    | general => exact ⟨(Availability.general_iff.mp hp).2, hp, by decide⟩
    | lockable => exact ⟨hp, rfl⟩
  · split at h
    · rename_i hhost
      cases h
      have hl := (Availability.general_iff.mp hhost).2
      cases policy with
      | general => exact ⟨hl, hhost, by decide⟩
      | lockable => exact ⟨hl, rfl⟩
    · cases h

/-- A policy that chooses nothing has found no tier. -/
theorem Policy.eq_of_choose_error {policy : Policy} {isImage : Bool} {a : Availability}
    {default : Placement} {err : PolicyError} (h : policy.choose isImage a default = .error err) :
    err = .noUsableTier policy := by
  unfold choose at h
  split at h
  · cases h
  · split at h
    · cases h
    · split at h
      · cases h
      · cases h
        rfl

/-! ### Deeds done before -/

namespace Progress

/-- The same progress with deeds done before it. -/
def after (p : Progress β ρ) (before : List (Deed ρ)) : Progress β ρ := { p with deeds := before ++ p.deeds }

@[simp] theorem engine_after (p : Progress β ρ) (before : List (Deed ρ)) :
    (p.after before).engine = p.engine := rfl

@[simp] theorem commons_after (p : Progress β ρ) (before : List (Deed ρ)) :
    (p.after before).commons = p.commons := rfl

@[simp] theorem stage_after (p : Progress β ρ) (before : List (Deed ρ)) :
    (p.after before).stage = p.stage := rfl

@[simp] theorem deeds_after (p : Progress β ρ) (before : List (Deed ρ)) :
    (p.after before).deeds = before ++ p.deeds := rfl

variable [Backend β ρ]

/-- What was done before does not matter for a step, -/
theorem next_after (thread : ThreadId) (p : Progress β ρ) (before : List (Deed ρ)) :
    (p.after before).next thread = (p.next thread).after before := by
  simp [next, after]

/-- nor for any number of steps. -/
theorem steps_after (thread : ThreadId) (n : Nat) (p : Progress β ρ) (before : List (Deed ρ)) :
    (p.after before).steps thread n = (p.steps thread n).after before := by
  induction n generalizing p with
  | zero => rfl
  | succ n ih =>
    rw [steps, steps, next_after]
    exact ih (p.next thread)

end Progress

/-! ### The first step -/

namespace Engine

/-- A request goes on the same way whatever was said before it. -/
theorem request_after (e : Engine β) (c : Commons) (layout : Layout) (p : Placement) (zeroed : Bool)
    (before : List (Deed ρ)) :
    e.request c layout p zeroed before = (e.request c layout p zeroed []).after before := by
  have fail_after (cause : Cause) : e.fail c none cause before = (e.fail c none cause []).after before := by
    unfold fail
    split <;> simp [Progress.after]
  unfold request
  split
  · exact fail_after _
  · simp [Progress.after]

theorem begin_policy (e : Engine β) (c : Commons) (policy : Policy) (layout : Layout) (zeroed : Bool) :
    e.begin (ρ := ρ) c (policy.call layout zeroed) = e.requestBy c policy layout (policy.zeroes zeroed) := by
  cases policy <;> rfl

variable [Backend β ρ]

/-- **The first step of a call that leaves the placement to a policy** does what the first step of the
call does that names what the policy chooses, and says so. -/
theorem step_of_choose {e : Engine β} {policy : Policy} {layout : Layout} {p : Placement}
    (h : e.choose policy layout.isImage = .ok p) (hl : e.availability.lockable p = true)
    (thread : ThreadId) (c : Commons) (zeroed : Bool) :
    e.advance (ρ := ρ) thread c (.opening (policy.call layout zeroed)) =
      (e.advance thread c (.opening (.allocateAs layout p (policy.zeroes zeroed)))).after
        [policy.resolved p] := by
  have hpolicy : e.begin (ρ := ρ) c (policy.call layout zeroed) =
      e.request c layout p (policy.zeroes zeroed) [policy.resolved p] := by
    rw [begin_policy, requestBy, h]
    rfl
  have hnamed : e.begin (ρ := ρ) c (.allocateAs layout p (policy.zeroes zeroed)) =
      e.request c layout p (policy.zeroes zeroed) [] := by
    rw [begin, if_pos hl]
  rw [advance, advance, hpolicy, hnamed, request_after]

/-! ### Whole calls -/

/-- A call that nothing interrupts is its first step and those that follow. -/
theorem run_eq_steps (thread : ThreadId) (e : Engine β) (c : Commons) (call : Call ρ) :
    e.run thread c call = (e.advance thread c (.opening call)).steps thread (Stage.most - 1) := by
  rfl

theorem run_of_choose {e : Engine β} {policy : Policy} {layout : Layout} {p : Placement}
    (h : e.choose policy layout.isImage = .ok p) (hl : e.availability.lockable p = true)
    (thread : ThreadId) (c : Commons) (zeroed : Bool) :
    e.run (ρ := ρ) thread c (policy.call layout zeroed) =
      (e.run thread c (.allocateAs layout p (policy.zeroes zeroed))).after [policy.resolved p] := by
  rw [run_eq_steps, run_eq_steps, step_of_choose h hl, Progress.steps_after]

/-- Two calls come to the same on an engine, but for what the first says at its beginning. -/
structure Concurs (e : Engine β) (thread : ThreadId) (c : Commons) (call named : Call ρ) (said : Deed ρ) :
    Prop where
  /-- They have the same reply, -/
  reply_eq : e.replyTo thread c call = e.replyTo thread c named
  /-- leave the engine the same, its ledger and its backend included, -/
  engine_eq : (e.run thread c call).engine = (e.run thread c named).engine
  /-- and all that engines share, the files included. -/
  commons_eq : (e.run thread c call).commons = (e.run thread c named).commons
  /-- They do the same, but for what is said at the beginning. -/
  deeds_eq : (e.run thread c call).deeds = said :: (e.run thread c named).deeds
  /-- So the backend is called alike, -/
  calls_eq : Deed.backendCalls (e.run thread c call).deeds = Deed.backendCalls (e.run thread c named).deeds
  /-- and what is logged is the same. -/
  logged_iff (entry : Entry) : .logged entry ∈ (e.run thread c call).deeds ↔
    .logged entry ∈ (e.run thread c named).deeds

theorem concurs_of_choose {e : Engine β} {policy : Policy} {layout : Layout} {p : Placement}
    (h : e.choose policy layout.isImage = .ok p) (hl : e.availability.lockable p = true)
    (thread : ThreadId) (c : Commons) (zeroed : Bool) :
    e.Concurs (ρ := ρ) thread c (policy.call layout zeroed) (.allocateAs layout p (policy.zeroes zeroed))
      (policy.resolved p) := by
  have hrun := run_of_choose (ρ := ρ) h hl thread c zeroed
  have hstage := congrArg Progress.stage hrun
  rw [Progress.stage_after, stage_run, stage_run] at hstage
  have hdeeds := congrArg Progress.deeds hrun
  rw [Progress.deeds_after, List.singleton_append] at hdeeds
  exact {
    reply_eq := (Stage.closing.inj hstage).2
    engine_eq := by rw [hrun, Progress.engine_after]
    commons_eq := by rw [hrun, Progress.commons_after]
    deeds_eq := hdeeds
    calls_eq := by
      rw [hdeeds]
      rfl
    logged_iff := fun entry => by
      rw [hdeeds]
      simp [Policy.resolved, Deed.record] }

/-- A call that leaves the placement to a policy fails if the policy finds no tier, and does nothing. -/
theorem run_of_choose_error {e : Engine β} {policy : Policy} {layout : Layout} {err : PolicyError}
    (h : e.choose policy layout.isImage = .error err) (thread : ThreadId) (c : Commons) (zeroed : Bool) :
    e.run (ρ := ρ) thread c (policy.call layout zeroed) =
      ⟨e, c.capture.2, .closing none (.failed ⟨.policy err, c.capture.1⟩), []⟩ := by
  have hfirst : e.advance (ρ := ρ) thread c (.opening (policy.call layout zeroed)) =
      ⟨e, c.capture.2, .closing none (.failed ⟨.policy err, c.capture.1⟩), []⟩ := by
    rw [advance, begin_policy, requestBy, h]
    rfl
  rw [run_eq_steps, hfirst]
  rfl

/-- What becomes of calls on an engine that leave the placement to a policy. -/
structure HonoursPolicies (e : Engine β) (thread : ThreadId) (c : Commons) : Prop where
  /-- If the policy finds no tier, the call fails for that and leaves everything as it was. -/
  declines (policy : Policy) (layout : Layout) (zeroed : Bool) (err : PolicyError) :
    e.choose policy layout.isImage = .error err → err = .noUsableTier policy ∧
      e.replyTo thread c (policy.call layout zeroed) = .failed ⟨.policy err, c.capture.1⟩ ∧
      (e.run thread c (policy.call layout zeroed)).engine = e ∧
      (e.run thread c (policy.call layout zeroed)).deeds = []
  /-- If what it chooses is available, the call comes to what the call does that names it, -/
  concurs (policy : Policy) (layout : Layout) (zeroed : Bool) (p : Placement) :
    e.choose policy layout.isImage = .ok p → e.availability.lockable p = true →
      e.Concurs thread c (policy.call layout zeroed) (.allocateAs layout p (policy.zeroes zeroed))
        (policy.resolved p)
  /-- and meets it in the first step, so that no other thread can come between. -/
  step_eq (policy : Policy) (layout : Layout) (zeroed : Bool) (p : Placement) :
    e.choose policy layout.isImage = .ok p → e.availability.lockable p = true →
      e.advance thread c (.opening (policy.call layout zeroed)) =
        (e.advance thread c (.opening (.allocateAs layout p (policy.zeroes zeroed)))).after
          [policy.resolved p]
  /-- For a buffer, where there is unified memory to use, what a policy chooses is available and suits it. -/
  suits (policy : Policy) (layout : Layout) (p : Placement) : e.availability.usesUnified = true →
    layout.isImage = false → e.choose policy layout.isImage = .ok p →
      e.availability.lockable p = true ∧ policy.Suits e.availability p

/-- **A call that leaves the placement to a policy is the call that names what the policy chooses**, on every
engine in every state. -/
theorem honours_policies (e : Engine β) (thread : ThreadId) (c : Commons) : e.HonoursPolicies thread c where
  declines policy layout zeroed err h := by
    have hrun := run_of_choose_error (ρ := ρ) h thread c zeroed
    have hstage := congrArg Progress.stage hrun
    rw [stage_run] at hstage
    exact ⟨Policy.eq_of_choose_error h, (Stage.closing.inj hstage).2, congrArg Progress.engine hrun,
      congrArg Progress.deeds hrun⟩
  concurs _ _ zeroed _ h hl := concurs_of_choose h hl thread c zeroed
  step_eq _ _ zeroed _ h hl := step_of_choose h hl thread c zeroed
  suits policy layout p hu hi h := by
    rw [hi] at h
    exact policy.suits_of_choose h hu

/-- A device whose only unified memory stays on it. The general policy chooses that; the lockable policy
finds nothing. -/
theorem deviceTier_honours_policies :
    ∃ e : Engine ScriptedBackend,
      e = .new ⟨0⟩ ⟨"0", "device", 1024, .plainBuffer, .ofList [.unifiedDevice, .plainBuffer]⟩ {} {} ⟨[]⟩ ∧
      e.Concurs (.numbered 0) {} (.allocate ⟨[2, 3], .f32, false⟩ true)
        (.allocateAs ⟨[2, 3], .f32, false⟩ .unifiedDevice true) (Policy.resolved .general .unifiedDevice) ∧
      e.availability.lockable .unifiedDevice = true ∧
      e.replyTo (.numbered 0) {} (.allocateLockable ⟨[2, 3], .f32, false⟩) =
        .failed ⟨.policy (.noUsableTier .lockable), .absent⟩ := by
  refine ⟨_, rfl, ?_, ?_, ?_⟩
  · exact (honours_policies _ _ _).concurs .general _ true _ rfl rfl
  · exact ((honours_policies (ρ := ScriptedResource) _ (.numbered 0) {}).suits .general
      ⟨[2, 3], .f32, false⟩ _ rfl rfl rfl).1
  · exact ((honours_policies _ _ _).declines .lockable _ false _ rfl).2.1

end Engine

end DeviceMemory
