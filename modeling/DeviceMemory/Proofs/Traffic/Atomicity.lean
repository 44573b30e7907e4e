import DeviceMemory.Proofs.Engine.Undone
import DeviceMemory.Proofs.Traffic.Sound

/-!
# Calls that fail leave nothing behind

A call that fails leaves the engine as it was, in every state that threads can bring it to
(`Traffic.Reachable.atomic`): the ledger is the same, down to the accounts that it lists, the backend
has handed out what it had before, and nothing is logged. It asks the backend only after all checks
have passed, and then once.

While other threads work on the same engine there is no one state before the call and after it. Then
it is the deeds of the call that leave nothing behind.
-/

namespace DeviceMemory

variable {β ρ : Type}

namespace Traffic

/-- The block that a call gives back, if it is one that does, is held. -/
def Holds (t : Traffic β ρ) (request : Call ρ) : Prop := ∀ b, request.block? = some b → b ∈ t.blocks

variable [Backend β ρ]

/-- What calls on an engine ask its backend for, and what they leave behind if they fail. -/
structure Atomic (t : Traffic β ρ) (id : EngineId) (e : Engine β) : Prop where
  /-- A call asks the backend for nothing but what its checks lead to, and at most once. -/
  prefix_order : ∀ j ∈ t.jobs, j.engine = id →
    Deed.requests j.deeds <+: (e.nature.order? j.request).toList
  /-- By its end it has asked for that. -/
  requests_eq : ∀ j ∈ t.past, j.engine = id → Deed.requests j.deeds = (e.nature.order? j.request).toList
  /-- A call that failed while others went on has left nothing behind. -/
  undone : ∀ j ∈ t.past, j.engine = id → ∀ f, j.stage = .closing none (.failed f) → Deed.Undone j.deeds
  /-- A call that nothing interrupts asks for what its checks lead to. -/
  run_requests_eq (thread : ThreadId) (request : Call ρ) : t.Holds request →
    Deed.requests (e.run thread t.host.commons request).deeds = (e.nature.order? request).toList
  /-- If it fails, it leaves the engine as it was. -/
  run_reverts (thread : ThreadId) (request : Call ρ) (f : Failure) : t.Holds request →
    e.replyTo thread t.host.commons request = .failed f → (e.run thread t.host.commons request).Reverts e

namespace Sound

variable {t : Traffic β ρ} {id : EngineId} {e : Engine β}

/-- A call that begins in a reachable state has the bytes of the block that it frees in use. -/
theorem covers_opening (h : t.Sound) (he : t.host.engine? id = some e) {request : Call ρ}
    (hb : t.Holds request) : e.Covers (.opening request) := by
  cases request with
  | free b => exact h.covers_held he (hb b rfl)
  | _ =>
    intro b hs
    rcases hs with ⟨hs, -⟩ | hs <;> cases hs

theorem runs_run (h : t.Sound) (he : t.host.engine? id = some e) (thread : ThreadId) {request : Call ρ}
    (hb : t.Holds request) : e.Runs request (e.run thread t.host.commons request) :=
  e.runs_run thread t.host.commons (h.covers_opening he hb)

end Sound

/-- **Calls that fail leave nothing behind**, and no call asks the backend before its checks have
passed. -/
theorem Reachable.atomic {t : Traffic β ρ} (h : t.Reachable) {id : EngineId} {e : Engine β}
    (he : t.host.engine? id = some e) : t.Atomic id e where
  prefix_order j hj hid := by
    rw [← Deed.requests_effects]
    exact (h.sound.course_on he hj hid).prefix_order
  requests_eq j hj hid := by
    obtain ⟨reply, hs⟩ := stage_of_mem_pastJobs hj
    have hc := h.sound.course_on he (Multiset.mem_add.mpr (.inr hj)) hid
    rw [hs] at hc
    rw [← Deed.requests_effects]
    exact hc.requests_eq
  undone j hj hid f hf := by
    have hc := h.sound.course_on he (Multiset.mem_add.mpr (.inr hj)) hid
    rw [hf] at hc
    exact hc.undone.of_effects
  run_requests_eq thread request hb := by
    have hc := (h.sound.runs_run he thread hb).course
    rw [Engine.stage_run] at hc
    rw [← Deed.requests_effects]
    exact hc.requests_eq
  run_reverts thread request f hb hf := by
    have hs : (e.run thread t.host.commons request).stage = .closing none (.failed f) := by
      rw [Engine.stage_run, hf]
    exact (h.sound.runs_run he thread hb).reverts hs

theorem midway_atomic :
    ∃ e, midway.host.engine? ⟨0⟩ = some e ∧ midway.Atomic ⟨0⟩ e ∧
      ∀ thread request f, midway.Holds request →
        e.replyTo thread midway.host.commons request = .failed f →
        (e.run thread midway.host.commons request).engine.backend.inUse = e.backend.inUse := by
  have hsome : (midway.host.engine? ⟨0⟩).isSome := by rfl
  obtain ⟨e, he⟩ := Option.isSome_iff_exists.mp hsome
  have hatomic := midway_reachable.atomic he
  refine ⟨e, he, hatomic, ?_⟩
  intro thread request f hb hf
  exact (hatomic.run_reverts thread request f hb hf).tally_eq ScriptedBackend.tallies_inUse

end Traffic

end DeviceMemory
