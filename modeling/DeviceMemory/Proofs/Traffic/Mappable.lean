import DeviceMemory.Proofs.Engine.Outcome
import DeviceMemory.Proofs.Engine.Policies
import DeviceMemory.Proofs.Traffic.Placements

/-!
# What the host can map

Memory that is asked for with the lockable policy is to be mapped by the host. Where unified memory can be used, the
policy sees to that: it takes one of the two unified tiers that can be mapped, or nothing. Elsewhere it takes the
default of the device, and whether that can be mapped is up to the record of the device
(`Traffic.Reachable.maps_lockable`). A device with images for its default gives an image to a caller that asks
for a buffer to map, although it may serve buffers too (`Traffic.imagesOnly_unmapped`).
-/

namespace DeviceMemory

variable {β ρ : Type}

/-- For a buffer, the lockable policy chooses a unified tier that the host can map where unified memory can be used, and
the default of the device elsewhere. -/
theorem Policy.lockable_choose_cases {a : Availability} {default p : Placement}
    (h : lockable.choose false a default = .ok p) :
    (a.usesUnified = true ∧ (p = .unifiedShared ∨ p = .unifiedHost) ∧ a.capabilities.serves p = true) ∨
      (a.usesUnified = false ∧ p = default) := by
  cases hu : a.usesUnified with
  | false =>
    simp only [choose, hu, Bool.not_false, Bool.true_or, if_true] at h
    cases h
    exact .inr ⟨rfl, rfl⟩
  | true =>
    have hserves : a.capabilities.serves p = true := by
      have hl := (suits_of_choose h hu).1
      rw [Availability.lockable, Bool.and_eq_true] at hl
      exact hl.2
    simp only [choose, hu, Bool.not_true, Bool.or_self, Bool.false_eq_true, if_false] at h
    split at h
    · cases h
      exact .inl ⟨rfl, .inl rfl, hserves⟩
    · split at h
      · cases h
        exact .inl ⟨rfl, .inr rfl, hserves⟩
      · cases h

/-- The default is mapped or not as it stands in the record; what is chosen otherwise can be mapped. -/
theorem Policy.isLockable_of_choose {a : Availability} {default p : Placement}
    (h : lockable.choose false a default = .ok p) :
    p.isLockable = true ↔ a.usesUnified = true ∨ default.isLockable = true := by
  rcases lockable_choose_cases h with ⟨hu, rfl | rfl, -⟩ | ⟨hu, rfl⟩ <;> simp [hu, Placement.isLockable]

/-- A lockable allocation lies where the lockable policy chooses. -/
theorem Course.choose_of_made {n : Nature} {layout : Layout} {b : Block ρ} {ds : List (Deed ρ)}
    (h : Course n (.allocateLockable layout) (.closing none (.made b)) ds) :
    ∃ p resource, b.origin = .allocated p resource ∧
      Policy.lockable.choose layout.isImage n.availability n.device.defaultPlacement = .ok p := by
  obtain ⟨r, resource, ho, hp, -⟩ := (h.allocation_cases rfl).madeBy.order
  exact ⟨r.placement, resource, congrArg Plan.origin hp, Nature.choose_of_orderBy? ho⟩

namespace Traffic

/-- Where the memory lies that an engine on a device, made under settings, gave to callers who asked for a buffer to
map. -/
structure MapsLockable (t : Traffic β ρ) (id : EngineId) (device : Device) (s : MemorySettings) : Prop where
  /-- If unified memory is served and not switched off, it lies in a unified tier that the host can map and the device
  serves. -/
  unified {thread : ThreadId} {layout : Layout} {b : Block ρ} :
    .ended thread id (.allocateLockable layout) (.made b) ∈ t.trace → layout.isImage = false →
    s.disableUnified = false → device.capabilities.servesUnified = true →
    ∃ p resource, b.origin = .allocated p resource ∧ (p = .unifiedShared ∨ p = .unifiedHost) ∧
      device.capabilities.serves p = true
  /-- Otherwise it is the default of the device. -/
  default {thread : ThreadId} {layout : Layout} {b : Block ρ} :
    .ended thread id (.allocateLockable layout) (.made b) ∈ t.trace → layout.isImage = false →
    s.disableUnified = true ∨ device.capabilities.servesUnified = false →
    ∃ resource, b.origin = .allocated device.defaultPlacement resource
  /-- So the host can map it unless the default is used and cannot be mapped. -/
  isLockable_iff {thread : ThreadId} {layout : Layout} {b : Block ρ} :
    .ended thread id (.allocateLockable layout) (.made b) ∈ t.trace → layout.isImage = false →
    (b.isLockable = true ↔
      (s.disableUnified = false ∧ device.capabilities.servesUnified = true) ∨
        device.defaultPlacement.isLockable = true)

theorem usesUnified_made (id : EngineId) (device : Device) (s : MemorySettings) :
    (Nature.made id device s).availability.usesUnified = true ↔
      s.disableUnified = false ∧ device.capabilities.servesUnified = true := by
  simp [Nature.made, Availability.usesUnified]

variable [Backend β ρ]

/-- **Memory that is allocated to be mapped can be mapped**, but for the default of a device that cannot be. -/
theorem Reachable.maps_lockable {t : Traffic β ρ} (h : t.Reachable) {m : Move β ρ} {device : Device}
    {s : Settings} (hm : m.makes? = some (device, s)) (ms : List (Move β ρ)) :
    ((t.move m).run ms).MapsLockable ⟨t.host.engines.length⟩ device s.memory := by
  obtain ⟨e₀, he₀, hn₀⟩ := nature_of_makes? (t := t) hm
  obtain ⟨e, ds, hsince⟩ := (Reachable.move m h).since_run he₀ ms
  have hsound := ((Reachable.move m h).run ms).sound
  have hchoose {thread : ThreadId} {layout : Layout} {b : Block ρ}
      (hmade : .ended thread ⟨t.host.engines.length⟩ (.allocateLockable layout) (.made b) ∈
        ((t.move m).run ms).trace) (hi : layout.isImage = false) :
      ∃ p resource, b.origin = .allocated p resource ∧
        Policy.lockable.choose false (Nature.made ⟨t.host.engines.length⟩ device s.memory).availability
          device.defaultPlacement = .ok p := by
    obtain ⟨_, hj⟩ := exists_mem_pastJobs hmade
    have hcourse := hsound.course_on hsince.engine?_eq (mem_jobs_of_past hj) rfl
    rw [hsince.nature_eq.trans hn₀] at hcourse
    obtain ⟨p, resource, horigin, hp⟩ := hcourse.choose_of_made
    rw [hi] at hp
    exact ⟨p, resource, horigin, hp⟩
  have huses := usesUnified_made ⟨t.host.engines.length⟩ device s.memory
  exact {
    unified := fun hmade hi hon hserved => by
      obtain ⟨p, resource, horigin, hp⟩ := hchoose hmade hi
      rcases Policy.lockable_choose_cases hp with ⟨-, htier, hserves⟩ | ⟨hu, -⟩
      · exact ⟨p, resource, horigin, htier, hserves⟩
      · simp [huses.mpr ⟨hon, hserved⟩] at hu
    default := fun hmade hi hoff => by
      obtain ⟨p, resource, horigin, hp⟩ := hchoose hmade hi
      rcases Policy.lockable_choose_cases hp with ⟨hu, -⟩ | ⟨-, rfl⟩
      · simp [huses.mp hu] at hoff
      · exact ⟨resource, horigin⟩
    isLockable_iff := fun hmade hi => by
      obtain ⟨p, resource, horigin, hp⟩ := hchoose hmade hi
      rw [Block.isLockable, horigin, ← huses]
      exact Policy.isLockable_of_choose hp }

/-! ### A default that cannot be mapped -/

/-- A device with images for its default, which serves buffers too. -/
def imagesOnly : Device := ⟨"0", "device", 1024, .image, .ofList [.plainBuffer, .image]⟩

/-- A thread asks the first engine for a buffer to map. -/
def mapMoves : List (Move ScriptedBackend ScriptedResource) :=
  .call (.numbered 0) ⟨0⟩ "a" (.allocateLockable ⟨[2, 3], .f32, false⟩) :: Move.toEnd (.numbered 0)

/-- With a tier of unified memory that can be mapped, the default does not matter. -/
theorem imagesOnly_maps_lockable :
    ∃ device b, device = { imagesOnly with capabilities := .ofList [.unifiedShared, .image] } ∧
      (Move.make device ({} : ScriptedBackend) {} : Move ScriptedBackend ScriptedResource).makes? =
        some (device, {}) ∧
      .ended (.numbered 0) ⟨0⟩ (.allocateLockable ⟨[2, 3], .f32, false⟩) (.made b) ∈
        ((noEngines.move (.make device {} {})).run mapMoves).trace ∧ b.isLockable = true := by
  have hstart : noEngines.Reachable := .start _ rfl
  have hmade : .ended (.numbered 0) ⟨0⟩ (.allocateLockable ⟨[2, 3], .f32, false⟩) (.made _) ∈
      ((noEngines.move (.make { imagesOnly with capabilities := .ofList [.unifiedShared, .image] } {} {})).run
        mapMoves).trace := List.mem_cons_self
  exact ⟨_, _, rfl, rfl, hmade,
    ((hstart.maps_lockable rfl mapMoves).isLockable_iff hmade rfl).mpr (.inl ⟨rfl, rfl⟩)⟩

/-- **A caller that asks for a buffer to map gets an image** that the host cannot map, on a device with images for
its default. -/
theorem imagesOnly_unmapped :
    ∃ b : Block ScriptedResource, noEngines.Reachable ∧
      .ended (.numbered 0) ⟨0⟩ (.allocateLockable ⟨[2, 3], .f32, false⟩) (.made b) ∈
        ((noEngines.move (.make imagesOnly {} {})).run mapMoves).trace ∧
      b.origin.placement? = some .image ∧ b.isLockable = false :=
  ⟨_, .start _ rfl, List.mem_cons_self, rfl, rfl⟩

end Traffic

end DeviceMemory
