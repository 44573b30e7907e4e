import DeviceMemory.Proofs.Traffic.Since

/-!
# Which placements reach the backend

A call that names a placement is checked against what is available on the device. A call that leaves
the choice to a policy is not: the policy takes a unified tier that is available, or else the default
placement of the device as it stands in the record. So all that an engine ever asks its backend for is
available or is that default (`Traffic.Reachable.asksWithin`), and what the record says about the default
nobody checks: a default that the device does not serve reaches the backend.

What is available is fixed when an engine is made, by its device and by the settings (`Nature.made`).
-/

namespace DeviceMemory

variable {β ρ : Type}

/-! ### What a policy chooses -/

/-- A policy chooses what is available, or takes the default for want of unified memory or for an
image. -/
theorem Policy.choose_cases {policy : Policy} {isImage : Bool} {a : Availability} {default p : Placement}
    (h : policy.choose isImage a default = .ok p) :
    a.lockable p = true ∨ p = default ∧ (a.usesUnified = false ∨ isImage = true) := by
  unfold choose at h
  split at h
  · rename_i hd
    cases h
    exact .inr ⟨rfl, by simpa using hd⟩
  · left
    split at h
    · rename_i hp
      cases h
      cases policy with
      | general =>
        rw [preferredAvailable, Availability.general, Bool.and_eq_true] at hp
        exact hp.2
      | lockable => exact hp
    · split at h
      · rename_i hu
        cases h
        rw [Availability.general, Bool.and_eq_true] at hu
        exact hu.2
      · cases h

/-- The layout of a call that leaves the placement to a policy. -/
def Call.unplaced? : Call ρ → Option Layout
  | .allocate layout _ | .allocateLockable layout => some layout
  | .allocateAs _ _ _ | .share _ _ | .attach _ _ | .free _ => none

/-- What a call may ask the backend for: a placement that is available, or, if the call leaves the
placement to a policy and the policy cannot use unified memory for it, the default of the device. -/
def Nature.Admits (n : Nature) (call : Call ρ) (p : Placement) : Prop :=
  n.availability.lockable p = true ∨ p = n.device.defaultPlacement ∧
    ∃ layout, call.unplaced? = some layout ∧ (n.availability.usesUnified = false ∨ layout.isImage = true)

theorem Request.placement_of_ofLayout? {layout : Layout} {p : Placement} {zeroed : Bool} {r : Request}
    (h : Request.ofLayout? layout p zeroed = some r) : r.placement = p := by
  unfold Request.ofLayout? at h
  split at h
  · cases h
    rfl
  · cases h

/-- A request that is left to a policy is one for what the policy chooses. -/
theorem Nature.choose_of_orderBy? {n : Nature} {policy : Policy} {layout : Layout} {zeroed : Bool} {r : Request}
    (h : n.orderBy? policy layout zeroed = some r) :
    policy.choose layout.isImage n.availability n.device.defaultPlacement = .ok r.placement := by
  unfold orderBy? at h
  split at h
  · rename_i p hp
    rw [hp, Request.placement_of_ofLayout? h]
  · cases h

theorem Nature.admits_of_orderBy? {n : Nature} {policy : Policy} {layout : Layout} {zeroed : Bool}
    {r : Request} (h : n.orderBy? policy layout zeroed = some r) {call : Call ρ}
    (hc : call.unplaced? = some layout) : n.Admits call r.placement :=
  (Policy.choose_cases (choose_of_orderBy? h)).imp_right fun ⟨hd, hi⟩ => ⟨hd, layout, hc, hi⟩

/-- A call leads to a request for what it may ask for. -/
theorem Nature.admits_of_order? {n : Nature} {call : Call ρ} {r : Request} (h : n.order? call = some r) :
    n.Admits call r.placement := by
  cases call with
  | allocate layout zeroed => exact admits_of_orderBy? h rfl
  | allocateLockable layout => exact admits_of_orderBy? h rfl
  | allocateAs layout p zeroed =>
    rw [order?] at h
    split at h
    · rename_i hl
      rw [Request.placement_of_ofLayout? h]
      exact .inl hl
    · cases h
  | _ => cases h

/-- What is available is served by the device. -/
theorem Nature.Admits.serves_or_default {n : Nature} {call : Call ρ} {p : Placement} (h : n.Admits call p) :
    n.availability.capabilities.serves p = true ∨ p = n.device.defaultPlacement := by
  rcases h with h | ⟨h, -⟩
  · rw [Availability.lockable, Bool.and_eq_true] at h
    exact .inl h.2
  · exact .inr h

/-- With unified memory switched off, no unified placement is available. -/
theorem Nature.Admits.default_of_isUnified {n : Nature} {call : Call ρ} {p : Placement} (h : n.Admits call p)
    (hoff : n.availability.unifiedEnabled = false) (hu : p.isUnified = true) :
    p = n.device.defaultPlacement := by
  rcases h with h | ⟨h, -⟩
  · simp [Availability.lockable, Availability.usesUnified, hu, hoff] at h
  · exact h

/-! ### What is available on an engine -/

/-- The nature of an engine that is made on a device under settings. -/
def Nature.made (id : EngineId) (device : Device) (s : MemorySettings) : Nature :=
  ⟨id, device, ⟨device.capabilities, !s.disableUnified⟩, s.logger.detail⟩

/-- The device and the settings of the engine that a move makes, if it makes one. -/
def Move.makes? : Move β ρ → Option (Device × Settings)
  | .make device _ settings => some (device, settings)
  | .makeAmong _ devices selector _ settings => (devices.select selector).map (·, settings)
  | _ => none

namespace Traffic

theorem nature_makeEngine (h : Host β) (device : Device) (backend : β) (s : Settings) :
    ∃ e, (h.makeEngine device backend s).2.1.engine? ⟨h.engines.length⟩ = some e ∧
      e.nature = .made ⟨h.engines.length⟩ device s.memory := by
  obtain ⟨logger, he⟩ := exists_new_makeEngine h device backend s
  rw [Host.engine?, he]
  exact ⟨_, List.getElem?_concat_length, rfl⟩

variable [Backend β ρ]

/-- An engine is made with the nature that its device and the settings give it. -/
theorem nature_of_makes? {t : Traffic β ρ} {m : Move β ρ} {device : Device} {s : Settings}
    (hm : m.makes? = some (device, s)) :
    ∃ e, (t.move m).host.engine? ⟨t.host.engines.length⟩ = some e ∧
      e.nature = .made ⟨t.host.engines.length⟩ device s.memory := by
  cases m with
  | make device' backend settings =>
    cases hm
    exact nature_makeEngine t.host device backend s
  | makeAmong target devices selector backend settings =>
    obtain ⟨_, hd, ⟨⟩⟩ := Option.map_eq_some_iff.mp hm
    simp only [move, Host.makeEngineAmong, hd]
    exact nature_makeEngine t.host device backend s
  | _ => cases hm

/-! ### What an engine asks its backend for -/

/-- What an engine on a device, made under settings, asks its backend for. -/
structure AsksWithin (t : Traffic β ρ) (id : EngineId) (device : Device) (s : MemorySettings) : Prop where
  /-- The backend has been asked for what the deeds tell and for nothing else. -/
  served : ∃ e start, t.host.engine? id = some e ∧ Backend.Serves start (t.deeds id) e.backend
  /-- Each of these requests is one of a call that may ask for it. -/
  admitted : ∀ r ∈ Deed.requests (t.deeds id), ∃ j ∈ t.jobs, j.engine = id ∧
    r ∈ Deed.requests j.deeds ∧ (Nature.made id device s).Admits j.request r.placement
  /-- So its placement is one that the device serves, or its default. -/
  serves_or_default : ∀ r ∈ Deed.requests (t.deeds id),
    device.capabilities.serves r.placement = true ∨ r.placement = device.defaultPlacement
  /-- With unified memory switched off, it is a unified placement only if that is the default. -/
  default_of_isUnified : s.disableUnified = true → ∀ r ∈ Deed.requests (t.deeds id),
    r.placement.isUnified = true → r.placement = device.defaultPlacement

/-- A request that was made on an engine is one that its nature admits. -/
theorem Sound.exists_admits {t : Traffic β ρ} (h : t.Sound) {id : EngineId} {e : Engine β}
    (he : t.host.engine? id = some e) {r : Request} (hr : r ∈ Deed.requests (t.deeds id)) :
    ∃ j ∈ t.jobs, j.engine = id ∧ r ∈ Deed.requests j.deeds ∧ e.nature.Admits j.request r.placement := by
  obtain ⟨d, hd, hrd⟩ := List.mem_filterMap.mp hr
  obtain ⟨j, hj, hid, hdj⟩ := h.mem_deeds.mp hd
  have hrj : r ∈ Deed.requests j.deeds := List.mem_filterMap.mpr ⟨d, hdj, hrd⟩
  have horder := (h.course_on he hj hid).prefix_order
  rw [Deed.requests_effects] at horder
  exact ⟨j, hj, hid, hrj, Nature.admits_of_order? (Option.mem_toList.mp (horder.subset hrj))⟩

/-- **An engine asks its backend for what is available, or for the default of the device**, whatever
calls are made on it and on others. -/
theorem Reachable.asksWithin {t : Traffic β ρ} (h : t.Reachable) {m : Move β ρ} {device : Device}
    {s : Settings} (hm : m.makes? = some (device, s)) (ms : List (Move β ρ)) :
    ((t.move m).run ms).AsksWithin ⟨t.host.engines.length⟩ device s.memory := by
  obtain ⟨e₀, he₀, hn₀⟩ := nature_of_makes? (t := t) hm
  obtain ⟨e, ds, hsince⟩ := (Reachable.move m h).since_run he₀ ms
  have he := hsince.engine?_eq
  have hsound := ((Reachable.move m h).run ms).sound
  obtain ⟨start, hserves⟩ := hsound.served _ e he
  have hadmits (r) (hr : r ∈ Deed.requests (((t.move m).run ms).deeds ⟨t.host.engines.length⟩)) :=
    (hsince.nature_eq.trans hn₀) ▸ hsound.exists_admits he hr
  exact {
    served := ⟨e, start, he, hserves⟩
    admitted := hadmits
    serves_or_default := fun r hr => by
      obtain ⟨j, -, -, -, ha⟩ := hadmits r hr
      exact ha.serves_or_default
    default_of_isUnified := fun hoff r hr hu => by
      obtain ⟨j, -, -, -, ha⟩ := hadmits r hr
      exact ha.default_of_isUnified (by simp [Nature.made, hoff]) hu }

/-! ### A default that is not available -/

/-- A device whose default placement it does not serve. -/
def strayDefault : Device := ⟨"0", "device", 1024, .plainBuffer, .ofList [.unifiedHost]⟩

/-- The process before any engine is made. -/
def noEngines : Traffic ScriptedBackend ScriptedResource := { host := {} }

/-- A thread asks the first engine for an image. -/
def imageMoves : List (Move ScriptedBackend ScriptedResource) :=
  .call (.numbered 0) ⟨0⟩ "a" (.allocate ⟨[2, 3], .f32, true⟩ false) :: Move.toEnd (.numbered 0)

theorem strayDefault_asksWithin :
    (Move.make strayDefault ({} : ScriptedBackend) {} : Move ScriptedBackend ScriptedResource).makes? =
        some (strayDefault, {}) ∧
      ((noEngines.move (.make strayDefault {} {})).run imageMoves).AsksWithin ⟨0⟩ strayDefault {} := by
  have hstart : noEngines.Reachable := .start _ rfl
  have hm : (Move.make strayDefault ({} : ScriptedBackend) {} :
      Move ScriptedBackend ScriptedResource).makes? = some (strayDefault, {}) := rfl
  exact ⟨hm, hstart.asksWithin hm imageMoves⟩

/-- The backend is asked for the default of the device though it is not available. Where that default is
unified, unified memory is asked for even if it is switched off. -/
theorem strayDefault_asks :
    (∃ r ∈ Deed.requests (((noEngines.move (.make strayDefault {} {})).run imageMoves).deeds ⟨0⟩),
      Availability.lockable ⟨strayDefault.capabilities, true⟩ r.placement = false ∧
        strayDefault.capabilities.serves r.placement = false) ∧
    ∃ r ∈ Deed.requests (((noEngines.move (.make { strayDefault with defaultPlacement := .unifiedHost } {}
        { memory := { disableUnified := true } })).run imageMoves).deeds ⟨0⟩),
      Availability.lockable ⟨strayDefault.capabilities, false⟩ r.placement = false ∧
        r.placement.isUnified = true := by
  let r (p : Placement) : Request := ⟨⟨[2, 3], .f32, true⟩, p, false, 24, rfl⟩
  have hplain : Deed.requests (((noEngines.move (.make strayDefault {} {})).run imageMoves).deeds ⟨0⟩) =
      [r .plainBuffer] := rfl
  have hhost : Deed.requests (((noEngines.move (.make { strayDefault with defaultPlacement := .unifiedHost } {}
      { memory := { disableUnified := true } })).run imageMoves).deeds ⟨0⟩) = [r .unifiedHost] := rfl
  rw [hplain, hhost]
  exact ⟨⟨r .plainBuffer, List.mem_singleton_self _, rfl, rfl⟩,
    ⟨r .unifiedHost, List.mem_singleton_self _, rfl, rfl⟩⟩

end Traffic

end DeviceMemory
