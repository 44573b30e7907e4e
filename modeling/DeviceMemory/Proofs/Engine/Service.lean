import DeviceMemory.Proofs.Engine.Effects

/-!
# What the backend of an engine is asked

The deeds of an engine tell all that its backend is asked and given back, in order, and every answer
that they tell is the one that the backend gave (`Engine.serves_advance`). So what is shown of the
deeds is shown of the backend, whatever it does inside.
-/

namespace DeviceMemory

variable {β ρ : Type}

/-- Whether a deed called the backend. -/
def Deed.callsBackend : Deed ρ → Bool
  | asked _ _ | released _ => true
  | _ => false

/-- The calls of the backend among deeds, in order. -/
def Deed.backendCalls (ds : List (Deed ρ)) : List (Deed ρ) := ds.filter callsBackend

@[simp] theorem Deed.backendCalls_said (out : List Output) :
    backendCalls (out.map (said (ρ := ρ))) = [] := by
  rw [backendCalls, List.filter_eq_nil_iff]
  intro d hd
  obtain ⟨o, -, rfl⟩ := List.mem_map.mp hd
  simp [callsBackend]

@[simp] theorem Deed.backendCalls_records (rs : List Record) : backendCalls (records (ρ := ρ) rs) = [] := by
  simp [backendCalls, records, callsBackend]

variable [Backend β ρ]

/-- A backend in one state answers the requests among some deeds as they tell, gets back what they
give back, and is then in another state. -/
def Backend.Serves : β → List (Deed ρ) → β → Prop
  | b, [], b' => b' = b
  | b, .asked r answer :: ds, b' => answer = (Backend.allocate b r).1 ∧ Serves (Backend.allocate b r).2 ds b'
  | b, .released h :: ds, b' => Serves (Backend.release b h.resource) ds b'
  | b, _ :: ds, b' => Serves b ds b'

namespace Backend

theorem serves_append {b b' b'' : β} {ds ds' : List (Deed ρ)} (h : Serves b ds b') (h' : Serves b' ds' b'') :
    Serves b (ds ++ ds') b'' := by
  induction ds generalizing b with
  | nil =>
    cases h
    exact h'
  | cons d ds ih =>
    cases d with
    | asked r answer => exact ⟨h.1, ih h.2⟩
    | _ => exact ih h

/-- Only the calls of a backend matter to it. -/
theorem serves_filter {keep : Deed ρ → Bool} (hk : ∀ d, d.callsBackend = true → keep d = true) {b b' : β}
    {ds : List (Deed ρ)} : Serves b (ds.filter keep) b' ↔ Serves b ds b' := by
  induction ds generalizing b with
  | nil => exact Iff.rfl
  | cons d ds ih =>
    cases d with
    | asked r answer =>
      rw [List.filter_cons_of_pos (hk _ rfl)]
      exact and_congr_right fun _ => ih
    | released holding =>
      rw [List.filter_cons_of_pos (hk _ rfl)]
      exact ih
    | _ =>
      rw [List.filter_cons]
      split <;> exact ih

theorem serves_effects {b b' : β} {ds : List (Deed ρ)} : Serves b (Deed.effects ds) b' ↔ Serves b ds b' :=
  serves_filter fun d hd => by
    cases d with
    | said out => cases hd
    | _ => rfl

theorem serves_backendCalls {b b' : β} {ds : List (Deed ρ)} :
    Serves b (Deed.backendCalls ds) b' ↔ Serves b ds b' :=
  serves_filter fun _ hd => hd

end Backend

theorem Engine.Does.serves {e e' : Engine β} {s : Stage ρ} {ds : List (Deed ρ)} (h : e.Does s e' ds) :
    Backend.Serves e.backend ds e'.backend := by
  cases h with
  | asked => exact ⟨rfl, rfl⟩
  | _ => rfl

/-- **The deeds of a step tell all that becomes of the backend.** -/
theorem Engine.serves_advance (thread : ThreadId) (e : Engine β) (c : Commons) (s : Stage ρ) :
    Backend.Serves e.backend (e.advance thread c s).deeds (e.advance thread c s).engine.backend :=
  Backend.serves_effects.mp (e.does_advance thread c s).serves

end DeviceMemory
