import DeviceMemory.Proofs.Engine.Room
import DeviceMemory.Proofs.Traffic.Sound

/-!
# What becomes of an engine in a run

Whatever moves are made, in any order, an engine keeps its nature, and its ledger and its backend are
changed by the deeds on it and by nothing else (`Traffic.Reachable.since_run`). So what a run makes of an
engine can be read off the deeds that it adds to the trace.
-/

namespace DeviceMemory

variable {β ρ : Type} [Backend β ρ]

namespace Traffic

/-- What has become of an engine since an earlier state, with the deeds that were done on it. -/
structure Since (t₀ t : Traffic β ρ) (id : EngineId) (e₀ e : Engine β) (ds : List (Deed ρ)) : Prop where
  /-- This is the engine now. -/
  engine?_eq : t.host.engine? id = some e
  /-- Nothing that is fixed about it has changed. -/
  nature_eq : e.nature = e₀.nature
  /-- These are its deeds. -/
  deeds_eq : t.deeds id = t₀.deeds id ++ ds
  /-- They were entered into the ledger, -/
  ledger : e₀.ledger.enterAll? ds = some e.ledger
  /-- which refused only what it had no room for. -/
  rightly : e₀.ledger.RefusesRightly ds
  /-- The backend was asked and given back what they tell. -/
  served : Backend.Serves e₀.backend ds e.backend

variable {t₀ t t' : Traffic β ρ} {id : EngineId} {e₀ e : Engine β} {ds : List (Deed ρ)}

theorem Since.refl (he : t.host.engine? id = some e) : t.Since t id e e [] where
  engine?_eq := he
  nature_eq := rfl
  deeds_eq := (List.append_nil _).symm
  ledger := rfl
  rightly := trivial
  served := rfl

namespace Since

/-- A move that is no step of a call on the engine does nothing to it. -/
theorem of_same (h : t₀.Since t id e₀ e ds) (he : t'.host.engine? id = t.host.engine? id)
    (hd : t'.deeds id = t.deeds id) : t₀.Since t' id e₀ e ds where
  engine?_eq := he.trans h.engine?_eq
  nature_eq := h.nature_eq
  deeds_eq := hd.trans h.deeds_eq
  ledger := h.ledger
  rightly := h.rightly
  served := h.served

theorem wentOn (h : t₀.Since t id e₀ e ds) (hs : t.Sound) {x : Errand ρ} (hx : x ∈ t.errands) :
    ∃ e' new, t₀.Since (t.goOn x) id e₀ e' (ds ++ new) := by
  obtain ⟨ex, hex, hc⟩ := hs.course_of_errand hx
  have hengine := engine?_goOn hex id
  have hdeeds := deeds_goOn hex id
  by_cases hid : id = x.engine
  · subst hid
    have hee : ex = e := Option.some.inj (hex.symm.trans h.engine?_eq)
    subst hee
    rw [if_pos rfl] at hengine hdeeds
    have hcov := hs.covers hx hex
    exact ⟨_, _, {
      engine?_eq := hengine
      nature_eq := (ex.nature_advance x.thread t.host.commons x.stage).trans h.nature_eq
      deeds_eq := by rw [hdeeds, h.deeds_eq, List.append_assoc]
      ledger := by
        rw [Ledger.enterAll?_append, h.ledger]
        exact Engine.enterAll?_advance x.thread t.host.commons hc hcov
      rightly := Ledger.refusesRightly_append h.rightly h.ledger
        (Engine.refusesRightly_advance x.thread t.host.commons hc)
      served := Backend.serves_append h.served (ex.serves_advance x.thread t.host.commons x.stage) }⟩
  · rw [if_neg hid] at hengine
    rw [if_neg (Ne.symm hid), List.append_nil] at hdeeds
    exact ⟨e, [], by simpa using h.of_same hengine hdeeds⟩

/-- A move adds to what has become of an engine. -/
theorem change (h : t₀.Since t id e₀ e ds) (hs : t.Sound) (hc : t.Change t') :
    ∃ e' new, t₀.Since t' id e₀ e' (ds ++ new) := by
  have same (he : t'.host.engine? id = t.host.engine? id) (hd : t'.deeds id = t.deeds id) :
      ∃ e' new, t₀.Since t' id e₀ e' (ds ++ new) := ⟨e, [], by simpa using h.of_same he hd⟩
  cases hc with
  | unchanged => exact same rfl rfl
  | aside he hx => exact same (by rw [Host.engine?, he, Host.engine?]) (deedsOn_aside hx id t.trace)
  | made he hi hl hx =>
    refine same ?_ (deedsOn_aside hx id t.trace)
    have hlt := (List.getElem?_eq_some_iff.mp h.engine?_eq).1
    rw [Host.engine?_append he, if_neg (Nat.ne_of_lt hlt)]
  | began hi he hb => exact same rfl (deedsOn_began id _ _ _ t.trace)
  | wentOn hx => exact h.wentOn hs hx
  | ended hx hr => exact same rfl (deedsOn_ended id _ _ _ _ t.trace)
  | dropped => exact same rfl rfl

end Since

/-- **In a run, an engine is changed by its deeds and by nothing else.** -/
theorem Reachable.since_run (h : t.Reachable) (he : t.host.engine? id = some e) (ms : List (Move β ρ)) :
    ∃ e' ds, t.Since (t.run ms) id e e' ds := by
  suffices hall : ∀ t' : Traffic β ρ, t'.Reachable → ∀ e₁ ds₁, t.Since t' id e e₁ ds₁ →
      ∃ e' ds, t.Since (t'.run ms) id e e' ds from hall t h e [] (.refl he)
  induction ms with
  | nil => exact fun t' _ e₁ ds₁ hs => ⟨e₁, ds₁, hs⟩
  | cons m ms ih =>
    intro t' ht' e₁ ds₁ hs
    obtain ⟨e₂, new, hs'⟩ := hs.change ht'.sound (change_move t' m)
    exact ih (t'.move m) (.move m ht') e₂ (ds₁ ++ new) hs'

end Traffic

end DeviceMemory
