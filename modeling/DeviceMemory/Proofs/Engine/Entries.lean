import DeviceMemory.Proofs.Engine.Assets
import DeviceMemory.Proofs.Engine.Draws

/-!
# What a call writes to the log

A call on an engine that logs writes one entry if it succeeds, just before it can tell so, and nothing
otherwise (`Course.reports`); a call on an engine that does not log writes nothing at all
(`Course.entries_of_disabled`).

Entries tell blocks by their ids. The block of an entry about making is one whose id the call drew
(`Course.made_sublist_drawn`), and the block of an entry about giving back is the one that the call was
given (`Course.gone_eq_nil_or`).
-/

namespace DeviceMemory

variable {β ρ : Type}

/-! ### Readings of deeds -/

namespace Deed

/-- The entry of a deed, if it wrote one to the log. -/
def wrote? : Deed ρ → Option Entry
  | logged entry => some entry
  | _ => none

/-- The id of a deed, if it drew one. -/
def name? : Deed ρ → Option BlockId
  | named id => some id
  | _ => none

/-- The entries among deeds, in order. -/
def entries (ds : List (Deed ρ)) : List Entry := ds.filterMap wrote?

/-- The ids that deeds drew, in order. -/
def drawn (ds : List (Deed ρ)) : List BlockId := ds.filterMap name?

attribute [simp] wrote? name?

@[simp] theorem entries_nil : entries ([] : List (Deed ρ)) = [] := rfl

@[simp] theorem entries_cons (d : Deed ρ) (ds : List (Deed ρ)) :
    entries (d :: ds) = d.wrote?.toList ++ entries ds := by
  rw [entries, List.filterMap_cons]
  cases d.wrote? <;> rfl

@[simp] theorem entries_append (ds ds' : List (Deed ρ)) : entries (ds ++ ds') = entries ds ++ entries ds' :=
  List.filterMap_append

theorem entries_effects (ds : List (Deed ρ)) : entries (effects ds) = entries ds :=
  filterMap_effects (fun _ => rfl) ds

@[simp] theorem drawn_nil : drawn ([] : List (Deed ρ)) = [] := rfl

@[simp] theorem drawn_cons (d : Deed ρ) (ds : List (Deed ρ)) : drawn (d :: ds) = d.name?.toList ++ drawn ds := by
  rw [drawn, List.filterMap_cons]
  cases d.name? <;> rfl

@[simp] theorem drawn_append (ds ds' : List (Deed ρ)) : drawn (ds ++ ds') = drawn ds ++ drawn ds' :=
  List.filterMap_append

theorem drawn_effects (ds : List (Deed ρ)) : drawn (effects ds) = drawn ds :=
  filterMap_effects (fun _ => rfl) ds

@[simp] theorem drawn_records (rs : List Record) : drawn (records (ρ := ρ) rs) = [] := by
  rw [← drawn_effects, effects_records, drawn_nil]

theorem names_eq_length (ds : List (Deed ρ)) : names ds = (drawn ds).length := by
  induction ds with
  | nil => rfl
  | cons d ds ih =>
    rw [names_cons, drawn_cons, List.length_append, ih]
    cases d <;> rfl

end Deed

/-- The block that an entry tells to have been made, if it does. -/
def Entry.made? (e : Entry) : Option BlockId := if e.event = .freed then none else some e.block

/-- The block that an entry tells to have been given back, if it does. -/
def Entry.gone? (e : Entry) : Option BlockId := if e.event = .freed then some e.block else none

/-! ### The event of a call -/

/-- The event that a call comes to with a reply, and its block. -/
def Call.event? : Call ρ → Reply ρ → Option (Event × Block ρ)
  | .allocate _ _, .made b | .allocateLockable _, .made b | .allocateAs _ _ _, .made b => some (.allocated, b)
  | .share _ _, .made b | .attach _ _, .made b => some (.imported, b)
  | .free b, .freed => some (.freed, b)
  | _, _ => none

/-- The event that a call has come to, once it has nothing left to do but to give memory back. -/
def Stage.event? (call : Call ρ) : Stage ρ → Option (Event × Block ρ)
  | closing _ reply => call.event? reply
  | _ => none

/-- The entry that the next step of a stage writes. -/
def Stage.ready? : Stage ρ → Option Entry
  | writing entry _ _ => some entry
  | _ => none

/-- Entries tell of an event once, if there is one, and of nothing else. -/
inductive Reports : Option (Event × Block ρ) → List Entry → Prop
  /-- There is no event. -/
  | nothing : Reports none []
  /-- There is one. -/
  | event {event : Event} {b : Block ρ} {entry : Entry} (h : entry.Tells event b) :
    Reports (some (event, b)) [entry]

theorem Entry.Tells.event_eq {entry : Entry} {event : Event} {b : Block ρ} (h : entry.Tells event b) :
    entry.event = event := by
  obtain ⟨freedFrom, statistics, rfl⟩ := h
  rfl

theorem Entry.Tells.block_eq {entry : Entry} {event : Event} {b : Block ρ} (h : entry.Tells event b) :
    entry.block = b.id := by
  obtain ⟨freedFrom, statistics, rfl⟩ := h
  rfl

namespace Reports

variable {event : Event} {b : Block ρ} {x : Option (Event × Block ρ)} {es : List Entry}

theorem of_some (h : Reports (some (event, b)) es) : ∃ entry, es = [entry] ∧ entry.Tells event b := by
  cases h with
  | event ht => exact ⟨_, rfl, ht⟩

theorem made_eq (h : Reports (some (event, b)) es) (he : event ≠ .freed) :
    es.filterMap Entry.made? = [b.id] := by
  obtain ⟨entry, rfl, ht⟩ := h.of_some
  simp [Entry.made?, ht.event_eq, he, ht.block_eq]

theorem not_made (h : Reports (some (.freed, b)) es) : es.filterMap Entry.made? = [] := by
  obtain ⟨entry, rfl, ht⟩ := h.of_some
  simp [Entry.made?, ht.event_eq]

theorem gone_eq (h : Reports (some (.freed, b)) es) : es.filterMap Entry.gone? = [b.id] := by
  obtain ⟨entry, rfl, ht⟩ := h.of_some
  simp [Entry.gone?, ht.event_eq, ht.block_eq]

theorem not_gone (h : Reports (some (event, b)) es) (he : event ≠ .freed) : es.filterMap Entry.gone? = [] := by
  obtain ⟨entry, rfl, ht⟩ := h.of_some
  simp [Entry.gone?, ht.event_eq, he]

end Reports

variable {n : Nature} {call : Call ρ} {s : Stage ρ} {ds : List (Deed ρ)}

open Deed

/-- A call that fails comes to no event. -/
theorem Call.event?_failed (call : Call ρ) (f : Failure) : call.event? (.failed f) = none := by
  cases call <;> rfl

/-- The only event of a call that gives a block back is that the block was freed. -/
theorem Stage.event?_free {b : Block ρ} {x : Event × Block ρ} (h : s.event? (.free b) = some x) :
    x = (.freed, b) := by
  cases s with
  | closing release reply =>
    cases reply <;> cases h
    rfl
  | _ => cases h

/-- A block is given back by a call for that block. -/
theorem Stage.eq_free_of_event? {b : Block ρ} (h : s.event? call = some (.freed, b)) : call = .free b := by
  cases s with
  | closing release reply =>
    cases call <;> cases reply <;> cases h
    rfl
  | _ => cases h

theorem Achieves.event?_eq {event : Event} {b : Block ρ} {release : Option (Holding ρ)} {reply : Reply ρ}
    (h : Achieves n call event b release reply ds) : call.event? reply = some (event, b) := by
  cases h with
  | allocated ho hp he =>
    cases call with
    | share layout handle => cases ho
    | attach layout raw => cases ho
    | free b => cases ho
    | _ => rfl
  | imported ha hp he => rfl
  | attached ha hp he => rfl
  | freed he hr => rfl

/-- Before its event is logged, a call has logged nothing. -/
theorem Achieves.entries_eq_nil {event : Event} {b : Block ρ} {release : Option (Holding ρ)} {reply : Reply ρ}
    (h : Achieves n call event b release reply ds) : entries ds = [] := by
  cases h with
  | allocated ho hp he => rfl
  | imported ha hp he => rfl
  | attached ha hp he => rfl
  | freed he hr => split <;> rfl

/-- The block that a call makes has the id that the call drew. -/
theorem Achieves.drawn_eq {event : Event} {b : Block ρ} {release : Option (Holding ρ)} {reply : Reply ρ}
    (h : Achieves n call event b release reply ds) (he : event ≠ .freed) : drawn ds = [b.id] := by
  cases h with
  | allocated ho hp hb => rfl
  | imported ha hp hb => rfl
  | attached ha hp hb => rfl
  | freed hb hr => exact absurd rfl he

theorem Achieves.eq_free {b : Block ρ} {release : Option (Holding ρ)} {reply : Reply ρ}
    (h : Achieves n call .freed b release reply ds) : call = .free b := by
  cases h
  rfl

theorem Prepares.entries_eq_nil {p : Plan ρ} (h : Prepares n call p ds) : entries ds = [] := by
  cases h <;> rfl

theorem Nature.Logs.reports {event : Event} {b : Block ρ} (h : n.Logs event b ds) (hd : n.detail ≠ .disabled) :
    Reports (some (event, b)) (entries ds) := by
  cases h with
  | disabled hn => exact absurd hn hd
  | logged hn ht => exact .event ht

theorem Nature.Logs.entries_eq_nil {event : Event} {b : Block ρ} (h : n.Logs event b ds)
    (hd : n.detail = .disabled) : entries ds = [] := by
  cases h with
  | disabled hn => rfl
  | logged hn ht => exact absurd hd hn

theorem Nature.Logs.drawn_eq_nil {event : Event} {b : Block ρ} (h : n.Logs event b ds) : drawn ds = [] := by
  cases h <;> rfl

namespace Course

/-- A call that has not come to an event has written nothing to the log. -/
theorem entries_eq_nil (h : Course n call s ds) (he : s.event? call = none) : entries ds = [] := by
  cases h with
  | naming hp => exact hp.entries_eq_nil
  | placing hp => simp [hp.entries_eq_nil]
  | tracing ha => exact ha.entries_eq_nil
  | surveying ha hd ht => exact ha.entries_eq_nil
  | writing ha hd ht => exact ha.entries_eq_nil
  | concluded ha hl => simp [Stage.event?, ha.event?_eq] at he
  | released ha hl => simp [Stage.event?, ha.event?_eq] at he
  | _ => rfl

/-- A call that has come to an event can only succeed, and has logged that event as far as its engine
logs. -/
theorem achieves_of_event? {event : Event} {b : Block ρ} (h : Course n call s ds)
    (he : s.event? call = some (event, b)) : ∃ release reply done log,
      Achieves n call event b release reply done ∧ n.Logs event b log ∧ entries ds = entries log ∧
        drawn ds = drawn done := by
  have failed (f : Failure) : call.event? (.failed f) ≠ some (event, b) := by simp [Call.event?_failed]
  cases h with
  | declined ho hf => exact absurd he (failed _)
  | denied ho => exact absurd he (failed _)
  | overdrawn ho => exact absurd he (failed _)
  | returned ho => exact absurd he (failed _)
  | unenrolled hp => cases he
  | concluded ha hl =>
    cases ha.event?_eq.symm.trans he
    exact ⟨_, _, _, _, ha, hl, by simp [ha.entries_eq_nil], by simp [hl.drawn_eq_nil]⟩
  | released ha hl =>
    cases ha.event?_eq.symm.trans he
    exact ⟨_, _, _, _, ha, hl, by simp [ha.entries_eq_nil], by simp [hl.drawn_eq_nil]⟩
  | _ => cases he

/-- A call that is about to write an entry can only succeed, and the entry tells its event. -/
theorem achieves_of_ready? {entry : Entry} (h : Course n call s ds) (hw : s.ready? = some entry) :
    ∃ event b release reply, Achieves n call event b release reply ds ∧ n.detail ≠ .disabled ∧
      entry.Tells event b := by
  cases h with
  | writing ha hd ht =>
    cases hw
    exact ⟨_, _, _, _, ha, hd, ht⟩
  | _ => cases hw

/-- **On an engine that logs, a call writes one entry about the event that it comes to.** -/
theorem reports (h : Course n call s ds) (hd : n.detail ≠ .disabled) :
    Reports (s.event? call) (entries ds) := by
  cases he : s.event? call with
  | none =>
    rw [h.entries_eq_nil he]
    exact .nothing
  | some x =>
    obtain ⟨release, reply, done, log, ha, hl, hes, -⟩ := h.achieves_of_event? he
    rw [hes]
    exact hl.reports hd

/-- On an engine that does not log, a call writes nothing. -/
theorem entries_of_disabled (h : Course n call s ds) (hd : n.detail = .disabled) : entries ds = [] := by
  cases he : s.event? call with
  | none => exact h.entries_eq_nil he
  | some x =>
    obtain ⟨release, reply, done, log, ha, hl, hes, -⟩ := h.achieves_of_event? he
    rw [hes, hl.entries_eq_nil hd]

/-- The block of an event is one of the engine. -/
theorem engine_of_event? {event : Event} {b : Block ρ} (h : Course n call s ds)
    (he : s.event? call = some (event, b)) : b.engine = n.id := by
  obtain ⟨release, reply, done, log, ha, -⟩ := h.achieves_of_event? he
  exact ha.engine_eq

/-- The block that a call has made has the id that the call drew. -/
theorem drawn_of_event? {event : Event} {b : Block ρ} (h : Course n call s ds)
    (he : s.event? call = some (event, b)) (hf : event ≠ .freed) : drawn ds = [b.id] := by
  obtain ⟨release, reply, done, log, ha, -, -, hdrawn⟩ := h.achieves_of_event? he
  rw [hdrawn, ha.drawn_eq hf]

/-- What a call has written is about the event that it has come to. -/
theorem entries_cases (h : Course n call s ds) :
    entries ds = [] ∨ ∃ x, s.event? call = some x ∧ Reports (some x) (entries ds) := by
  cases he : s.event? call with
  | none => exact .inl (h.entries_eq_nil he)
  | some x =>
    by_cases hd : n.detail = .disabled
    · exact .inl (h.entries_of_disabled hd)
    · exact .inr ⟨x, rfl, he ▸ h.reports hd⟩

/-- A block that a call tells to have been made has the id that the call drew. -/
theorem made_sublist_drawn (h : Course n call s ds) :
    ((entries ds).filterMap Entry.made?).Sublist (drawn ds) := by
  rcases h.entries_cases with hnil | ⟨⟨event, b⟩, he, hr⟩
  · rw [hnil]
    exact List.nil_sublist _
  · by_cases hf : event = .freed
    · subst hf
      rw [hr.not_made]
      exact List.nil_sublist _
    · rw [hr.made_eq hf, h.drawn_of_event? he hf]

/-- A block that a call tells to have been given back is the one that it was given. -/
theorem gone_eq_nil_or (h : Course n call s ds) : (entries ds).filterMap Entry.gone? = [] ∨
    ∃ b, call = .free b ∧ (entries ds).filterMap Entry.gone? = [b.id] := by
  rcases h.entries_cases with hnil | ⟨⟨event, b⟩, he, hr⟩
  · exact .inl (by rw [hnil]; rfl)
  · by_cases hf : event = .freed
    · subst hf
      exact .inr ⟨b, Stage.eq_free_of_event? he, hr.gone_eq⟩
    · exact .inl (hr.not_gone hf)

/-- How a call ends: it has made a block, has taken one of the engine's own back, or has failed, and then it
was given none of them. -/
theorem ended_cases {reply : Reply ρ} (h : Course n call (.closing none reply) ds) :
    (∃ event b, reply = .made b ∧ event ≠ .freed ∧ call.event? reply = some (event, b) ∧
        ∀ b', call ≠ .free b') ∨
      (∃ b, reply = .freed ∧ call = .free b ∧ b.engine = n.id) ∨
      ∃ f, reply = .failed f ∧ ∀ b, call = .free b → b.engine ≠ n.id := by
  have ordered {r : Request} (ho : n.order? call = some r) (b : Block ρ) : call ≠ .free b := by
    rintro rfl
    cases ho
  cases h with
  | declined ho hf => exact .inr (.inr ⟨_, rfl, hf⟩)
  | denied ho => exact .inr (.inr ⟨_, rfl, fun b hb => absurd hb (ordered ho b)⟩)
  | returned ho => exact .inr (.inr ⟨_, rfl, fun b hb => absurd hb (ordered ho b)⟩)
  | unenrolled hp => exact .inr (.inr ⟨_, rfl, by simp⟩)
  | concluded ha hl =>
    have he := ha.event?_eq
    cases ha with
    | allocated ho hp hb => exact .inl ⟨_, _, rfl, by simp, he, ordered ho⟩
    | imported ha hp hb => exact .inl ⟨_, _, rfl, by simp, he, by simp⟩
    | attached ha hp hb => exact .inl ⟨_, _, rfl, by simp, he, by simp⟩
    | freed hb hr => exact .inr (.inl ⟨_, rfl, rfl, hb⟩)
  | released ha hl =>
    cases ha with
    | freed hb hr => exact .inr (.inl ⟨_, rfl, rfl, hb⟩)

end Course

/-! ### Steps -/

namespace Engine

variable [Backend β ρ]

theorem Does.entries_eq {e e' : Engine β} {s : Stage ρ} {ds : List (Deed ρ)} (h : e.Does s e' ds) :
    entries ds = s.ready?.toList := by
  cases h <;> rfl

/-- A step writes the entry that its stage has ready, and no other. -/
theorem entries_advance (thread : ThreadId) (e : Engine β) (c : Commons) (s : Stage ρ) :
    entries (e.advance thread c s).deeds = s.ready?.toList := by
  rw [← entries_effects]
  exact (e.does_advance thread c s).entries_eq

/-- An id is drawn in one stage only. -/
theorem Does.drawn_cases {e e' : Engine β} {s : Stage ρ} {ds : List (Deed ρ)} (h : e.Does s e' ds) :
    drawn ds = [] ∨ ∃ plan, s = .naming plan := by
  cases h with
  | named => exact .inr ⟨_, rfl⟩
  | _ => exact .inl rfl

/-- A step draws no id, or the next one. -/
theorem drawn_advance (thread : ThreadId) (e : Engine β) (c : Commons) (s : Stage ρ) :
    drawn (e.advance thread c s).deeds = [] ∧ (e.advance thread c s).commons.blocks = c.blocks ∨
      drawn (e.advance thread c s).deeds = [⟨c.blocks⟩] ∧
        (e.advance thread c s).commons.blocks = c.blocks + 1 := by
  have hb := (e.draws_advance thread c s).blocks_eq
  rcases (e.does_advance thread c s).drawn_cases with hnil | ⟨plan, rfl⟩
  · rw [drawn_effects] at hnil
    rw [names_eq_length, hnil] at hb
    exact .inl ⟨hnil, hb⟩
  · exact .inr ⟨rfl, rfl⟩

end Engine

end DeviceMemory
