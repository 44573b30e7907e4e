import DeviceMemory.Proofs.Engine.Effects

/-!
# The course of a call

Which stage a call is in and what it has done so far determine one another up to the
answers of the backend and of the ledger. `Course` lists every case, and later proofs about whole calls split
on it in place of the steps themselves.

## The model

* A course depends on what is fixed about the engine (`Nature`), and on the request to the backend that the call
  leads to on such an engine (`Nature.order?`).
* `Achieves` is what a call has done by the time when it can only succeed.
* `Course` adds the ways to get there, the ways to fail, and the logging at the end.
* `Engine.Covers` is the one condition: an engine that is about to debit the bytes of a block of its
  own has them in use. It is not a property of a single call but of all of them together.

## What is proved

`Course.advance`: a step of a call follows the course of the call.
-/

namespace DeviceMemory

variable {β ρ : Type}

/-! ### The cases -/

/-- What a call has done when its block is known and needs an id. -/
inductive Prepares (n : Nature) : Call ρ → Plan ρ → List (Deed ρ) → Prop
  /-- The backend gave memory and its bytes were credited. -/
  | allocated {call : Call ρ} {r : Request} {resource : ρ} (ho : n.order? call = some r) :
    Prepares n call (r.plan resource) [.asked r (.ok resource), .credited (r.plan resource)]
  /-- The handle can be imported. -/
  | imported {layout : Layout} {handle : SharedHandle} {size : Nat} (ha : handle.admit layout = .ok size) :
    Prepares n (.share layout handle) ⟨layout, size, .imported handle⟩ []
  /-- The pointer can be attached. -/
  | attached {layout : Layout} {raw : Nat} {handle : Handle} {size : Nat}
    (ha : admitPointer raw layout = .ok (handle, size)) :
    Prepares n (.attach layout raw) ⟨layout, size, .attached handle⟩ []

/-- What a call has done when it can only succeed: the event to be logged and its block, what has to
be given back to the backend, and the reply. -/
inductive Achieves (n : Nature) :
    Call ρ → Event → Block ρ → Option (Holding ρ) → Reply ρ → List (Deed ρ) → Prop
  /-- A block was made in memory of the backend. -/
  | allocated {call : Call ρ} {b : Block ρ} {r : Request} {resource : ρ} (ho : n.order? call = some r)
    (hp : b.plan = r.plan resource) (he : b.engine = n.id) :
    Achieves n call .allocated b none (.made b) [.asked r (.ok resource), .credited b.plan, .named b.id]
  /-- A block was made for a resource of others. -/
  | imported {layout : Layout} {handle : SharedHandle} {b : Block ρ} (ha : handle.admit layout = .ok b.size)
    (hp : b.plan = ⟨layout, b.size, .imported handle⟩) (he : b.engine = n.id) :
    Achieves n (.share layout handle) .imported b none (.made b) [.named b.id, .credited b.plan]
  /-- A block was made at an address of the caller. -/
  | attached {layout : Layout} {raw : Nat} {handle : Handle} {b : Block ρ}
    (ha : admitPointer raw layout = .ok (handle, b.size))
    (hp : b.plan = ⟨layout, b.size, .attached handle⟩) (he : b.engine = n.id) :
    Achieves n (.attach layout raw) .imported b none (.made b) [.named b.id]
  /-- A block was taken off the books. -/
  | freed {b : Block ρ} {release : Option (Holding ρ)} (he : b.engine = n.id) (hr : release = b.holding?) :
    Achieves n (.free b) .freed b release .freed (if b.plan.account?.isSome then [.debited b] else [])

/-- An entry tells an event of a block; whose stream gave the block back, and what the statistics are,
is left open. -/
def Entry.Tells (entry : Entry) (event : Event) (b : Block ρ) : Prop :=
  ∃ freedFrom statistics, entry = { Engine.entryOf event b freedFrom with statistics := statistics }

/-- What an engine writes to its log about an event: one entry, or nothing if it does not log. -/
inductive Nature.Logs (n : Nature) (event : Event) (b : Block ρ) : List (Deed ρ) → Prop
  /-- The engine does not log. -/
  | disabled (hd : n.detail = .disabled) : Logs n event b []
  /-- The engine logs. -/
  | logged {entry : Entry} (hd : n.detail ≠ .disabled) (ht : entry.Tells event b) :
    Logs n event b [.logged entry]

/-- **The course of a call**: the stages it comes to, each with what it has done by then. -/
inductive Course (n : Nature) : Call ρ → Stage ρ → List (Deed ρ) → Prop
  /-- The call begins. -/
  | opening {call : Call ρ} : Course n call (.opening call) []
  /-- The call is declined at once. -/
  | declined {call : Call ρ} {f : Failure} (ho : n.order? call = none)
    (hf : ∀ b, call = .free b → b.engine ≠ n.id) : Course n call (.closing none (.failed f)) []
  /-- The backend is to be asked. -/
  | requesting {call : Call ρ} {r : Request} (ho : n.order? call = some r) : Course n call (.requesting r) []
  /-- The backend refused. -/
  | denied {call : Call ρ} {r : Request} {err : BackendError} {f : Failure} (ho : n.order? call = some r) :
    Course n call (.closing none (.failed f)) [.asked r (.error err)]
  /-- The backend gave memory. -/
  | crediting {call : Call ρ} {r : Request} {resource : ρ} (ho : n.order? call = some r) :
    Course n call (.crediting r resource) [.asked r (.ok resource)]
  /-- The ledger refused the bytes of that memory. -/
  | overdrawn {call : Call ρ} {r : Request} {resource : ρ} {f : Failure} (ho : n.order? call = some r) :
    Course n call (.closing (some (r.holding resource)) (.failed f))
      [.asked r (.ok resource), .refused (r.plan resource)]
  /-- The memory whose bytes were refused was given back. -/
  | returned {call : Call ρ} {r : Request} {resource : ρ} {f : Failure} (ho : n.order? call = some r) :
    Course n call (.closing none (.failed f))
      [.asked r (.ok resource), .refused (r.plan resource), .released (r.holding resource)]
  /-- A block needs an id. -/
  | naming {call : Call ρ} {plan : Plan ρ} {ds : List (Deed ρ)} (hp : Prepares n call plan ds) :
    Course n call (.naming plan) ds
  /-- A block needs a stream. -/
  | placing {call : Call ρ} {plan : Plan ρ} {id : BlockId} {ds : List (Deed ρ)}
    (hp : Prepares n call plan ds) : Course n call (.placing plan id) (ds ++ [.named id])
  /-- The bytes of an imported block have to be credited. -/
  | enrolling {layout : Layout} {handle : SharedHandle} {b : Block ρ} (ha : handle.admit layout = .ok b.size)
    (hp : b.plan = ⟨layout, b.size, .imported handle⟩) (he : b.engine = n.id) :
    Course n (.share layout handle) (.enrolling b handle) [.named b.id]
  /-- The ledger refused the bytes of an imported block. -/
  | unenrolled {layout : Layout} {handle : SharedHandle} {b : Block ρ} {f : Failure}
    (hp : b.plan = ⟨layout, b.size, .imported handle⟩) :
    Course n (.share layout handle) (.closing none (.failed f)) [.named b.id, .refused b.plan]
  /-- The bytes of a block of the engine's own have to be debited. -/
  | settling {b : Block ρ} (he : b.engine = n.id) : Course n (.free b) (.settling b) []
  /-- The log has to tell which stream gives the block back. -/
  | tracing {call : Call ρ} {b : Block ρ} {reply : Reply ρ} {ds : List (Deed ρ)}
    (ha : Achieves n call .freed b b.holding? reply ds) : Course n call (.tracing b reply) ds
  /-- The statistics have to be read. -/
  | surveying {call : Call ρ} {event : Event} {b : Block ρ} {entry : Entry} {release : Option (Holding ρ)}
    {reply : Reply ρ} {ds : List (Deed ρ)} (ha : Achieves n call event b release reply ds)
    (hd : n.detail ≠ .disabled) (ht : entry.Tells event b) : Course n call (.surveying entry release reply) ds
  /-- The entry has to be written. -/
  | writing {call : Call ρ} {event : Event} {b : Block ρ} {entry : Entry} {release : Option (Holding ρ)}
    {reply : Reply ρ} {ds : List (Deed ρ)} (ha : Achieves n call event b release reply ds)
    (hd : n.detail ≠ .disabled) (ht : entry.Tells event b) : Course n call (.writing entry release reply) ds
  /-- The call has succeeded; memory may have to be given back. -/
  | concluded {call : Call ρ} {event : Event} {b : Block ρ} {release : Option (Holding ρ)} {reply : Reply ρ}
    {ds log : List (Deed ρ)} (ha : Achieves n call event b release reply ds) (hl : n.Logs event b log) :
    Course n call (.closing release reply) (ds ++ log)
  /-- The call has succeeded and memory was given back. -/
  | released {call : Call ρ} {event : Event} {b : Block ρ} {holding : Holding ρ} {reply : Reply ρ}
    {ds log : List (Deed ρ)} (ha : Achieves n call event b (some holding) reply ds)
    (hl : n.Logs event b log) : Course n call (.closing none reply) (ds ++ log ++ [.released holding])

theorem Achieves.engine_eq {n : Nature} {call : Call ρ} {event : Event} {b : Block ρ}
    {release : Option (Holding ρ)} {reply : Reply ρ} {ds : List (Deed ρ)}
    (h : Achieves n call event b release reply ds) : b.engine = n.id := by
  cases h <;> assumption

/-- A block that a call made is one of the engine. -/
theorem Course.engine_of_made {n : Nature} {call : Call ρ} {b : Block ρ} {ds : List (Deed ρ)}
    (h : Course n call (.closing none (.made b)) ds) : b.engine = n.id := by
  cases h with
  | concluded ha hl =>
    cases ha <;> assumption
  | released ha hl => cases ha

/-- A block that is given back to the engine that made it is taken back. -/
theorem Course.reply_of_free {n : Nature} {b : Block ρ} {reply : Reply ρ} {ds : List (Deed ρ)}
    (h : Course n (.free b) (.closing none reply) ds) (hb : b.engine = n.id) : reply = .freed := by
  cases h with
  | declined ho hf => exact absurd hb (hf b rfl)
  | denied ho => cases ho
  | returned ho => cases ho
  | concluded ha hl =>
    cases ha with
    | allocated ho hp he => cases ho
    | freed he hr => rfl
  | released ha hl =>
    cases ha with
    | freed he hr => rfl

/-! ### Parts of steps -/

/-- What remains of a call and what it did in the last step follow the course of the call. -/
def Progress.Follows (p : Progress β ρ) (n : Nature) (call : Call ρ) (done : List (Deed ρ)) : Prop :=
  Course n call p.stage (done ++ Deed.effects p.deeds)

theorem Progress.follows_of_silent {p : Progress β ρ} {n : Nature} {call : Call ρ} {done : List (Deed ρ)}
    (h : Course n call p.stage done) (hd : Deed.effects p.deeds = []) : p.Follows n call done := by
  rw [Progress.Follows, hd, List.append_nil]
  exact h

namespace Engine

/-- An engine that is about to debit the bytes of a block of its own has them in use. -/
def Covers (e : Engine β) (s : Stage ρ) : Prop :=
  ∀ b, (s = .opening (.free b) ∧ b.engine = e.id) ∨ s = .settling b →
    ∀ a, b.plan.account? = some a → (e.ledger.get? a).isSome ∧ b.size ≤ e.ledger.current a

variable {e : Engine β} {call : Call ρ} {ds : List (Deed ρ)}

/-- A call that can only succeed goes on to log its event, as far as the engine logs. -/
theorem course_announce {event : Event} {b : Block ρ} {freedFrom : Option Stream}
    {release : Option (Holding ρ)} {reply : Reply ρ} (ha : Achieves e.nature call event b release reply ds) :
    Course e.nature call (e.announce (entryOf event b freedFrom) release reply) ds := by
  have ht : (entryOf event b freedFrom).Tells event b := ⟨freedFrom, [], rfl⟩
  unfold announce
  cases hd : e.detail with
  | disabled => simpa using Course.concluded ha (.disabled hd)
  | basic => exact .writing ha (by simp [nature, hd]) ht
  | full => exact .surveying ha (by simp [nature, hd]) ht

theorem course_takeBack {b : Block ρ} {reply : Reply ρ}
    (ha : Achieves e.nature call .freed b b.holding? reply ds) :
    Course e.nature call (e.takeBack b reply) ds := by
  unfold takeBack
  by_cases hl : e.isLogging
  · rw [if_pos hl]
    exact .tracing ha
  · rw [if_neg hl]
    have hd : e.nature.detail = .disabled := by simpa [isLogging, nature] using hl
    simpa using Course.concluded ha (.disabled hd)

end Engine

/-! ### The steps of a call -/

variable [Backend β ρ]

theorem Engine.Does.nature_eq {e e' : Engine β} {s : Stage ρ} {ds : List (Deed ρ)} (h : e.Does s e' ds) :
    e'.nature = e.nature := by
  cases h <;> rfl

/-- A step changes nothing that is fixed about the engine. -/
theorem Engine.nature_advance (thread : ThreadId) (e : Engine β) (c : Commons) (s : Stage ρ) :
    (e.advance thread c s).engine.nature = e.nature :=
  (e.does_advance thread c s).nature_eq

/-- A block that is refused is another engine's. -/
theorem Nature.engine_ne_of_refusal? {n : Nature} {call : Call ρ} {cause : Cause} (h : n.refusal? call = some cause)
    (b : Block ρ) (hb : call = .free b) : b.engine ≠ n.id := by
  subst hb
  intro he
  rw [refusal?, if_pos he] at h
  cases h

open Engine in
theorem Engine.Advances.follows {thread : ThreadId} {e : Engine β} {c : Commons} {call : Call ρ} {s : Stage ρ}
    {done : List (Deed ρ)} {p : Progress β ρ} (h : e.Advances thread c s p) (hs : Course e.nature call s done)
    (hc : e.Covers s) : p.Follows e.nature call done := by
  cases h with
  | refused hr ho =>
    cases hs
    exact Progress.follows_of_silent (.declined ho fun b hb => e.nature.engine_ne_of_refusal? hr b hb) (by simp)
  | ordered ho =>
    cases hs
    exact Progress.follows_of_silent (.requesting ho) (by simp)
  | imported ha =>
    cases hs
    exact Progress.follows_of_silent (.naming (.imported ha)) (by simp)
  | attached ha =>
    cases hs
    exact Progress.follows_of_silent (.naming (.attached ha)) (by simp)
  | owned hb =>
    cases hs
    exact Progress.follows_of_silent (.settling hb) (by simp)
  | denied =>
    cases hs with
    | requesting ho => exact .denied ho
  | granted =>
    cases hs with
    | requesting ho => exact .crediting ho
  | overdrawn =>
    cases hs with
    | crediting ho => exact .overdrawn ho
  | credited =>
    cases hs with
    | crediting ho => exact .naming (.allocated ho)
  | named =>
    cases hs with
    | naming hp => exact .placing hp
  | placed ho =>
    cases hs with
    | placing hp =>
      cases hp with
      | allocated hr => exact Progress.follows_of_silent (course_announce (.allocated hr rfl rfl)) rfl
      | imported | attached => cases ho
  | placedShared ho =>
    cases hs with
    | placing hp =>
      cases hp with
      | imported ha =>
        cases ho
        exact Progress.follows_of_silent (.enrolling ha rfl rfl) rfl
      | allocated | attached => cases ho
  | placedOutside ho =>
    cases hs with
    | placing hp =>
      cases hp with
      | attached ha => exact Progress.follows_of_silent (course_announce (.attached ha rfl rfl)) rfl
      | allocated | imported => cases ho
  | unenrolled =>
    cases hs with
    | enrolling ha hp he => exact .unenrolled hp
  | enrolled =>
    cases hs with
    | enrolling ha hp he => exact course_announce (.imported ha hp he)
  | uncounted hb =>
    cases hs with
    | settling he => exact course_takeBack (by simpa [hb] using Achieves.freed he rfl)
  | @undebited b a _ _ hb h =>
    -- the bytes are in use, so the ledger cannot refuse to debit them
    obtain ⟨hs, hle⟩ := hc b (.inr rfl) a hb
    obtain ⟨_, hg⟩ := Option.isSome_iff_exists.mp hs
    rw [Ledger.debit_of_le hg hle] at h
    cases h
  | debited hb =>
    cases hs with
    | settling he => exact course_takeBack (by simpa [hb] using Achieves.freed he rfl)
  | traced =>
    cases hs with
    | tracing ha => exact Progress.follows_of_silent (course_announce ha) rfl
  | surveyed =>
    cases hs with
    | surveying ha hd ht =>
      obtain ⟨freedFrom, statistics, rfl⟩ := ht
      exact Progress.follows_of_silent (.writing ha hd ⟨freedFrom, e.ledger.snapshot, rfl⟩) rfl
  | logged =>
    cases hs with
    | writing ha hd ht =>
      rw [Progress.Follows]
      simpa using Course.concluded ha (.logged hd ht)
  | released =>
    cases hs with
    | overdrawn ho => exact .returned ho
    | concluded ha hl => exact .released ha hl
  | closed => exact Progress.follows_of_silent hs rfl

/-- **A step of a call follows its course.** -/
theorem Course.advance (thread : ThreadId) {e : Engine β} (c : Commons) {call : Call ρ} {s : Stage ρ}
    {done : List (Deed ρ)} (h : Course e.nature call s done) (hc : e.Covers s) :
    (e.advance thread c s).Follows e.nature call done :=
  (e.advances thread c s).follows h hc

end DeviceMemory
