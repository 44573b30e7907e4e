import DeviceMemory.Engine.Reply

/-!
# What a step does

`Engine.Does` lists what a step of a call can do to an engine, each with the condition under which
it does it. It is what is left of `Engine.Advances` when only the engine and the effects count
(`Engine.does_advance`); where the call goes from there is a matter of its course. What every step
preserves of the ledger and the backend is shown by cases on `Engine.Does`.

Texts that leave the process have no effect on an engine and are left out.
-/

namespace DeviceMemory

variable {β ρ : Type}

/-! ### Effects -/

/-- The deeds that are more than a text that left the process. -/
def Deed.effects (ds : List (Deed ρ)) : List (Deed ρ) := ds.filter fun d => d.output?.isNone

namespace Deed

attribute [simp] output?

@[simp] theorem mem_effects {d : Deed ρ} {ds : List (Deed ρ)} :
    d ∈ effects ds ↔ d ∈ ds ∧ d.output? = none := by
  simp [effects]

@[simp] theorem effects_nil : effects ([] : List (Deed ρ)) = [] := rfl

@[simp] theorem effects_append (ds ds' : List (Deed ρ)) : effects (ds ++ ds') = effects ds ++ effects ds' :=
  List.filter_append ..

@[simp] theorem effects_cons (d : Deed ρ) (ds : List (Deed ρ)) :
    effects (d :: ds) = if d.output?.isNone then d :: effects ds else effects ds :=
  List.filter_cons

@[simp] theorem effects_said (out : List Output) : effects (out.map (said (ρ := ρ))) = [] := by
  simp [effects]

@[simp] theorem effects_records (rs : List Record) : effects (records (ρ := ρ) rs) = [] := by
  simp [effects, records]

end Deed

/-! ### Steps -/

variable [Backend β ρ]

/-- **What a step does** to an engine in each stage of a call, and its effects. -/
inductive Engine.Does (e : Engine β) : Stage ρ → Engine β → List (Deed ρ) → Prop
  /-- It decides how the call goes on. -/
  | opened {call : Call ρ} : Does e (.opening call) e []
  /-- It asks the backend. -/
  | asked {r : Request} : Does e (.requesting r) { e with backend := (Backend.allocate e.backend r).2 }
    [.asked r (Backend.allocate e.backend r).1]
  /-- It credits the bytes of memory of the backend. -/
  | credited {r : Request} {resource : ρ} {ledger : Ledger}
    (h : e.ledger.credit (.allocated r.placement) r.size = (.ok (), ledger)) :
    Does e (.crediting r resource) { e with ledger } [.credited (r.plan resource)]
  /-- The ledger refuses them. -/
  | overdrawn {r : Request} {resource : ρ} {err : LedgerError} {ledger : Ledger}
    (h : e.ledger.credit (.allocated r.placement) r.size = (.error err, ledger)) :
    Does e (.crediting r resource) { e with ledger } [.refused (r.plan resource)]
  /-- It draws an id. -/
  | named {plan : Plan ρ} {id : BlockId} : Does e (.naming plan) e [.named id]
  /-- It finds the stream of the thread. -/
  | placed {plan : Plan ρ} {id : BlockId} : Does e (.placing plan id) e []
  /-- It credits the bytes of an imported block. -/
  | enrolled {b : Block ρ} {handle : SharedHandle} {ledger : Ledger}
    (h : e.ledger.credit .imported b.size = (.ok (), ledger)) :
    Does e (.enrolling b handle) { e with ledger } [.credited b.plan]
  /-- The ledger refuses them. -/
  | unenrolled {b : Block ρ} {handle : SharedHandle} {err : LedgerError} {ledger : Ledger}
    (h : e.ledger.credit .imported b.size = (.error err, ledger)) :
    Does e (.enrolling b handle) { e with ledger } [.refused b.plan]
  /-- The bytes of an attached block are not counted. -/
  | uncounted {b : Block ρ} (hb : b.plan.account? = none) : Does e (.settling b) e []
  /-- It debits the bytes of a block. -/
  | debited {b : Block ρ} {a : Account} {ledger : Ledger} (hb : b.plan.account? = some a)
    (h : e.ledger.debit a b.size = (.ok (), ledger)) : Does e (.settling b) { e with ledger } [.debited b]
  /-- The ledger does not have them. -/
  | undebited {b : Block ρ} {a : Account} {err : LedgerError} {ledger : Ledger}
    (hb : b.plan.account? = some a) (h : e.ledger.debit a b.size = (.error err, ledger)) :
    Does e (.settling b) { e with ledger } []
  /-- It finds the stream that gives a block back. -/
  | traced {b : Block ρ} {reply : Reply ρ} : Does e (.tracing b reply) e []
  /-- It reads the statistics. -/
  | surveyed {entry : Entry} {release : Option (Holding ρ)} {reply : Reply ρ} :
    Does e (.surveying entry release reply) e []
  /-- It writes to the log. -/
  | logged {entry : Entry} {release : Option (Holding ρ)} {reply : Reply ρ} {logger : Logger} :
    Does e (.writing entry release reply) { e with logger } [.logged entry]
  /-- It gives memory back to the backend. -/
  | released {holding : Holding ρ} {reply : Reply ρ} : Does e (.closing (some holding) reply)
    { e with backend := Backend.release e.backend holding.resource } [.released holding]
  /-- Nothing is left to be done. -/
  | closed {reply : Reply ρ} : Does e (.closing none reply) e []

theorem Engine.Advances.does {thread : ThreadId} {e : Engine β} {c : Commons} {s : Stage ρ} {p : Progress β ρ}
    (h : e.Advances thread c s p) : e.Does s p.engine (Deed.effects p.deeds) := by
  cases h with
  | refused | ordered | imported | attached | owned =>
    rw [Deed.effects_records]
    exact .opened
  | denied h | granted h => exact h ▸ .asked
  | overdrawn h => exact .overdrawn h
  | credited h => exact .credited h
  | named => exact .named
  | placed | placedShared | placedOutside => exact .placed
  | unenrolled h => exact .unenrolled h
  | enrolled h => exact .enrolled h
  | uncounted hb => exact .uncounted hb
  | undebited hb h => exact .undebited hb h
  | debited hb h => exact .debited hb h
  | traced => exact .traced
  | surveyed => exact .surveyed
  | logged => simpa using Does.logged
  | released => exact .released
  | closed => exact .closed

/-- Steps do nothing else. -/
theorem Engine.does_advance (thread : ThreadId) (e : Engine β) (c : Commons) (s : Stage ρ) :
    e.Does s (e.advance thread c s).engine (Deed.effects (e.advance thread c s).deeds) :=
  (e.advances thread c s).does

end DeviceMemory
