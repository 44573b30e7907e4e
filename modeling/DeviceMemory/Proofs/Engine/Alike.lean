import DeviceMemory.Proofs.Engine.Service

/-!
# Calls that differ in numbers only

The ids of engines and blocks and the numbers of streams come from counters that all engines share, so a
call gives other numbers when other engines are called too. Here two steps are compared that differ in
such numbers, in the log, and in whatever else the engines share but for one fact: whether stacks are
recorded. Such steps do the same to the ledger and to the backend, and go on alike
(`Engine.alike_advance`).
-/

namespace DeviceMemory

variable {β ρ : Type}

/-! ### Being alike -/

/-- Whether stacks are recorded, be it decided or not. -/
def Commons.wanted (c : Commons) : Bool := c.recording.getD (wantsStacks c.environment)

/-- Two engines that differ in their ids and in their log only. -/
structure Engine.Alike (e e' : Engine β) : Prop where
  /-- They serve memory on the same device, -/
  device_eq : e.device = e'.device
  /-- of which the same is available, -/
  availability_eq : e.availability = e'.availability
  /-- and log as much. -/
  detail_eq : e.detail = e'.detail
  /-- The same bytes are in use, -/
  ledger_eq : e.ledger = e'.ledger
  /-- and their backends have done the same. -/
  backend_eq : e.backend = e'.backend

/-- Two blocks that differ in their numbers only, the one of an engine and the other of another. -/
structure Block.Alike (id id' : EngineId) (b b' : Block ρ) : Prop where
  /-- They are the same apart from their numbers. -/
  plan_eq : b.plan = b'.plan
  /-- The one is of the one engine, -/
  engine_eq : b.engine = id
  /-- and the other of the other. -/
  engine_eq' : b'.engine = id'

/-- Two calls that ask for the same, each of its own engine. -/
inductive Call.Alike (id id' : EngineId) : Call ρ → Call ρ → Prop
  /-- They make a block, if they can. -/
  | same {call : Call ρ} (h : ∀ b, call ≠ .free b) : Alike id id' call call
  /-- They give a block back. -/
  | free {b b' : Block ρ} (h : b.Alike id id' b') : Alike id id' (.free b) (.free b')

/-- Two replies that say the same. -/
inductive Reply.Alike (id id' : EngineId) : Reply ρ → Reply ρ → Prop
  /-- A block was made. -/
  | made {b b' : Block ρ} (h : b.Alike id id' b') : Alike id id' (.made b) (.made b')
  /-- A block was taken back. -/
  | freed : Alike id id' .freed .freed
  /-- The calls failed, for one cause. -/
  | failed (f : Failure) : Alike id id' (.failed f) (.failed f)

/-- Two calls of which the same remains to be done. -/
inductive Stage.Alike (id id' : EngineId) : Stage ρ → Stage ρ → Prop
  /-- Everything. -/
  | opening {call call' : Call ρ} (h : call.Alike id id' call') : Alike id id' (.opening call) (.opening call')
  /-- The backend has to be asked. -/
  | requesting (r : Request) : Alike id id' (.requesting r) (.requesting r)
  /-- Bytes have to be credited. -/
  | crediting (r : Request) (resource : ρ) : Alike id id' (.crediting r resource) (.crediting r resource)
  /-- A block needs an id. -/
  | naming (plan : Plan ρ) : Alike id id' (.naming plan) (.naming plan)
  /-- A block needs a stream; its id may be another. -/
  | placing (plan : Plan ρ) (name name' : BlockId) : Alike id id' (.placing plan name) (.placing plan name')
  /-- The bytes of an imported block have to be credited. -/
  | enrolling {b b' : Block ρ} (h : b.Alike id id' b') (handle : SharedHandle) :
    Alike id id' (.enrolling b handle) (.enrolling b' handle)
  /-- The bytes of a block have to be debited. -/
  | settling {b b' : Block ρ} (h : b.Alike id id' b') : Alike id id' (.settling b) (.settling b')
  /-- The log has to tell which stream gives a block back. -/
  | tracing {b b' : Block ρ} {reply reply' : Reply ρ} (h : b.Alike id id' b') (hr : reply.Alike id id' reply') :
    Alike id id' (.tracing b reply) (.tracing b' reply')
  /-- The statistics have to be read; the entries may be others. -/
  | surveying {entry entry' : Entry} {release : Option (Holding ρ)} {reply reply' : Reply ρ}
    (hr : reply.Alike id id' reply') : Alike id id' (.surveying entry release reply) (.surveying entry' release reply')
  /-- An entry has to be written. -/
  | writing {entry entry' : Entry} {release : Option (Holding ρ)} {reply reply' : Reply ρ}
    (hr : reply.Alike id id' reply') : Alike id id' (.writing entry release reply) (.writing entry' release reply')
  /-- Memory has to be given back to the backend. -/
  | closing {release : Option (Holding ρ)} {reply reply' : Reply ρ} (hr : reply.Alike id id' reply') :
    Alike id id' (.closing release reply) (.closing release reply')

/-- Two steps that did the same and left the same to be done. -/
structure Progress.Alike (id id' : EngineId) (p p' : Progress β ρ) : Prop where
  /-- The engines are alike again. -/
  engine : p.engine.Alike p'.engine
  /-- The same remains to be done. -/
  stage : p.stage.Alike id id' p'.stage
  /-- The backends were called alike. -/
  calls_eq : Deed.backendCalls p.deeds = Deed.backendCalls p'.deeds

variable {id id' : EngineId}

theorem Block.Alike.holding?_eq {b b' : Block ρ} (h : b.Alike id id' b') : b.holding? = b'.holding? :=
  congrArg Plan.holding? h.plan_eq

/-! ### Whether stacks are recorded -/

@[simp] theorem Commons.wanted_streamOf (c : Commons) (thread : ThreadId) :
    (c.streamOf thread).2.wanted = c.wanted := by
  unfold streamOf
  split <;> rfl

theorem Commons.wanted_traced (c : Commons) (cause : Cause) : (c.traced cause).2.wanted = c.wanted := by
  unfold traced
  split <;> rfl

theorem Commons.capture_fst_congr {c c' : Commons} (h : c.wanted = c'.wanted) : c.capture.1 = c'.capture.1 := by
  have hc (c : Commons) : c.capture.1 = if c.wanted then .recorded else .absent := rfl
  rw [hc, hc, h]

theorem Commons.traced_fst_congr {c c' : Commons} (h : c.wanted = c'.wanted) (cause : Cause) :
    (c.traced cause).1 = (c'.traced cause).1 := by
  unfold traced
  split
  · exact capture_fst_congr h
  · rfl

namespace Engine

theorem Advances.wanted_eq [Backend β ρ] {thread : ThreadId} {e : Engine β} {c : Commons} {s : Stage ρ}
    {p : Progress β ρ} (h : e.Advances thread c s p) : p.commons.wanted = c.wanted := by
  cases h with
  | refused => exact c.wanted_traced _
  | placed | placedShared | placedOutside | traced => exact c.wanted_streamOf thread
  | _ => rfl

/-- No step of any call changes whether stacks are recorded. -/
theorem wanted_advance [Backend β ρ] (thread : ThreadId) (e : Engine β) (c : Commons) (s : Stage ρ) :
    (e.advance thread c s).commons.wanted = c.wanted :=
  (e.advances thread c s).wanted_eq

/-! ### Steps that are alike -/

variable {e e' : Engine β} {c c' : Commons}

theorem Alike.with_ledger (h : e.Alike e') (ledger : Ledger) :
    Engine.Alike { e with ledger } { e' with ledger } :=
  { h with ledger_eq := rfl }

theorem Alike.with_backend (h : e.Alike e') (backend : β) :
    Engine.Alike { e with backend } { e' with backend } :=
  { h with backend_eq := rfl }

theorem alike_fail (he : e.Alike e') (hc : c.wanted = c'.wanted) (release : Option (Holding ρ)) (cause : Cause)
    {deeds deeds' : List (Deed ρ)} (hd : Deed.backendCalls deeds = Deed.backendCalls deeds') :
    (e.fail c release cause deeds).Alike id id' (e'.fail c' release cause deeds') := by
  rw [fail_eq, fail_eq, c.traced_fst_congr hc]
  exact ⟨he, .closing (.failed _), hd⟩

/-- Calls that are alike are decided alike. -/
theorem alike_begin (he : e.Alike e') (hc : c.wanted = c'.wanted) (hid : e.id = id) (hid' : e'.id = id')
    {call call' : Call ρ} (h : call.Alike id id' call') : (e.begin c call).Alike id id' (e'.begin c' call') := by
  cases h with
  | @free b b' h =>
    simp only [begin]
    rw [if_pos (h.engine_eq.trans hid.symm), if_pos (h.engine_eq'.trans hid'.symm)]
    exact ⟨he, .settling h, rfl⟩
  | same h =>
    obtain ⟨rs, hbegin⟩ := e.exists_begin_eq c call
    obtain ⟨rs', hbegin'⟩ := e'.exists_begin_eq c' call
    have hcalls : Deed.backendCalls (Deed.records (ρ := ρ) rs) = Deed.backendCalls (Deed.records rs') := by simp
    have hdecides := e.nature.decides call
    have hsame : e.nature.decision call = e'.nature.decision call :=
      Nature.decision_congr he.device_eq he.availability_eq h
    rw [hbegin, hbegin', ← hsame]
    generalize e.nature.decision call = decision at hdecides
    cases hdecides with
    | refused => exact alike_fail he hc none _ hcalls
    | ordered => exact ⟨he, .requesting _, hcalls⟩
    | imported | attached => exact ⟨he, .naming _, hcalls⟩
    | owned => exact absurd rfl (h _)

theorem alike_announce (he : e.Alike e') (entry entry' : Entry) (release : Option (Holding ρ))
    {reply reply' : Reply ρ} (h : reply.Alike id id' reply') :
    (e.announce entry release reply).Alike id id' (e'.announce entry' release reply') := by
  unfold announce
  rw [← he.detail_eq]
  split
  · exact .closing h
  · exact .writing h
  · exact .surveying h

theorem alike_takeBack (he : e.Alike e') {b b' : Block ρ} {reply reply' : Reply ρ} (hb : b.Alike id id' b')
    (h : reply.Alike id id' reply') : (e.takeBack b reply).Alike id id' (e'.takeBack b' reply') := by
  have hlogging : e'.isLogging = e.isLogging := by rw [isLogging, isLogging, he.detail_eq]
  unfold takeBack
  rw [hlogging, hb.holding?_eq]
  split
  · exact .tracing hb h
  · exact .closing h

variable [Backend β ρ]

/-- **Steps of calls that are alike are alike**: they do the same to the ledger and to the backend, and leave
the same to be done. -/
theorem alike_advance (thread : ThreadId) (he : e.Alike e') (hc : c.wanted = c'.wanted) (hid : e.id = id)
    (hid' : e'.id = id') {s s' : Stage ρ} (hs : s.Alike id id' s') :
    (e.advance thread c s).Alike id id' (e'.advance thread c' s') := by
  cases hs with
  | opening h => exact alike_begin he hc hid hid' h
  | requesting r =>
    simp only [advance]
    rw [← he.backend_eq]
    split
    · exact alike_fail (he.with_backend _) hc none _ rfl
    · exact ⟨he.with_backend _, .crediting _ _, rfl⟩
  | crediting r resource =>
    simp only [advance]
    rw [← he.ledger_eq]
    split
    · exact alike_fail (he.with_ledger _) hc _ _ rfl
    · exact ⟨he.with_ledger _, .naming _, rfl⟩
  | naming plan => exact ⟨he, .placing plan _ _, rfl⟩
  | placing plan name name' =>
    have hb (stream stream' : Stream) : Block.Alike id id' (⟨name, e.id, stream, plan.layout, plan.size, plan.origin⟩)
        ⟨name', e'.id, stream', plan.layout, plan.size, plan.origin⟩ := ⟨rfl, hid, hid'⟩
    simp only [advance]
    split
    · exact ⟨he, alike_announce he _ _ _ (.made (hb _ _)), rfl⟩
    · exact ⟨he, .enrolling (hb _ _) _, rfl⟩
    · exact ⟨he, alike_announce he _ _ _ (.made (hb _ _)), rfl⟩
  | @enrolling b b' h handle =>
    have hsize : b'.size = b.size := (congrArg Plan.size h.plan_eq).symm
    simp only [advance]
    rw [← he.ledger_eq, hsize]
    split
    · exact alike_fail (he.with_ledger _) hc none _ rfl
    · exact ⟨he.with_ledger _, alike_announce (he.with_ledger _) _ _ _ (.made h), rfl⟩
  | @settling b b' h =>
    have hsize : b'.size = b.size := (congrArg Plan.size h.plan_eq).symm
    simp only [advance]
    rw [← he.ledger_eq, hsize, ← h.plan_eq]
    split
    · exact ⟨he, alike_takeBack he h .freed, rfl⟩
    · split
      · refine ⟨he.with_ledger _, ?_, rfl⟩
        rw [← c.capture_fst_congr hc]
        exact alike_takeBack he h (.failed _)
      · exact ⟨he.with_ledger _, alike_takeBack he h .freed, rfl⟩
  | tracing h hr =>
    simp only [advance]
    rw [h.holding?_eq]
    exact ⟨he, alike_announce he _ _ _ hr, rfl⟩
  | surveying hr => exact ⟨he, .writing hr, rfl⟩
  | writing hr =>
    refine ⟨{ he with }, .closing hr, ?_⟩
    exact (Deed.backendCalls_said _).trans (Deed.backendCalls_said _).symm
  | @closing release reply reply' hr =>
    cases release with
    | none => exact ⟨he, .closing hr, rfl⟩
    | some holding =>
      refine ⟨?_, .closing hr, rfl⟩
      simp only [advance]
      rw [← he.backend_eq]
      exact he.with_backend _

end Engine

end DeviceMemory
