import DeviceMemory.Engine.Call

/-!
# What is fixed about an engine

What the first step of a call decides depends on the call and on what is fixed about the engine alone
(`Engine.exists_begin_eq`): the call is refused for a cause (`Nature.refusal?`), it asks the backend for memory
(`Nature.order?`), or it goes on with a block that is known already. There are no other cases
(`Nature.decides`).
-/

namespace DeviceMemory

variable {β ρ : Type}

/-- What is fixed about an engine when it is made. -/
structure Nature where
  /-- The id. -/
  id : EngineId
  /-- The device. -/
  device : Device
  /-- What can be requested on the device. -/
  availability : Availability
  /-- How much of each event is logged. -/
  detail : LogDetail

/-- The nature of an engine. -/
def Engine.nature (e : Engine β) : Nature := ⟨e.id, e.device, e.availability, e.detail⟩

/-! ### Requests and refusals -/

/-- The cause for which memory with a layout is refused, if it is. -/
def Layout.refusal? (l : Layout) : Option Cause :=
  match l.byteSize? with
  | none => some (.layoutTooLarge l)
  | some _ => none

namespace Nature

/-- The request for the placement that a policy chooses, if it chooses one and the size of the layout
is a machine word. -/
def orderBy? (n : Nature) (policy : Policy) (layout : Layout) (zeroed : Bool) : Option Request :=
  match policy.choose layout.isImage n.availability n.device.defaultPlacement with
  | .ok p => Request.ofLayout? layout p zeroed
  | .error _ => none

/-- The request to the backend that a call leads to, if it passes all checks that come before. -/
def order? (n : Nature) : Call ρ → Option Request
  | .allocate layout zeroed => n.orderBy? .general layout zeroed
  | .allocateLockable layout => n.orderBy? .lockable layout false
  | .allocateAs layout p zeroed =>
    if n.availability.lockable p then Request.ofLayout? layout p zeroed else none
  | .share _ _ | .attach _ _ | .free _ => none

/-- The cause for which memory is refused whose placement is left to a policy, if it is. -/
def refusalBy? (n : Nature) (policy : Policy) (layout : Layout) : Option Cause :=
  match policy.choose layout.isImage n.availability n.device.defaultPlacement with
  | .error err => some (.policy err)
  | .ok _ => layout.refusal?

/-- The cause for which a call is refused at once, if it is. -/
def refusal? (n : Nature) : Call ρ → Option Cause
  | .allocate layout _ => n.refusalBy? .general layout
  | .allocateLockable layout => n.refusalBy? .lockable layout
  | .allocateAs layout p _ =>
    if n.availability.lockable p then layout.refusal? else some (.unsupported p n.device.name)
  | .share layout handle =>
    match handle.admit layout with
    | .error err => some (.importing err)
    | .ok _ => none
  | .attach layout raw =>
    match admitPointer raw layout with
    | .error err => some (.importing err)
    | .ok _ => none
  | .free b => if b.engine = n.id then none else some (.foreignBlock b.id b.engine n.id)

/-! ### Decisions -/

/-- The stage in which a call goes on that asks for memory, or why it is refused. -/
def decisionFor (layout : Layout) (p : Placement) (zeroed : Bool) : Except Cause (Stage ρ) :=
  match Request.ofLayout? layout p zeroed with
  | none => .error (.layoutTooLarge layout)
  | some r => .ok (.requesting r)

/-- The same where the placement is left to a policy. -/
def decisionBy (n : Nature) (policy : Policy) (layout : Layout) (zeroed : Bool) : Except Cause (Stage ρ) :=
  match policy.choose layout.isImage n.availability n.device.defaultPlacement with
  | .error err => .error (.policy err)
  | .ok p => decisionFor layout p zeroed

/-- **The stage in which a call goes on** after its first step, or why it is refused. -/
def decision (n : Nature) : Call ρ → Except Cause (Stage ρ)
  | .allocate layout zeroed => n.decisionBy .general layout zeroed
  | .allocateLockable layout => n.decisionBy .lockable layout false
  | .allocateAs layout p zeroed =>
    if n.availability.lockable p then decisionFor layout p zeroed else .error (.unsupported p n.device.name)
  | .share layout handle =>
    match handle.admit layout with
    | .error err => .error (.importing err)
    | .ok size => .ok (.naming ⟨layout, size, .imported handle⟩)
  | .attach layout raw =>
    match admitPointer raw layout with
    | .error err => .error (.importing err)
    | .ok (handle, size) => .ok (.naming ⟨layout, size, .attached handle⟩)
  | .free b =>
    if b.engine = n.id then .ok (.settling b) else .error (.foreignBlock b.id b.engine n.id)

/-- The cases of a decision. -/
inductive Decides (n : Nature) : Call ρ → Except Cause (Stage ρ) → Prop
  /-- The call is refused. -/
  | refused {call : Call ρ} {cause : Cause} (h : n.refusal? call = some cause) (ho : n.order? call = none) :
    Decides n call (.error cause)
  /-- The backend is to be asked. -/
  | ordered {call : Call ρ} {r : Request} (ho : n.order? call = some r) : Decides n call (.ok (.requesting r))
  /-- The handle can be imported. -/
  | imported {layout : Layout} {handle : SharedHandle} {size : Nat} (ha : handle.admit layout = .ok size) :
    Decides n (.share layout handle) (.ok (.naming ⟨layout, size, .imported handle⟩))
  /-- The pointer can be attached. -/
  | attached {layout : Layout} {raw : Nat} {handle : Handle} {size : Nat}
    (ha : admitPointer raw layout = .ok (handle, size)) :
    Decides n (.attach layout raw) (.ok (.naming ⟨layout, size, .attached handle⟩))
  /-- The block is one of the engine's own. -/
  | owned {b : Block ρ} (hb : b.engine = n.id) : Decides n (.free b) (.ok (.settling b))

theorem ofLayout?_eq_none_iff {layout : Layout} {p : Placement} {zeroed : Bool} :
    Request.ofLayout? layout p zeroed = none ↔ layout.byteSize? = none := by
  unfold Request.ofLayout?
  split <;> simp [*]

/-- A call that asks for memory is refused for the size, or asks the backend. -/
theorem decides_for {n : Nature} {call : Call ρ} {layout : Layout} {p : Placement} {zeroed : Bool}
    (hr : n.refusal? call = layout.refusal?) (ho : n.order? call = Request.ofLayout? layout p zeroed) :
    n.Decides call (decisionFor layout p zeroed) := by
  unfold decisionFor
  cases h : Request.ofLayout? layout p zeroed with
  | none =>
    have hsize := ofLayout?_eq_none_iff.mp h
    exact .refused (by simp [hr, Layout.refusal?, hsize]) (ho.trans h)
  | some r => exact .ordered (ho.trans h)

theorem decides_by {n : Nature} {call : Call ρ} {policy : Policy} {layout : Layout} {zeroed : Bool}
    (hr : n.refusal? call = n.refusalBy? policy layout) (ho : n.order? call = n.orderBy? policy layout zeroed) :
    n.Decides call (n.decisionBy policy layout zeroed) := by
  unfold refusalBy? at hr
  unfold orderBy? at ho
  unfold decisionBy
  cases hp : policy.choose layout.isImage n.availability n.device.defaultPlacement with
  | error err =>
    rw [hp] at hr ho
    exact .refused hr ho
  | ok p =>
    rw [hp] at hr ho
    exact decides_for hr ho

/-- **Every decision is one of these.** -/
theorem decides (n : Nature) (call : Call ρ) : n.Decides call (n.decision call) := by
  cases call with
  | allocate layout zeroed => exact decides_by rfl rfl
  | allocateLockable layout => exact decides_by rfl rfl
  | allocateAs layout p zeroed =>
    by_cases hl : n.availability.lockable p
    · rw [decision, if_pos hl]
      exact decides_for (if_pos hl) (if_pos hl)
    · rw [decision, if_neg hl]
      exact .refused (if_neg hl) (if_neg hl)
  | share layout handle =>
    cases ha : handle.admit layout with
    | error err => simpa [decision, ha] using Decides.refused (by simp [refusal?, ha]) rfl
    | ok size => simpa [decision, ha] using Decides.imported ha
  | attach layout raw =>
    cases ha : admitPointer raw layout with
    | error err => simpa [decision, ha] using Decides.refused (by simp [refusal?, ha]) rfl
    | ok admitted => simpa [decision, ha] using Decides.attached ha
  | free b =>
    by_cases hb : b.engine = n.id
    · rw [decision, if_pos hb]
      exact .owned hb
    · rw [decision, if_neg hb]
      exact .refused (if_neg hb) rfl

/-- Nothing but the device and what is available on it matters for a call that gives no block back. -/
theorem decision_congr {n n' : Nature} (hd : n.device = n'.device) (ha : n.availability = n'.availability)
    {call : Call ρ} (hf : ∀ b, call ≠ .free b) : n.decision call = n'.decision call := by
  cases call with
  | free b => exact absurd rfl (hf b)
  | share | attach => rfl
  | allocate | allocateLockable | allocateAs => simp only [decision, decisionBy, hd, ha]

end Nature

/-! ### First steps -/

/-- Records as deeds. -/
def Deed.records (rs : List Record) : List (Deed ρ) := rs.map fun r => .said (.record r)

namespace Engine

/-- The first step of a call under a decision. -/
def comply (e : Engine β) (c : Commons) (ds : List (Deed ρ)) : Except Cause (Stage ρ) → Progress β ρ
  | .error cause => e.fail c none cause ds
  | .ok s => ⟨e, c, s, ds⟩

theorem request_eq (e : Engine β) (c : Commons) (layout : Layout) (p : Placement) (zeroed : Bool)
    (ds : List (Deed ρ)) : e.request c layout p zeroed ds = e.comply c ds (Nature.decisionFor layout p zeroed) := by
  unfold request Nature.decisionFor
  cases Request.ofLayout? layout p zeroed <;> rfl

theorem exists_requestBy_eq (e : Engine β) (c : Commons) (policy : Policy) (layout : Layout) (zeroed : Bool) :
    ∃ rs, e.requestBy (ρ := ρ) c policy layout zeroed =
      e.comply c (Deed.records rs) (e.nature.decisionBy policy layout zeroed) := by
  have hchoose : policy.choose layout.isImage e.nature.availability e.nature.device.defaultPlacement =
    e.choose policy layout.isImage := rfl
  unfold requestBy Nature.decisionBy
  rw [hchoose]
  cases e.choose policy layout.isImage with
  | error err => exact ⟨[], rfl⟩
  | ok p => exact ⟨[_], e.request_eq ..⟩

/-- **The first step of a call does what is decided**, and leaves nothing but records. -/
theorem exists_begin_eq (e : Engine β) (c : Commons) (call : Call ρ) :
    ∃ rs, e.begin c call = e.comply c (Deed.records rs) (e.nature.decision call) := by
  cases call with
  | allocate layout zeroed => exact e.exists_requestBy_eq ..
  | allocateLockable layout => exact e.exists_requestBy_eq ..
  | allocateAs layout p zeroed =>
    refine ⟨[], ?_⟩
    change _ = e.comply c [] (if e.availability.lockable p then _ else _)
    simp only [begin]
    split
    · exact e.request_eq ..
    · rfl
  | share layout handle =>
    refine ⟨[], ?_⟩
    simp only [begin, Nature.decision]
    cases handle.admit layout <;> rfl
  | attach layout raw =>
    refine ⟨[], ?_⟩
    simp only [begin, Nature.decision]
    cases admitPointer raw layout <;> rfl
  | free b =>
    refine ⟨[], ?_⟩
    change _ = e.comply c [] (if b.engine = e.id then _ else _)
    simp only [begin]
    split <;> rfl

end Engine

end DeviceMemory
