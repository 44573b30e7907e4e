import DeviceMemory.Proofs.Engine.Refusal
import DeviceMemory.Proofs.Engine.Run
import DeviceMemory.Proofs.Layout.Size

/-!
# Memory of others

An engine takes memory that it does not own in two ways: it imports a resource, or it attaches a pointer of
the caller. Each is subject to a few objections, of which the first that applies is reported
(`Call.objections`). The last objection to an import is that the count of imported bytes has no room. It depends
on the ledger at the one step that enters the bytes, and everything before on the call alone.

`Taking` lists the stages of such a call, with what is known of that ledger; every step goes from one of them
to another (`Taking.advance`). When nothing interrupts the call, that ledger is the one that it began with
(`Engine.takes_run`).
-/

namespace DeviceMemory

variable {β ρ : Type}

/-! ### Objections -/

/-- What speaks against importing a resource when `inUse` bytes are imported already, in the order in which it is
reported. -/
def SharedHandle.objections (h : SharedHandle) (layout : Layout) (inUse : Nat) : List Cause :=
  (if h.isImage = layout.isImage then [] else [.importing (.layoutMismatch h.kind layout.isImage)]) ++
  (h.badPlane?.map fun plane => .importing (.invalidPlane plane)).toList ++
  (if layout.byteSize?.isSome then [] else [.importing (.layoutTooLarge h.kind layout)]) ++
  (if inUse + layout.bytes ≤ maxWord then [] else [.ledger (.overflow .imported layout.bytes inUse)])

/-- What speaks against attaching a pointer, in the order in which it is reported. -/
def pointerObjections (raw : Nat) (layout : Layout) : List Cause :=
  (if raw = 0 then [.importing (.nullHandle .pointer)] else []) ++
  (if layout.byteSize?.isSome then [] else [.importing (.layoutTooLarge .pointer layout)])

/-- What speaks against a call that takes in memory of others. -/
def Call.objections (inUse : Nat) : Call ρ → List Cause
  | .share layout handle => handle.objections layout inUse
  | .attach layout raw => pointerObjections raw layout
  | .allocate _ _ | .allocateLockable _ | .allocateAs _ _ _ | .free _ => []

/-- Whether a call takes in memory of others. -/
def Call.isIntake : Call ρ → Bool
  | .share _ _ | .attach _ _ => true
  | .allocate _ _ | .allocateLockable _ | .allocateAs _ _ _ | .free _ => false

theorem Layout.eq_bytes_of_byteSize? {l : Layout} {n : Nat} (h : l.byteSize? = some n) : n = l.bytes :=
  ((l.measures.byteSize?_iff n).mp h).2

theorem admitSize_eq_ok_iff {kind : HandleKind} {layout : Layout} {size : Nat} :
    admitSize kind layout = .ok size ↔ layout.byteSize? = some size := by
  unfold admitSize
  cases layout.byteSize? <;> simp

namespace SharedHandle

variable {h : SharedHandle} {layout : Layout} {inUse : Nat}

theorem isImage_iff : h.isImage = true ↔ h.kind = .image ∨ h.kind = .surface := by
  cases h <;> simp [isImage, kind]

theorem badPlane?_eq_none_iff :
    h.badPlane? = none ↔ ∀ native plane, h = .surface native plane → plane < maxSurfacePlanes := by
  cases h <;> simp [badPlane?]

/-- Nothing speaks against a resource that is an image just if the layout is one, with a plane that exists, a size
that is a machine word, and room for it. -/
theorem objections_eq_nil_iff :
    h.objections layout inUse = [] ↔
      ((h.kind = .image ∨ h.kind = .surface) ↔ layout.isImage = true) ∧
      (∀ native plane, h = .surface native plane → plane < maxSurfacePlanes) ∧
      layout.byteSize?.isSome = true ∧ inUse + layout.bytes ≤ maxWord := by
  rw [← badPlane?_eq_none_iff, ← isImage_iff, ← Bool.eq_iff_iff]
  simp only [objections, List.append_eq_nil_iff, ite_eq_left_iff, List.cons_ne_nil, imp_false, not_not, and_assoc,
    Option.toList_eq_nil_iff, Option.map_eq_none_iff]

/-- A resource that is admitted has the right kind of layout, a plane that exists and a layout with a size. -/
theorem checks_of_ok {size : Nat} (ha : h.admit layout = .ok size) :
    h.isImage = layout.isImage ∧ h.badPlane? = none ∧ layout.byteSize? = some size := by
  unfold SharedHandle.admit at ha
  split at ha
  · cases ha
  · rename_i hi
    split at ha
    · cases ha
    · exact ⟨not_not.mp hi, ‹_›, admitSize_eq_ok_iff.mp ha⟩

/-- What speaks against a resource that is admitted is that there is no room for its bytes. -/
theorem objections_of_ok {size : Nat} (ha : h.admit layout = .ok size) :
    h.objections layout inUse =
      if inUse + size ≤ maxWord then [] else [.ledger (.overflow .imported size inUse)] := by
  obtain ⟨hi, hp, hs⟩ := checks_of_ok ha
  simp [objections, hi, hp, hs, Layout.eq_bytes_of_byteSize? hs]

/-- What is reported of a resource that is not admitted is the first that speaks against it. -/
theorem head?_objections_of_error {err : ImportError} (ha : h.admit layout = .error err) :
    (h.objections layout inUse).head? = some (.importing err) := by
  unfold SharedHandle.admit at ha
  split at ha
  · rename_i hi
    cases ha
    simp [objections, hi]
  · rename_i hi
    split at ha
    · rename_i plane hp
      cases ha
      simp [objections, not_not.mp hi, hp]
    · rename_i hp
      obtain ⟨hn, rfl⟩ := admitSize_eq_error ha
      simp [objections, not_not.mp hi, hp, hn]

end SharedHandle

theorem pointerObjections_eq_nil_iff {raw : Nat} {layout : Layout} :
    pointerObjections raw layout = [] ↔ raw ≠ 0 ∧ layout.byteSize?.isSome = true := by
  simp [pointerObjections, Option.isSome_iff_ne_none]

/-- Nothing speaks against a pointer that is admitted. -/
theorem pointerObjections_of_ok {raw size : Nat} {layout : Layout} {handle : Handle}
    (ha : admitPointer raw layout = .ok (handle, size)) :
    handle.raw = raw ∧ layout.byteSize? = some size ∧ pointerObjections raw layout = [] := by
  unfold admitPointer Handle.ofRaw at ha
  by_cases h0 : raw = 0
  · simp [h0] at ha
  · simp only [h0, ne_eq, not_false_eq_true, dite_true] at ha
    split at ha
    · cases ha
    · rename_i hs
      cases ha
      have hs := admitSize_eq_ok_iff.mp hs
      exact ⟨rfl, hs, by simp [pointerObjections, h0, hs]⟩

/-- What is reported of a pointer that is not admitted is the first that speaks against it. -/
theorem head?_pointerObjections_of_error {raw : Nat} {layout : Layout} {err : ImportError}
    (ha : admitPointer raw layout = .error err) : (pointerObjections raw layout).head? = some (.importing err) := by
  unfold admitPointer Handle.ofRaw at ha
  by_cases h0 : raw = 0
  · simp only [h0, ne_eq, not_true_eq_false, dite_false] at ha
    cases ha
    simp [pointerObjections, h0]
  · simp only [h0, ne_eq, not_false_eq_true, dite_true] at ha
    split at ha
    · rename_i hs
      cases ha
      obtain ⟨hn, rfl⟩ := admitSize_eq_error hs
      simp [pointerObjections, h0, hn]
    · cases ha

section Checks

variable {n : Nature} {call : Call ρ} {plan : Plan ρ}

/-- What speaks against a call that passed its checks is that there is no room for what it imports. -/
theorem Prepares.objections_eq (h : Prepares n call plan []) (inUse : Nat) :
    call.objections inUse = if plan.account? = some .imported ∧ maxWord < inUse + plan.size then
      [.ledger (.overflow .imported plan.size inUse)] else [] := by
  cases h with
  | @imported layout handle size ha =>
    rw [Call.objections, SharedHandle.objections_of_ok ha]
    by_cases hle : inUse + size ≤ maxWord <;> simp [Plan.account?, hle]
  | attached ha => simpa [Call.objections, Plan.account?] using (pointerObjections_of_ok ha).2.2

/-- The size of a block that is imported is a machine word. -/
theorem Prepares.size_le (h : Prepares n call plan []) : plan.size ≤ maxWord := by
  cases h with
  | imported ha => exact SharedHandle.admit_le ha
  | attached ha => exact Layout.byteSize?_le (pointerObjections_of_ok ha).2.1

/-- What is reported of a call that failed its checks is the first that speaks against it. -/
theorem Nature.head?_objections_of_refusal? {cause : Cause} (hi : call.isIntake = true)
    (h : n.refusal? call = some cause) (inUse : Nat) : (call.objections inUse).head? = some cause := by
  cases call with
  | share layout handle =>
    simp only [refusal?] at h
    split at h
    · cases h
      exact SharedHandle.head?_objections_of_error ‹_›
    · cases h
  | attach layout raw =>
    simp only [refusal?] at h
    split at h
    · cases h
      exact head?_pointerObjections_of_error ‹_›
    · cases h
  | _ => cases hi

end Checks

/-! ### The stages of a call that takes in memory of others -/

/-- Why such a call fails; `R` is what is known of the ledger when the bytes are entered. -/
inductive Declines (n : Nature) (call : Call ρ) (R : Ledger → Prop) : Cause → Prop
  /-- It failed its checks. -/
  | refused {cause : Cause} (h : n.refusal? call = some cause) : Declines n call R cause
  /-- There was no room for the bytes. -/
  | full {plan : Plan ρ} {l : Ledger} (h : Prepares n call plan []) (ha : plan.account? = some .imported)
    (hl : R l) (hlt : maxWord < l.current .imported + plan.size) :
    Declines n call R (.ledger (.overflow .imported plan.size (l.current .imported)))

/-- The stages of such a call. -/
inductive Taking (n : Nature) (call : Call ρ) (R : Ledger → Prop) : Stage ρ → Prop
  /-- The call begins. -/
  | opening : Taking n call R (.opening call)
  /-- It has passed its checks. -/
  | naming {plan : Plan ρ} (h : Prepares n call plan []) : Taking n call R (.naming plan)
  /-- The block has an id. -/
  | placing {plan : Plan ρ} {block : BlockId} (h : Prepares n call plan []) : Taking n call R (.placing plan block)
  /-- The bytes of the block have to be credited. -/
  | enrolling {b : Block ρ} {handle : SharedHandle} (h : Prepares n call b.plan [])
    (ha : b.plan.account? = some .imported) (he : b.engine = n.id) : Taking n call R (.enrolling b handle)
  /-- The call is going to fail. -/
  | failing {s : Stage ρ} {f : Failure} (ho : s.outcome? = some (.failed f)) (hf : Declines n call R f.cause) :
    Taking n call R s
  /-- The block is made. -/
  | making {s : Stage ρ} {b : Block ρ} (ho : s.outcome? = some (.made b)) (h : Prepares n call b.plan [])
    (he : b.engine = n.id)
    (hr : b.plan.account? = some .imported → ∃ l, R l ∧ l.current .imported + b.size ≤ maxWord) :
    Taking n call R s

namespace Engine

theorem outcome?_announce (e : Engine β) (entry : Entry) (release : Option (Holding ρ)) (reply : Reply ρ) :
    (e.announce entry release reply).outcome? = some reply := by
  unfold announce
  split <;> rfl

/-- A reply that is settled stays as it is. -/
theorem Advances.outcome?_eq [Backend β ρ] {thread : ThreadId} {e : Engine β} {c : Commons} {s : Stage ρ}
    {p : Progress β ρ} (h : e.Advances thread c s p) {reply : Reply ρ} (hs : s.outcome? = some reply) :
    p.stage.outcome? = some reply := by
  cases h with
  | traced =>
    cases hs
    exact e.outcome?_announce ..
  | surveyed | logged | released | closed => exact hs
  | _ => cases hs

end Engine

namespace Taking

variable {n : Nature} {call : Call ρ} {R : Ledger → Prop} {s : Stage ρ} {e : Engine β} {c : Commons}

/-- More may be known of the ledger later. -/
theorem mono {R' : Ledger → Prop} (h : Taking n call R s) (hR : ∀ l, R l → R' l) : Taking n call R' s := by
  cases h with
  | opening => exact .opening
  | naming h => exact .naming h
  | placing h => exact .placing h
  | enrolling h ha he => exact .enrolling h ha he
  | @failing _ f ho hf =>
    refine .failing ho ?_
    generalize f.cause = cause at hf ⊢
    cases hf with
    | refused h => exact .refused h
    | full h ha hl hlt => exact .full h ha (hR _ hl) hlt
  | making ho h he hr =>
    refine .making ho h he fun ha => ?_
    obtain ⟨l, hl, hle⟩ := hr ha
    exact ⟨l, hR l hl, hle⟩

variable [Backend β ρ]

theorem of_advances {thread : ThreadId} {p : Progress β ρ} (h : e.Advances thread c s p) (hi : call.isIntake = true)
    (hs : Taking e.nature call R s) (hR : ∀ b handle, s = .enrolling b handle → R e.ledger) :
    Taking e.nature call R p.stage := by
  cases hs with
  | opening =>
    cases h with
    | refused h => exact .failing rfl (.refused h)
    | ordered ho =>
      cases call with
      | share | attach => cases ho
      | _ => cases hi
    | imported ha => exact .naming (.imported ha)
    | attached ha => exact .naming (.attached ha)
    | owned hb => cases hi
  | naming hp =>
    cases h with
    | named => exact .placing hp
  | @placing plan block hp =>
    cases h with
    | placed ho =>
      have hnone : plan.account? ≠ some .imported := by simp [Plan.account?, ho]
      exact .making (e.outcome?_announce ..) hp rfl fun ha => absurd ha hnone
    | placedShared ho =>
      have hsome : plan.account? = some .imported := by simp [Plan.account?, ho]
      exact .enrolling hp hsome rfl
    | placedOutside ho =>
      have hnone : plan.account? ≠ some .imported := by simp [Plan.account?, ho]
      exact .making (e.outcome?_announce ..) hp rfl fun ha => absurd ha hnone
  | @enrolling b handle hp ha he =>
    -- the one step that looks at the ledger
    have hl := hR b handle rfl
    by_cases hle : e.ledger.current .imported + b.size ≤ maxWord
    · cases h with
      | unenrolled h => cases (Ledger.credit_of_le hle).symm.trans h
      | enrolled h => exact .making (Engine.outcome?_announce ..) hp he fun _ => ⟨_, hl, hle⟩
    · have hlt := Nat.lt_of_not_le hle
      have hcredit := Ledger.credit_of_lt hp.size_le hlt
      cases h with
      | unenrolled h =>
        cases hcredit.symm.trans h
        exact .failing rfl (.full hp ha hl hlt)
      | enrolled h => cases hcredit.symm.trans h
  | failing ho hf => exact .failing (h.outcome?_eq ho) hf
  | making ho hp he hr => exact .making (h.outcome?_eq ho) hp he hr

/-- **Every step of a call that takes in memory of others goes from one of its stages to another.** -/
theorem advance (thread : ThreadId) (c : Commons) (hi : call.isIntake = true)
    (h : Taking e.nature call R s) (hR : ∀ b handle, s = .enrolling b handle → R e.ledger) :
    Taking e.nature call R (e.advance thread c s).stage :=
  of_advances (e.advances thread c s) hi h hR

end Taking

/-! ### How such a call ends -/

/-- How a call ends that takes in memory of others, on an engine with `inUse` bytes imported. -/
structure Takes (n : Nature) (call : Call ρ) (inUse : Nat) (reply : Reply ρ) : Prop where
  /-- A block is made just if nothing speaks against it. -/
  made_iff : (∃ b, reply = .made b) ↔ call.objections inUse = []
  /-- Otherwise the call fails, -/
  ended : (∃ b, reply = .made b) ∨ ∃ f, reply = .failed f
  /-- for the first that speaks against it. -/
  failed {f : Failure} : reply = .failed f → (call.objections inUse).head? = some f.cause
  /-- The block is the engine's, and what the checks led to. -/
  block {b : Block ρ} : reply = .made b → b.engine = n.id ∧ Prepares n call b.plan []

namespace Takes

variable {n : Nature} {call : Call ρ} {inUse : Nat}

theorem of_failed {f : Failure} (h : (call.objections inUse).head? = some f.cause) :
    Takes n call inUse (.failed f) where
  made_iff := by
    constructor
    · rintro ⟨b, hb⟩
      cases hb
    · intro hn
      rw [hn] at h
      cases h
  ended := .inr ⟨f, rfl⟩
  failed hf := by
    cases hf
    exact h
  block hb := by cases hb

theorem of_made {b : Block ρ} (h : call.objections inUse = []) (he : b.engine = n.id)
    (hp : Prepares n call b.plan []) : Takes n call inUse (.made b) where
  made_iff := ⟨fun _ => h, fun _ => ⟨b, rfl⟩⟩
  ended := .inl ⟨b, rfl⟩
  failed hf := by cases hf
  block hb := by
    cases hb
    exact ⟨he, hp⟩

end Takes

/-- How a call ends that takes in memory of others is decided by a ledger of which `R` is known. -/
theorem Taking.takes {n : Nature} {call : Call ρ} {R : Ledger → Prop} {reply : Reply ρ}
    (h : Taking n call R (.closing none reply)) (hi : call.isIntake = true) (l₀ : Ledger) (h₀ : R l₀) :
    ∃ l, R l ∧ Takes n call (l.current .imported) reply := by
  cases h with
  | @failing _ f ho hf =>
    cases ho
    generalize hc : f.cause = cause at hf
    cases hf with
    | refused h => exact ⟨l₀, h₀, .of_failed (by rw [hc, n.head?_objections_of_refusal? hi h])⟩
    | @full plan l h ha hl hlt =>
      refine ⟨l, hl, .of_failed ?_⟩
      rw [hc, h.objections_eq, if_pos ⟨ha, hlt⟩, List.head?_cons]
  | @making _ b ho h he hr =>
    cases ho
    by_cases ha : b.plan.account? = some .imported
    · obtain ⟨l, hl, hle⟩ := hr ha
      refine ⟨l, hl, .of_made ?_ he h⟩
      rw [h.objections_eq, if_neg fun hfull => Nat.not_lt.mpr hle hfull.2]
    · refine ⟨l₀, h₀, .of_made ?_ he h⟩
      rw [h.objections_eq, if_neg fun hfull => ha hfull.1]

namespace Engine

variable {e : Engine β} {call : Call ρ} {p : Progress β ρ} {b : Block ρ}

/-- A call that takes in memory of others gives no block back. -/
theorem covers_of_isIntake (hi : call.isIntake = true) : e.Covers (.opening call) := by
  intro b hs
  rcases hs with ⟨hs, -⟩ | hs
  · cases hs
    cases hi
  · cases hs

variable [Backend β ρ]

/-- Until an import enters its bytes, the ledger is the one that it began with. -/
theorem Runs.ledger_of_enrolling {handle : SharedHandle} (h : e.Runs call p)
    (hs : p.stage = .enrolling b handle) : p.engine.ledger = e.ledger := by
  have hcourse := h.course
  have hledger := h.ledger
  rw [hs] at hcourse
  rw [← Ledger.enterAll?_effects] at hledger
  generalize Deed.effects p.deeds = ds at hcourse hledger
  cases hcourse with
  | enrolling ha hp he => exact (Option.some.inj hledger).symm

theorem Runs.taking_steps (h : e.Runs call p) (hi : call.isIntake = true)
    (hs : Taking e.nature call (· = e.ledger) p.stage) (thread : ThreadId) (n : Nat) :
    Taking e.nature call (· = e.ledger) (p.steps thread n).stage := by
  induction n generalizing p with
  | zero => exact hs
  | succ n ih =>
    refine ih (h.next (covers_of_isIntake hi) thread) ?_
    rw [← h.nature_eq] at hs ⊢
    exact hs.advance thread p.commons hi fun b handle hb => h.ledger_of_enrolling hb

/-- **Memory of others is taken in just if nothing speaks against it**, by a call that nothing interrupts. -/
theorem takes_run (thread : ThreadId) (e : Engine β) (c : Commons) (hi : call.isIntake = true) :
    Takes e.nature call (e.ledger.current .imported) (e.replyTo thread c call) := by
  have hstart : e.Runs call ⟨e, c, .opening call, []⟩ := ⟨rfl, .opening, rfl, rfl⟩
  have htaking : Taking e.nature call (· = e.ledger) (e.run thread c call).stage :=
    hstart.taking_steps hi .opening thread _
  rw [stage_run] at htaking
  obtain ⟨_, rfl, htakes⟩ := htaking.takes hi e.ledger rfl
  exact htakes

end Engine

end DeviceMemory
