import DeviceMemory.Proofs.Engine.Course

/-!
# Why calls fail

What a call asks for and what is fixed about the engine decide whether the call is refused, and for which
cause (`Nature.refusal?`). A call that is not refused can still fail, but only because the backend or the
ledger does not do its part. So every failure has one of these three causes, at every step and whatever the
engine does for others meanwhile (`Stage.Justified.advance`).
-/

namespace DeviceMemory

variable {β ρ : Type}

/-! ### Layouts that are refused for their size -/

/-- The layout of a call, if it is one that makes a block. -/
def Call.layout? : Call ρ → Option Layout
  | .allocate layout _ | .allocateLockable layout | .allocateAs layout _ _ | .share layout _
  | .attach layout _ => some layout
  | .free _ => none

/-- The layout whose size a cause says to be no machine word, if it says so of one. -/
def Cause.oversized? : Cause → Option Layout
  | .layoutTooLarge layout | .importing (.layoutTooLarge _ layout) => some layout
  | _ => none

theorem Layout.oversized_of_refusal? {layout l : Layout} {cause : Cause} (h : layout.refusal? = some cause)
    (hl : cause.oversized? = some l) : layout = l ∧ l.byteSize? = none := by
  unfold refusal? at h
  split at h
  · rename_i hn
    cases h
    cases hl
    exact ⟨rfl, hn⟩
  · cases h

theorem admitSize_eq_error {kind : HandleKind} {layout : Layout} {err : ImportError}
    (h : admitSize kind layout = .error err) :
    layout.byteSize? = none ∧ err = .layoutTooLarge kind layout := by
  unfold admitSize at h
  split at h
  · cases h
  · cases h
    exact ⟨‹_›, rfl⟩

theorem oversized_of_admitSize {kind : HandleKind} {layout l : Layout} {err : ImportError}
    (h : admitSize kind layout = .error err) (hl : (Cause.importing err).oversized? = some l) :
    layout = l ∧ l.byteSize? = none := by
  obtain ⟨hn, rfl⟩ := admitSize_eq_error h
  cases hl
  exact ⟨rfl, hn⟩

theorem SharedHandle.oversized_of_admit {handle : SharedHandle} {layout l : Layout} {err : ImportError}
    (h : handle.admit layout = .error err) (hl : (Cause.importing err).oversized? = some l) :
    layout = l ∧ l.byteSize? = none := by
  unfold SharedHandle.admit at h
  split at h
  · cases h
    cases hl
  · split at h
    · cases h
      cases hl
    · exact oversized_of_admitSize h hl

theorem oversized_of_admitPointer {raw : Nat} {layout l : Layout} {err : ImportError}
    (h : admitPointer raw layout = .error err) (hl : (Cause.importing err).oversized? = some l) :
    layout = l ∧ l.byteSize? = none := by
  unfold admitPointer at h
  split at h
  · rename_i hnull
    cases h
    unfold Handle.ofRaw at hnull
    split at hnull <;> cases hnull
    cases hl
  · split at h
    · rename_i hs
      cases h
      exact oversized_of_admitSize hs hl
    · cases h

theorem Nature.oversized_of_refusalBy? {n : Nature} {policy : Policy} {layout l : Layout} {cause : Cause}
    (h : n.refusalBy? policy layout = some cause) (hl : cause.oversized? = some l) :
    layout = l ∧ l.byteSize? = none := by
  unfold refusalBy? at h
  split at h
  · cases h
    cases hl
  · exact Layout.oversized_of_refusal? h hl

/-- A call that is refused for a size is refused for the size of its own layout, which has none. -/
theorem Nature.oversized_of_refusal? {n : Nature} {call : Call ρ} {cause : Cause} {l : Layout}
    (h : n.refusal? call = some cause) (hl : cause.oversized? = some l) :
    call.layout? = some l ∧ l.byteSize? = none := by
  cases call with
  | allocate layout zeroed =>
    obtain ⟨rfl, hn⟩ := oversized_of_refusalBy? h hl
    exact ⟨rfl, hn⟩
  | allocateLockable layout =>
    obtain ⟨rfl, hn⟩ := oversized_of_refusalBy? h hl
    exact ⟨rfl, hn⟩
  | allocateAs layout p zeroed =>
    simp only [refusal?] at h
    split at h
    · obtain ⟨rfl, hn⟩ := Layout.oversized_of_refusal? h hl
      exact ⟨rfl, hn⟩
    · cases h
      cases hl
  | share layout handle =>
    simp only [refusal?] at h
    split at h
    · rename_i ha
      cases h
      obtain ⟨rfl, hn⟩ := SharedHandle.oversized_of_admit ha hl
      exact ⟨rfl, hn⟩
    · cases h
  | attach layout raw =>
    simp only [refusal?] at h
    split at h
    · rename_i ha
      cases h
      obtain ⟨rfl, hn⟩ := oversized_of_admitPointer ha hl
      exact ⟨rfl, hn⟩
    · cases h
  | free b =>
    simp only [refusal?] at h
    split at h
    · cases h
    · cases h
      cases hl

/-! ### Causes of failures -/

/-- What may make a call fail. -/
inductive Nature.Explains (n : Nature) (call : Call ρ) : Cause → Prop
  /-- It was refused. -/
  | refused {cause : Cause} (h : n.refusal? call = some cause) : Explains n call cause
  /-- The backend refused memory. -/
  | backend (err : BackendError) : Explains n call (.backend err)
  /-- The ledger refused bytes. -/
  | ledger (err : LedgerError) : Explains n call (.ledger err)

/-- Only a call that was refused fails for a size. -/
theorem Nature.Explains.oversized {n : Nature} {call : Call ρ} {cause : Cause} {l : Layout}
    (h : n.Explains call cause) (hl : cause.oversized? = some l) : call.layout? = some l ∧ l.byteSize? = none := by
  cases h with
  | refused h => exact n.oversized_of_refusal? h hl
  | backend err => cases hl
  | ledger err => cases hl

/-- The reply that a call is going to have, once it is settled. -/
def Stage.outcome? : Stage ρ → Option (Reply ρ)
  | tracing _ reply | surveying _ _ reply | writing _ _ reply | closing _ reply => some reply
  | _ => none

/-- A stage of a call that has not failed, or has failed for a cause that explains it. -/
structure Stage.Justified (n : Nature) (call : Call ρ) (s : Stage ρ) : Prop where
  /-- A call that has not begun is itself. -/
  opening {other : Call ρ} : s = .opening other → other = call
  /-- The cause of a failure is one that explains it. -/
  explained {f : Failure} : s.outcome? = some (.failed f) → n.Explains call f.cause

namespace Stage.Justified

variable {n : Nature} {call : Call ρ} {s : Stage ρ} {e : Engine β}

theorem start (n : Nature) (call : Call ρ) : (Stage.opening call).Justified n call where
  opening h := by cases h; rfl
  explained h := by cases h

/-- A stage with a reply that is settled, but is no failure. -/
theorem of_outcome (hs : ∀ other, s ≠ .opening other) (ho : ∀ f, s.outcome? ≠ some (.failed f)) :
    s.Justified n call where
  opening {other} h := absurd h (hs other)
  explained {f} h := absurd h (ho f)

/-- A stage that has the same reply as one before. -/
theorem of_same (h : s.Justified n call) {s' : Stage ρ} (hs : ∀ other, s' ≠ .opening other)
    (ho : s'.outcome? = s.outcome?) : s'.Justified n call where
  opening {other} h := absurd h (hs other)
  explained hf := h.explained (ho ▸ hf)

/-- A stage of a call that has failed for a cause that explains it. -/
theorem of_failed {release : Option (Holding ρ)} {f : Failure} (h : n.Explains call f.cause) :
    (Stage.closing release (.failed f)).Justified n call where
  opening hs := by cases hs
  explained hf := by
    cases hf
    exact h

theorem announce {entry : Entry} {release : Option (Holding ρ)} {reply : Reply ρ}
    (h : ∀ f, reply = .failed f → n.Explains call f.cause) :
    (e.announce entry release reply).Justified n call := by
  unfold Engine.announce
  split <;> exact ⟨fun hs => (by cases hs), fun {f} hs => h f (by cases hs; rfl)⟩

theorem takeBack {b : Block ρ} {reply : Reply ρ} (h : ∀ f, reply = .failed f → n.Explains call f.cause) :
    (e.takeBack b reply).Justified n call := by
  unfold Engine.takeBack
  split <;> exact ⟨fun hs => (by cases hs), fun {f} hs => h f (by cases hs; rfl)⟩

variable [Backend β ρ]

theorem of_advances {thread : ThreadId} {c : Commons} {p : Progress β ρ} (h : e.Advances thread c s p)
    (hs : s.Justified e.nature call) : p.stage.Justified e.nature call := by
  cases h with
  | refused h =>
    obtain rfl := hs.opening rfl
    exact of_failed (.refused h)
  | denied => exact of_failed (.backend _)
  | overdrawn | unenrolled => exact of_failed (.ledger _)
  | placed | placedOutside | enrolled => exact announce (by simp)
  | uncounted | debited => exact takeBack (by simp)
  | undebited =>
    refine takeBack ?_
    rintro f ⟨⟩
    exact .ledger _
  | traced => exact announce fun f hf => hs.explained (by rw [hf]; rfl)
  | surveyed | logged | released => exact hs.of_same (by simp) rfl
  | closed => exact hs
  | _ => exact of_outcome (by simp) (by simp [outcome?])

/-- **A step brings a call to no failure that is not explained.** -/
theorem advance (thread : ThreadId) (e : Engine β) (c : Commons) (call : Call ρ) (s : Stage ρ)
    (h : s.Justified e.nature call) : (e.advance thread c s).stage.Justified e.nature call :=
  of_advances (e.advances thread c s) h

end Stage.Justified

end DeviceMemory
