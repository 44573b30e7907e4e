import DeviceMemory.Proofs.Engine.Refusal
import DeviceMemory.Proofs.Layout.Size
import DeviceMemory.Proofs.Traffic.Sound

/-!
# Layouts that are refused for their size

A call is refused for a size if the layout has none, and a layout has none if the dimensions before the
first zero are too large (`Traffic.Reachable.refuses_sizes`). Without a zero, that is so just if the exact size is
no machine word. With one the exact size is zero and always fits, and yet the layout is refused if the zero
comes too late (`hollow_refused`).
-/

namespace DeviceMemory

variable {β ρ : Type}

namespace Traffic

/-- When a layout has a size, and when calls are refused for it. -/
structure RefusesSizes (t : Traffic β ρ) (l : Layout) : Prop where
  /-- A layout has its exact size, if the dimensions before the first zero fit. -/
  byteSize?_eq : l.byteSize? = if l.bytesBeforeZero ≤ maxWord then some l.bytes else none
  /-- Every layout that fits has a size, but for those with a zero behind dimensions that are too large. -/
  exact_iff : (l.byteSize? = if l.bytes ≤ maxWord then some l.bytes else none) ↔
    (0 ∈ l.shape → l.bytesBeforeZero ≤ maxWord)
  /-- But for those, the order of the dimensions does not matter. -/
  perm {shape : List Nat} : shape.Perm l.shape →
    (0 ∈ l.shape → l.bytesBeforeZero ≤ maxWord ∧ { l with shape }.bytesBeforeZero ≤ maxWord) →
    { l with shape }.byteSize? = l.byteSize?
  /-- A call is refused for the size of no layout but its own, and only if the dimensions before the first
  zero are too large. -/
  refused {thread : ThreadId} {id : EngineId} {request : Call ρ} {f : Failure} :
    .ended thread id request (.failed f) ∈ t.trace → f.cause.oversized? = some l →
    request.layout? = some l ∧ maxWord < l.bytesBeforeZero
  /-- Without a zero, it is refused only if its exact size is no machine word. -/
  refused_exact {thread : ThreadId} {id : EngineId} {request : Call ρ} {f : Failure} :
    .ended thread id request (.failed f) ∈ t.trace → f.cause.oversized? = some l → 0 ∉ l.shape →
    maxWord < l.bytes

variable [Backend β ρ]

/-- The cause of every failure explains it. -/
theorem Reachable.explains {t : Traffic β ρ} (h : t.Reachable) {thread : ThreadId} {id : EngineId}
    {request : Call ρ} {f : Failure} (hm : .ended thread id request (.failed f) ∈ t.trace) :
    ∃ n : Nature, n.id = id ∧ n.Explains request f.cause := by
  obtain ⟨ds, hj⟩ := exists_mem_pastJobs hm
  have hjob : (⟨thread, id, request, .closing none (.failed f), ds⟩ : Job ρ) ∈ t.jobs := mem_jobs_of_past hj
  obtain ⟨e, he, -⟩ := h.sound.course _ hjob
  have hjustified := h.forall_jobs Stage.Justified.start Stage.Justified.advance _ hjob e he
  exact ⟨e.nature, h.sound.ids _ _ he, hjustified.explained rfl⟩

/-- **Calls are refused for a size only if the layout has none**, which is so if the dimensions before its
first zero are too large. -/
theorem Reachable.refuses_sizes {t : Traffic β ρ} (h : t.Reachable) (l : Layout) : t.RefusesSizes l where
  byteSize?_eq := l.byteSize?_eq
  exact_iff := l.byteSize?_eq_bytes_iff
  perm {shape} hp hfits := by
    by_cases h0 : 0 ∈ l.shape
    · obtain ⟨hl, hs⟩ := hfits h0
      rw [Layout.byteSize?_eq, Layout.byteSize?_eq, if_pos hl, if_pos hs, Layout.bytes_perm hp]
    · exact productWord?_perm l.element.size_le h0 hp
  refused hm hl := by
    obtain ⟨n, -, hn⟩ := h.explains hm
    obtain ⟨hlayout, hnone⟩ := hn.oversized hl
    exact ⟨hlayout, Layout.byteSize?_eq_none_iff.mp hnone⟩
  refused_exact hm hl h0 := by
    obtain ⟨n, -, hn⟩ := h.explains hm
    rw [← Layout.bytesBeforeZero_of_not_mem h0]
    exact Layout.byteSize?_eq_none_iff.mp (hn.oversized hl).2

/-! ### A zero that comes too late -/

/-- The process in which a thread has asked an engine for memory with a layout. -/
def asking (layout : Layout) : Traffic ScriptedBackend ScriptedResource :=
  let device : Device := ⟨"0", "device", 1024, .plainBuffer, .ofList [.plainBuffer]⟩
  run { host := {} } (.make device {} {} ::
    .call (.numbered 0) ⟨0⟩ "a" (.allocateAs layout .plainBuffer false) :: Move.toEnd (.numbered 0))

/-- The layout of `2 ^ 61` elements of eight bytes, which is the least without a size. -/
def eightTimesTooMany : Layout := ⟨[0x2000000000000000], .f64, false⟩

/-- It is refused, and its exact size is no machine word. -/
theorem eightTimesTooMany_refused :
    ∃ f, (asking eightTimesTooMany).Reachable ∧
      .ended (.numbered 0) ⟨0⟩ (.allocateAs eightTimesTooMany .plainBuffer false) (.failed f) ∈
        (asking eightTimesTooMany).trace ∧
      f.cause.oversized? = some eightTimesTooMany ∧ 0 ∉ eightTimesTooMany.shape ∧
      maxWord < eightTimesTooMany.bytes := by
  have hr : (asking eightTimesTooMany).Reachable := (Reachable.start _ rfl).run _
  have htrace : (asking eightTimesTooMany).trace =
      [.ended (.numbered 0) ⟨0⟩ (.allocateAs eightTimesTooMany .plainBuffer false)
          (.failed ⟨.layoutTooLarge eightTimesTooMany, .absent⟩),
        .began (.numbered 0) ⟨0⟩ (.allocateAs eightTimesTooMany .plainBuffer false), .made (.ok ⟨0⟩)] := rfl
  have hm := htrace ▸ List.mem_cons_self
  have h0 : 0 ∉ eightTimesTooMany.shape := by decide
  exact ⟨_, hr, hm, rfl, h0, (hr.refuses_sizes eightTimesTooMany).refused_exact hm rfl h0⟩

/-- The same with another dimension of zero, so that there are no elements and no bytes. -/
def hollow : Layout := ⟨[0x2000000000000000, 0], .f64, false⟩

/-- **A layout that needs no bytes is refused for its size.** It has a number of elements, and would have a
size with its dimensions the other way round. -/
theorem hollow_refused :
    hollow.bytes = 0 ∧ hollow.elementCount? = some 0 ∧ hollow.byteSize? = none ∧
      { hollow with shape := hollow.shape.reverse }.byteSize? = some 0 ∧
      (asking hollow).trace =
        [.ended (.numbered 0) ⟨0⟩ (.allocateAs hollow .plainBuffer false)
            (.failed ⟨.layoutTooLarge hollow, .absent⟩),
          .began (.numbered 0) ⟨0⟩ (.allocateAs hollow .plainBuffer false), .made (.ok ⟨0⟩)] := by
  exact ⟨by decide, by decide, by decide, by decide, rfl⟩

end Traffic

end DeviceMemory
