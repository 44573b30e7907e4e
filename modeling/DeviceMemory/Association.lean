/-!
# Lists of keys with values

Many things are kept as lists of keys with values, and read by `List.lookup`: the first entry for a key
counts. Where no key occurs twice, such a list is a finite map, and the order of its entries does not
matter (`Association.lookup_perm`).
-/

namespace DeviceMemory.Association

variable {κ α : Type} [BEq κ] [LawfulBEq κ]

theorem lookup_cons [DecidableEq κ] (k k' : κ) (a : α) (l : List (κ × α)) :
    ((k, a) :: l).lookup k' = if k' = k then some a else l.lookup k' := by
  rw [List.lookup_cons]
  by_cases h : k' = k
  · simp [h]
  · rw [beq_eq_false_iff_ne.mpr h, if_neg h]

/-- Entries are kept or dropped by their keys. -/
theorem lookup_filter (p : κ → Bool) (k : κ) (l : List (κ × α)) :
    (l.filter fun e => p e.1).lookup k = if p k then l.lookup k else none := by
  induction l with
  | nil => simp
  | cons e l ih =>
    obtain ⟨k', a⟩ := e
    rw [List.filter_cons, List.lookup_cons]
    by_cases hk : k = k'
    · subst hk
      cases hp : p k <;> simp [hp, ih]
    · rw [beq_eq_false_iff_ne.mpr hk]
      cases hp : p k'
      · exact ih
      · simpa [List.lookup_cons, beq_eq_false_iff_ne.mpr hk] using ih

/-- The list without a key. -/
theorem lookup_erase [DecidableEq κ] (k k' : κ) (l : List (κ × α)) :
    (l.filter fun e => e.1 ≠ k).lookup k' = if k' = k then none else l.lookup k' := by
  rw [lookup_filter fun key => decide (key ≠ k)]
  by_cases h : k' = k <;> simp [h]

/-- The list with a key set. -/
theorem lookup_insert [DecidableEq κ] (k k' : κ) (a : α) (l : List (κ × α)) :
    ((k, a) :: l.filter fun e => e.1 ≠ k).lookup k' = if k' = k then some a else l.lookup k' := by
  rw [lookup_cons, lookup_erase]
  by_cases h : k' = k <;> simp [h]

theorem eq_nil_iff {l : List (κ × α)} : l = [] ↔ ∀ k, l.lookup k = none := by
  constructor
  · rintro rfl k
    exact List.lookup_nil
  · intro h
    apply List.eq_nil_iff_forall_not_mem.mpr
    intro e he
    have hne := List.lookup_eq_none_iff.mp (h e.1) e he
    simp at hne

theorem mem_of_lookup {k : κ} {a : α} {l : List (κ × α)} (h : l.lookup k = some a) : (k, a) ∈ l := by
  obtain ⟨before, after, rfl, -⟩ := List.lookup_eq_some_iff.mp h
  simp

theorem lookup_eq_some_iff_mem {k : κ} {a : α} {l : List (κ × α)} (hn : (l.map Prod.fst).Nodup) :
    l.lookup k = some a ↔ (k, a) ∈ l := by
  refine ⟨mem_of_lookup, fun h => ?_⟩
  obtain ⟨before, after, rfl⟩ := List.append_of_mem h
  refine List.lookup_eq_some_iff.mpr ⟨before, after, rfl, fun e he => ?_⟩
  rw [List.map_append, List.map_cons, List.nodup_append] at hn
  exact bne_iff_ne.mpr (hn.2.2 e.1 (List.mem_map_of_mem he) k List.mem_cons_self).symm

/-- The order of the entries does not matter if no key occurs twice. -/
theorem lookup_perm {l l' : List (κ × α)} (h : l.Perm l') (hn : (l.map Prod.fst).Nodup) (k : κ) :
    l.lookup k = l'.lookup k := by
  have hn' : (l'.map Prod.fst).Nodup := (h.map Prod.fst).nodup_iff.mp hn
  ext a
  rw [lookup_eq_some_iff_mem hn, lookup_eq_some_iff_mem hn', h.mem_iff]

/-- A key that is paired with a value has the place of that value. -/
theorem lookup_zip [DecidableEq κ] {keys : List κ} (hn : keys.Nodup) {i : Nat} {k : κ} (hk : keys[i]? = some k)
    (values : List α) : (keys.zip values).lookup k = values[i]? := by
  induction keys generalizing i values with
  | nil => simp at hk
  | cons k' keys ih =>
    obtain ⟨hk', hn⟩ := List.nodup_cons.mp hn
    cases values with
    | nil => simp
    | cons a values =>
      rw [List.zip_cons_cons, lookup_cons]
      cases i with
      | zero =>
        obtain rfl : k' = k := by simpa using hk
        simp
      | succ i =>
        have hne : k ≠ k' := by
          rintro rfl
          exact hk' (List.mem_of_getElem? hk)
        rw [if_neg hne, List.getElem?_cons_succ]
        exact ih hn hk values

end DeviceMemory.Association
