import DeviceMemory.Proofs.Text.Decimal

/-!
# Where a field of a text ends

Texts are put together from fields. A field ends before the first character that it does not have
(`Text.cut_unique`), and pieces with a character in front of each, which none of them has, are read back one by one
(`Text.splitOn_append_flatMap_cons`).
-/

namespace DeviceMemory.Text

/-- A field ends before the first character that it does not have. -/
theorem cut_unique {c : Char} {w w' r r' : List Char} (hw : c ∉ w) (hw' : c ∉ w') (h : w ++ c :: r = w' ++ c :: r') :
    w = w' ∧ r = r' := by
  have hsplit := congrArg (List.splitOn c) h
  rw [List.splitOn_append_cons_self_of_not_mem hw, List.splitOn_append_cons_self_of_not_mem hw'] at hsplit
  obtain rfl := (List.cons.inj hsplit).1
  exact ⟨rfl, (List.cons.inj (List.append_cancel_left h)).2⟩

/-- Pieces with a character in front of each are read back, if none of them has it. -/
theorem splitOn_append_flatMap_cons {c : Char} {w : List Char} {pieces : List (List Char)} (hw : c ∉ w)
    (hp : ∀ piece ∈ pieces, c ∉ piece) : (w ++ pieces.flatMap (c :: ·)).splitOn c = w :: pieces := by
  induction pieces generalizing w with
  | nil => rw [List.flatMap_nil, List.append_nil, List.splitOn_eq_singleton hw]
  | cons piece pieces ih =>
    rw [List.flatMap_cons, List.cons_append, List.splitOn_append_cons_self_of_not_mem hw,
      ih (hp piece List.mem_cons_self) fun other ho => hp other (List.mem_cons_of_mem _ ho)]

theorem intercalate_cons {α : Type} (sep x : List α) (xs : List (List α)) :
    sep.intercalate (x :: xs) = x ++ xs.flatMap (sep ++ ·) := by
  induction xs generalizing x with
  | nil => simp
  | cons y ys ih => rw [List.intercalate_cons_cons, ih, List.flatMap_cons, List.append_assoc, List.append_assoc]

end DeviceMemory.Text
