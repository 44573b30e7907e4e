import DeviceMemory.Event
import DeviceMemory.Proofs.Text.Decimal
import Mathlib.Data.List.Infix

/-!
# Which streams a line names

The line about an event begins with the stream that made the block and may end with the stream that gave it
back. Both are numbers without bounds, so it has to be seen where their digits stop: a line begins with a number
just if that is the maker's (`Entry.maker_iff_prefix`), and ends with one just if that is the one that gave
the block back and has to be told (`Entry.freedFrom_iff_suffix`).
-/

namespace DeviceMemory

namespace Entry

open Text (toDigits_injective isDigit_of_mem_toDigits digits_unique)

/-- What a line begins with if a stream made the block. -/
def opener (n : Nat) : String := "[stream#" ++ toString n ++ "] "

/-- What a line ends with if a stream gave the block back that did not make it. -/
def closer (n : Nat) : String := " from stream#" ++ toString n

theorem toList_opener (n : Nat) : (opener n).toList = "[stream#".toList ++ (Nat.toDigits 10 n ++ ']' :: [' ']) := by
  simp only [opener, String.toList_append, Nat.toString_eq_repr, Nat.toList_repr, List.append_assoc]
  rfl

theorem toList_closer (n : Nat) : (closer n).toList = " from stream".toList ++ '#' :: Nat.toDigits 10 n := by
  simp only [closer, String.toList_append, Nat.toString_eq_repr, Nat.toList_repr]
  rfl

theorem freedFromText_of_none (e : Entry) (h : e.freedFrom = none) : e.freedFromText.toList = [] := by
  simp [freedFromText, h]

theorem freedFromText_of_some (e : Entry) {s : Stream} (h : e.freedFrom = some s) :
    e.freedFromText.toList = (closer s.number).toList := by
  simp only [freedFromText, h, closer, Stream.text, String.toList_append]
  rfl

/-- The fields of a line. -/
theorem toList_line (e : Entry) : e.line.toList =
    (opener e.maker.number).toList ++ ((Text.column 8 e.event.name).toList ++ ' ' :: (e.block.text.toList ++ ' ' ::
      (e.placementName.toList ++ ' ' :: ((ByteSize.text e.size).toList ++ ' ' :: '(' ::
        ((shapeText e.shape).toList ++ ')' :: e.freedFromText.toList))))) := by
  -- the equation of `line` takes long to make
  delta line
  simp only [opener, Stream.text, String.toList_append, List.append_assoc]
  rfl

/-- A line begins with the maker and ends with a bracket and with what it tells about giving back. -/
theorem exists_line_eq (e : Entry) : ∃ middle,
    e.line.toList = (opener e.maker.number).toList ++ (middle ++ ')' :: e.freedFromText.toList) := by
  refine ⟨(Text.column 8 e.event.name).toList ++ ' ' :: (e.block.text.toList ++ ' ' :: (e.placementName.toList ++
    ' ' :: ((ByteSize.text e.size).toList ++ ' ' :: '(' :: (shapeText e.shape).toList))), ?_⟩
  simp only [toList_line, List.append_assoc, List.cons_append]

/-- **A line begins with the stream that made the block.** -/
theorem maker_iff_prefix (e : Entry) (n : Nat) : (opener n).toList <+: e.line.toList ↔ e.maker = ⟨n⟩ := by
  obtain ⟨middle, hline⟩ := e.exists_line_eq
  rw [hline]
  constructor
  · rintro ⟨rest, h⟩
    simp only [toList_opener, List.append_assoc] at h
    have hdigits := List.append_cancel_left h
    have hsame := digits_unique (fun _ => isDigit_of_mem_toDigits) (fun _ => isDigit_of_mem_toDigits) rfl rfl hdigits
    rw [toDigits_injective hsame]
  · intro h
    rw [h]
    exact List.prefix_append _ _

/-- **A line ends with the stream that gave the block back**, where it tells it. -/
theorem freedFrom_iff_suffix (e : Entry) (n : Nat) :
    (closer n).toList <:+ e.line.toList ↔ e.freedFrom = some ⟨n⟩ := by
  obtain ⟨middle, hline⟩ := e.exists_line_eq
  rw [hline]
  constructor
  · rintro ⟨front, h⟩
    -- read backwards, both begin with digits
    have hback := congrArg List.reverse h
    simp only [toList_closer, List.reverse_append, List.reverse_cons, List.append_assoc, List.cons_append,
      List.nil_append] at hback
    have hdigits : ∀ m, ∀ c ∈ (Nat.toDigits 10 m).reverse, c.isDigit := fun m c hc =>
      isDigit_of_mem_toDigits (List.mem_reverse.mp hc)
    cases hf : e.freedFrom with
    | none =>
      rw [e.freedFromText_of_none hf] at hback
      have hnil : (Nat.toDigits 10 n).reverse = [] := digits_unique (hdigits n) nofun rfl rfl hback
      exact absurd (List.reverse_eq_nil_iff.mp hnil) Nat.toDigits_ne_nil
    | some s =>
      simp only [e.freedFromText_of_some hf, toList_closer, List.reverse_append, List.reverse_cons, List.append_assoc,
        List.cons_append, List.nil_append] at hback
      have hsame := digits_unique (hdigits n) (hdigits s.number) rfl rfl hback
      rw [toDigits_injective (List.reverse_inj.mp hsame)]
  · intro h
    rw [e.freedFromText_of_some h]
    exact ⟨(opener e.maker.number).toList ++ (middle ++ [')']), by
      simp only [List.append_assoc, List.cons_append, List.nil_append]⟩

end Entry

end DeviceMemory
