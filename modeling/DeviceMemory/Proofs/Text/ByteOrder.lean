import Mathlib.Data.String.Basic

/-!
# The order of texts is the order of their bytes

Texts are compared character by character, and characters by their numbers. Written in UTF-8 they are
compared byte by byte, with the same result (`Text.bytes_lt_iff`): of two characters, the one with the
lesser number has the lesser bytes, and it is told before either of them ends.
-/

namespace DeviceMemory.Text

/-- The bytes of a text in UTF-8. -/
def bytes (s : String) : List UInt8 := s.toUTF8.data.toList

theorem bytes_eq (s : String) : bytes s = s.toList.flatMap String.utf8EncodeChar := by
  have hs : s.toByteArray = s.toList.utf8Encode := by
    rw [← String.toByteArray_ofList, String.ofList_toList]
  rw [bytes, String.toUTF8_eq_toByteArray, hs, List.utf8Encode, List.data_toByteArray]

/-- Bytes are compared from the left. -/
theorem cons_lt_cons {x y : Nat} {s t : List UInt8} (hle : x ≤ y) (hy : y < 256) (h : x = y → s < t) :
    UInt8.ofNat x :: s < UInt8.ofNat y :: t := by
  rw [List.cons_lt_cons_iff]
  rcases Nat.lt_or_eq_of_le hle with hlt | heq
  · left
    rw [UInt8.lt_iff_toNat_lt, UInt8.toNat_ofNat', UInt8.toNat_ofNat', Nat.mod_eq_of_lt (by omega),
      Nat.mod_eq_of_lt hy]
    exact hlt
  · exact .inr ⟨by rw [heq], h heq⟩

theorem toNat_val_lt (c : Char) : c.val.toNat < 1114112 := by
  have hc := c.valid
  simp only [UInt32.isValidChar, Nat.isValidChar] at hc
  omega

/-- Whatever follows, a lesser character has lesser bytes. -/
theorem utf8EncodeChar_append_lt {c d : Char} (h : c < d) (s t : List UInt8) :
    String.utf8EncodeChar c ++ s < String.utf8EncodeChar d ++ t := by
  have hlt : c.val.toNat < d.val.toNat := UInt32.lt_iff_toNat_lt.mp h
  have hd := toNat_val_lt d
  simp only [String.utf8EncodeChar]
  generalize c.val.toNat = m at hlt
  generalize d.val.toNat = n at hlt hd
  -- of characters with as many bytes the first byte that differs decides, and else the first one does
  split
  case isTrue =>
    split
    case isTrue => exact cons_lt_cons (by omega) (by omega) (by omega)
    case isFalse => split <;> [skip; split] <;> exact cons_lt_cons (by omega) (by omega) (by omega)
  case isFalse =>
    rw [if_neg (show ¬ n ≤ 127 by omega)]
    split
    case isTrue =>
      split
      case isTrue =>
        refine cons_lt_cons (by omega) (by omega) fun _ => ?_
        exact cons_lt_cons (by omega) (by omega) (by omega)
      case isFalse => split <;> exact cons_lt_cons (by omega) (by omega) (by omega)
    case isFalse =>
      rw [if_neg (show ¬ n ≤ 2047 by omega)]
      split
      case isTrue =>
        split
        case isTrue =>
          refine cons_lt_cons (by omega) (by omega) fun _ => ?_
          refine cons_lt_cons (by omega) (by omega) fun _ => ?_
          exact cons_lt_cons (by omega) (by omega) (by omega)
        case isFalse => exact cons_lt_cons (by omega) (by omega) (by omega)
      case isFalse =>
        rw [if_neg (show ¬ n ≤ 65535 by omega)]
        refine cons_lt_cons (by omega) (by omega) fun _ => ?_
        refine cons_lt_cons (by omega) (by omega) fun _ => ?_
        refine cons_lt_cons (by omega) (by omega) fun _ => ?_
        exact cons_lt_cons (by omega) (by omega) (by omega)

theorem flatMap_utf8EncodeChar_lt {s t : List Char} (h : s < t) :
    s.flatMap String.utf8EncodeChar < t.flatMap String.utf8EncodeChar := by
  induction s generalizing t with
  | nil =>
    cases t with
    | nil => exact absurd h (List.lt_irrefl [])
    | cons d t =>
      obtain ⟨x, xs, hx⟩ := List.exists_cons_of_ne_nil (String.utf8EncodeChar_ne_nil (c := d))
      rw [List.flatMap_cons, hx]
      exact List.nil_lt_cons x _
  | cons c s ih =>
    cases t with
    | nil => exact absurd h (List.not_lt_nil _)
    | cons d t =>
      rw [List.flatMap_cons, List.flatMap_cons]
      rcases List.cons_lt_cons_iff.mp h with hlt | ⟨rfl, hst⟩
      · exact utf8EncodeChar_append_lt hlt _ _
      · exact List.append_left_lt (ih hst)

/-- **Texts are in the order of their bytes.** -/
theorem bytes_lt_iff {a b : String} : bytes a < bytes b ↔ a < b := by
  have hmono {a b : String} (h : a < b) : bytes a < bytes b := by
    rw [bytes_eq, bytes_eq]
    exact flatMap_utf8EncodeChar_lt (String.lt_iff.mp h)
  refine ⟨fun h => ?_, hmono⟩
  rcases lt_trichotomy a b with hlt | rfl | hgt
  · exact hlt
  · exact absurd h (List.lt_irrefl _)
  · exact absurd h (List.lt_asymm (hmono hgt))

end DeviceMemory.Text
