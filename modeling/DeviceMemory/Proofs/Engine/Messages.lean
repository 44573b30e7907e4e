import DeviceMemory.Proofs.ByteSize.Quantity
import DeviceMemory.Proofs.Engine.Course
import DeviceMemory.Proofs.Engine.Lines
import DeviceMemory.Proofs.Text.Fields

/-!
# What a message tells

A message is made of fields: numbers without bounds, names filled up to a column, a quantity with a blank and a
point of its own, a list of any length, what may be left out at the end, and a line for each account. Where a
field stops can be seen at each joint, so two messages are the same just if they show the same
(`Entry.text_eq_iff`).

## The model

`Entry.ShowsSame` is what two entries have in common that show the same. All of an entry is shown exactly but
the quantities, which are rounded. A message has one line for its event and one for each account
(`Entry.splitOn_text`).
-/

namespace DeviceMemory

open Text (cut_unique splitOn_append_flatMap_cons not_mem_toDigits toDigits_injective)

/-! ### Fields -/

/-- A quantity is written with digits, a point, a blank and the letters of the units. -/
theorem ByteSize.not_mem_text {c : Char} (hd : c.isDigit = false) (hc : c ∉ ['.', ' '])
    (hu : ∀ name ∈ "" :: unitNames, c ∉ name.toList) (n : Nat) : c ∉ (text n).toList := by
  rw [List.mem_pair, not_or] at hc
  rw [text, Reading.toList_text, List.mem_append, List.mem_cons]
  rintro (h | rfl | h)
  · rcases Reading.isDigit_or_point_of_mem_number h with hdigit | rfl
    · rw [hd] at hdigit
      cases hdigit
    · exact hc.1 rfl
  · exact hc.2 rfl
  · exact hu _ (Reading.unitName_mem _) h

/-- Dimensions stand between brackets: the first, and each of the others after a comma and a blank. -/
theorem toList_shapeText_cons (n : Nat) (shape : List Nat) : (shapeText (n :: shape)).toList =
    '[' :: (Nat.toDigits 10 n ++ (shape.map fun m => ' ' :: Nat.toDigits 10 m).flatMap (',' :: ·)) ++ [']'] := by
  simp only [shapeText, String.toList_append, String.toList_intercalate, List.map_cons, List.map_map,
    Text.intercalate_cons, List.flatMap_map, Nat.toString_eq_repr, Nat.toList_repr, Function.comp_def]
  rfl

theorem mem_shapeText {c : Char} {shape : List Nat} (h : c ∈ (shapeText shape).toList) :
    c.isDigit ∨ c ∈ ['[', ',', ' ', ']'] := by
  cases shape with
  | nil =>
    have hnil : (shapeText []).toList = ['[', ']'] := rfl
    rw [hnil, List.mem_pair] at h
    rcases h with rfl | rfl
    · exact .inr (by simp)
    · exact .inr (by simp)
  | cons n shape =>
    simp only [toList_shapeText_cons, List.mem_append, List.mem_cons, List.mem_flatMap, List.mem_map,
      List.not_mem_nil, or_false] at h
    rcases h with (rfl | hd | ⟨_, ⟨m, -, rfl⟩, rfl | h⟩) | rfl
    · exact .inr (by simp)
    · exact .inl (Text.isDigit_of_mem_toDigits hd)
    · exact .inr (by simp)
    · rcases List.mem_cons.mp h with rfl | hd
      · exact .inr (by simp)
      · exact .inl (Text.isDigit_of_mem_toDigits hd)
    · exact .inr (by simp)

theorem not_mem_shapeText {c : Char} (hd : c.isDigit = false) (hc : c ∉ ['[', ',', ' ', ']']) (shape : List Nat) :
    c ∉ (shapeText shape).toList := by
  intro h
  rcases mem_shapeText h with hdigit | hmem
  · rw [hd] at hdigit
    cases hdigit
  · exact hc hmem

/-- Dimensions are told by their text: split at the commas, it gives their digits. -/
theorem shapeText_injective {shape shape' : List Nat} (h : (shapeText shape).toList = (shapeText shape').toList) :
    shape = shape' := by
  have digits_ne {n : Nat} {shape : List Nat} : (shapeText (n :: shape)).toList ≠ '[' :: [] ++ [']'] := by
    rw [toList_shapeText_cons]
    intro h
    exact Nat.toDigits_ne_nil (List.append_eq_nil_iff.mp (List.cons.inj (List.append_cancel_right h)).2).1
  have splits (n : Nat) (shape : List Nat) :
      (Nat.toDigits 10 n ++ (shape.map fun m => ' ' :: Nat.toDigits 10 m).flatMap (',' :: ·)).splitOn ',' =
        Nat.toDigits 10 n :: shape.map fun m => ' ' :: Nat.toDigits 10 m := by
    refine splitOn_append_flatMap_cons (not_mem_toDigits rfl n) fun piece hp => ?_
    obtain ⟨m, -, rfl⟩ := List.mem_map.mp hp
    exact List.not_mem_cons_of_ne_of_not_mem (by decide) (not_mem_toDigits rfl m)
  cases shape with
  | nil =>
    cases shape' with
    | nil => rfl
    | cons n shape' => exact absurd h.symm digits_ne
  | cons n shape =>
    cases shape' with
    | nil => exact absurd h digits_ne
    | cons n' shape' =>
      rw [toList_shapeText_cons, toList_shapeText_cons] at h
      have hsplit := congrArg (List.splitOn ',') (List.cons.inj (List.append_cancel_right h)).2
      rw [splits, splits] at hsplit
      obtain ⟨hfirst, hothers⟩ := List.cons.inj hsplit
      rw [toDigits_injective hfirst]
      congr 1
      refine List.map_injective_iff.mpr (fun m m' hm => ?_) hothers
      exact toDigits_injective (List.cons.inj hm).2

/-! ### Names -/

/-- A word fills its column and is told by it. -/
theorem Event.column_injective {event event' : Event}
    (h : Text.column 8 event.name = Text.column 8 event'.name) : event = event' := by
  cases event <;> cases event' <;> first | rfl | exact absurd h (by decide)

theorem Event.length_column (event : Event) : (Text.column 8 event.name).toList.length = 8 := by
  cases event <;> decide

theorem Account.column_injective {a a' : Account} (h : Text.column 16 a.name = Text.column 16 a'.name) : a = a' := by
  have hall : ∀ a ∈ byName, ∀ a' ∈ byName, Text.column 16 a.name = Text.column 16 a'.name → a = a' := by decide
  exact hall a (mem_byName a) a' (mem_byName a') h

theorem Account.length_column (a : Account) : (Text.column 16 a.name).toList.length = 16 := by
  have hall : ∀ a ∈ byName, (Text.column 16 a.name).toList.length = 16 := by decide
  exact hall a (mem_byName a)

theorem BlockId.toList_text (id : BlockId) :
    id.text.toList = "MemoryId(".toList ++ (Nat.toDigits 10 id.number ++ [')']) := by
  simp only [text, String.toList_append, Nat.toString_eq_repr, Nat.toList_repr, List.append_assoc]
  rfl

theorem BlockId.text_injective {id id' : BlockId} (h : id.text.toList = id'.text.toList) : id = id' := by
  rw [toList_text, toList_text] at h
  have hn := toDigits_injective (List.append_cancel_right (List.append_cancel_left h))
  cases id
  cases id'
  exact congrArg BlockId.mk hn

theorem BlockId.not_mem_text {c : Char} (hd : c.isDigit = false) (hc : c ∉ "MemoryId()".toList) (id : BlockId) :
    c ∉ id.text.toList := by
  have hne : c ∉ "MemoryId(".toList ∧ c ∉ [')'] := by
    rw [← not_or, ← List.mem_append]
    exact hc
  rw [toList_text, List.mem_append, List.mem_append]
  rintro (h | h | h)
  · exact hne.1 h
  · exact not_mem_toDigits hd _ h
  · exact hne.2 h

namespace Entry

/-! ### The line about an event -/

theorem placementName_injective {x y : Entry} (h : x.placementName = y.placementName) : x.placement = y.placement := by
  unfold placementName at h
  cases hx : x.placement with
  | none =>
    cases hy : y.placement with
    | none => rfl
    | some q => cases q <;> simp [hx, hy, Placement.name] at h
  | some p =>
    cases hy : y.placement with
    | none => cases p <;> simp [hx, hy, Placement.name] at h
    | some q => cases p <;> cases q <;> simp [hx, hy, Placement.name] at h ⊢

theorem not_mem_placementName {c : Char}
    (hc : ∀ name ∈ "external" :: Placement.all.map Placement.name, c ∉ name.toList) (e : Entry) :
    c ∉ e.placementName.toList := by
  apply hc
  unfold placementName
  split
  · exact List.mem_cons_of_mem _ (List.mem_map_of_mem (Placement.mem_all _))
  · exact List.mem_cons_self

/-- What a message shows of an account: the name, and the bytes in use as people read them. -/
def shown (s : Account × Nat) : String × String := (s.1.name, ByteSize.text s.2)

/-- Two entries show the same: quantities as far as they are shown, and all else exactly. -/
structure ShowsSame (x y : Entry) : Prop where
  /-- What happened, -/
  event_eq : x.event = y.event
  /-- the stream that the block was made from, -/
  maker_eq : x.maker = y.maker
  /-- the block, -/
  block_eq : x.block = y.block
  /-- its placement, or that others own it, -/
  placement_eq : x.placement = y.placement
  /-- its size as it is shown, -/
  size_eq : ByteSize.text x.size = ByteSize.text y.size
  /-- its shape, -/
  shape_eq : x.shape = y.shape
  /-- the stream that gave it back, where it is told, -/
  freedFrom_eq : x.freedFrom = y.freedFrom
  /-- and the accounts that are listed. -/
  statistics_eq : x.statistics.map shown = y.statistics.map shown

section Same

variable {x y : Entry}

/-- Lines that are the same are about the same event. What the line begins and ends with are told apart first; the
fields between are then cut off one by one. -/
theorem showsSame_of_line_eq (h : x.line = y.line) (hs : x.statistics.map shown = y.statistics.map shown) :
    x.ShowsSame y := by
  have hline : x.line.toList = y.line.toList := congrArg String.toList h
  have hmaker : x.maker = y.maker := by
    have hprefix := (x.maker_iff_prefix x.maker.number).mpr rfl
    rw [hline, y.maker_iff_prefix] at hprefix
    exact hprefix.symm
  have hfreed : x.freedFrom = y.freedFrom := Option.ext fun s => by
    rw [← x.freedFrom_iff_suffix s.number, hline, y.freedFrom_iff_suffix s.number]
  rw [x.toList_line, y.toList_line, hmaker] at hline
  obtain ⟨hevent, hline⟩ := List.append_inj (List.append_cancel_left hline)
    (x.event.length_column.trans y.event.length_column.symm)
  have hblank (id : BlockId) : ' ' ∉ id.text.toList := BlockId.not_mem_text rfl (by decide) id
  obtain ⟨hblock, hline⟩ := cut_unique (hblank x.block) (hblank y.block) (List.cons.inj hline).2
  have hblank' (e : Entry) : ' ' ∉ e.placementName.toList := e.not_mem_placementName (by decide)
  obtain ⟨hplacement, hline⟩ := cut_unique (hblank' x) (hblank' y) hline
  -- a quantity has a blank of its own, but no bracket
  have hbracket (n : Nat) : '(' ∉ (ByteSize.text n).toList ++ [' '] := by
    rw [List.mem_append, not_or]
    exact ⟨ByteSize.not_mem_text rfl (by decide) (by decide) n, by decide⟩
  rw [List.append_cons, List.append_cons (ByteSize.text y.size).toList] at hline
  obtain ⟨hsize, hline⟩ := cut_unique (hbracket x.size) (hbracket y.size) hline
  obtain ⟨hshape, -⟩ := cut_unique (not_mem_shapeText rfl (by decide) x.shape)
    (not_mem_shapeText rfl (by decide) y.shape) hline
  exact {
    event_eq := Event.column_injective (String.toList_injective hevent)
    maker_eq := hmaker
    block_eq := BlockId.text_injective hblock
    placement_eq := placementName_injective (String.toList_injective hplacement)
    size_eq := String.toList_injective (List.append_cancel_right hsize)
    shape_eq := shapeText_injective hshape
    freedFrom_eq := hfreed
    statistics_eq := hs }

theorem ShowsSame.line_eq (h : x.ShowsSame y) : x.line = y.line := by
  have hplacement : x.placementName = y.placementName := by rw [placementName, placementName, h.placement_eq]
  have hfreed : x.freedFromText = y.freedFromText := by rw [freedFromText, freedFromText, h.freedFrom_eq]
  apply String.toList_injective
  rw [toList_line, toList_line, h.event_eq, h.maker_eq, h.block_eq, hplacement, h.size_eq, h.shape_eq, hfreed]

end Same

/-! ### Lines of a message -/

/-- The line about one account, without the line end in front of it. -/
def accountField (s : Account × Nat) : String :=
  "  - " ++ Text.column 16 (shown s).1 ++ " " ++ (shown s).2

theorem toList_accountLine (s : Account × Nat) : (accountLine s).toList = '\n' :: (accountField s).toList := by
  simp [accountLine, accountField, shown, String.toList_append]

/-- The line about an account shows its name and the bytes in use, and nothing else. -/
theorem accountField_eq_iff {s s' : Account × Nat} : accountField s = accountField s' ↔ shown s = shown s' := by
  constructor
  · intro h
    have hfields := congrArg String.toList h
    simp only [accountField, shown, String.toList_append, List.append_assoc] at hfields
    obtain ⟨hname, hrest⟩ := List.append_inj (List.append_cancel_left hfields)
      (s.1.length_column.trans s'.1.length_column.symm)
    rw [shown, shown, Account.column_injective (String.toList_injective hname),
      String.toList_injective (List.append_cancel_left hrest)]
  · intro h
    rw [accountField, accountField, h]

theorem newline_not_mem_quantity (n : Nat) : '\n' ∉ (ByteSize.text n).toList :=
  ByteSize.not_mem_text rfl (by decide) (by decide) n

theorem newline_not_mem_accountField (s : Account × Nat) : '\n' ∉ (accountField s).toList := by
  have hname : ∀ a ∈ Account.byName, '\n' ∉ ("  - " ++ Text.column 16 a.name ++ " ").toList := by decide
  rw [accountField, String.toList_append, List.mem_append, not_or]
  exact ⟨hname s.1 (Account.mem_byName s.1), newline_not_mem_quantity s.2⟩

theorem newline_not_mem_opener (n : Nat) : '\n' ∉ (opener n).toList := by
  rw [toList_opener, List.mem_append, List.mem_append, not_or, not_or]
  exact ⟨by decide, not_mem_toDigits rfl n, by decide⟩

theorem newline_not_mem_freedFromText (e : Entry) : '\n' ∉ e.freedFromText.toList := by
  cases h : e.freedFrom with
  | none =>
    rw [e.freedFromText_of_none h]
    exact List.not_mem_nil
  | some s =>
    rw [e.freedFromText_of_some h, toList_closer, List.mem_append, List.mem_cons, not_or, not_or]
    exact ⟨by decide, by decide, not_mem_toDigits rfl s.number⟩

/-- No field of a line has a line end. -/
theorem newline_not_mem_line (e : Entry) : '\n' ∉ e.line.toList := by
  have hevent : '\n' ∉ (Text.column 8 e.event.name).toList := by cases e.event <;> decide
  have hplacement : '\n' ∉ e.placementName.toList := e.not_mem_placementName (by decide)
  have hblank : '\n' ≠ ' ' := by decide
  simp only [toList_line, List.mem_append, List.mem_cons, not_or]
  exact ⟨newline_not_mem_opener _, hevent, hblank, BlockId.not_mem_text rfl (by decide) _, hblank, hplacement, hblank,
    newline_not_mem_quantity _, hblank, by decide, not_mem_shapeText rfl (by decide) _, by decide,
    e.newline_not_mem_freedFromText⟩

theorem toList_text (e : Entry) : e.text.toList =
    e.line.toList ++ (e.statistics.map fun s => (accountField s).toList).flatMap ('\n' :: ·) := by
  rw [text, String.toList_append, String.toList_join, List.flatMap_map, List.flatMap_map]
  simp only [toList_accountLine]

/-- **A message has a line for its event and one for each account.** -/
theorem splitOn_text (e : Entry) :
    e.text.toList.splitOn '\n' = e.line.toList :: e.statistics.map fun s => (accountField s).toList := by
  rw [toList_text]
  refine splitOn_append_flatMap_cons e.newline_not_mem_line fun piece hp => ?_
  obtain ⟨s, -, rfl⟩ := List.mem_map.mp hp
  exact newline_not_mem_accountField s

/-- **Messages are the same just if they show the same.** -/
theorem text_eq_iff {x y : Entry} : x.text = y.text ↔ x.ShowsSame y := by
  constructor
  · intro h
    have hlines := congrArg (fun text : String => text.toList.splitOn '\n') h
    simp only [splitOn_text] at hlines
    obtain ⟨hline, haccounts⟩ := List.cons.inj hlines
    obtain ⟨read, hread⟩ : ∃ read, shown = read ∘ fun s => (accountField s).toList :=
      (Function.factorsThrough_iff shown).mp fun s s' h => accountField_eq_iff.mp (String.toList_injective h)
    refine showsSame_of_line_eq (String.toList_injective hline) ?_
    rw [hread, ← List.map_map, haccounts, List.map_map]
  · intro h
    have haccounts (e : Entry) : e.statistics.map accountLine =
        (e.statistics.map shown).map fun s => "\n  - " ++ Text.column 16 s.1 ++ " " ++ s.2 := by
      rw [List.map_map]
      rfl
    rw [text, text, h.line_eq, haccounts, haccounts, h.statistics_eq]

theorem takeWhile_text (e : Entry) : e.text.toList.takeWhile (· ≠ '\n') = e.line.toList := by
  have hline : ∀ c ∈ e.line.toList, (decide (c ≠ '\n')) = true := fun c hc => by
    rw [decide_eq_true_eq]
    rintro rfl
    exact e.newline_not_mem_line hc
  rw [toList_text, List.takeWhile_append_of_pos hline]
  cases e.statistics <;> simp

theorem count_newline_text (e : Entry) : e.text.toList.count '\n' = e.statistics.length := by
  have haccount (s : Account × Nat) : ('\n' :: (accountField s).toList).count '\n' = 1 := by
    rw [List.count_cons_self, List.count_eq_zero_of_not_mem (newline_not_mem_accountField s)]
  rw [toList_text, List.count_append, List.count_eq_zero_of_not_mem e.newline_not_mem_line, List.flatMap_map,
    List.count_flatMap]
  simp [Function.comp_def, haccount]

end Entry

/-! ### What the log is asked to tell -/

/-- What the log is asked to tell: what happened to a block, while which thread was at work, and how many bytes are
in use. -/
structure Notice (ρ : Type) where
  /-- What happened. -/
  event : Event
  /-- The block. -/
  block : Block ρ
  /-- The stream of the thread at work. -/
  stream : Stream
  /-- The bytes in use per account. -/
  statistics : List (Account × Nat)

namespace Notice

variable {ρ ρ' : Type}

/-- The stream that gave the block back, if it is not the one that made it. -/
def freedFrom? (n : Notice ρ) : Option Stream :=
  if n.event = .freed ∧ n.stream ≠ n.block.stream then some n.stream else none

/-- The accounts that are listed for a detail of the log. -/
def listed (n : Notice ρ) : LogDetail → List (Account × Nat)
  | .full => n.statistics
  | .basic | .disabled => []

/-- What the log tells in a given detail. -/
def entry (n : Notice ρ) (detail : LogDetail) : Entry :=
  { Engine.entryOf n.event n.block n.freedFrom? with statistics := n.listed detail }

/-- The message of the log in a given detail. -/
def message (n : Notice ρ) (detail : LogDetail) : String := (n.entry detail).text

/-- Without statistics, a message is the line about its event, which is the same in every detail. -/
theorem message_basic (n : Notice ρ) (detail : LogDetail) : n.message .basic = (n.entry detail).line := by
  have hline : (n.entry .basic).line = (n.entry detail).line :=
    String.toList_injective (by rw [Entry.toList_line, Entry.toList_line]; rfl)
  rw [message, Entry.text, hline]
  exact String.append_empty

/-- Notices that show the same when a block was given back are about the same stream, also where it is not told because
the block was made from it. -/
theorem stream_eq {n : Notice ρ} {n' : Notice ρ'} {detail detail' : LogDetail}
    (h : (n.entry detail).ShowsSame (n'.entry detail')) (hf : n.event = .freed) : n.stream = n'.stream := by
  have hfreed : n.freedFrom? = n'.freedFrom? := h.freedFrom_eq
  have hf' : n'.event = .freed := h.event_eq.symm.trans hf
  have hmaker : n.block.stream = n'.block.stream := h.maker_eq
  by_cases hs : n.stream = n.block.stream
  · by_cases hs' : n'.stream = n'.block.stream
    · rw [hs, hs', hmaker]
    · simp [freedFrom?, hf, hf', hs, hs'] at hfreed
  · by_cases hs' : n'.stream = n'.block.stream
    · simp [freedFrom?, hf, hf', hs, hs'] at hfreed
    · simpa [freedFrom?, hf, hf', hs, hs'] using hfreed

end Notice

end DeviceMemory
