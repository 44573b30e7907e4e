import DeviceMemory.Logger

/-!
# Lines go through the buffer

A line that is written through a buffer is in the file as soon as it is written, however long it is, if
the file takes what it is given (`Writer.takes_writeLine`). If the file refuses everything, each line
fails once, be it on its way into the buffer or when the buffer is emptied, and all that changes is what
is left in the buffer (`Writer.writeLine_of_refuses`).

## The model

`Writer.Holds` is a view of a writer: the bytes of the file with the bytes in the buffer behind them. To
put data adds to the view, to flush leaves it alone.
-/

namespace DeviceMemory

/-! ### Files that take data -/

/-- Bytes that are written to an open file go behind the contents `c`. -/
def OpenFile.AtEnd (o : OpenFile) (c : ByteArray) : Prop := o.position = none ∨ o.position = some c.size

/-- An open file after `n` bytes were written to it. -/
def OpenFile.advance (o : OpenFile) (n : Nat) : OpenFile := { o with position := o.position.map (· + n) }

theorem OpenFile.AtEnd.advance {o : OpenFile} {c : ByteArray} (h : o.AtEnd c) (data : ByteArray) :
    (o.advance data.size).AtEnd (c ++ data) := by
  rcases h with h | h
  · exact .inl (by simp [OpenFile.advance, h])
  · exact .inr (by simp [OpenFile.advance, h, ByteArray.size_append])

namespace Files

/-- What is written over contents from their end on goes behind them. -/
theorem overwrite_size (c data : ByteArray) : overwrite c c.size data = c ++ data := by
  have hzeros : zeros (c.size - c.size) = .empty := by
    rw [Nat.sub_self]
    rfl
  have hrest : c.extract (c.size + data.size) c.size = .empty := by
    rw [ByteArray.extract_eq_empty_iff]
    omega
  rw [overwrite, hzeros, hrest, ByteArray.extract_zero_size, ByteArray.append_empty, ByteArray.append_empty]

theorem write_of_regular {f : Files} {o : OpenFile} {c : ByteArray}
    (hf : f.get? o.location = some (.regular c)) (ho : o.AtEnd c) (data : ByteArray) :
    f.write o data = .ok (f.set o.location (.regular (c ++ data)), o.advance data.size) := by
  obtain ⟨location, position⟩ := o
  rcases ho with ho | ho <;> cases ho
  · simp only [write, hf]
    rfl
  · simp only [write, hf, overwrite_size]
    rfl

/-- Nothing can be written at a place. -/
def Refuses (f : Files) (l : Location) (e : FileError) : Prop :=
  ∀ o data, o.location = l → f.write o data = .error e

/-- A full device refuses everything. -/
theorem refuses_of_full {f : Files} {l : Location} (h : f.get? l = some .full) : f.Refuses l .noSpace := by
  rintro o data rfl
  simp only [write, h]

end Files

/-! ### A file that takes what it is given -/

namespace Writer

/-- The file of a writer, and behind it what is in the buffer, are `bytes`. -/
def Holds (w : Writer) (f : Files) (bytes : ByteArray) : Prop :=
  ∃ c, f.get? w.target.location = some (.regular c) ∧ w.target.AtEnd c ∧ c ++ w.pending = bytes

/-- An attempt to write succeeded; the same file is open in the same way, and with what is in the buffer it
has `bytes`. -/
structure Takes (w : Writer) (a : Attempt) (bytes : ByteArray) : Prop where
  /-- Nothing was refused. -/
  error?_eq : a.error? = none
  /-- The file is the same. -/
  location_eq : a.writer.target.location = w.target.location
  /-- It has a position if it had one. -/
  isNone_position : a.writer.target.position.isNone = w.target.position.isNone
  /-- It has `bytes`. -/
  holds : a.writer.Holds a.files bytes

variable {f : Files} {w : Writer} {bytes : ByteArray}

theorem Holds.takes (h : w.Holds f bytes) : w.Takes { files := f, writer := w } bytes := ⟨rfl, rfl, rfl, h⟩

/-- Attempts that succeed one after the other succeed together. -/
theorem Takes.andThen {a : Attempt} (h : w.Takes a bytes) {next : Files → Writer → Attempt}
    {bytes' : ByteArray} (hnext : a.writer.Takes (next a.files a.writer) bytes') :
    w.Takes (a.andThen next) bytes' := by
  rw [a.andThen_of_none h.error?_eq]
  exact ⟨hnext.error?_eq, hnext.location_eq.trans h.location_eq,
    hnext.isNone_position.trans h.isNone_position, hnext.holds⟩

theorem takes_handOver (h : w.Holds f bytes) (hp : w.pending = .empty) (data : ByteArray) :
    w.Takes (w.handOver f data) (bytes ++ data) ∧ (w.handOver f data).writer.pending = .empty := by
  obtain ⟨c, hf, ho, rfl⟩ := h
  rw [handOver, Files.write_of_regular hf ho]
  refine ⟨⟨rfl, rfl, by simp [OpenFile.advance], c ++ data, ?_, ho.advance data, ?_⟩, hp⟩
  · simp [OpenFile.advance]
  · simp [hp]

/-- To flush leaves the bytes as they are and nothing in the buffer. -/
theorem takes_flush (h : w.Holds f bytes) :
    w.Takes (w.flush f) bytes ∧ (w.flush f).writer.pending = .empty := by
  by_cases hp : w.pending.size = 0
  · rw [flush, if_pos hp]
    exact ⟨h.takes, ByteArray.size_eq_zero_iff.mp hp⟩
  · obtain ⟨c, hf, ho, rfl⟩ := h
    rw [flush, if_neg hp, handOver, Files.write_of_regular hf ho, Attempt.andThen_of_none rfl]
    refine ⟨⟨rfl, rfl, by simp [OpenFile.advance], c ++ w.pending, ?_, ho.advance w.pending, ?_⟩, rfl⟩
    · simp [OpenFile.advance]
    · exact ByteArray.append_empty

/-- Where room is made for as much as the buffer can take, nothing stays in it. -/
theorem takes_makeRoom (h : w.Holds f bytes) (n : Nat) :
    w.Takes (w.makeRoom f n) bytes ∧ (capacity ≤ n → (w.makeRoom f n).writer.pending = .empty) := by
  unfold makeRoom
  split
  case isTrue hr => exact ⟨(takes_flush h).1, fun _ => (takes_flush h).2⟩
  case isFalse hr =>
    refine ⟨h.takes, fun hn => ByteArray.size_eq_zero_iff.mp ?_⟩
    change w.pending.size = 0
    simp only [Writer.room, capacity] at hr hn
    omega

/-- Data that is put goes behind all bytes, whether it passes the buffer or not. -/
theorem takes_put (h : w.Holds f bytes) (data : ByteArray) : w.Takes (w.put f data) (bytes ++ data) := by
  obtain ⟨ht, hempty⟩ := takes_makeRoom h data.size
  refine ht.andThen ?_
  split
  case isTrue hc => exact (takes_handOver ht.holds (hempty hc) data).1
  case isFalse hc =>
    obtain ⟨c, hf, ho, hb⟩ := ht.holds
    exact ⟨rfl, rfl, rfl, c, hf, ho, by rw [← ByteArray.append_assoc, hb]⟩

/-- **A line is behind all bytes as soon as it is written**, and nothing of it stays in the buffer. -/
theorem takes_writeLine (h : w.Holds f bytes) (text : String) :
    w.Takes (w.writeLine f text) (bytes ++ (text ++ "\n").toUTF8) ∧
      (w.writeLine f text).writer.pending = .empty := by
  have htext := takes_put h text.toUTF8
  have hline : w.Takes ((w.put f text.toUTF8).andThen fun f w => w.put f "\n".toUTF8)
      (bytes ++ text.toUTF8 ++ "\n".toUTF8) := htext.andThen (takes_put htext.holds "\n".toUTF8)
  have hbytes : bytes ++ (text ++ "\n").toUTF8 = bytes ++ text.toUTF8 ++ "\n".toUTF8 := by
    rw [ByteArray.append_assoc]
    exact congrArg (bytes ++ ·) String.toByteArray_append
  rw [hbytes]
  refine ⟨hline.andThen (takes_flush hline.holds).1, ?_⟩
  rw [writeLine, Attempt.andThen_of_none hline.error?_eq]
  exact (takes_flush hline.holds).2

/-! ### A file that refuses everything -/

theorem handOver_of_refuses {e : FileError} (h : f.Refuses w.target.location e) (data : ByteArray) :
    w.handOver f data = { files := f, writer := w, error? := some e } := by
  simp only [handOver, h _ data rfl]

/-- What is in the buffer stays there. -/
theorem flush_of_refuses {e : FileError} (h : f.Refuses w.target.location e) :
    w.flush f = { files := f, writer := w, error? := if w.pending.size = 0 then none else some e } := by
  unfold flush
  split
  · rfl
  · rw [handOver_of_refuses h, Attempt.andThen]

/-- Room is made by what is in the buffer alone, which the file refuses. -/
theorem makeRoom_of_refuses {e : FileError} (h : f.Refuses w.target.location e) (n : Nat) :
    w.makeRoom f n = { files := f, writer := w, error? := some e } ∨
      w.makeRoom f n = { files := f, writer := w } := by
  unfold makeRoom
  rw [flush_of_refuses h]
  by_cases hr : w.room < n <;> by_cases hp : w.pending.size = 0 <;> simp [hr, hp]

/-- Data goes into the buffer, or it is refused. -/
theorem put_of_refuses {e : FileError} (h : f.Refuses w.target.location e) (data : ByteArray) :
    w.put f data = { files := f, writer := w, error? := some e } ∨
      w.put f data = { files := f, writer := { w with pending := w.pending ++ data } } := by
  unfold put
  rcases makeRoom_of_refuses h data.size with hr | hr
  · rw [hr, Attempt.andThen_of_some rfl]
    exact .inl rfl
  · rw [hr, Attempt.andThen_of_none rfl]
    split
    · exact .inl (handOver_of_refuses h data)
    · exact .inr rfl

/-- **A line fails once**, on its way into the buffer or when the buffer is emptied. -/
theorem writeLine_of_refuses {e : FileError} (h : f.Refuses w.target.location e) (text : String) :
    ∃ pending, w.writeLine f text =
      { files := f, writer := { w with pending := pending }, error? := some e } := by
  -- the text and the line end are in the buffer, or one of them was refused
  have hput : ∃ pending, ((w.put f text.toUTF8).andThen fun f w => w.put f "\n".toUTF8) =
        { files := f, writer := { w with pending := pending }, error? := some e } ∨
      pending.size ≠ 0 ∧ ((w.put f text.toUTF8).andThen fun f w => w.put f "\n".toUTF8) =
        { files := f, writer := { w with pending := pending } } := by
    rcases put_of_refuses h text.toUTF8 with ht | ht
    · rw [ht, Attempt.andThen_of_some rfl]
      exact ⟨w.pending, .inl rfl⟩
    rw [ht, Attempt.andThen_of_none rfl]
    rcases put_of_refuses (w := { w with pending := w.pending ++ text.toUTF8 }) h "\n".toUTF8 with hn | hn
    · rw [hn]
      exact ⟨_, .inl rfl⟩
    · rw [hn]
      exact ⟨_, .inr ⟨by simp [ByteArray.size_append], rfl⟩⟩
  obtain ⟨pending, hfail | ⟨hsize, hput⟩⟩ := hput
  · rw [writeLine, hfail, Attempt.andThen_of_some rfl]
    exact ⟨pending, rfl⟩
  · rw [writeLine, hput, Attempt.andThen_of_none rfl, flush_of_refuses (w := { w with pending }) h, if_neg hsize]
    exact ⟨pending, rfl⟩

end Writer

end DeviceMemory
