import DeviceMemory.Files

/-!
# Writing through a buffer

A `Writer` collects what is written to an open file and hands it over in pieces: when it is told to, when
the next data finds no room, and at once where data alone would fill the buffer. What the file refuses
stays in the buffer and is tried again the next time.
-/

namespace DeviceMemory

/-- An open file behind a buffer. -/
structure Writer where
  /-- The file. -/
  target : OpenFile
  /-- The bytes that the file has not got yet. -/
  pending : ByteArray := .empty

/-- What an attempt to write comes to. -/
structure Attempt where
  /-- The files afterwards. -/
  files : Files
  /-- The writer afterwards. -/
  writer : Writer
  /-- Why the file refused data, if it did. -/
  error? : Option FileError := none

/-- One attempt and, unless it failed, another. -/
def Attempt.andThen (a : Attempt) (next : Files → Writer → Attempt) : Attempt :=
  match a.error? with
  | none => next a.files a.writer
  | some _ => a

theorem Attempt.andThen_of_none {a : Attempt} (h : a.error? = none) (next : Files → Writer → Attempt) :
    a.andThen next = next a.files a.writer := by
  simp only [andThen, h]

theorem Attempt.andThen_of_some {a : Attempt} {e : FileError} (h : a.error? = some e)
    (next : Files → Writer → Attempt) : a.andThen next = a := by
  simp only [andThen, h]

namespace Writer

/-- The most bytes that the buffer takes. -/
def capacity : Nat := 8192

/-- The bytes that the buffer still takes. -/
def room (w : Writer) : Nat := capacity - w.pending.size

/-- Hands data over to the file past the buffer. -/
def handOver (f : Files) (w : Writer) (data : ByteArray) : Attempt :=
  match f.write w.target data with
  | .ok (f, o) => { files := f, writer := { w with target := o } }
  | .error e => { files := f, writer := w, error? := some e }

/-- Hands over what is in the buffer, if there is anything. -/
def flush (f : Files) (w : Writer) : Attempt :=
  if w.pending.size = 0 then { files := f, writer := w }
  else (w.handOver f w.pending).andThen fun f w => { files := f, writer := { w with pending := .empty } }

/-- Hands over what is in the buffer if there is no room for `n` bytes. -/
def makeRoom (f : Files) (w : Writer) (n : Nat) : Attempt :=
  if w.room < n then w.flush f else { files := f, writer := w }

/-- Takes data, into the buffer, or past it if the data alone would fill it. -/
def put (f : Files) (w : Writer) (data : ByteArray) : Attempt :=
  (w.makeRoom f data.size).andThen fun f w =>
    if capacity ≤ data.size then w.handOver f data
    else { files := f, writer := { w with pending := w.pending ++ data } }

/-- Writes a line and leaves nothing of it in the buffer, unless the file refuses it. -/
def writeLine (f : Files) (w : Writer) (text : String) : Attempt :=
  ((w.put f text.toUTF8).andThen fun f w => w.put f "\n".toUTF8).andThen fun f w => w.flush f

end Writer

end DeviceMemory
