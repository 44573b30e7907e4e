import DeviceMemory.Toml.Statement

/-!
# TOML documents

The statements of a document, taken in order, build its root table. Keys belong to
the table of the last header. A header may declare a table that so far only
exists because of the tables below it, but none that has been declared or made by
dotted keys.
-/

namespace DeviceMemory.Toml

/-- A document of which some statements have been taken. -/
structure Draft where
  /-- The root table. -/
  root : Entries
  /-- The path of the last header. -/
  current : List String

/-- The entries with a table declared under the name `k`. -/
def declare (k : String) (es : Entries) : Option Entries :=
  match es.lookup k with
  | none => some (es ++ [(k, .table .declared [])])
  | some (.table .implied below) => some (es.replace k (.table .declared below))
  | some _ => none

/-- The entries with one more element in the array of tables named `k`. -/
def extend (k : String) (es : Entries) : Option Entries :=
  match es.lookup k with
  | none => some (es ++ [(k, .tables [[]])])
  | some (.tables items) => some (es.replace k (.tables (items ++ [[]])))
  | some _ => none

namespace Draft

/-- The draft whose current table, found from the root, is changed. -/
def atPath (path : List String) (change : Entries → Option Entries) (d : Draft) : Option Entries :=
  alter false (fun _ es => change es) path .declared d.root

/-- The draft with one more statement. -/
def take (d : Draft) : Statement → Option Draft
  | .pair key v => (d.atPath d.current (assign key v)).map fun root => { d with root }
  | .header path =>
    match path.getLast? with
    | none => none
    | some k => (d.atPath path.dropLast (declare k)).map fun root => ⟨root, path⟩
  | .element path =>
    match path.getLast? with
    | none => none
    | some k => (d.atPath path.dropLast (extend k)).map fun root => ⟨root, path⟩

end Draft

/-- The root table of a document, if the text is one. -/
def parse? (text : String) : Option Value :=
  (statements? text.toList).bind fun sts =>
    (sts.foldlM Draft.take ⟨[], []⟩).map fun d => .table (finishEntries d.root)

end DeviceMemory.Toml
