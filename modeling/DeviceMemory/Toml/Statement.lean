import DeviceMemory.Toml.Number

/-!
# TOML: values and statements

A document is a sequence of statements, one a line: a key with its value, the
header of a table, or the header of an element of an array of tables. Values
nest, to a limited depth. An inline table is put together from its own keys and
values right away (`Assembly`).
-/

namespace DeviceMemory.Toml

/-! ### Putting tables together -/

/-- How a table came into being, which decides what may be added to it. -/
inductive Standing
  /-- By a header or by being written inline. -/
  | declared
  /-- By the header of a table below it. -/
  | implied
  /-- By a dotted key. -/
  | dotted
  deriving DecidableEq, Repr

/-- What a name of an unfinished table stands for. -/
inductive Node
  /-- A finished value. -/
  | value (v : Value)
  /-- A table that may still grow. -/
  | table (standing : Standing) (entries : List (String × Node))
  /-- An array of tables, of which the last may still grow. -/
  | tables (items : List (List (String × Node)))
  deriving Inhabited

/-- The contents of an unfinished table. -/
abbrev Entries := List (String × Node)

/-- The entries with the one named `k` replaced. -/
def Entries.replace (k : String) (n : Node) (es : Entries) : Entries :=
  es.map fun e => if e.1 = k then (k, n) else e

/-- What the table at the end of `path` becomes under `change`, and with it the whole. Tables on the
way that do not exist are made; an array of tables is entered at its last element. A dotted key
may not enter a table that has been declared. -/
def alter (dotted : Bool) (change : Standing → Entries → Option Entries) :
    List String → Standing → Entries → Option Entries
  | [], standing, es => change standing es
  | k :: path, _, es =>
    match es.lookup k with
    | none =>
      let made := if dotted then Standing.dotted else .implied
      (alter dotted change path made []).map fun below => es ++ [(k, .table made below)]
    | some (.value _) => none
    | some (.table standing below) =>
      if dotted && standing = .declared then none
      else (alter dotted change path standing below).map fun b => es.replace k (.table standing b)
    | some (.tables items) =>
      match items.getLast? with
      | none => none
      | some last =>
        (alter dotted change path .declared last).map fun b => es.replace k (.tables (items.dropLast ++ [b]))

/-- The entries with a value added under a dotted key. The table that gets it is either where the
key starts or was itself made by dotted keys, and has no such name yet. -/
def assign (key : List String) (v : Value) (es : Entries) : Option Entries :=
  match key.getLast? with
  | none => none
  | some k =>
    let path := key.dropLast
    let add (standing : Standing) (found : Entries) : Option Entries :=
      if decide (standing = .dotted) = path.isEmpty then none
      else if (found.lookup k).isSome then none
      else some (found ++ [(k, .value v)])
    alter true add path .declared es

mutual

/-- The finished value of a node. -/
def Node.finish : Node → Value
  | .value v => v
  | .table _ es => .table (finishEntries es)
  | .tables items => .array (finishTables items)

/-- The finished values of entries. -/
def finishEntries : List (String × Node) → List (String × Value)
  | [] => []
  | (k, n) :: rest => (k, n.finish) :: finishEntries rest

/-- The finished tables of an array. -/
def finishTables : List (List (String × Node)) → List Value
  | [] => []
  | es :: rest => .table (finishEntries es) :: finishTables rest

end

/-- The inline table with some keys and values. -/
def inlineTable? (pairs : List (List String × Value)) : Option Value :=
  (pairs.foldlM (fun es p => assign p.1 p.2 es) []).map fun es => .table (finishEntries es)

/-! ### Values -/

mutual

/-- A value, nested at most `depth` deep; `fuel` bounds the number of parts. -/
def valueWithin : Nat → Nat → List Char → Reading Value
  | 0, _, _ => none
  | fuel + 1, depth, s =>
    match s with
    | '[' :: rest =>
      match depth with
      | 0 => none
      | depth + 1 => (items fuel depth (skipTrivia false rest)).map fun p => (.array p.1, p.2)
    | '\x7b' :: rest =>
      match depth with
      | 0 => none
      | depth + 1 =>
        match skipBlanks rest with
        | '\x7d' :: rest => some (.table [], rest)
        | rest => (pairs fuel depth rest).bind fun p => (inlineTable? p.1).map fun v => (v, p.2)
    | 't' :: 'r' :: 'u' :: 'e' :: rest => some (.boolean true, rest)
    | 'f' :: 'a' :: 'l' :: 's' :: 'e' :: rest => some (.boolean false, rest)
    | '"' :: _ => (string? s).map fun p => (.string p.1, p.2)
    | '\x27' :: _ => (string? s).map fun p => (.string p.1, p.2)
    | _ => number? s

/-- The items of an array up to its end; a comma may follow the last one. -/
def items : Nat → Nat → List Char → Reading (List Value)
  | 0, _, _ => none
  | fuel + 1, depth, s =>
    match s with
    | ']' :: rest => some ([], rest)
    | _ =>
      (valueWithin fuel depth s).bind fun v =>
        match skipTrivia false v.2 with
        | ',' :: rest => (items fuel depth (skipTrivia false rest)).map fun vs => (v.1 :: vs.1, vs.2)
        | ']' :: rest => some ([v.1], rest)
        | _ => none

/-- The keys and values of an inline table up to its end. -/
def pairs : Nat → Nat → List Char → Reading (List (List String × Value))
  | 0, _, _ => none
  | fuel + 1, depth, s =>
    (key? s).bind fun k =>
      (expect '=' k.2).bind fun rest =>
        (valueWithin fuel depth (skipBlanks rest)).bind fun v =>
          match skipBlanks v.2 with
          | ',' :: rest => (pairs fuel depth rest).map fun ps => ((k.1, v.1) :: ps.1, ps.2)
          | '\x7d' :: rest => some ([(k.1, v.1)], rest)
          | _ => none

end

/-- A value. Every part of it takes a character, so their number is bounded by the text. -/
def value? (s : List Char) : Reading Value := valueWithin (s.length + 1) depthLimit s

/-! ### Statements -/

/-- One line of a document. -/
inductive Statement
  /-- A key and its value. -/
  | pair (key : List String) (value : Value)
  /-- The header of a table. -/
  | header (path : List String)
  /-- The header of one more element of an array of tables. -/
  | element (path : List String)

/-- A statement, without the end of its line. -/
def statement? : List Char → Reading Statement
  | '[' :: '[' :: rest =>
    (key? rest).bind fun k =>
      match k.2 with
      | ']' :: ']' :: rest => some (.element k.1, rest)
      | _ => none
  | '[' :: rest => (key? rest).bind fun k => (expect ']' k.2).map fun rest => (.header k.1, rest)
  | s =>
    (key? s).bind fun k =>
      (expect '=' k.2).bind fun rest =>
        (value? (skipBlanks rest)).map fun v => (.pair k.1 v.1, v.2)

/-- The statements of a document with at most `lines` lines. -/
def statementsWithin : Nat → List Char → Option (List Statement)
  | 0, _ => none
  | lines + 1, s =>
    match skipBlanks s with
    | [] => some []
    | '#' :: rest => (finishLine ('#' :: rest)).bind (statementsWithin lines)
    | '\n' :: rest => statementsWithin lines rest
    | '\r' :: '\n' :: rest => statementsWithin lines rest
    | rest =>
      (statement? rest).bind fun st =>
        (finishLine st.2).bind fun rest => (statementsWithin lines rest).map (st.1 :: ·)

/-- The statements of a document, which may start with a byte order mark. -/
def statements? (s : List Char) : Option (List Statement) :=
  match s with
  | '\ufeff' :: rest => statementsWithin (rest.length + 1) rest
  | _ => statementsWithin (s.length + 1) s

end DeviceMemory.Toml
