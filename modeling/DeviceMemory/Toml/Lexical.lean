/-!
# TOML: blanks, comments, strings and keys

The smallest parts of a document. Each reader takes the characters that are left
and gives what it read together with the rest, or nothing if the characters are
not what it reads.
-/

namespace DeviceMemory.Toml

/-- What a reader of `α` makes of the characters that are left. -/
abbrev Reading (α : Type) := Option (α × List Char)

/-! ### Blanks, line ends and comments -/

/-- Whether a character separates parts of one line. -/
def isBlank (c : Char) : Bool := c = ' ' ∨ c = '\t'

/-- Whether a character may stand anywhere within a line. -/
def isPlain (c : Char) : Bool := c = '\t' ∨ (0x20 ≤ c.toNat ∧ c.toNat ≠ 0x7f)

/-- The characters after any blanks. -/
def skipBlanks (s : List Char) : List Char := s.dropWhile isBlank

/-- The characters after a line end. -/
def newline? : List Char → Option (List Char)
  | '\n' :: rest => some rest
  | '\r' :: '\n' :: rest => some rest
  | _ => none

/-- The characters from the end of a comment on, if one stands first. -/
def skipComment : List Char → List Char
  | '#' :: rest => rest.dropWhile isPlain
  | s => s

/-- What follows a line that holds nothing more but blanks and a comment. -/
def finishLine (s : List Char) : Option (List Char) :=
  match skipComment (skipBlanks s) with
  | [] => some []
  | rest => newline? rest

/-- The characters after any blanks, line ends and comments; `inComment` tells whether a
comment has begun. -/
def skipTrivia (inComment : Bool) : List Char → List Char
  | [] => []
  | '\r' :: '\n' :: rest => skipTrivia false rest
  | c :: rest =>
    if inComment && isPlain c then skipTrivia true rest
    else if isBlank c || c = '\n' then skipTrivia false rest
    else if c = '#' then skipTrivia true rest
    else c :: rest

/-! ### Strings -/

/-- The value of a hexadecimal digit. -/
def hexDigit? (c : Char) : Option Nat :=
  if '0' ≤ c ∧ c ≤ '9' then some (c.toNat - '0'.toNat)
  else if 'a' ≤ c ∧ c ≤ 'f' then some (c.toNat - 'a'.toNat + 10)
  else if 'A' ≤ c ∧ c ≤ 'F' then some (c.toNat - 'A'.toNat + 10)
  else none

/-- The number that some digits to a base denote. -/
def digitsValue? (digit? : Char → Option Nat) (base : Nat) (cs : List Char) : Option Nat :=
  cs.foldlM (fun n c => (digit? c).map fun d => n * base + d) 0

/-- The character of a hexadecimal number; surrogates are no characters. -/
def scalar? (cs : List Char) : Option Char :=
  (digitsValue? hexDigit? 16 cs).bind fun n => if n.isValidChar then some (Char.ofNat n) else none

/-- The character that stands for itself after a backslash, or has a letter. -/
def escaped? : Char → Option Char
  | 'b' => some '\x08'
  | 't' => some '\t'
  | 'n' => some '\n'
  | 'f' => some '\x0c'
  | 'r' => some '\r'
  | '"' => some '"'
  | '\\' => some '\\'
  | _ => none

/-- `c` put in front of what was read. -/
def Reading.cons (c : Char) (r : Reading (List Char)) : Reading (List Char) :=
  r.map fun p => (c :: p.1, p.2)

/-- A basic string on one line, after its opening quote. -/
def basic : List Char → Reading (List Char)
  | [] => none
  | '"' :: rest => some ([], rest)
  | '\\' :: 'u' :: a :: b :: c :: d :: rest =>
    (scalar? [a, b, c, d]).bind fun x => (basic rest).cons x
  | '\\' :: 'U' :: a :: b :: c :: d :: e :: f :: g :: h :: rest =>
    (scalar? [a, b, c, d, e, f, g, h]).bind fun x => (basic rest).cons x
  | '\\' :: c :: rest => (escaped? c).bind fun x => (basic rest).cons x
  | c :: rest => if isPlain c && c != '\\' then (basic rest).cons c else none

/-- Whether only blanks are left on the line. -/
def atLineEnd (s : List Char) : Bool := (newline? (skipBlanks s)).isSome

/-- A basic string over several lines, after its opening quotes. Up to two quotes may stand
right before the closing ones. `trimming` tells whether blanks and line ends are being skipped
after a backslash at the end of a line. -/
def multiBasic (trimming : Bool) : List Char → Reading (List Char)
  | [] => none
  | '\r' :: '\n' :: rest => if trimming then multiBasic true rest else (multiBasic false rest).cons '\n'
  | '"' :: '"' :: '"' :: '"' :: '"' :: rest => some (['"', '"'], rest)
  | '"' :: '"' :: '"' :: '"' :: rest => some (['"'], rest)
  | '"' :: '"' :: '"' :: rest => some ([], rest)
  | '\\' :: 'u' :: a :: b :: c :: d :: rest =>
    (scalar? [a, b, c, d]).bind fun x => (multiBasic false rest).cons x
  | '\\' :: 'U' :: a :: b :: c :: d :: e :: f :: g :: h :: rest =>
    (scalar? [a, b, c, d, e, f, g, h]).bind fun x => (multiBasic false rest).cons x
  | '\\' :: c :: rest =>
    if atLineEnd (c :: rest) then multiBasic true (c :: rest)
    else (escaped? c).bind fun x => (multiBasic false rest).cons x
  | c :: rest =>
    if trimming && (isBlank c || c = '\n') then multiBasic true rest
    else if (isPlain c && c != '\\') || c = '\n' then (multiBasic false rest).cons c
    else none

/-- A literal string on one line, after its opening apostrophe. -/
def literal : List Char → Reading (List Char)
  | [] => none
  | c :: rest =>
    if c = '\x27' then some ([], rest)
    else if isPlain c then (literal rest).cons c
    else none

/-- A literal string over several lines, after its opening apostrophes. Up to two apostrophes
may stand right before the closing ones. -/
def multiLiteral : List Char → Reading (List Char)
  | [] => none
  | '\r' :: '\n' :: rest => (multiLiteral rest).cons '\n'
  | '\x27' :: '\x27' :: '\x27' :: '\x27' :: '\x27' :: rest => some (['\x27', '\x27'], rest)
  | '\x27' :: '\x27' :: '\x27' :: '\x27' :: rest => some (['\x27'], rest)
  | '\x27' :: '\x27' :: '\x27' :: rest => some ([], rest)
  | c :: rest => if isPlain c || c = '\n' then (multiLiteral rest).cons c else none

/-- The characters after a line end, if one stands first. -/
def skipNewline (s : List Char) : List Char := (newline? s).getD s

/-- A string of any form. -/
def string? : List Char → Reading String
  | '"' :: '"' :: '"' :: rest => (multiBasic false (skipNewline rest)).map fun p => (String.ofList p.1, p.2)
  | '"' :: rest => (basic rest).map fun p => (String.ofList p.1, p.2)
  | '\x27' :: '\x27' :: '\x27' :: rest =>
    (multiLiteral (skipNewline rest)).map fun p => (String.ofList p.1, p.2)
  | '\x27' :: rest => (literal rest).map fun p => (String.ofList p.1, p.2)
  | _ => none

/-! ### Keys -/

/-- Whether a character may stand in a key without quotes. -/
def isBare (c : Char) : Bool :=
  ('A' ≤ c ∧ c ≤ 'Z') ∨ ('a' ≤ c ∧ c ≤ 'z') ∨ ('0' ≤ c ∧ c ≤ '9') ∨ c = '-' ∨ c = '_'

/-- One name of a key: bare, or a string on one line. -/
def name? : List Char → Reading String
  | '"' :: rest => (basic rest).map fun p => (String.ofList p.1, p.2)
  | '\x27' :: rest => (literal rest).map fun p => (String.ofList p.1, p.2)
  | s =>
    match s.takeWhile isBare with
    | [] => none
    | cs => some (String.ofList cs, s.dropWhile isBare)

/-- The names of a dotted key, with the blanks around them; there are at most `limit`. -/
def keyWithin : Nat → List Char → Reading (List String)
  | 0, _ => none
  | limit + 1, s =>
    (name? (skipBlanks s)).bind fun first =>
      match skipBlanks first.2 with
      | '.' :: rest => (keyWithin limit rest).map fun others => (first.1 :: others.1, others.2)
      | rest => some ([first.1], rest)

/-- How deep a document may nest, and how many names a key may have. -/
def depthLimit : Nat := 79

/-- A dotted key. -/
def key? (s : List Char) : Reading (List String) := keyWithin depthLimit s

end DeviceMemory.Toml
