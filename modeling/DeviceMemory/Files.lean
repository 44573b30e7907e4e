import DeviceMemory.Association

/-!
# Files

A tree of directories and files as one process sees it: contents of bytes, a
working directory, and two devices, one that swallows what is written to it and
one that is always full. There are no links, and nothing is ever removed, so a
place in the tree (`Location`) stands for the same file throughout.

An open file is written either at its end or at a position of its own. Writing
beyond the end fills the gap with zero bytes.
-/

namespace DeviceMemory

/-- A place in the tree: the names on the way from the root. -/
abbrev Location := List String

/-- Why a file cannot be opened or written. -/
inductive FileError
  /-- There is no such file or directory. -/
  | noEntry
  /-- Something on the way is no directory. -/
  | notDirectory
  /-- It is a directory. -/
  | isDirectory
  /-- There is no space left. -/
  | noSpace
  /-- A name is too long. -/
  | nameTooLong
  /-- A name holds a null character. -/
  | nullInName
  deriving DecidableEq, Repr

/-- The message for people. -/
def FileError.message : FileError → String
  | noEntry => "No such file or directory (os error 2)"
  | notDirectory => "Not a directory (os error 20)"
  | isDirectory => "Is a directory (os error 21)"
  | noSpace => "No space left on device (os error 28)"
  | nameTooLong => "File name too long (os error 36)"
  | nullInName => "file name contained an unexpected NUL byte"

/-- What stands at a place in the tree. -/
inductive FileNode
  /-- A directory. -/
  | directory
  /-- A file with its contents. -/
  | regular (contents : ByteArray)
  /-- A device that swallows what is written to it. -/
  | null
  /-- A device that is always full. -/
  | full

/-- The tree. -/
structure Files where
  /-- What stands where; the first entry for a place counts. -/
  nodes : List (Location × FileNode)

namespace Files

/-- The tree of a process before anything is written. -/
def initial : Files :=
  ⟨[([], .directory), (["tmp"], .directory), (["dev"], .directory), (["dev", "null"], .null),
    (["dev", "full"], .full)]⟩

/-- What stands at a place. -/
def get? (f : Files) (l : Location) : Option FileNode := f.nodes.lookup l

/-- The tree with something else at a place. -/
def set (f : Files) (l : Location) (n : FileNode) : Files :=
  ⟨(l, n) :: f.nodes.filter fun e => e.1 ≠ l⟩

/-- A place holds what was put there last. -/
@[simp] theorem get?_set (f : Files) (l k : Location) (n : FileNode) :
    (f.set l n).get? k = if k = l then some n else f.get? k :=
  Association.lookup_insert l k n f.nodes

/-- The contents of the file at a place, if there is one. -/
def contents? (f : Files) (l : Location) : Option ByteArray :=
  match f.get? l with
  | some (.regular c) => some c
  | _ => none

/-- The places on the way from the root to a place, itself included. -/
def placesTo (l : Location) : List Location := (List.range (l.length + 1)).map l.take

/-- The tree with a directory at a place and at every place above it. -/
def makeDirectory (f : Files) (l : Location) : Files :=
  ((placesTo l).filter fun p => (f.get? p).isNone).foldl (fun f p => f.set p .directory) f

/-- The tree with a file of the given contents, and directories above it. -/
def put (f : Files) (l : Location) (contents : ByteArray) : Files :=
  (f.makeDirectory l.dropLast).set l (.regular contents)

/-! ### Paths -/

/-- The longest name, in bytes. -/
def maxName : Nat := 255

/-- The longest path, in bytes. -/
def maxPath : Nat := 4095

/-- Whether a path starts at the root. -/
def isAbsolute (path : String) : Bool := path.toList.head? == some '/'

/-- The place that is reached from `at` by the parts of a path. Each part is looked up in a directory;
the last one need not exist. -/
def walk (f : Files) : Location → List String → Except FileError Location
  | here, [] => .ok here
  | here, part :: rest =>
    match f.get? here with
    | none => .error .noEntry
    | some .directory =>
      if part = "" ∨ part = "." then walk f here rest
      else if part = ".." then walk f here.dropLast rest
      else if maxName < part.utf8ByteSize then .error .nameTooLong
      else walk f (here ++ [part]) rest
    | some _ => .error .notDirectory

/-- The parts of a path between its slashes. -/
def partsOf (path : String) : List String := (path.toList.splitOn '/').map String.ofList

/-- The parts of a path without the slashes at its end. -/
def trimmedParts (path : String) : List String :=
  ((partsOf path).reverse.dropWhile (· = "")).reverse

/-- The place that is reached by parts of a path, seen from a directory. -/
def follow (f : Files) (directory : Location) (path : String) (parts : List String) :
    Except FileError Location :=
  if path.toList.contains '\x00' then .error .nullInName
  else if path.isEmpty then .error .noEntry
  else if maxPath < path.utf8ByteSize then .error .nameTooLong
  else f.walk (if isAbsolute path then [] else directory) parts

/-- The place that a path names, seen from a directory. -/
def resolve (f : Files) (directory : Location) (path : String) : Except FileError Location :=
  f.follow directory path (trimmedParts path)

/-- The directory in which the last name of a path is looked up, seen from a directory. The name
itself does not count. -/
def parent (f : Files) (directory : Location) (path : String) : Except FileError Location :=
  f.follow directory path ((trimmedParts path).dropLast ++ ["."])

/-- Whether a path asks for a directory by a slash at its end. -/
def asksDirectory (path : String) : Bool := path.toList.getLast? == some '/'

/-- The contents of the file that a path names, if it can be read. -/
def read? (f : Files) (directory : Location) (path : String) : Option ByteArray :=
  match f.resolve directory path with
  | .ok l => if asksDirectory path then none else f.contents? l
  | .error _ => none

/-- The text of the file that a path names, if it can be read and is a text. -/
def readText? (f : Files) (directory : Location) (path : String) : Option String :=
  (f.read? directory path).bind String.fromUTF8?

/-- The place that a path names, seen from a directory, whether or not anything is on the way. -/
def placeOf (directory : Location) (path : String) : Location :=
  (partsOf path).foldl
    (fun here part =>
      if part = "" ∨ part = "." then here
      else if part = ".." then here.dropLast
      else here ++ [part])
    (if isAbsolute path then [] else directory)

end Files

/-! ### Open files -/

/-- A file opened for writing. -/
structure OpenFile where
  /-- Where the file is. -/
  location : Location
  /-- The position of the next byte; there is none if bytes go to the end. -/
  position : Option Nat
  deriving DecidableEq, Repr

namespace Files

/-- Opens the file that a path names and makes it if it does not exist. To append keeps what is
there; otherwise the file is emptied and written from its start. -/
def openNamed (f : Files) (directory : Location) (path : String) (append : Bool) :
    Except FileError (Files × OpenFile) :=
  match f.resolve directory path with
  | .error e => .error e
  | .ok l =>
    let opened : OpenFile := ⟨l, if append then none else some 0⟩
    match f.get? l with
    | some .directory => .error .isDirectory
    | some (.regular c) => .ok (f.set l (.regular (if append then c else .empty)), opened)
    | some _ => .ok (f, opened)
    | none => .ok (f.set l (.regular .empty), opened)

/-- Opens a file for writing. A path that asks for a directory names nothing that could be
written, whatever its last name is, if the way to that name exists. -/
def openFile (f : Files) (directory : Location) (path : String) (append : Bool) :
    Except FileError (Files × OpenFile) :=
  if asksDirectory path then
    match f.parent directory path with
    | .error e => .error e
    | .ok _ => .error .isDirectory
  else f.openNamed directory path append

/-- `n` zero bytes. -/
def zeros (n : Nat) : ByteArray := ⟨(List.replicate n 0).toArray⟩

/-- The contents with `data` written over them from a position on. -/
def overwrite (contents : ByteArray) (position : Nat) (data : ByteArray) : ByteArray :=
  contents.extract 0 position ++ zeros (position - contents.size) ++ data ++
    contents.extract (position + data.size) contents.size

/-- Writes to an open file. -/
def write (f : Files) (o : OpenFile) (data : ByteArray) : Except FileError (Files × OpenFile) :=
  match f.get? o.location with
  | some (.regular c) =>
    match o.position with
    | none => .ok (f.set o.location (.regular (c ++ data)), o)
    | some p => .ok (f.set o.location (.regular (overwrite c p data)), ⟨o.location, some (p + data.size)⟩)
  | some .null => .ok (f, o)
  | some .full => .error .noSpace
  | some .directory => .error .isDirectory
  | none => .error .noEntry

end Files

end DeviceMemory
