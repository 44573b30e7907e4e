import DeviceMemory.Settings
import DeviceMemory.Toml.Document

/-!
# Reading settings from a document

A document lays values over the default settings. A section of the settings is a
table, or an array with the values of its fields in order; a field that is not
given keeps its default, and a name that is no field is ignored. A value of a
wrong form makes the whole document unusable.
-/

namespace DeviceMemory.Settings

open Toml (Value)

/-- What a section gives for each of its fields. -/
abbrev Given := String → Option Value

/-- The values that a section with the named fields gives, if it has the form of a section. A
date counts as a section that gives nothing. -/
def givenBy (fields : List String) : Value → Option Given
  | .table entries => some fun name => entries.lookup name
  | .array items => some fun name => (fields.zip items).lookup name
  | .dateTime _ => some fun _ => none
  | _ => none

/-- The value of a field: what is given for it, or else its default. -/
def field {α : Type} (given : Given) (name : String) (read : Value → Option α) (dflt : α) : Option α :=
  match given name with
  | none => some dflt
  | some v => read v

/-! ### Forms of values -/

/-- A text. -/
def readText : Value → Option String
  | .string s => some s
  | _ => none

/-- A truth value. -/
def readTruth : Value → Option Bool
  | .boolean b => some b
  | _ => none

/-- Whether a value holds nothing. -/
def holdsNothing : Value → Bool
  | .table [] => true
  | .array [] => true
  | _ => false

/-- One of several named choices: its name, or a table with that name alone and nothing in it. -/
def readChoice {α : Type} (ofName? : String → Option α) : Value → Option α
  | .string s => ofName? s
  | .table [(name, inner)] => if holdsNothing inner then ofName? name else none
  | _ => none

/-- A value of a field that has none by default. -/
def readSome {α : Type} (read : Value → Option α) (v : Value) : Option (Option α) := (read v).map some

/-! ### Sections -/

/-- The fields of the section on logging. -/
def logFields : List String := ["file", "append", "stdout", "stderr", "log", "level"]

/-- The section on logging. -/
def readLog (v : Value) : Option LogSettings := do
  let given ← givenBy logFields v
  let dflt : LogSettings := {}
  let file ← field given "file" (readSome readText) dflt.file
  let append ← field given "append" readTruth dflt.append
  let stdout ← field given "stdout" readTruth dflt.stdout
  let stderr ← field given "stderr" readTruth dflt.stderr
  let records ← field given "log" (readSome (readChoice RecordLevel.ofName?)) dflt.records
  let detail ← field given "level" (readChoice LogDetail.ofName?) dflt.detail
  return { file, append, stdout, stderr, records, detail }

/-- The fields of the section on engines. -/
def memoryFields : List String := ["logger", "disable_usm"]

/-- The section on engines. -/
def readMemory (v : Value) : Option MemorySettings := do
  let given ← givenBy memoryFields v
  let dflt : MemorySettings := {}
  let logger ← field given "logger" readLog dflt.logger
  let disableUnified ← field given "disable_usm" readTruth dflt.disableUnified
  return { logger, disableUnified }

/-- The fields of the section on devices. -/
def deviceFields : List String := ["id"]

/-- The section on devices. -/
def readDevice (v : Value) : Option DeviceSettings := do
  let given ← givenBy deviceFields v
  let dflt : DeviceSettings := {}
  let id ← field given "id" (readSome readText) dflt.id
  return { id }

/-- The sections of a document. -/
def sections : List String := ["memory", "device"]

/-- The settings that a document gives. -/
def read (v : Value) : Option Settings := do
  let given ← givenBy sections v
  let dflt : Settings := {}
  let memory ← field given "memory" readMemory dflt.memory
  let device ← field given "device" readDevice dflt.device
  return { memory, device }

/-- The settings in the text of a document. -/
def parse? (text : String) : Option Settings := (Toml.parse? text).bind read

end DeviceMemory.Settings
