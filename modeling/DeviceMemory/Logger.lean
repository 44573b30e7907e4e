import DeviceMemory.Record
import DeviceMemory.Settings
import DeviceMemory.Text.Quoted
import DeviceMemory.Writer

/-!
# Loggers

A logger passes each message to every output that its settings switch on, always in
the same order: the log file, standard output, standard error, and records. What
becomes of one output is nothing to the others. A log file that cannot be opened is
left out with one warning; one that cannot be written gives one warning a
message.
-/

namespace DeviceMemory

/-- What leaves the process. -/
inductive Output
  /-- A record. -/
  | record (r : Record)
  /-- A text on standard output. -/
  | stdout (text : String)
  /-- A text on standard error. -/
  | stderr (text : String)
  deriving DecidableEq, Repr

/-- A warning. -/
def Output.warning (message : String) : Output := .record ⟨.warn, message⟩

/-- The warning about a log file that cannot be opened. -/
def Output.unopened (path : String) (e : FileError) : Output :=
  .warning ("Unable to open the log file " ++ Text.quoted path ++ ": " ++ e.message)

/-- The warning about a log file that refuses a message. -/
def Output.unwritten (e : FileError) : Output :=
  .warning ("Unable to write to the memory log file: " ++ e.message)

/-- The severity of the records of a level. -/
def RecordLevel.severity : RecordLevel → Severity
  | info => .info
  | debug => .debug
  | trace => .trace

/-- Where a logger passes its messages. -/
inductive Sink
  /-- An open log file. -/
  | file (writer : Writer)
  /-- Standard output. -/
  | stdout
  /-- Standard error. -/
  | stderr
  /-- Records of one level. -/
  | records (level : RecordLevel)

/-- A logger: its outputs, in the order in which they get a message. -/
structure Logger where
  /-- The outputs. -/
  sinks : List Sink

/-! ### Opening -/

namespace Logger

/-- The log file that the settings name, opened, or a warning. -/
def openTarget (f : Files) (directory : Location) (s : LogSettings) :
    Files × List Sink × List Output :=
  match s.file with
  | none => (f, [], [])
  | some path =>
    match f.openFile directory path s.append with
    | .ok (f, o) => (f, [.file { target := o }], [])
    | .error e => (f, [], [.unopened path e])

/-- The outputs other than the log file. -/
def otherSinks (s : LogSettings) : List Sink :=
  (if s.stdout then [.stdout] else []) ++ (if s.stderr then [.stderr] else []) ++
    (s.records.map Sink.records).toList

/-- The logger that the settings ask for. One that is switched off has no outputs and opens
nothing. -/
def ofSettings (f : Files) (directory : Location) (s : LogSettings) : Files × Logger × List Output :=
  if s.detail = .disabled then (f, ⟨[]⟩, [])
  else
    let (f, target, out) := openTarget f directory s
    (f, ⟨target ++ otherSinks s⟩, out)

end Logger

/-! ### Writing -/

/-- Passes a message to one output. Standard output and standard error are taken to accept whatever is
written: a process that cannot write to one of them does not go on. -/
def Sink.write (f : Files) (message : String) : Sink → Files × Sink × List Output
  | .file w =>
    let a := w.writeLine f message
    (a.files, .file a.writer, (a.error?.map Output.unwritten).toList)
  | .stdout => (f, .stdout, [.stdout (message ++ "\n")])
  | .stderr => (f, .stderr, [.stderr (message ++ "\n")])
  | .records level => (f, .records level, [.record ⟨level.severity, message⟩])

/-- Passes a message to outputs in turn. -/
def writeAll (f : Files) (message : String) : List Sink → Files × List Sink × List Output
  | [] => (f, [], [])
  | s :: rest =>
    let (f, s, out) := s.write f message
    let (f, rest, more) := writeAll f message rest
    (f, s :: rest, out ++ more)

/-- Passes a message to every output of a logger. -/
def Logger.write (f : Files) (message : String) (l : Logger) : Files × Logger × List Output :=
  let (f, sinks, out) := writeAll f message l.sinks
  (f, ⟨sinks⟩, out)

end DeviceMemory
