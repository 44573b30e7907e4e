/-!
# Settings

What a process can be told about its engines: how events of memory are logged,
whether unified memory may be used, and which device to prefer.
-/

namespace DeviceMemory

/-- How much of each event of memory is logged. -/
inductive LogDetail
  /-- Nothing. -/
  | disabled
  /-- One line an event. -/
  | basic
  /-- The event and the statistics after it. -/
  | full
  deriving DecidableEq, Repr, Inhabited

namespace LogDetail

/-- Every degree of detail. -/
def all : List LogDetail := [disabled, basic, full]

/-- The name in a settings file. -/
def name : LogDetail → String
  | disabled => "disabled"
  | basic => "basic"
  | full => "full"

/-- The degree of detail of a given name. -/
def ofName? (s : String) : Option LogDetail := all.find? (·.name == s)

end LogDetail

/-- The level at which events are passed on as records. -/
inductive RecordLevel
  /-- As information. -/
  | info
  /-- For debugging. -/
  | debug
  /-- For tracing. -/
  | trace
  deriving DecidableEq, Repr, Inhabited

namespace RecordLevel

/-- Every level. -/
def all : List RecordLevel := [info, debug, trace]

/-- The name in a settings file. -/
def name : RecordLevel → String
  | info => "info"
  | debug => "debug"
  | trace => "trace"

/-- The level of a given name. -/
def ofName? (s : String) : Option RecordLevel := all.find? (·.name == s)

end RecordLevel

/-- Where and how events of memory are logged. Several outputs may be on at once. -/
structure LogSettings where
  /-- The log file, if there is one. -/
  file : Option String := none
  /-- Whether an existing log file is kept and written on at its end. -/
  append : Bool := true
  /-- Whether to write to standard output. -/
  stdout : Bool := false
  /-- Whether to write to standard error. -/
  stderr : Bool := false
  /-- The level at which events are passed on as records, if they are. -/
  records : Option RecordLevel := none
  /-- How much is logged. -/
  detail : LogDetail := .disabled
  deriving DecidableEq, Repr, Inhabited

/-- Settings of the engines. -/
structure MemorySettings where
  /-- How events of memory are logged. -/
  logger : LogSettings := {}
  /-- Whether unified memory must not be used, whatever the device offers. -/
  disableUnified : Bool := false
  deriving DecidableEq, Repr, Inhabited

/-- Settings of the choice of a device. -/
structure DeviceSettings where
  /-- The id of the device to use; any device will do if there is none. -/
  id : Option String := none
  deriving DecidableEq, Repr, Inhabited

/-- The settings of a process. -/
structure Settings where
  /-- Settings of the engines. -/
  memory : MemorySettings := {}
  /-- Settings of the choice of a device. -/
  device : DeviceSettings := {}
  deriving DecidableEq, Repr, Inhabited

/-- The settings that hold where nothing else is said. -/
def Settings.default : Settings := {}

end DeviceMemory
