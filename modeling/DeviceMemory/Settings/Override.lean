import DeviceMemory.Environment
import DeviceMemory.Record
import DeviceMemory.Settings
import DeviceMemory.Text.Quoted

/-!
# Settings from the environment

Three variables override settings, each in a part of its own: how events are
logged, whether unified memory may be used, and the preferred device. What a
variable does is a function of its text alone; one that is unset or is no text
does nothing.
-/

namespace DeviceMemory.Settings

/-- The variable that switches logging on. -/
def logVariable : String := "DEVMEM_DEBUG_LOG"

/-- The variable that forbids unified memory. -/
def unifiedVariable : String := "DEVMEM_DISABLE_USM"

/-- The variable that names the preferred device. -/
def deviceVariable : String := "DEVMEM_DEVICE_ID"

/-- Logging as a text asks for it: to an output, in full, not at all, or to a file. -/
def logFor (text : String) (s : LogSettings) : LogSettings :=
  if text = "stdout" then { s with detail := .basic, stdout := true }
  else if text = "stderr" then { s with detail := .basic, stderr := true }
  else if text = "1" ∨ text = "true" then { s with detail := .basic, file := some "/tmp/devmem.log" }
  else if text = "full" then { s with detail := .full }
  else if text = "0" ∨ text = "false" then { s with detail := .disabled }
  else { s with detail := .basic, file := some text }

/-- A truth value written as a digit or a word. -/
def switch? (text : String) : Option Bool :=
  if text = "1" ∨ text = "true" then some true
  else if text = "0" ∨ text = "false" then some false
  else none

/-- The settings with logging as the environment asks for it. -/
def overrideLog (e : Environment) (s : Settings) : Settings :=
  match e.text? logVariable with
  | none => s
  | some text => { s with memory := { s.memory with logger := logFor text s.memory.logger } }

/-- The settings with unified memory as the environment wants it. -/
def overrideUnified (e : Environment) (s : Settings) : Settings :=
  match (e.text? unifiedVariable).bind switch? with
  | none => s
  | some b => { s with memory := { s.memory with disableUnified := b } }

/-- The settings with the device that the environment prefers. -/
def overrideDevice (e : Environment) (s : Settings) : Settings :=
  match e.text? deviceVariable with
  | none => s
  | some id => if id.isEmpty then s else { s with device := { s.device with id := some id } }

/-- The settings under an environment. -/
def override (e : Environment) (s : Settings) : Settings :=
  overrideDevice e (overrideUnified e (overrideLog e s))

/-- The warnings about an environment: a text that is no truth value. -/
def overrideWarnings (e : Environment) : List Record :=
  match e.text? unifiedVariable with
  | none => []
  | some text =>
    if (switch? text).isSome then []
    else [⟨.warn, "Ignoring invalid " ++ unifiedVariable ++ " value " ++ Text.quoted text⟩]

end DeviceMemory.Settings
