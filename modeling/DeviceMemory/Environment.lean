/-!
# The environment of a process

Variables have a name and a value of bytes. A value that is not UTF-8 is no text;
whoever asks for a text finds the variable unset.
-/

namespace DeviceMemory

/-- The environment variables. -/
structure Environment where
  /-- The variables that are set. -/
  entries : List (String × ByteArray) := []

namespace Environment

/-- The bytes of a variable, if it is set. -/
def bytes? (e : Environment) (name : String) : Option ByteArray := e.entries.lookup name

/-- The text of a variable, if it is set and is a text. -/
def text? (e : Environment) (name : String) : Option String := (e.bytes? name).bind String.fromUTF8?

/-- The environment without a variable. -/
def unset (e : Environment) (name : String) : Environment :=
  ⟨e.entries.filter fun v => v.1 ≠ name⟩

/-- The environment with a variable set. -/
def set (e : Environment) (name : String) (value : ByteArray) : Environment :=
  ⟨(name, value) :: (e.unset name).entries⟩

end Environment

end DeviceMemory
