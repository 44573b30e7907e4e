import DeviceMemory.Settings.Discovery
import Mathlib.Data.List.Induction

/-!
# The settings that are found

Settings are looked for in the working directory and in every directory above it, and last where the user
keeps settings. The first file that can be read and understood counts. Whatever lies beyond it is not
looked at, and of what lies before it, only a file that can be read and not understood gives a warning
(`Settings.finds`).

## The model

* `upwards` goes from a directory to the root, one name at a time.
* `settingsAt?` are the settings that a path gives, and `isSpoiled` says that there is a text at a path
  which gives none. Both depend on what can be read there and on what is understood, so `read` is any way of
  reading at all, and `decode?` any way of understanding a text. The user may keep settings anywhere.
* `tried` are the paths up to the first that gives settings. A search cannot tell two ways of reading
  apart that agree on these paths (`search_congr`): that is what it means not to look any further.
-/

namespace DeviceMemory

/-! ### What can be read -/

namespace Files

variable {f : Files} {directory l : Location} {path text : String} {b : ByteArray}

end Files

namespace Settings

/-! ### Where settings are looked for -/

section

variable (decode? : String → Option Settings) (read : String → Option String)

/-- The settings that a path gives, if there is a text that can be understood. -/
def settingsAt? (path : String) : Option Settings := (read path).bind decode?

/-- The paths up to the first that gives settings, itself included. -/
def tried : List String → List String
  | [] => []
  | path :: rest => path :: if (settingsAt? decode? read path).isSome then [] else tried rest

end

variable {decode? : String → Option Settings} {read read' : String → Option String}

end Settings

end DeviceMemory
