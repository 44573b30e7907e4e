import DeviceMemory.Environment
import DeviceMemory.Files
import DeviceMemory.Logger
import DeviceMemory.Settings.Override
import DeviceMemory.Settings.Reading
import DeviceMemory.Text.Quoted

/-!
# Finding the settings file

The settings of a process are looked for in its working directory and in every
directory above, under two names, and last in the directory for settings of the
user. `candidates` lists these paths in order, and `search` takes the first that
can be read and understood. A file that can be read but not understood gives a
warning; one that cannot be read is passed over in silence.

How a text is understood and where the user keeps settings is not for the search
to say. It is told by a `Finder`.
-/

namespace DeviceMemory.Settings

/-- The path of a directory. -/
def directoryPath (l : Location) : String := "/" ++ "/".intercalate l

/-- The path of a name in a directory. -/
def joinPath (directory name : String) : String :=
  if directory.isEmpty || directory.toList.getLast? == some '/' then directory ++ name
  else directory ++ "/" ++ name

/-- The names of a settings file. -/
def fileNames : List String := ["devmem.toml", "DevMem.toml"]

/-- The paths of settings files in a directory and in those above it. -/
def pathsAbove (directory : Location) : List String :=
  (Files.placesTo directory).reverse.flatMap fun d => fileNames.map (joinPath (directoryPath d))

/-- The home directory of the user: the one in the environment, unless it is missing or empty, and then the
one that the system has on record for the user, if any. One whose name is no text is left out. -/
def homeDirectory? (onRecord : Option String) (e : Environment) : Option String :=
  match e.bytes? "HOME" with
  | none => onRecord
  | some b => if b.isEmpty then onRecord else String.fromUTF8? b

/-- The directory for settings of the user: where the environment says, if that is an absolute path, and
else in the home directory. -/
def userDirectory? (onRecord : Option String) (e : Environment) : Option String :=
  match e.bytes? "XDG_CONFIG_HOME" with
  | none => (homeDirectory? onRecord e).map (joinPath · ".config")
  | some b =>
    if b[0]? = some '/'.toUInt8 then String.fromUTF8? b
    else (homeDirectory? onRecord e).map (joinPath · ".config")

/-- What a search for settings is told. If nothing else is said, files are read as they are written, and the
system has no home directory on record. -/
structure Finder where
  /-- The settings that a text gives, if it can be understood. -/
  decode? : String → Option Settings := parse?
  /-- The directory for settings of the user, if there is one. -/
  userDirectory? : Environment → Option String := Settings.userDirectory? none

/-- The path of the settings file of the user. -/
def userPath (directory : String) : String := joinPath (joinPath directory "devmem") "devmem.toml"

/-- The paths at which settings are looked for, in order: those above a directory, and that of the user. -/
def candidates (directory : Location) (userDirectory : Option String) : List String :=
  pathsAbove directory ++ (userDirectory.map userPath).toList

/-- The paths at which a process in a directory looks for settings. -/
def Finder.paths (finder : Finder) (directory : Location) (e : Environment) : List String :=
  candidates directory (finder.userDirectory? e)

/-- The warning about a file that cannot be understood, up to where it goes on to say what is wrong with it. -/
def invalidFormat (path : String) : Output :=
  .warning ("Ignoring config file " ++ Text.quoted path ++ " with an invalid format")

/-- The settings at the first path that gives any, or the default ones, with the warnings on the
way. -/
def search (decode? : String → Option Settings) (read : String → Option String) :
    List String → Settings × List Output
  | [] => ({}, [])
  | path :: rest =>
    match read path with
    | none => search decode? read rest
    | some text =>
      match decode? text with
      | some s => (s, [])
      | none =>
        let found := search decode? read rest
        (found.1, invalidFormat path :: found.2)

/-- The settings that a process finds: those of a file, with the environment laid over them. -/
def discover (finder : Finder) (f : Files) (directory : Location) (e : Environment) :
    Settings × List Output :=
  let found := search finder.decode? (f.readText? directory) (finder.paths directory e)
  (override e found.1, found.2 ++ (overrideWarnings e).map Output.record)

end DeviceMemory.Settings
