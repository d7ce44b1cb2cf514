import EventNet.Fault.Basic
import EventNet.Json.Reader
import EventNet.Settings.Lenient
import EventNet.Toml.Reader

/-!
Settings from a file and from the environment.

The sources are laid over each other as trees of tables, the environment over the file.  A name leads to
a place in the tree: dots in a name of the file's first level, and double underscores in the name of an
environment variable, lead from table to table.  The result is read in the lenient way.
-/

namespace EventNet

/-- What a file of settings is written in. -/
inductive FileFormat where
  | json
  | toml
  deriving DecidableEq, Repr

/-- A file of settings. -/
structure SettingsFile where
  format : FileFormat
  text : String
  deriving Repr

/-- The variables of an environment. -/
abbrev Environment := Dict String

namespace Source

/-- The entries of a table; none for anything else. -/
def table : Option Json → Dict Json
  | some (.obj fields) => fields
  | _ => []

mutual

/-- A tree laid over what is there: tables entry by entry, anything else as a whole. -/
def laidOver (below : Option Json) : Json → Json
  | .obj fields => .obj (layFields (table below) fields)
  | j => j

/-- Entries laid over a table one after the other. -/
def layFields (below : Dict Json) : List (String × Json) → Dict Json
  | [] => below
  | (k, j) :: rest => layFields (below.insert k (laidOver (below.get? k) j)) rest

end

/-- Lay a tree over the place that a path leads to; tables are made on the way. -/
def place : List String → Json → Dict Json → Dict Json
  | [], _, below => below
  | [k], j, below => below.insert k (laidOver (below.get? k) j)
  | k :: path, j, below => below.insert k (.obj (place path j (table (below.get? k))))

/-- Whether a character can stand in a part of a path. -/
def isPathChar (c : Char) : Bool :=
  c.isAlphanum || c == ' ' || c == '_' || c == '-'

/-- The path of a name: its parts between dots, or the name as one part where some part is not like a
name. -/
def path (name : String) : List String :=
  let parts := name.splitOn "."
  if parts.all fun p => !p.isEmpty && p.all isPathChar then parts else [name]

/-- Lay named trees over a table. -/
def placeAll (below : Dict Json) (named : List (String × Json)) : Dict Json :=
  named.foldl (fun d (name, j) => place (path name) j d) below

/-- What the names of the variables that hold settings begin with, in lower case. -/
def beginning : String := "petri__"

/-- The name of a setting for a variable; none for other variables. -/
def settingName? (key : String) : Option String :=
  let name := Text.lowerText key
  if name.startsWith beginning then
    some (".".intercalate ((name.drop beginning.length).toString.splitOn "__"))
  else none

/-- The settings in an environment. -/
def ofEnvironment (environment : Environment) : List (String × Json) :=
  environment.filterMap fun (key, text) => (settingName? key).map (·, .str text)

/-- The level of log lines where none is set. -/
def defaultLevel (environment : Environment) : String :=
  (environment.get? "RUST_LOG").getD LoggingSettings.defaultLevel

/-- The tree of a file, which has to be a table. -/
def ofFile? (file : SettingsFile) : Option (Dict Json) :=
  let tree := match file.format with
    | .json => Json.ofText? file.text
    | .toml => Toml.ofText? file.text
  match tree.map Json.canonical with
  | some (.obj fields) => some (placeAll [] fields)
  | _ => none

/-- Read the settings of a tree over which an environment is laid. -/
def read (environment : Environment) (below : Dict Json) : Except Fault Settings :=
  let tree := placeAll below (ofEnvironment environment)
  match Settings.ofJson? Lenient.reading (defaultLevel environment) (.obj tree) with
  | some s => .ok s
  | none => .error .settings

end Source

namespace Settings

/-- The settings in an environment. -/
def load (environment : Environment) : Except Fault Settings :=
  Source.read environment []

/-- The settings in a file, with those in an environment over them; the file may be missing. -/
def fromFile (environment : Environment) (file : Option SettingsFile) : Except Fault Settings :=
  match file with
  | none => .error .settings
  | some file =>
    match Source.ofFile? file with
    | none => .error .unreadableSettings
    | some below => Source.read environment below

end Settings

end EventNet
