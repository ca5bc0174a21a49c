import DroneFleet.Settings
import DroneFleet.Toml.Document

/-!
# Loading settings

The file of a stage such as `dev` is looked for in several directories. No file at all is no
fault; a file that is asked for by its path has to be there.

* `Surroundings`         files and variables
* `Settings.Fault`       why settings cannot be loaded
* `Settings.loadFrom`    the settings with a given file, or with none
* `Settings.load`        the settings of a stage
-/

namespace DroneFleet

/-- what settings are loaded from: the text of a file, if it is there, and the variables -/
structure Surroundings where
  file? : String → Option String
  environment : List (String × String)

namespace Settings

inductive Fault where
  | missing (path : String)
  | unknownKind (path : String)
  | unreadable (path : String)
  /-- a setting has a value of another kind -/
  | misfit (m : Misfit)
deriving DecidableEq, Repr

def Fault.message : Fault → String
  | .missing path => "configuration file " ++ path ++ " not found"
  | .unknownKind path => "configuration file " ++ path ++ " is of no known kind"
  | .unreadable path => "configuration file " ++ path ++ " cannot be read"
  | .misfit m => "invalid value for " ++ (m.group?.elim "" (· ++ ".")) ++ m.field

def ending : List Char := ".toml".toList

/-- has the last part of the path a name before the ending? -/
def isToml (path : String) : Bool :=
  let name := (path.toList.reverse.takeWhile (· ≠ '/'))
  ending.reverse.isPrefixOf name && ending.length < name.length

/-- the text of a file; its ending may be left out of the path -/
def contents (s : Surroundings) (path : String) : Except Fault String :=
  match s.file? path with
  | some t => if isToml path then .ok t else .error (.unknownKind path)
  | none =>
    match s.file? (path ++ String.ofList ending) with
    | some t => .ok t
    | none => .error (.missing path)

def entriesOf (s : Surroundings) (path : String) : Except Fault (List (String × Setting)) := do
  match Toml.read? (← contents s path) with
  | some es => return es
  | none => .error (.unreadable path)

def ofSurroundings (s : Surroundings) (es : List (String × Setting)) : Except Fault Settings :=
  match ofLayers es s.environment with
  | .ok a => .ok a
  | .error m => .error (.misfit m)

/-- the settings with a given file, or with none -/
def loadFrom (s : Surroundings) (path? : Option String) : Except Fault Settings :=
  match path? with
  | none => ofSurroundings s []
  | some path => do ofSurroundings s (← entriesOf s path)

/-- the stage unless another is asked for -/
def usualStage : String := "dev"

/-- the file of a stage in a directory -/
def stagePath (directory stage : String) : String :=
  directory ++ "/" ++ stage ++ String.ofList ending

/-- the settings of a stage: with its file in the first directory that has one -/
def load (s : Surroundings) (directories : List String) (stage? : Option String) :
    Except Fault Settings :=
  let paths := directories.map fun d => stagePath d (stage?.getD usualStage)
  loadFrom s (paths.find? fun p => (s.file? p).isSome)

end Settings

end DroneFleet
