import ResourceCatalog.Config.Files
import ResourceCatalog.Config.Path
import ResourceCatalog.Config.Reading
import ResourceCatalog.Config.Variables
import ResourceCatalog.Json.Value
import ResourceCatalog.Toml.Document

/-!
# Loading the settings

Settings come from a base file, from an overlay file where an environment is named, and from environment
variables; later sources win setting by setting. A file is named with or without its extension, which tells
its format, and one that is not there gives nothing.
-/

namespace ResourceCatalog.Config

/-! ## Contents of files -/

mutual

def ofToml (origin : String) : Toml.Value → Value
  | .text s => .scalar (.text s) (some origin)
  | .integer n => .scalar (.integer n) (some origin)
  | .real x => .scalar (.real x) (some origin)
  | .truth b => .scalar (.truth b) (some origin)
  | .moment text => .scalar (.text text) (some origin)
  | .list items => .list (ofTomlItems origin items) (some origin)
  | .table members => .table (ofTomlMembers origin members) (some origin)

def ofTomlItems (origin : String) : List Toml.Value → List Value
  | [] => []
  | item :: rest => ofToml origin item :: ofTomlItems origin rest

def ofTomlMembers (origin : String) : List (String × Toml.Value) → Layer
  | [] => []
  | (name, v) :: rest => (name, ofToml origin v) :: ofTomlMembers origin rest

end

mutual

def ofJson (origin : String) : Json.Value → Value
  | .null => .scalar .nothing (some origin)
  | .truth b => .scalar (.truth b) (some origin)
  | .integer n => .scalar (.integer n) (some origin)
  | .real x => .scalar (.real x) (some origin)
  | .text s => .scalar (.text s) (some origin)
  | .list items => .list (ofJsonItems origin items) (some origin)
  | .map members => .table (ofJsonMembers origin members) (some origin)

def ofJsonItems (origin : String) : List Json.Value → List Value
  | [] => []
  | item :: rest => ofJson origin item :: ofJsonItems origin rest

def ofJsonMembers (origin : String) : List (String × Json.Value) → Layer
  | [] => []
  | (name, v) :: rest => (name, ofJson origin v) :: ofJsonMembers origin rest

end

inductive FileFormat where
  | toml
  | json
deriving DecidableEq, Repr

def FileFormat.extension : FileFormat → String
  | .toml => ".toml"
  | .json => ".json"

def FileFormat.all : List FileFormat := [.toml, .json]

/-- The format of a file that has its extension behind a name. -/
def FileFormat.ofPath? (path : String) : Option FileFormat :=
  let name := lastName path
  all.find? fun format => name.endsWith format.extension ∧ name ≠ format.extension

/-- How many lists and maps may stand in each other in a JSON file. -/
def deepestJson : Nat := 127

/-- The settings that the text of a file gives, if it can be read. -/
def FileFormat.layer? (format : FileFormat) (origin text : String) : Option Layer :=
  match format with
  | .toml => (Toml.parse? text).map (ofTomlMembers origin)
  | .json =>
    match Json.Value.parse? text with
    | some (.map members) =>
      if (Json.Value.map members).depth ≤ deepestJson then some (ofJsonMembers origin members) else none
    | _ => none

/-! ## Files -/

/-- A mark of the encoding that may stand before the text. -/
def withoutByteOrderMark (text : String) : String :=
  match text.toList with
  | '\uFEFF' :: rest => String.ofList rest
  | _ => text

/-- The paths of a name with each extension. -/
def extendedPaths (name : String) : List (String × FileFormat) :=
  match namedPath? name with
  | some path => FileFormat.all.map fun format => (path ++ format.extension, format)
  | none => []

/-- The paths where a file of that name is looked for. -/
def candidates (name : String) : List String := name :: (extendedPaths name).map (·.1)

/-- The path of the file that a name means, and its format. A file of the name itself is taken before
files of the name with an extension, and is passed over if its format is not known. -/
def findFile? (isThere : String → Bool) (name : String) : Option (String × FileFormat) :=
  if isThere name then (FileFormat.ofPath? name).map fun format => (name, format)
  else (extendedPaths name).find? fun (path, _) => isThere path

/-- The settings of the file that a name means, none if there is no such file. -/
def fileLayer (files : String → Option String) (name : String) : Except Error Layer :=
  match findFile? (fun path => (files path).isSome) name with
  | none => .ok []
  | some (path, format) =>
    let origin := tidyPath path
    match format.layer? origin (withoutByteOrderMark ((files path).getD "")) with
    | some layer => .ok layer
    | none => .error (.unreadable origin)

/-- The name of the file whose settings are used in an environment. -/
def overlayName (environment : String) : String := "config/" ++ environment

/-- The names of the files to read, in order. -/
def fileNames (path : String) (environment : Option String) : List String :=
  path :: (environment.map overlayName).toList

/-- The settings that several sources give together. -/
def Settings.ofLayers (layers : List Layer) : Except Error Settings := Settings.ofValue (merged layers)

/-- Loads the settings from files, given by path, and variables. -/
def Settings.load (files : String → Option String) (vars : List (String × String)) (path : String)
    (environment : Option String) : Except Error Settings := do
  let layers ← (fileNames path environment).mapM (fileLayer files)
  Settings.ofLayers (layers ++ [variablesLayer vars])

end ResourceCatalog.Config
