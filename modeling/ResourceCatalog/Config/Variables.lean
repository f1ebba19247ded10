import ResourceCatalog.Config.Value
import ResourceCatalog.Decimal.Nearest
import ResourceCatalog.Text.Lowercase
import ResourceCatalog.Word

/-!
# Settings in environment variables

A variable whose name starts with `RESDAO__`, in any letter case, gives a setting: the rest of the name is
its path, with `__` for the points. Its text is read as a truth value or a number where it is one.
-/

namespace ResourceCatalog.Config

/-- What the names of variables start with, in lower case. -/
def variableMark : List Char := "resdao__".toList

/-- What the environment is called in messages. -/
def environmentName : String := "the environment"

/-- Writes a point for every double underscore, from left to right. -/
def pointed : List Char → List Char
  | '_' :: '_' :: rest => '.' :: pointed rest
  | c :: rest => c :: pointed rest
  | [] => []

/-- The setting that a variable's name stands for, if it is one of ours. -/
def settingName? (name : String) : Option String :=
  let lower := Text.lowercase name.toList
  if variableMark.isPrefixOf lower then some (String.ofList (pointed (lower.drop variableMark.length)))
  else none

/-- The value that a variable's text stands for. -/
def variableScalar (text : String) : Scalar :=
  match String.ofList (Text.lowercase text.toList) with
  | "true" => .truth true
  | "false" => .truth false
  | _ =>
    let whole := (Decimal.integer? text.toList).filter Word.fitsSigned64
    match whole, Decimal.real? text.toList with
    | some n, _ => .integer n
    | none, some x => .real x
    | none, none => .text text

/-- The settings of the environment. -/
def variablesLayer (vars : List (String × String)) : Layer :=
  vars.filterMap fun (name, text) =>
    (settingName? name).map fun setting => (setting, .scalar (variableScalar text) (some environmentName))

end ResourceCatalog.Config
