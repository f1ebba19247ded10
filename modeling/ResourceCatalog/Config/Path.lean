import ResourceCatalog.Config.Value
import ResourceCatalog.Decimal.Nearest
import ResourceCatalog.Text.Ascii
import ResourceCatalog.Word

/-!
# Paths to settings

A name such as `database.url` or `hosts[0]` leads to a part of the settings. A name that is no path is the
name of a setting as it stands.
-/

namespace ResourceCatalog.Config

/-- The place between square brackets, and what follows them. Spaces and tabs may stand around the place. -/
def scanIndex? (s : List Char) : Option (Int × List Char) :=
  let (sign, digits) := match s.dropWhile Text.isSpaceOrTab with
    | '-' :: rest => ((-1 : Int), rest)
    | rest => (1, rest)
  let behind := (digits.dropWhile Char.isDigit).dropWhile Text.isSpaceOrTab
  match Decimal.natural? (digits.takeWhile Char.isDigit), behind with
  | some n, ']' :: rest => if Word.fitsSigned64 n then some (sign * n, rest) else none
  | _, _ => none

/-- The steps behind the first name; `fuel` bounds their number. -/
def stepsOf? : Nat → List Char → Option (List Step)
  | _, [] => some []
  | 0, _ :: _ => none
  | fuel + 1, '.' :: rest =>
    let name := rest.takeWhile Text.isNameChar
    if name = [] then none
    else (stepsOf? fuel (rest.dropWhile Text.isNameChar)).map (.member (String.ofList name) :: ·)
  | fuel + 1, '[' :: rest =>
    match scanIndex? rest with
    | some (index, rest) => (stepsOf? fuel rest).map (.item index :: ·)
    | none => none
  | _ + 1, _ :: _ => none

/-- The steps of a name. -/
def pathOf (name : String) : List Step :=
  let s := name.toList
  let first := s.takeWhile Text.isNameChar
  let steps := if first = [] then none else stepsOf? s.length (s.dropWhile Text.isNameChar)
  match steps with
  | some steps => .member (String.ofList first) :: steps
  | none => [.member name]

/-- Puts the settings of a source over those that are there. -/
def applyLayer (settings : Value) (layer : Layer) : Value :=
  layer.foldl (fun settings (name, value) => value.put (pathOf name) (some settings)) settings

/-- The settings of several sources, later ones over earlier ones. -/
def merged (layers : List Layer) : Value := layers.foldl applyLayer (.table [] none)

end ResourceCatalog.Config
