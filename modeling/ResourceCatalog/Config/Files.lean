/-!
# Files by path

The files below a working directory, and what a path leads to among them. A path is walked name by name:
`.` stays, `..` goes back, and every part but the last has to be a directory that is there. A directory is
there when a file lies below it.
-/

namespace ResourceCatalog.Config

/-- What stands between the slashes of a path. -/
def splitPath (path : String) : List String := (path.toList.splitOn '/').map String.ofList

/-- The parts of a path that are not empty and not `.`. -/
def pathParts (path : String) : List String :=
  (splitPath path).filter fun part => part ≠ "" ∧ part ≠ "."

/-- A path without the parts that lead nowhere. -/
def tidyPath (path : String) : String :=
  (if path.startsWith "/" then "/" else "") ++ "/".intercalate (pathParts path)

/-- A path up to its last name, if that is a name and not `..`. -/
def namedPath? (path : String) : Option String :=
  match (splitPath path).reverse.dropWhile fun part => part = "" || part = "." with
  | [] | ".." :: _ => none
  | parts => some ("/".intercalate parts.reverse)

/-- The last part of a path. -/
def lastName (path : String) : String := (splitPath path).getLastD ""

/-- The files below the working directory: the names that lead to each, and its text. -/
abbrev Files := List (List String × String)

def Files.ofPaths (files : List (String × String)) : Files :=
  files.map fun (path, text) => (pathParts path, text)

/-- The names lead to a directory: the working directory, or one with a file below it. -/
def Files.isDirectory (files : Files) (place : List String) : Bool :=
  place = [] || files.any fun (names, _) => place.isPrefixOf names && place ≠ names

/-- The names that lead where a path leads, seen from the directory `place`. -/
def Files.walk? (files : Files) (place : List String) : List String → Option (List String)
  | [] => some place
  | part :: rest =>
    if !files.isDirectory place then none
    else if part = "" ∨ part = "." then files.walk? place rest
    else if part ≠ ".." then files.walk? (place ++ [part]) rest
    else if place = [] then none
    else files.walk? place.dropLast rest

/-- The text of the file that a path leads to. Paths from the root lead to none. -/
def Files.text? (files : Files) (path : String) : Option String :=
  if path.startsWith "/" then none
  else (files.walk? [] (splitPath path)).bind fun place => files.lookup place

end ResourceCatalog.Config
