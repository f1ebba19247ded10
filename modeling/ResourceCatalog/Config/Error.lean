import ResourceCatalog.Text.Quoted

/-!
# Errors of the configuration

Why the sources of a configuration do not give one, with the text of each reason. A setting is named
by its path, and a value by the source that it came from where that is known.
-/

namespace ResourceCatalog.Config

/-- What stood in the place of a setting. -/
inductive Found where
  | truth (b : Bool)
  /-- A whole number where a number was read. -/
  | signed (n : Int)
  /-- A whole number too large for its setting. -/
  | unsigned (n : Nat)
  /-- A whole number where a section was read. -/
  | integer (n : Int)
  | real (decimal : String)
  | text (s : String)
  | nothing
  | sequence
  | map
deriving DecidableEq, Repr

def Found.message : Found → String
  | .truth b => if b then "boolean \x60true\x60" else "boolean \x60false\x60"
  | .signed n => s!"64-bit integer \x60{n}\x60"
  | .unsigned n => s!"64-bit unsigned integer \x60{n}\x60"
  | .integer n => s!"integer \x60{n}\x60"
  | .real decimal => s!"floating point \x60{decimal}\x60"
  | .text s => "string " ++ Text.quoted s
  | .nothing => "unit value"
  | .sequence => "sequence"
  | .map => "map"

/-- Why there is no configuration. -/
inductive Error where
  | message (text : String)
  | missing (field : String)
  | frozen
  | mismatch (found : Found) (expected : String) (key : Option String) (origin : Option String)
  | invalidLength (length : Nat) (expected : String) (key : Option String)
  /-- The text of a file could not be read in its format. -/
  | unreadable (file : String)
deriving DecidableEq, Repr

def forKey : Option String → String
  | none => ""
  | some key => " for key \x60" ++ key ++ "\x60"

def fromOrigin : Option String → String
  | none => ""
  | some origin => " in " ++ origin

def Error.text : Error → String
  | .message text => text
  | .missing field => "missing configuration field \"" ++ field ++ "\""
  | .frozen => "configuration is frozen"
  | .mismatch found expected key origin =>
    "invalid type: " ++ found.message ++ ", expected " ++ expected ++ forKey key ++ fromOrigin origin
  | .invalidLength length expected key => s!"invalid length {length}, expected " ++ expected ++ forKey key
  | .unreadable file => "could not read " ++ file

end ResourceCatalog.Config
