import ResourceCatalog.Failure
import ResourceCatalog.Json.Reader
import ResourceCatalog.Json.Value
import ResourceCatalog.Text.Blank

/-! The types of artefact that a resource may hold, in their order. -/

namespace ResourceCatalog

inductive ResourceType where
  | lwm2mModel
  | jks
  | pkcs12
  | jsModule
deriving DecidableEq, Repr

namespace ResourceType

def all : List ResourceType := [lwm2mModel, jks, pkcs12, jsModule]

def name : ResourceType → String
  | lwm2mModel => "LWM2M_MODEL"
  | jks => "JKS"
  | pkcs12 => "PKCS_12"
  | jsModule => "JS_MODULE"

/-- The place of the type among all types. -/
def rank : ResourceType → Nat
  | lwm2mModel => 0
  | jks => 1
  | pkcs12 => 2
  | jsModule => 3

def order (a b : ResourceType) : Ordering := compare a.rank b.rank

/-- The form in which names are compared: upper case, with underscores for hyphens. -/
def normalized (s : List Char) : List Char :=
  (Text.trim s).map fun c => if c = '-' then '_' else c.toUpper

/-- The type with the given name, exactly as written. -/
def ofName? (s : String) : Option ResourceType := all.find? fun t => t.name = s

/-- Reads a name in any letter case, with hyphens or underscores, between blanks. -/
def parse (s : String) : Outcome ResourceType :=
  match all.find? fun t => t.name.toList = normalized s.toList with
  | some t => .ok t
  | none =>
    .error (.validation
      ("Invalid resource type: '" ++ s ++ "'. Expected one of: LWM2M_MODEL, JKS, PKCS_12, JS_MODULE"))

def json (t : ResourceType) : Json.Value := .text t.name

def read : Json.Reader ResourceType := Json.readChoice (all.map fun t => (t.name, t))

end ResourceType

end ResourceCatalog
