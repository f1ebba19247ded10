import ResourceCatalog.Failure
import ResourceCatalog.Json.Reader
import ResourceCatalog.Json.Value
import ResourceCatalog.Text.Blank

/-!
# Tenants and resources by identifier

Two types of identifier, so that one is never taken for the other. Both are read from any spelling of
a UUID between blanks and written as its lower-case hyphenated text.
-/

namespace ResourceCatalog

/-- Identifies the tenant that owns a resource. -/
structure TenantId where
  uuid : Id.Uuid
deriving DecidableEq, Repr

/-- Identifies a resource. -/
structure ResourceId where
  uuid : Id.Uuid
deriving DecidableEq, Repr

namespace Id

/-- Reads an identifier between blanks; the failure names the type and the text as given. -/
def parseTrimmed (type : String) (s : String) : Outcome Uuid :=
  match Uuid.parse (Text.trim s.toList) with
  | .ok uuid => .ok uuid
  | .error e =>
    .error { kind := .validation, message := "Malformed " ++ type ++ " '" ++ s ++ "': " ++ e.message,
             source := some (.identifier e) }

/-- Reads an identifier in JSON, where no blanks may stand around it. -/
def readUuid : Json.Reader Uuid :=
  Json.readParsed "a formatted UUID string" fun s =>
    (Uuid.parse s.toList).mapError fun e => "UUID parsing failed: " ++ e.message

end Id

namespace TenantId

/-- The tenant whose resources every tenant sees. -/
def system : TenantId := ⟨.nil⟩

def isSystem (t : TenantId) : Bool := t = system

def text (t : TenantId) : String := t.uuid.text

def order (a b : TenantId) : Ordering := a.uuid.order b.uuid

def parse (s : String) : Outcome TenantId := (Id.parseTrimmed "TenantId" s).map mk

def json (t : TenantId) : Json.Value := .text t.text

def read : Json.Reader TenantId := fun tree => (Id.readUuid tree).map mk

end TenantId

namespace ResourceId

def text (r : ResourceId) : String := r.uuid.text

def order (a b : ResourceId) : Ordering := a.uuid.order b.uuid

def parse (s : String) : Outcome ResourceId := (Id.parseTrimmed "ResourceId" s).map mk

def json (r : ResourceId) : Json.Value := .text r.text

def read : Json.Reader ResourceId := fun tree => (Id.readUuid tree).map mk

end ResourceId

end ResourceCatalog
