import ResourceCatalog.Command.Level
import ResourceCatalog.Decimal.Nearest
import ResourceCatalog.Page.SortOrder
import ResourceCatalog.Resource.Basic
import ResourceCatalog.Word

/-!
# Arguments

What can be asked on the command line, how it is read from arguments, and how it is written as arguments
with one `--name=value` for every value and one `--name` for every flag.
-/

namespace ResourceCatalog.Command

/-- The form in which resources are printed. -/
inductive OutputFormat where
  | table
  | json
deriving DecidableEq, Repr

structure ListArgs where
  tenant : TenantId
  /-- Leaves out the resources of the system tenant. -/
  ownOnly : Bool := false
  pageSize : Int := 20
  page : Int := 0
  search : Option String := none
  sort : Option String := none
  desc : Bool := false
  /-- Prints the page and all pages after it. -/
  allPages : Bool := false
deriving DecidableEq, Repr

structure SaveArgs where
  /-- The resource to change; a new one is made if there is none. -/
  id : Option ResourceId := none
  tenant : TenantId
  title : String
  resourceType : ResourceType
  key : String
deriving DecidableEq, Repr

inductive ResourceCommand where
  | list (args : ListArgs)
  | get (id : ResourceId)
  | save (args : SaveArgs)
  | delete (id : ResourceId)
deriving DecidableEq, Repr

inductive MigrateCommand where
  | run
  | check
deriving DecidableEq, Repr

inductive Action where
  | migrate (command : MigrateCommand)
  | resource (command : ResourceCommand)
deriving DecidableEq, Repr

/-- A whole command line. -/
structure Invocation where
  config : String := "config/default.toml"
  environment : Option String := none
  format : OutputFormat := .table
  action : Action
deriving DecidableEq, Repr

/-! ## Values -/

variable {σ α : Type}

def readable : Option α → Except Usage α
  | some a => .ok a
  | none => .error .unreadableValue

def readTenant (s : String) : Except Usage TenantId := readable (TenantId.parse s).toOption

def readId (s : String) : Except Usage ResourceId := readable (ResourceId.parse s).toOption

def readType (s : String) : Except Usage ResourceType := readable (ResourceType.parse s).toOption

/-- Reads a whole number of 64 bits. -/
def readInteger (s : String) : Except Usage Int :=
  readable ((Decimal.integer? s.toList).filter Word.fitsSigned64)

def readFormat (s : String) : Except Usage OutputFormat :=
  match s with
  | "table" => .ok .table
  | "json" => .ok .json
  | _ => .error .invalidValue

/-- The option that shows help, which every level has. -/
def helpOption : OptionSpec σ := ⟨"help", some 'h', .stop .help⟩

/-! ## Listing -/

/-- What has been read of the arguments of a list. -/
structure ListFields where
  tenant : Option TenantId := none
  ownOnly : Bool := false
  pageSize : Option Int := none
  page : Option Int := none
  search : Option String := none
  sort : Option String := none
  desc : Bool := false
  allPages : Bool := false

def listLevel : Level ListFields where
  options := [
    ⟨"tenant", some 't', .value false fun s f => setOnce f.tenant ({ f with tenant := some · }) (readTenant s)⟩,
    ⟨"own-only", none, .flag fun f => raiseOnce f.ownOnly { f with ownOnly := true }⟩,
    ⟨"page-size", none, .value true fun s f =>
      setOnce f.pageSize ({ f with pageSize := some · }) (readInteger s)⟩,
    ⟨"page", some 'p', .value true fun s f => setOnce f.page ({ f with page := some · }) (readInteger s)⟩,
    ⟨"search", some 's', .value false fun s f => setOnce f.search ({ f with search := some · }) (.ok s)⟩,
    ⟨"sort", none, .value false fun s f => setOnce f.sort ({ f with sort := some · }) (.ok s)⟩,
    ⟨"desc", none, .flag fun f => raiseOnce f.desc { f with desc := true }⟩,
    ⟨"all-pages", none, .flag fun f => raiseOnce f.allPages { f with allPages := true }⟩,
    helpOption]

/-- The direction is given only together with a property. -/
def ListFields.finish (f : ListFields) : Except Usage ListArgs := do
  let tenant ← required f.tenant
  if f.desc ∧ f.sort = none then .error .missingArgument
  else
    return { tenant, ownOnly := f.ownOnly, pageSize := f.pageSize.getD 20, page := f.page.getD 0,
             search := f.search, sort := f.sort, desc := f.desc, allPages := f.allPages }

def ListArgs.parse (args : List String) : Except Usage ListArgs := do
  (← listLevel.readLast {} args).finish

/-! ## Saving -/

/-- What has been read of the arguments of a save. -/
structure SaveFields where
  id : Option ResourceId := none
  tenant : Option TenantId := none
  title : Option String := none
  resourceType : Option ResourceType := none
  key : Option String := none

def saveLevel : Level SaveFields where
  options := [
    ⟨"id", none, .value false fun s f => setOnce f.id ({ f with id := some · }) (readId s)⟩,
    ⟨"tenant", some 't', .value false fun s f => setOnce f.tenant ({ f with tenant := some · }) (readTenant s)⟩,
    ⟨"title", none, .value false fun s f => setOnce f.title ({ f with title := some · }) (.ok s)⟩,
    ⟨"type", none, .value false fun s f =>
      setOnce f.resourceType ({ f with resourceType := some · }) (readType s)⟩,
    ⟨"key", some 'k', .value false fun s f => setOnce f.key ({ f with key := some · }) (.ok s)⟩,
    helpOption]

def SaveFields.finish (f : SaveFields) : Except Usage SaveArgs := do
  return { id := f.id, tenant := ← required f.tenant, title := ← required f.title,
           resourceType := ← required f.resourceType, key := ← required f.key }

def SaveArgs.parse (args : List String) : Except Usage SaveArgs := do
  (← saveLevel.readLast {} args).finish

/-! ## Commands -/

/-- The level of a command whose only argument is an identifier. -/
def idLevel : Level (Option ResourceId) where
  options := [helpOption]
  operand := some fun s current => setOnce current some (readId s)

def parseId (args : List String) : Except Usage ResourceId := do
  required (← idLevel.readLast none args)

/-- The level of a command without arguments. -/
def bareLevel : Level Unit where
  options := [helpOption]

/-- The commands below the one that a path leads to. -/
def commandsBelow : List String → List String
  | [] => ["migrate", "resource", "help"]
  | ["migrate"] => ["run", "check", "help"]
  | ["resource"] => ["list", "get", "save", "delete", "help"]
  | _ => []

/-- The answer to a question for help on a command below a path. -/
def helpOn (path : List String) : List String → Usage
  | [] => .help
  | name :: rest => if name ∈ commandsBelow path then helpOn (path ++ [name]) rest else .unknownCommand

/-- The level of a command that has commands and no options of its own. -/
def groupLevel (path : List String) : Level Unit where
  options := [helpOption]
  commands := commandsBelow path

def parseResourceCommand (name : String) (args : List String) : Except Usage ResourceCommand :=
  match name with
  | "list" => (ListArgs.parse args).map .list
  | "get" => (parseId args).map .get
  | "save" => (SaveArgs.parse args).map .save
  | "delete" => (parseId args).map .delete
  | _ => .error (helpOn ["resource"] args)

def parseMigrateCommand (name : String) (args : List String) : Except Usage MigrateCommand :=
  match name with
  | "run" => (bareLevel.readLast () args).map fun () => .run
  | "check" => (bareLevel.readLast () args).map fun () => .check
  | _ => .error (helpOn ["migrate"] args)

def parseAction (name : String) (args : List String) : Except Usage Action :=
  match name with
  | "resource" =>
    ((groupLevel ["resource"]).readWith () parseResourceCommand args).map fun (_, c) => .resource c
  | "migrate" =>
    ((groupLevel ["migrate"]).readWith () parseMigrateCommand args).map fun (_, c) => .migrate c
  | _ => .error (helpOn [] args)

/-! ## Whole command lines -/

/-- What has been read of the options of the program. -/
structure ProgramFields where
  config : Option String := none
  environment : Option String := none
  format : Option OutputFormat := none

def programLevel : Level ProgramFields where
  options := [
    ⟨"config", some 'c', .value false fun s f => setOnce f.config ({ f with config := some · }) (.ok s)⟩,
    ⟨"env", some 'e', .value false fun s f =>
      setOnce f.environment ({ f with environment := some · }) (.ok s)⟩,
    ⟨"format", some 'f', .value false fun s f =>
      setOnce f.format ({ f with format := some · }) (readFormat s)⟩,
    helpOption,
    ⟨"version", some 'V', .stop .version⟩]
  commands := commandsBelow []

/-- The command line of some options and an action. -/
def ProgramFields.invocation (f : ProgramFields) (action : Action) : Invocation :=
  let default : Invocation := { action }
  { action, environment := f.environment, config := f.config.getD default.config,
    format := f.format.getD default.format }

/-- Reads the arguments of the program. -/
def Invocation.parse (args : List String) : Except Usage Invocation := do
  let (fields, action) ← programLevel.readWith {} parseAction args
  return fields.invocation action

/-! ## Writing arguments -/

def valueArgument (name value : String) : String := "--" ++ name ++ "=" ++ value

def optionalArgument (name : String) (value : Option String) : List String :=
  (value.map (valueArgument name)).toList

def flagArgument (name : String) (given : Bool) : List String := if given then ["--" ++ name] else []

def ListArgs.arguments (a : ListArgs) : List String :=
  [valueArgument "tenant" a.tenant.text, valueArgument "page-size" (toString a.pageSize),
    valueArgument "page" (toString a.page)] ++
    optionalArgument "search" a.search ++ optionalArgument "sort" a.sort ++
    flagArgument "own-only" a.ownOnly ++ flagArgument "desc" a.desc ++ flagArgument "all-pages" a.allPages

def SaveArgs.arguments (a : SaveArgs) : List String :=
  optionalArgument "id" (a.id.map ResourceId.text) ++
    [valueArgument "tenant" a.tenant.text, valueArgument "title" a.title,
      valueArgument "type" a.resourceType.name, valueArgument "key" a.key]

end ResourceCatalog.Command
