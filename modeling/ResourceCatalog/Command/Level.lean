import ResourceCatalog.Command.Usage

/-!
# Levels of a command line

A command line is read level by level: the program, a command, a command of that command. Each level has
options, and either commands below it or at most one operand. Arguments are taken from left to right. An
option's value is the next argument or stands behind `=`; it is looked at when the argument after it is
reached, so what is wrong with that one may be noticed first.
-/

namespace ResourceCatalog.Command

variable {σ α : Type}

/-- Takes a text into what has been read. -/
abbrev Take (σ : Type) := String → σ → Except Usage σ

/-- What an option does. -/
inductive Effect (σ : Type) where
  /-- Ends the reading. -/
  | stop (usage : Usage)
  /-- Takes no value. -/
  | flag (set : σ → Except Usage σ)
  /-- Takes a value; also one that looks like a negative number if `negative` is set. -/
  | value (negative : Bool) (take : Take σ)

structure OptionSpec (σ : Type) where
  name : String
  short : Option Char
  effect : Effect σ

structure Level (σ : Type) where
  options : List (OptionSpec σ)
  /-- The names of the commands below. -/
  commands : List String := []
  operand : Option (Take σ) := none

/-- What has been reached but not taken in yet. -/
inductive Pending (σ : Type) where
  | nothing
  /-- An option whose value is still to come. -/
  | awaiting (negative : Bool) (take : Take σ)
  /-- A text and what takes it. -/
  | held (text : String) (take : Take σ)

/-- How far a level has been read. -/
structure Progress (σ : Type) where
  state : σ
  pending : Pending σ := .nothing
  /-- The operand has been reached. -/
  operandSeen : Bool := false
  /-- Only operands follow. -/
  trailing : Bool := false
  /-- Something was given. -/
  explicit : Bool := false

/-- Takes in what was pending. -/
def Progress.settle (p : Progress σ) : Except Usage (Progress σ) :=
  match p.pending with
  | .nothing => .ok p
  | .awaiting _ _ => .error .invalidValue
  | .held text take => do
    return { p with state := ← take text p.state, pending := .nothing, explicit := true }

/-- Takes in what was pending, and then a change. -/
def Progress.apply (p : Progress σ) (set : σ → Except Usage σ) : Except Usage (Progress σ) := do
  let p ← p.settle
  return { p with state := ← set p.state, explicit := true }

/-- Takes in what was pending; an option's value comes next. -/
def Progress.await (p : Progress σ) (negative : Bool) (take : Take σ) : Except Usage (Progress σ) := do
  return { ← p.settle with pending := .awaiting negative take }

/-- Takes in what was pending, and then ends with `usage`. -/
def Progress.stop (p : Progress σ) (usage : Usage) : Except Usage (Progress σ) := do
  let _ ← p.settle
  .error usage

/-! ## Options -/

/-- The rest of a number whose first character has been read: digits, a point before any `e`, and one `e`
that is not the last character. -/
def isNumberTail (dotSeen : Bool) (exponentSeen : Bool) : List Char → Bool
  | [] => true
  | c :: rest =>
    if c.isDigit then isNumberTail dotSeen exponentSeen rest
    else if c = '.' then !dotSeen && !exponentSeen && isNumberTail true exponentSeen rest
    else c = 'e' && !exponentSeen && !rest.isEmpty && isNumberTail dotSeen true rest

/-- The characters look like a number. -/
def isNumber : List Char → Bool
  | [] => true
  | c :: rest => c.isDigit && isNumberTail false false rest

/-- Splits at the first `=`; nothing stands behind it if there is none. -/
def splitValue : List Char → List Char × Option (List Char)
  | [] => ([], none)
  | c :: rest =>
    if c = '=' then ([], some rest)
    else
      let (name, value) := splitValue rest
      (c :: name, value)

/-- Takes an option by its long name, with the value behind `=` if there is one. -/
def Level.takeLong (level : Level σ) (p : Progress σ) (name : String) (value : Option String) :
    Except Usage (Progress σ) :=
  match level.options.find? fun o => o.name = name with
  | none => .error .unknownArgument
  | some o =>
    match o.effect, value with
    | .stop usage, none => p.stop usage
    | .flag set, none => p.apply set
    | .stop _, some _ | .flag _, some _ => .error .surplusValue
    | .value negative take, none => p.await negative take
    | .value _ take, some text => p.apply (take text)

/-- Takes options by their letters. The letters behind an option that takes a value are its value. -/
def Level.takeShort (level : Level σ) (p : Progress σ) : List Char → Except Usage (Progress σ)
  | [] => .ok p
  | c :: rest =>
    match level.options.find? fun o => o.short = some c with
    | none => .error .unknownArgument
    | some o =>
      match o.effect, rest with
      | .stop usage, _ => p.stop usage
      | .flag set, rest => do level.takeShort (← p.apply set) rest
      | .value negative take, [] => p.await negative take
      | .value _ take, '=' :: text => p.apply (take (String.ofList text))
      | .value _ take, text => p.apply (take (String.ofList text))

/-! ## Arguments -/

/-- The forms of an argument. -/
inductive Form where
  /-- Two hyphens alone, behind which only operands follow. -/
  | separator
  | long (name : String) (value : Option String)
  | short (letters : List Char)
  | plain
deriving DecidableEq, Repr

def formOf (arg : String) : Form :=
  match arg.toList with
  | ['-', '-'] => .separator
  | '-' :: '-' :: rest =>
    let (name, value) := splitValue rest
    .long (String.ofList name) (value.map String.ofList)
  | ['-'] => .plain
  | '-' :: rest => .short rest
  | _ => .plain

/-- The answer to an argument that has no place. -/
def Level.stray (level : Level σ) (p : Progress σ) (arg : String) : Usage :=
  if level.commands = [] ∨ p.trailing ∧ arg ∈ level.commands then .unknownArgument else .unknownCommand

/-- Takes an argument that is no option. -/
def Level.takeOperand (level : Level σ) (p : Progress σ) (arg : String) : Except Usage (Progress σ) :=
  match level.operand with
  | some take =>
    if p.operandSeen then .error (level.stray p arg)
    else do return { ← p.settle with pending := .held arg take, operandSeen := true }
  | none => .error (level.stray p arg)

/-- Takes an argument where no value is expected. -/
def Level.takeFree (level : Level σ) (p : Progress σ) (arg : String) : Except Usage (Progress σ) :=
  match formOf arg with
  | .separator => .ok { p with trailing := true }
  | .long name value => level.takeLong p name value
  | .short letters => level.takeShort p letters
  | .plain => level.takeOperand p arg

/-- Takes an argument where the value of an option is expected. -/
def Level.takeValue (level : Level σ) (p : Progress σ) (negative : Bool) (take : Take σ) (arg : String) :
    Except Usage (Progress σ) :=
  match formOf arg with
  | .plain => .ok { p with pending := .held arg take }
  | .short letters =>
    if negative ∧ isNumber letters then .ok { p with pending := .held arg take }
    else level.takeShort p letters
  | _ => level.takeFree p arg

def Progress.isAwaiting (p : Progress σ) : Bool :=
  match p.pending with
  | .awaiting _ _ => true
  | _ => false

def Level.take (level : Level σ) (p : Progress σ) (arg : String) : Except Usage (Progress σ) :=
  if p.trailing then level.takeOperand p arg
  else
    match p.pending with
    | .awaiting negative take => level.takeValue p negative take arg
    | _ => level.takeFree p arg

/-- Where the reading of a level ends: at the end of the arguments, or where a command is named. -/
inductive Reading (σ : Type) where
  | ended (p : Progress σ)
  | entered (p : Progress σ) (command : String) (rest : List String)

/-- Reads the arguments of a level. -/
def Level.read (level : Level σ) (p : Progress σ) : List String → Except Usage (Reading σ)
  | [] => .ok (.ended p)
  | arg :: rest =>
    if !p.trailing && !p.isAwaiting && level.commands.contains arg then .ok (.entered p arg rest)
    else do level.read (← level.take p arg) rest

/-- Reads the arguments of a level that has no commands. -/
def Level.readLast (level : Level σ) (state : σ) (args : List String) : Except Usage σ := do
  match ← level.read { state } args with
  | .ended p => return (← p.settle).state
  | .entered _ _ _ => .error .unknownCommand

/-- Reads the arguments of a level and of the command that they name. What is wrong below is noticed
before the last option of this level is looked at. -/
def Level.readWith (level : Level σ) (state : σ) (below : String → List String → Except Usage α)
    (args : List String) : Except Usage (σ × α) := do
  match ← level.read { state } args with
  | .ended p => .error (if (← p.settle).explicit then .missingCommand else .noArguments)
  | .entered p command rest =>
    let a ← below command rest
    return ((← p.settle).state, a)

/-! ## Fields -/

/-- Gives a field a value unless it has one. -/
def setOnce (current : Option α) (put : α → σ) (value : Except Usage α) : Except Usage σ :=
  match current with
  | some _ => .error .repeatedArgument
  | none => value.map put

/-- Sets a flag unless it is set. -/
def raiseOnce (current : Bool) (raised : σ) : Except Usage σ :=
  if current then .error .repeatedArgument else .ok raised

/-- A field that must have been given. -/
def required : Option α → Except Usage α
  | some a => .ok a
  | none => .error .missingArgument

end ResourceCatalog.Command
