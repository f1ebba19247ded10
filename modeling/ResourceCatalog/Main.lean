import ResourceCatalog.Command.Execute
import ResourceCatalog.Config.Load
import Std.Time.DateTime.Timestamp

/-!
# The program

Reads its arguments, its settings and the clock, carries the command out, and prints what it says. The
resources live in a store in memory, for as long as the program runs.
-/

namespace ResourceCatalog.Main

open Command

/-- The variables that give a setting each. -/
def variableNames : List String :=
  ["RESDAO__DATABASE__URL", "RESDAO__DATABASE__MAX_CONNECTIONS", "RESDAO__DATABASE__MIN_CONNECTIONS",
    "RESDAO__DATABASE__CONNECT_TIMEOUT_SECONDS", "RESDAO__DATABASE__IDLE_TIMEOUT_SECONDS",
    "RESDAO__LOGGING__LEVEL", "RESDAO__LOGGING__FORMAT"]

def givenVariables : IO (List (String × String)) :=
  variableNames.filterMapM fun name => do return (← IO.getEnv name).map (name, ·)

/-- The text of a file, if it is there. -/
def readFile? (path : String) : IO (Option String) := do
  try
    return some (← IO.FS.readFile path)
  catch _ =>
    return none

/-- The files among which those of some names are found, with their texts. -/
def readFiles (names : List String) : IO (List (String × String)) :=
  (names.flatMap Config.candidates).filterMapM fun path => do return (← readFile? path).map (path, ·)

def loadSettings (i : Invocation) : IO (Outcome Config.Settings) := do
  let files ← readFiles (Config.fileNames i.config i.environment)
  let loaded := Config.Settings.load (fun path => files.lookup path) (← givenVariables) i.config i.environment
  return loaded.mapError Failure.ofConfig

/-- The number whose digits in base 256 are some bytes. -/
def numberOfBytes (bytes : ByteArray) : Nat := bytes.toList.foldl (fun n b => 256 * n + b.toNat) 0

/-- The instant that many nanoseconds from the start of 1970, or that start. -/
def instantOfNanos (nanos : Int) : Option Time.Timestamp :=
  Time.Timestamp.ofMicrosFrom2000? (nanos / 1000 - 946684800000000)

/-- An identifier that no resource has yet, and the time. -/
def makeFresh : IO (Option Fresh) := do
  let nanos := (← Std.Time.Timestamp.now).toNanosecondsSinceUnixEpoch.val
  let id : ResourceId := ⟨.ofTime (nanos / 1000000).toNat (numberOfBytes (← IO.getRandomBytes 10))⟩
  return (instantOfNanos nanos).map fun now => { id, now }

/-- The services of a store in memory. -/
def services : Services (StateM Store) :=
  { connect := fun _ => pure ()
    migrate := pure ()
    health := do
      let s : Store ← ExceptT.lift get
      return { schemaReady := true, resourceCount := some s.rows.size }
    catalog := Store.catalog }

def usageText : String :=
  "Usage: resdao [--config FILE] [--env NAME] [--format table|json] COMMAND\n\n" ++
  "Commands:\n" ++
  "  migrate run | check\n" ++
  "  resource list --tenant ID [--own-only] [--page-size N] [--page N] [--search TEXT]\n" ++
  "                [--sort PROPERTY [--desc]] [--all-pages]\n" ++
  "  resource get ID\n" ++
  "  resource save [--id ID] --tenant ID --title TEXT --type TYPE --key TEXT\n" ++
  "  resource delete ID\n"

/-- What is printed when the arguments are not carried out. -/
def usageMessage : Usage → String
  | .help | .noArguments => usageText
  | .version => "resdao 0.1.0\n"
  | .missingCommand => "error: a command is missing\n\n" ++ usageText
  | .unknownCommand => "error: there is no such command\n\n" ++ usageText
  | .missingArgument => "error: a required argument is missing\n\n" ++ usageText
  | .invalidValue => "error: an option has no value or not one of its values\n\n" ++ usageText
  | .unreadableValue => "error: a value cannot be read\n\n" ++ usageText
  | .unknownArgument => "error: there is no such argument\n\n" ++ usageText
  | .repeatedArgument => "error: an argument is given twice\n\n" ++ usageText
  | .surplusValue => "error: an option that takes no value has one\n\n" ++ usageText

/-- Prints why the arguments are not carried out. -/
def refuse (usage : Usage) : IO UInt32 := do
  if usage.exitCode = 0 then IO.print (usageMessage usage) else IO.eprint (usageMessage usage)
  return usage.exitCode.toUInt32

def carryOut (i : Invocation) : IO UInt32 := do
  match ← makeFresh with
  | none =>
    IO.eprint (failureLine (.internal "The clock is out of range"))
    return 1
  | some fresh =>
    let (report, _) := (execute services (← loadSettings i) fresh i).run Store.empty
    IO.print report.printed
    IO.eprint report.complaint
    return report.exitCode.toUInt32

end ResourceCatalog.Main

def main (args : List String) : IO UInt32 :=
  match ResourceCatalog.Command.Invocation.parse args with
  | .error usage => ResourceCatalog.Main.refuse usage
  | .ok i => ResourceCatalog.Main.carryOut i
