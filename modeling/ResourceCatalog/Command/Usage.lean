/-! Why the arguments of a command line are not carried out. -/

namespace ResourceCatalog.Command

inductive Usage where
  /-- Help was asked for. -/
  | help
  /-- The version was asked for. -/
  | version
  /-- Nothing was given where a command is needed. -/
  | noArguments
  /-- Options were given, but no command. -/
  | missingCommand
  | unknownCommand
  /-- An argument that has to be given is not there. -/
  | missingArgument
  /-- An option has no value, or none of those it can have. -/
  | invalidValue
  /-- A value cannot be read as what it should be. -/
  | unreadableValue
  | unknownArgument
  | repeatedArgument
  /-- An option that takes no value has one. -/
  | surplusValue
deriving DecidableEq, Repr

/-- What the program answers its caller with. -/
def Usage.exitCode : Usage → Nat
  | help | version => 0
  | _ => 2

end ResourceCatalog.Command
