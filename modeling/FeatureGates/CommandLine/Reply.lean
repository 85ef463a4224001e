import FeatureGates.CommandLine.Help

namespace FeatureGates

/-!
# What is said in place of a run

A call that asks for help or for the version gets it. A call that cannot be understood is refused
with the reason, a hint where some name is much like what was written, and the usage.
-/

/-- What an argument that is not known may have been meant for. -/
inductive Hint
  | flag (long : String)
  | flagOf (command long : String)
  | needlessSeparator (command : String)
deriving DecidableEq

inductive UsageError
  | commandMissing
  | unexpected (c : Command) (shown : String) (hint : Option Hint) (mentioned : List Mention)
  | unknownCommand (c : Command) (shown : String) (similar : List String)
  | valueMissing (o : OptionName)
  | needlessValue (c : Command) (f : Flag) (shown : String) (mentioned : List Mention)
  | repeated (o : OptionName)
  | notText
deriving DecidableEq

inductive Reply
  | help (c : Command)
  | version
  | refused (e : UsageError)
deriving DecidableEq

def Hint.text : Hint → String
  | flag long => "a similar argument exists: '--" ++ long ++ "'"
  | flagOf command long => "'" ++ command ++ " --" ++ long ++ "' exists"
  | needlessSeparator command =>
    "subcommand '" ++ command ++ "' exists; to use it, remove the '--' before it"

namespace UsageError

def reason (m : Medium) : UsageError → String
  | commandMissing => ""
  | unexpected _ shown _ _ => "unexpected argument '" ++ m.displayed shown ++ "' found"
  | unknownCommand _ shown _ => "unrecognized subcommand '" ++ m.displayed shown ++ "'"
  | valueMissing o => "a value is required for '" ++ o.shown ++ "' but none was supplied"
  | needlessValue _ f shown _ =>
    "unexpected value '" ++ m.displayed shown ++ "' for '" ++ f.shown ++
      "' found; no more were expected"
  | repeated o => "the argument '" ++ o.shown ++ "' cannot be used multiple times"
  | notText => "invalid UTF-8 was detected in one or more arguments"

def hint? : UsageError → Option String
  | unexpected _ _ hint _ => hint.map Hint.text
  | unknownCommand _ _ [] => none
  | unknownCommand _ _ [name] => some ("a similar subcommand exists: '" ++ name ++ "'")
  | unknownCommand _ _ names =>
    some ("some similar subcommands exist: " ++
      ", ".intercalate (names.map fun name => "'" ++ name ++ "'"))
  | _ => none

/-- A missing value is refused without a word on usage. -/
def usage? (a : Address) : UsageError → Option String
  | commandMissing | valueMissing _ => none
  | unexpected c _ _ ms | needlessValue c _ _ ms => some (c.usage a ms)
  | unknownCommand c _ _ => some (c.usage a [])
  | repeated _ | notText => some (Command.verify.usage a [])

def command : UsageError → Command
  | commandMissing => .program
  | unexpected c .. | unknownCommand c .. | needlessValue c .. => c
  | valueMissing _ | repeated _ | notText => .verify

/-- Points to the help, where the command has a flag for it. -/
def footer (e : UsageError) : String :=
  if Flag.help ∈ e.command.flags then "\n\nFor more information, try '--help'.\n" else "\n"

def text (a : Address) (e : UsageError) : String :=
  if e = commandMissing then Command.program.helpText a
  else
    "error: " ++ e.reason a.medium ++ (e.hint?.elim "" fun h => "\n\n  tip: " ++ h) ++
      ((e.usage? a).elim "" fun u => "\n\n" ++ u) ++ e.footer

end UsageError

namespace Reply

def text (a : Address) : Reply → String
  | help c => c.helpText a
  | version => programName ++ " " ++ programVersion ++ "\n"
  | refused e => e.text a

def isError : Reply → Bool
  | refused _ => true
  | _ => false

end Reply

end FeatureGates
