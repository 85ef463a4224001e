import FeatureGates.CommandLine.Option
import FeatureGates.Text.ControlSequence

namespace FeatureGates

/-!
# Usage and help

The program has a command that verifies and one that shows help. How a call of either is written
starts with the name under which the program has been called.
-/

def programName : String := "featuregate-tools"

def programVersion : String := "0.1.0"

/-- The program itself, or one of its commands. -/
inductive Command
  | program
  | verify
  | help
deriving DecidableEq

inductive Flag
  | help
  | version
deriving DecidableEq

namespace Flag

def long : Flag → String
  | help => "help"
  | version => "version"

def letter : Flag → Char
  | help => 'h'
  | version => 'V'

def shown (f : Flag) : String := "--" ++ f.long

end Flag

namespace Command

def verifyName : String := "verify-okd-featuregates"

def helpName : String := "help"

def names : List String := [verifyName, helpName]

def ofName? (name : Bytes) : Option Command :=
  if name = Bytes.ofString verifyName then some verify
  else if name = Bytes.ofString helpName then some help
  else none

def about : Command → String
  | program => "Verification tooling for generated FeatureGate manifests"
  | verify => "Verify that all featuregates enabled in Default are also enabled in OKD"
  | help => "Print this message or the help of the given subcommand(s)"

def flags : Command → List Flag
  | program => [.help, .version]
  | verify => [.help]
  | help => []

def options : Command → List OptionName
  | verify => OptionName.all
  | _ => []

def longNames (c : Command) : List String :=
  c.options.map OptionName.long ++ c.flags.map Flag.long

def name : Command → String
  | program => programName
  | verify => verifyName
  | help => helpName

/-- The words that call the command. Without a path to name the program after, its commands stand
alone. -/
def call (caller : Option String) : Command → String
  | program => caller.getD programName
  | c => (caller.elim "" fun p => p ++ " ") ++ c.name

end Command

/-- How the program is spoken of, and to whom. -/
structure Address where
  /-- The name under which it has been called, if its path ends with one. -/
  caller : Option String
  medium : Medium

/-! ## Usage -/

/-- What a usage line shows in place of the general form: flags, options, or the options as one
group. -/
inductive Mention
  | flag (f : Flag)
  | option (o : OptionName)
  | anyOption
deriving DecidableEq

namespace Mention

def text : Mention → String
  | flag f => f.shown
  | option o => o.shown
  | anyOption => "<" ++ "|".intercalate (OptionName.all.map OptionName.shown) ++ ">"

def ofLong? (long : String) : Option Mention :=
  match [Flag.help, Flag.version].find? fun f => f.long = long with
  | some f => some (.flag f)
  | none => (OptionName.all.find? fun o => o.long = long).map .option

/-- Mentions the bearer of a long name too, at the end if it is not there yet. -/
def add (ms : List Mention) (long : String) : List Mention :=
  match ofLong? long with
  | some m => if m ∈ ms then ms else ms ++ [m]
  | none => ms

end Mention

namespace Command

/-- What follows the call where nothing is mentioned. -/
def generalForm : Command → String
  | program => "<COMMAND>"
  | verify => "[OPTIONS]"
  | help => "[COMMAND]..."

def usage (c : Command) (a : Address) (ms : List Mention) : String :=
  let rest :=
    if ms = [] then [c.generalForm]
    else ms.map Mention.text ++ if c = .program then [c.generalForm] else []
  "Usage: " ++ " ".intercalate (a.medium.displayed (c.call a.caller) :: rest)

end Command

/-! ## Help -/

namespace OptionName

def about : OptionName → String
  | directory =>
    "path to directory containing the FeatureGate YAMLs for each FeatureSet,ClusterProfile tuple."
  | _ => ""

def default? : OptionName → Option String
  | directory => some standardDirectory
  | baseline => some SubsetRule.standard.baseline
  | derived => some SubsetRule.standard.derived
  | report => none

def help (o : OptionName) : String :=
  let default := (o.default?.map fun d => "[default: " ++ d ++ "]").toList
  let about := if o.about = "" then [] else [o.about]
  "      " ++ o.shown ++ "\n          " ++ " ".intercalate (about ++ default) ++ "\n"

end OptionName

namespace Command

def arguments : Command → String
  | program =>
    "Commands:\n  " ++ verifyName ++ "  " ++ verify.about ++ "\n  " ++ helpName ++
      "                     " ++ help.about ++
      "\n\nOptions:\n  -h, --help     Print help\n  -V, --version  Print version\n"
  | verify =>
    "Options:\n" ++ String.join (OptionName.all.map OptionName.help) ++
      "  -h, --help\n          Print help\n"
  | help => "Arguments:\n  [COMMAND]...  Print help for the subcommand(s)\n"

def helpText (c : Command) (a : Address) : String :=
  c.about ++ "\n\n" ++ c.usage a [] ++ "\n\n" ++ c.arguments

end Command

end FeatureGates
