import FeatureGates.Check
import FeatureGates.FileSystem.Path

namespace FeatureGates

/-!
# The log of a run

What is logged is data; its lines are made when they are shown.
-/

/-- The more a level lets through, the greater it is. -/
inductive LogLevel
  | off
  | error
  | warn
  | info
  | debug
  | trace
deriving DecidableEq

namespace LogLevel

def rank : LogLevel → Nat
  | off => 0
  | error => 1
  | warn => 2
  | info => 3
  | debug => 4
  | trace => 5

def label : LogLevel → String
  | off => "  OFF"
  | error => "ERROR"
  | warn => " WARN"
  | info => " INFO"
  | debug => "DEBUG"
  | trace => "TRACE"

end LogLevel

/-- How many there are of what a run deals with. -/
structure RunCounts where
  manifests : Nat
  classified : Nat
  checked : Nat
  skipped : Nat
  violations : Nat
deriving DecidableEq

inductive LogEvent
  | verifying (directory : Path) (rule : SubsetRule)
  | manifestSkipped (path : Path)
  | manifestClassified (path : Path) (profile : ClusterProfile) (featureSet : String)
      (enabled : Nat)
  | profileSkipped (skipped : SkippedProfile)
  | evaluated (counts : RunCounts)
  | reportWritten (path : Path)
  | commandFailed (message : String)
  | causedBy (cause : String)
deriving DecidableEq

namespace LogEvent

def level : LogEvent → LogLevel
  | verifying .. | evaluated .. | reportWritten .. => .info
  | manifestSkipped .. | manifestClassified .. | profileSkipped .. => .debug
  | commandFailed .. | causedBy .. => .error

def message : LogEvent → String
  | verifying .. => "verifying featuregate manifests"
  | manifestSkipped .. => "no recognized cluster profile; skipping manifest"
  | manifestClassified .. => "classified featuregate manifest"
  | profileSkipped .. => "cluster profile skipped"
  | evaluated .. => "featuregate verification evaluated"
  | reportWritten .. => "wrote verification report"
  | commandFailed .. => "command failed"
  | causedBy .. => "caused by"

def fields : LogEvent → List (String × String)
  | verifying directory rule =>
    [("manifest_dir", directory.display), ("baseline", rule.baseline), ("derived", rule.derived)]
  | manifestSkipped path => [("path", path.display)]
  | manifestClassified path profile featureSet enabled =>
    [("path", path.display), ("cluster_profile", profile.name), ("feature_set", featureSet),
      ("enabled", toString enabled)]
  | profileSkipped s =>
    [("cluster_profile", s.profile.name), ("missing_feature_set", s.missingSet)]
  | evaluated c =>
    [("manifests", toString c.manifests), ("classified", toString c.classified),
      ("checked_profiles", toString c.checked), ("skipped_profiles", toString c.skipped),
      ("violations", toString c.violations)]
  | reportWritten path => [("path", path.display)]
  | commandFailed message => [("error", message)]
  | causedBy cause => [("cause", cause)]

def source : LogEvent → String
  | manifestSkipped .. | manifestClassified .. =>
    "featuregate_tools::commands::verify_okd_featuregates::loader"
  | verifying .. | profileSkipped .. | evaluated .. | reportWritten .. =>
    "featuregate_tools::commands::verify_okd_featuregates::run"
  | commandFailed .. | causedBy .. => "featuregate_tools"

/-- Level, message and fields, without the time. -/
def line (e : LogEvent) : String :=
  e.level.label ++ " " ++ e.message ++
    String.join (e.fields.map fun f => " " ++ f.1 ++ "=" ++ f.2)

end LogEvent

end FeatureGates
