import FeatureGates.Verification

namespace FeatureGates

/-!
# The options of a verification

Each option takes one value. An option that is left out has a default, except for the report, which
is then not written.
-/

inductive OptionName
  | directory
  | baseline
  | derived
  | report
deriving DecidableEq

namespace OptionName

def all : List OptionName := [directory, baseline, derived, report]

def long : OptionName → String
  | directory => "featureset-manifest-path"
  | baseline => "baseline-feature-set"
  | derived => "derived-feature-set"
  | report => "report-path"

/-- What stands for the value in messages. -/
def placeholder : OptionName → String
  | directory => "FEATURESET_MANIFEST_PATH"
  | baseline => "BASELINE_FEATURE_SET"
  | derived => "DERIVED_FEATURE_SET"
  | report => "REPORT_PATH"

def shown (o : OptionName) : String := "--" ++ o.long ++ " <" ++ o.placeholder ++ ">"

def ofLong? (name : Bytes) : Option OptionName := all.find? fun o => Bytes.ofString o.long = name

end OptionName

def standardDirectory : String := "payload-manifests/featuregates"

structure GivenOptions where
  directory : Option Path
  baseline : Option String
  derived : Option String
  report : Option Path
deriving DecidableEq

namespace GivenOptions

def empty : GivenOptions := ⟨none, none, none, none⟩

instance : EmptyCollection GivenOptions := ⟨empty⟩

def has (g : GivenOptions) : OptionName → Bool
  | .directory => g.directory.isSome
  | .baseline => g.baseline.isSome
  | .derived => g.derived.isSome
  | .report => g.report.isSome

/-- The options of the run, defaults in place of what has not been given. -/
def complete (g : GivenOptions) : VerifyOptions where
  directory := g.directory.getD (Bytes.ofString standardDirectory)
  baseline := g.baseline.getD SubsetRule.standard.baseline
  derived := g.derived.getD SubsetRule.standard.derived
  reportPath := g.report

end GivenOptions

end FeatureGates
