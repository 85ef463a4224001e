import FeatureGates.Manifest

namespace FeatureGates

/-!
# Comparing two feature sets

Every gate of the baseline feature set must be a gate of the derived one, in each profile that has
both. A profile that lacks one of them is skipped.
-/

abbrev FeatureSets := OrderedMap String GateSet

abbrev GatesByProfile := OrderedMap ClusterProfile FeatureSets

structure SubsetRule where
  baseline : String
  derived : String
deriving DecidableEq

/-- The rule of a call that names no feature sets. -/
def SubsetRule.standard : SubsetRule := ⟨defaultFeatureSet, "OKD"⟩

structure MissingGates where
  profile : ClusterProfile
  missing : List String
  count : Nat
deriving DecidableEq

def MissingGates.of (profile : ClusterProfile) (missing : List String) : MissingGates :=
  ⟨profile, missing, missing.length⟩

structure SkippedProfile where
  profile : ClusterProfile
  missingSet : String
deriving DecidableEq

/-- What the rule finds in one profile. -/
inductive Finding
  | skipped (missingSet : String)
  | checked (missing : List String)
deriving DecidableEq

def SubsetRule.finding (rule : SubsetRule) (sets : FeatureSets) : Finding :=
  match sets.get? rule.baseline, sets.get? rule.derived with
  | none, _ => .skipped rule.baseline
  | some _, none => .skipped rule.derived
  | some baseline, some derived => .checked (baseline.diff derived).toList

structure CheckOutcome where
  diagnostics : List MissingGates
  checked : List ClusterProfile
  skipped : List SkippedProfile
deriving DecidableEq

def CheckOutcome.passed (outcome : CheckOutcome) : Bool := outcome.diagnostics.isEmpty

namespace Finding

def diagnostic? (profile : ClusterProfile) : Finding → Option MissingGates
  | checked (g :: gs) => some (.of profile (g :: gs))
  | _ => none

def checked? (profile : ClusterProfile) : Finding → Option ClusterProfile
  | checked _ => some profile
  | skipped _ => none

def skipped? (profile : ClusterProfile) : Finding → Option SkippedProfile
  | skipped missingSet => some ⟨profile, missingSet⟩
  | checked _ => none

end Finding

/-- Each profile with its finding, in profile order. -/
def SubsetRule.findings (rule : SubsetRule) (gates : GatesByProfile) :
    List (ClusterProfile × Finding) :=
  gates.entries.map fun e => (e.1, rule.finding e.2)

def SubsetRule.check (rule : SubsetRule) (gates : GatesByProfile) : CheckOutcome where
  diagnostics := (rule.findings gates).filterMap fun (p, f) => f.diagnostic? p
  checked := (rule.findings gates).filterMap fun (p, f) => f.checked? p
  skipped := (rule.findings gates).filterMap fun (p, f) => f.skipped? p

end FeatureGates
