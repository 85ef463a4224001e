import FeatureGates.Profile
import FeatureGates.Tree.Lookup

namespace FeatureGates

/-!
# What a manifest declares

A manifest with a cluster profile declares which gates are enabled for one feature set of that
profile. Only the first listed version counts.
-/

abbrev GateSet := OrderedSet String

/-- The feature set of a manifest that names none. -/
def defaultFeatureSet : String := "Default"

structure FeatureSetEntry where
  profile : ClusterProfile
  featureSet : String
  enabled : GateSet

namespace Tree

def annotations (manifest : Tree) : Annotations := manifest.textsAt ["metadata", "annotations"]

def featureSet (manifest : Tree) : String :=
  match manifest.textAt? ["spec", "featureSet"] with
  | some name => if name = "" then defaultFeatureSet else name
  | none => defaultFeatureSet

/-- The current version, which is listed first. -/
def currentVersion? (manifest : Tree) : Option Tree :=
  (manifest.itemsAt? ["status", "featureGates"]).bind List.head?

def gateName? (gate : Tree) : Option String :=
  (gate.textAt? ["name"]).filter (· ≠ "")

def enabledGates (manifest : Tree) : GateSet :=
  let gates := (manifest.currentVersion?.bind fun v => v.itemsAt? ["enabled"]).getD []
  OrderedSet.ofList (gates.filterMap gateName?)

/-- What the manifest declares; nothing unless it belongs to a profile. -/
def entry (manifest : Tree) : Except ProfileConflict (Option FeatureSetEntry) :=
  manifest.annotations.profile?.map fun profile? =>
    profile?.map fun profile => ⟨profile, manifest.featureSet, manifest.enabledGates⟩

end Tree

end FeatureGates
