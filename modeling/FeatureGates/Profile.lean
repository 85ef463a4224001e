import FeatureGates.Ordered
import FeatureGates.Text.Part

namespace FeatureGates

/-!
# Cluster profiles

A manifest belongs to the profile that its release annotations name. The order of the profiles is
the order in which they are reported.
-/

inductive ClusterProfile
  | selfManagedHA
  | hypershift
deriving DecidableEq, Ord

namespace ClusterProfile

instance : Std.TransOrd ClusterProfile where
  eq_swap {a b} := by cases a <;> cases b <;> decide
  isLE_trans {a b c} := by cases a <;> cases b <;> cases c <;> decide

instance : Std.LawfulEqOrd ClusterProfile where
  compare_self {a} := by cases a <;> decide
  eq_of_compare {a b} := by cases a <;> cases b <;> decide

def name : ClusterProfile → String
  | selfManagedHA => "SelfManagedHA"
  | hypershift => "Hypershift"

def selfManagedMarker : String := "self-managed-high-availability"

def hypershiftMarker : String := "ibm-cloud-managed"

/-- A key that holds both markers is of the first profile. -/
def ofKey? (key : String) : Option ClusterProfile :=
  if holds key selfManagedMarker then some selfManagedHA
  else if holds key hypershiftMarker then some hypershift
  else none

end ClusterProfile

/-- What the keys of release annotations start with. -/
def releaseInclude : String := "include.release.openshift.io/"

/-- The value of the release annotations that count. -/
def configOperatorOnly : String := "false-except-for-the-config-operator"

/-- Keys and values, sorted by key. -/
abbrev Annotations := OrderedMap String String

namespace Annotations

def assigned? (key value : String) : Option ClusterProfile :=
  if releaseInclude.toList <+: key.toList ∧ value = configOperatorOnly then
    ClusterProfile.ofKey? key
  else none

/-- The profiles that the annotations assign, in the order of their keys. -/
def assigned (annotations : Annotations) : List ClusterProfile :=
  annotations.entries.filterMap fun e => assigned? e.1 e.2

end Annotations

structure ProfileConflict where
  first : ClusterProfile
  second : ClusterProfile
deriving DecidableEq

/-- The common profile of a list, or its head and the first member that differs from it. -/
def ProfileConflict.resolve : List ClusterProfile → Except ProfileConflict (Option ClusterProfile)
  | [] => .ok none
  | p :: ps =>
    match ps.find? (· ≠ p) with
    | none => .ok (some p)
    | some q => .error ⟨p, q⟩

def Annotations.profile? (annotations : Annotations) :
    Except ProfileConflict (Option ClusterProfile) :=
  ProfileConflict.resolve annotations.assigned

end FeatureGates
