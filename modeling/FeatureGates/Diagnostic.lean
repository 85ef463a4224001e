import FeatureGates.Check

namespace FeatureGates

/-!
# The text of the diagnostics

One block for each profile that lacks gates, with a blank line between blocks.
-/

/-- A line break and the mark of a listed gate. -/
def gateBullet : String := "\n  - "

def MissingGates.text (d : MissingGates) (rule : SubsetRule) : String :=
  "ERROR: ClusterProfile \"" ++ d.profile.name ++ "\": " ++ rule.derived ++
    " featureset is missing " ++ toString d.count ++ " featuregate(s) that are enabled in " ++
    rule.baseline ++ ":" ++ gateBullet ++ gateBullet.intercalate d.missing ++
    "\n\nAll featuregates enabled in " ++ rule.baseline ++ " must also be enabled in " ++
    rule.derived ++ "."

def diagnosticText (ds : List MissingGates) (rule : SubsetRule) : String :=
  "\n\n".intercalate (ds.map fun d => d.text rule)

end FeatureGates
