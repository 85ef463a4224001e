import FeatureGates.Inventory
import FeatureGates.Proofs.Annotations

namespace FeatureGates

/-!
# What a document says as a manifest

The declaration of a document is described entry by entry of the tree, apart from the functions that
collect it.
-/

namespace Tree

/-- A document with entries, or an empty one. -/
inductive HoldsManifest : Tree → Prop
  | null : HoldsManifest null
  | mapping (entries : List (Tree × Tree)) : HoldsManifest (mapping entries)

/-- How the documents are named that hold no manifest. -/
inductive HasKind : Tree → String → Prop
  | sequence (items : List Tree) : HasKind (sequence items) "a sequence"
  | string (s : String) : HasKind (string s) "a string"
  | int (n : Int) : HasKind (int n) "a number"
  | float (x : Binary64) : HasKind (float x) "a number"
  | bool (b : Bool) : HasKind (bool b) "a bool"
  | tagged (tag : String) (value : Tree) : HasKind (tagged tag value) "a tagged value"

theorem otherKind?_eq_none_iff {t : Tree} : t.otherKind? = none ↔ t.HoldsManifest := by
  constructor
  · intro h
    cases t with
    | null => exact .null
    | mapping entries => exact .mapping entries
    | _ => simp [otherKind?] at h
  · rintro (_ | _) <;> rfl

theorem otherKind?_eq_some_iff {t : Tree} {kind : String} :
    t.otherKind? = some kind ↔ t.HasKind kind := by
  constructor
  · intro h
    cases t with
    | null | mapping _ => simp [otherKind?] at h
    | _ => cases h; constructor
  · rintro (_ | _ | _ | _ | _ | _) <;> rfl

/-- A version lists a gate by an item with its name, which is not empty. Only the version that comes
first counts. -/
def ListsGate (t : Tree) (gate : String) : Prop :=
  gate ≠ "" ∧ ∃ version others items item,
    t.itemsAt? ["status", "featureGates"] = some (version :: others) ∧
    version.itemsAt? ["enabled"] = some items ∧
    item ∈ items ∧ item.textAt? ["name"] = some gate

theorem gateName?_eq_some_iff {item : Tree} {gate : String} :
    item.gateName? = some gate ↔ item.textAt? ["name"] = some gate ∧ gate ≠ "" := by
  simp [gateName?, Option.filter_eq_some_iff]

theorem currentVersion?_eq_some_iff {t version : Tree} :
    t.currentVersion? = some version ↔
      ∃ others, t.itemsAt? ["status", "featureGates"] = some (version :: others) := by
  rw [currentVersion?, Option.bind_eq_some_iff]
  constructor
  · rintro ⟨versions, hv, hhead⟩
    obtain ⟨others, rfl⟩ := List.head?_eq_some_iff.mp hhead
    exact ⟨others, hv⟩
  · rintro ⟨others, hv⟩
    exact ⟨version :: others, hv, rfl⟩

theorem mem_enabledGates {t : Tree} {gate : String} :
    gate ∈ t.enabledGates ↔ t.ListsGate gate := by
  simp only [enabledGates, OrderedSet.mem_ofList, List.mem_filterMap, gateName?_eq_some_iff]
  constructor
  · rintro ⟨item, hitem, hname, hne⟩
    cases hv : t.currentVersion? with
    | none => simp [hv] at hitem
    | some version =>
        cases hitems : version.itemsAt? ["enabled"] with
        | none => simp [hv, hitems] at hitem
        | some items =>
            obtain ⟨others, hversions⟩ := currentVersion?_eq_some_iff.mp hv
            have hmem : item ∈ items := by simpa [hv, hitems] using hitem
            exact ⟨hne, version, others, items, item, hversions, hitems, hmem, hname⟩
  · rintro ⟨hne, version, others, items, item, hversions, hitems, hmem, hname⟩
    have hv := currentVersion?_eq_some_iff.mpr ⟨others, hversions⟩
    exact ⟨item, by simpa [hv, hitems] using hmem, hname, hne⟩

theorem entry_eq_error_iff {t : Tree} {c : ProfileConflict} :
    t.entry = .error c ↔ t.annotations.profile? = .error c := by
  cases h : t.annotations.profile? <;> simp [entry, h, Except.map]

/-- The release annotations that count assign the profile and no other. -/
def NamesProfile (t : Tree) (p : ClusterProfile) : Prop :=
  p ∈ t.annotations.assigned ∧ ∀ q ∈ t.annotations.assigned, q = p

theorem profile?_eq_some_iff {t : Tree} {p : ClusterProfile} :
    t.annotations.profile? = .ok (some p) ↔ t.NamesProfile p :=
  ProfileConflict.resolve_eq_some_iff

/-- The feature set that a document names, or the default one if it names none or an empty one. -/
inductive HasFeatureSet (t : Tree) : String → Prop
  | named {s : String} (h : t.textAt? ["spec", "featureSet"] = some s) (hne : s ≠ "") :
      HasFeatureSet t s
  | default (h : ∀ s, t.textAt? ["spec", "featureSet"] = some s → s = "") :
      HasFeatureSet t defaultFeatureSet

theorem HasFeatureSet.ne_empty {t : Tree} {s : String} (h : t.HasFeatureSet s) : s ≠ "" := by
  cases h with
  | named _ hne => exact hne
  | default _ => decide

theorem hasFeatureSet_iff {t : Tree} {s : String} : t.HasFeatureSet s ↔ s = t.featureSet := by
  have hset : t.HasFeatureSet t.featureSet := by
    unfold featureSet
    split
    next name h =>
      split
      next hempty => exact .default fun s hs => (Option.some.inj (h.symm.trans hs)) ▸ hempty
      next hne => exact .named h hne
    next h => exact .default fun s hs => by cases h.symm.trans hs
  refine ⟨fun h => ?_, fun h => h ▸ hset⟩
  cases h with
  | named h hne => simp [featureSet, h, hne]
  | default h =>
      unfold featureSet
      split
      next name hname => simp [h name hname]
      next => rfl

theorem entry_eq_some_iff {t : Tree} {e : FeatureSetEntry} :
    t.entry = .ok (some e) ↔
      t.NamesProfile e.profile ∧ t.HasFeatureSet e.featureSet ∧ e.enabled = t.enabledGates := by
  rw [← profile?_eq_some_iff, hasFeatureSet_iff]
  obtain ⟨profile, featureSet, enabled⟩ := e
  rcases h : t.annotations.profile? with c | _ | p
  · simp [entry, h, Except.map]
  · simp [entry, h, Except.map]
  · simp [entry, h, Except.map, eq_comm]

end Tree

end FeatureGates
