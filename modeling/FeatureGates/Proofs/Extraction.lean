import FeatureGates.Proofs.Document
import FeatureGates.Proofs.Ordered
import FeatureGates.Proofs.Subtree

namespace FeatureGates

/-!
# What is taken from a document

A document declares the profile of its release annotations, a feature set and the gates of its
first version. Whatever is missing or of another shape is as if it were not there, and takes nothing
else with it.
-/

theorem OrderedSet.ext_mem {s t : GateSet} (h : ∀ g, g ∈ s ↔ g ∈ t) : s = t := by
  have hlist : s.toList = t.toList := s.ascending.eq_of_mem_iff t.ascending h
  cases s
  cases t
  cases hlist
  rfl

namespace Tree

/-- The text at the place for a feature set, or the default name where there is none or an empty
one. -/
inductive NamesFeatureSet (t : Tree) : String → Prop
  | named {s : String} (h : t.Holds ["spec", "featureSet"] (string s)) (hne : s ≠ "") :
      NamesFeatureSet t s
  | default (h : ∀ s, t.Holds ["spec", "featureSet"] (string s) → s = "") :
      NamesFeatureSet t defaultFeatureSet

/-- One of the items that the first version lists is a mapping with the name of the gate. -/
def EnablesGate (t : Tree) (gate : String) : Prop :=
  gate ≠ "" ∧ ∃ version others items item,
    t.Holds ["status", "featureGates"] (sequence (version :: others)) ∧
    version.Holds ["enabled"] (sequence items) ∧
    item ∈ items ∧ item.Holds ["name"] (string gate)

theorem namesFeatureSet_iff {t : Tree} {s : String} : t.NamesFeatureSet s ↔ t.HasFeatureSet s := by
  constructor
  · rintro (⟨h, hne⟩ | h)
    · exact .named (textAt?_eq_some_iff.mpr h) hne
    · exact .default fun s hs => h s (textAt?_eq_some_iff.mp hs)
  · rintro (⟨h, hne⟩ | h)
    · exact .named (textAt?_eq_some_iff.mp h) hne
    · exact .default fun s hs => h s (textAt?_eq_some_iff.mpr hs)

theorem enablesGate_iff {t : Tree} {gate : String} : t.EnablesGate gate ↔ t.ListsGate gate := by
  simp only [EnablesGate, ListsGate, itemsAt?_eq_some_iff, textAt?_eq_some_iff]

theorem entryAt_eq_error_iff {t : Tree} {path : Path} {e : ManifestError} :
    t.entryAt path = .error e ↔
      ∃ c, t.annotations.profile? = .error c ∧ e = .ambiguousProfile path c := by
  simp only [← entry_eq_error_iff]
  rw [entryAt]
  cases t.entry with
  | ok entry => simp
  | error c => simp [eq_comm]

theorem entryAt_eq_ok_iff {t : Tree} {path : Path} {entry : Option FeatureSetEntry} :
    t.entryAt path = .ok entry ↔ t.entry = .ok entry := by
  rw [entryAt]
  cases t.entry <;> simp

theorem entry_eq_none_iff {t : Tree} :
    t.entry = .ok none ↔ t.annotations.profile? = .ok none := by
  rcases h : t.annotations.profile? with c | _ | p <;> simp [entry, h, Except.map]

/-- What a document declares is settled by its release annotations, its feature set and the items of
its first version, each of them found through tags and by keys without a tag. -/
theorem entryAt_meets_specification (t : Tree) (path : Path) :
    t.HasTexts ["metadata", "annotations"] t.annotations ∧
    (∀ e, t.entryAt path = .error e ↔
      ∃ c, t.annotations.profile? = .error c ∧ e = .ambiguousProfile path c) ∧
    (t.entryAt path = .ok none ↔ t.annotations.profile? = .ok none) ∧
    ∀ entry, t.entryAt path = .ok (some entry) ↔
      t.annotations.profile? = .ok (some entry.profile) ∧ t.NamesFeatureSet entry.featureSet ∧
        ∀ gate, gate ∈ entry.enabled ↔ t.EnablesGate gate := by
  refine ⟨hasTexts_textsAt t _, fun e => entryAt_eq_error_iff, ?_, fun entry => ?_⟩
  · rw [entryAt_eq_ok_iff, entry_eq_none_iff]
  · have henabled : entry.enabled = t.enabledGates ↔
        ∀ gate, gate ∈ entry.enabled ↔ t.EnablesGate gate := by
      simp only [enablesGate_iff, ← mem_enabledGates]
      constructor
      · intro h gate
        rw [h]
      · exact OrderedSet.ext_mem
    rw [entryAt_eq_ok_iff, entry_eq_some_iff, profile?_eq_some_iff, namesFeatureSet_iff, henabled]

end Tree

end FeatureGates
