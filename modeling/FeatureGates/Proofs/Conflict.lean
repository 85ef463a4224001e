import FeatureGates.Proofs.Annotations
import FeatureGates.Proofs.Extraction

namespace FeatureGates

/-!
# Annotations that contradict each other

Annotations are taken from the entries of a document, whose keys may be tagged. Different keys may
so have the same text, and then the later entry takes the place of the earlier one before the
profiles are compared.
-/

namespace Tree

/-- The entry is an annotation that counts for the profile, whatever tags are around its texts. -/
def Assigns (e : Tree × Tree) (p : ClusterProfile) : Prop :=
  ∃ key value, e.1.Wraps (string key) ∧ e.2.Wraps (string value) ∧ Annotations.Assigns key value p

/-- The entry gives the key of another one a text that does not count. -/
def Overrules (e' e : Tree × Tree) : Prop :=
  ∃ key value, e'.1.Wraps (string key) ∧ e.1.Wraps (string key) ∧ e'.2.Wraps (string value) ∧
    value ≠ configOperatorOnly

/-- An entry assigns the profile, and no later one overrules it. -/
def Upholds (entries : List (Tree × Tree)) (p : ClusterProfile) : Prop :=
  ∃ before e after, entries = before ++ e :: after ∧ Assigns e p ∧ ∀ e' ∈ after, ¬ Overrules e' e

/-- No two keys have the same text. -/
def TextsApart (entries : List (Tree × Tree)) : Prop :=
  entries.Pairwise fun e e' => ∀ key, e.1.Wraps (string key) → ¬ e'.1.Wraps (string key)

/-- The document is refused for what its annotations say of the two profiles. -/
def RefusedFor (t : Tree) (path : Path) (p q : ClusterProfile) : Prop :=
  ∃ c, t.entryAt path = .error (.ambiguousProfile path c) ∧ (c = ⟨p, q⟩ ∨ c = ⟨q, p⟩)

/-- The text of a key stays the last one as long as only equal texts follow. -/
theorem lastText_of_forall_eq {before after : List (Tree × Tree)} {e : Tree × Tree}
    {key value : String} (he : textPair? e = some (key, value))
    (hafter : ∀ e' ∈ after, ∀ s, textPair? e' = some (key, s) → s = value) :
    LastText (before ++ e :: after) key value := by
  induction after using List.reverseRecOn with
  | nil => exact lastText_concat_iff.mpr (.inl he)
  | append_singleton after last ih =>
      have hrest := ih fun e' he' => hafter e' (List.mem_append_left _ he')
      rw [← List.cons_append, ← List.append_assoc, lastText_concat_iff]
      by_cases hlast : ∃ s, textPair? last = some (key, s)
      · obtain ⟨s, hs⟩ := hlast
        obtain rfl := hafter last (by simp) s hs
        exact .inl hs
      · push Not at hlast
        exact .inr ⟨hlast, hrest⟩

theorem upholds_iff {entries : List (Tree × Tree)} {p : ClusterProfile} :
    Upholds entries p ↔
      ∃ key value, LastText entries key value ∧ Annotations.Assigns key value p := by
  constructor
  · rintro ⟨before, e, after, rfl, ⟨key, value, hk, hv, hp⟩, hafter⟩
    refine ⟨key, value, lastText_of_forall_eq (textPair?_eq_some_iff.mpr ⟨hk, hv⟩) ?_, hp⟩
    intro e' he' s hs
    obtain ⟨hk', hs⟩ := textPair?_eq_some_iff.mp hs
    by_contra hne
    exact hafter e' he' ⟨key, s, hk', hk, hs, fun h => hne (h.trans hp.value_eq.symm)⟩
  · rintro ⟨key, value, ⟨before, k, v, after, rfl, hk, hv, hafter⟩, hp⟩
    refine ⟨before, (k, v), after, rfl, ⟨key, value, hk, hv, hp⟩, fun e' he' hover => ?_⟩
    obtain ⟨key', s, hk', hkey, hs, _⟩ := hover
    -- An entry that overrules has the key of the one that it overrules.
    have hsame : key' = key :=
      string.inj ((wraps_iff.mp hkey).symm.trans (wraps_iff.mp hk))
    exact hafter e' he' (hsame ▸ hk') s hs

theorem upholds_of_textsApart {entries : List (Tree × Tree)} (h : TextsApart entries)
    {e : Tree × Tree} (he : e ∈ entries) {p : ClusterProfile} (hp : Assigns e p) :
    Upholds entries p := by
  obtain ⟨before, after, rfl⟩ := List.append_of_mem he
  refine ⟨before, e, after, rfl, hp, fun e' he' hover => ?_⟩
  obtain ⟨key, _, hk', hk, _⟩ := hover
  exact List.rel_of_pairwise_cons (List.pairwise_append.mp h).2.1 he' key hk hk'

theorem exists_names_annotations_iff {t : Tree} {entries : List (Tree × Tree)}
    (h : t.Holds ["metadata", "annotations"] (mapping entries)) {p : ClusterProfile} :
    (∃ key, t.annotations.Names key p) ↔ Upholds entries p := by
  simp only [upholds_iff, Annotations.Names, annotations, get?_textsAt_iff h]

theorem refusedFor_iff {t : Tree} {path : Path} {p q : ClusterProfile} (hpq : p ≠ q) :
    t.RefusedFor path p q ↔ ∃ c, t.annotations.profile? = .error c := by
  simp only [RefusedFor, entryAt_eq_error_iff, ManifestError.ambiguousProfile.injEq, true_and]
  constructor
  · rintro ⟨_, ⟨c, hc, _⟩, _⟩
    exact ⟨c, hc⟩
  · rintro ⟨⟨first, second⟩, hc⟩
    refine ⟨_, ⟨_, hc, rfl⟩, ?_⟩
    have hne : second ≠ first := (Annotations.profile?_eq_error_iff.mp hc).2.2
    by_cases hfirst : first = p
    · subst hfirst
      exact .inl (by rw [ClusterProfile.eq_of_ne hne hpq.symm])
    · obtain rfl := ClusterProfile.eq_of_ne hfirst hpq.symm
      exact .inr (by rw [ClusterProfile.eq_of_ne hne hpq])

/-- A document is refused for two profiles if entries that are not overruled assign them. Where no
two keys have the same text, nothing is overruled and any two entries that disagree will do. -/
theorem conflict_refused_iff_upheld {t : Tree} {entries : List (Tree × Tree)}
    (h : t.Holds ["metadata", "annotations"] (mapping entries)) (path : Path)
    {p q : ClusterProfile} (hpq : p ≠ q) :
    (t.RefusedFor path p q ↔ Upholds entries p ∧ Upholds entries q) ∧
    (TextsApart entries → ∀ e ∈ entries, ∀ e' ∈ entries, Assigns e p → Assigns e' q →
      t.RefusedFor path p q) := by
  have hrefused : t.RefusedFor path p q ↔ Upholds entries p ∧ Upholds entries q := by
    rw [refusedFor_iff hpq, Annotations.exists_profile?_eq_error_iff]
    simp only [exists_names_annotations_iff h]
    constructor
    · exact fun hall => ⟨hall p, hall q⟩
    · rintro ⟨hp, hq⟩ r
      by_cases hr : r = p
      · exact hr ▸ hp
      · exact ClusterProfile.eq_of_ne hr hpq.symm ▸ hq
  refine ⟨hrefused, fun hapart e he e' he' hp hq => hrefused.mpr ⟨?_, ?_⟩⟩
  · exact upholds_of_textsApart hapart he hp
  · exact upholds_of_textsApart hapart he' hq

end Tree

namespace Sample

/-- One annotation for each profile, and another text under the first key with a tag. -/
def annotationEntries (later : String) : List (Tree × Tree) :=
  [(.string hypershiftKey, .string configOperatorOnly),
    (.string selfManagedKey, .string configOperatorOnly),
    (.tagged "x" (.string hypershiftKey), .string later)]

def annotated (later : String) : Tree :=
  .mapping [(.string "metadata",
    .mapping [(.string "annotations", .mapping (annotationEntries later))])]

theorem holds_annotated (later : String) :
    (annotated later).Holds ["metadata", "annotations"] (.mapping (annotationEntries later)) :=
  ⟨.mapping (annotationEntries later), Tree.at?_eq_some_iff.mp rfl, .bare nofun⟩

theorem assigns_hypershift (key : Tree) (h : key.Wraps (.string hypershiftKey)) :
    Tree.Assigns (key, .string configOperatorOnly) .hypershift :=
  ⟨_, _, h, .bare nofun, Annotations.assigned?_eq_some_iff.mp (by decide)⟩

theorem assigns_selfManaged :
    Tree.Assigns (.string selfManagedKey, .string configOperatorOnly) .selfManagedHA :=
  ⟨_, _, .bare nofun, .bare nofun, Annotations.assigned?_eq_some_iff.mp (by decide)⟩

end Sample

/-- The same text once more overrules nothing. -/
theorem conflict_refused_on_sample :
    (Sample.annotated configOperatorOnly).Holds ["metadata", "annotations"]
      (.mapping (Sample.annotationEntries configOperatorOnly)) ∧
    (Sample.annotated configOperatorOnly).RefusedFor [0x64] .hypershift .selfManagedHA := by
  have hholds := Sample.holds_annotated configOperatorOnly
  refine ⟨hholds, (Tree.conflict_refused_iff_upheld hholds [0x64] (by decide)).1.mpr ⟨?_, ?_⟩⟩
  · exact ⟨(Sample.annotationEntries configOperatorOnly).take 2, _, [], rfl,
      Sample.assigns_hypershift _ (.tag "x" (.bare nofun)), nofun⟩
  · refine ⟨[_], _, [_], rfl, Sample.assigns_selfManaged, fun e' he' hover => ?_⟩
    obtain rfl := List.mem_singleton.mp he'
    obtain ⟨key, _, hk', hk, _⟩ := hover
    have hkeys : Sample.hypershiftKey = Sample.selfManagedKey :=
      Tree.string.inj ((Tree.wraps_iff.mp hk').trans (Tree.wraps_iff.mp hk).symm)
    exact absurd hkeys (by decide)

/-- Entries for both profiles are there, and the document is taken for one of them: the tagged entry
overrules the annotation for the other one. -/
theorem overruled_annotation_hides_conflict :
    (Sample.annotated "true").Holds ["metadata", "annotations"]
      (.mapping (Sample.annotationEntries "true")) ∧
    (∃ e ∈ Sample.annotationEntries "true", Tree.Assigns e .hypershift) ∧
    (∃ e ∈ Sample.annotationEntries "true", Tree.Assigns e .selfManagedHA) ∧
    (Sample.annotated "true").entryAt [0x64] =
      .ok (some ⟨.selfManagedHA, defaultFeatureSet, ∅⟩) := by
  refine ⟨Sample.holds_annotated "true", ?_, ?_, ?_⟩
  · exact ⟨_, List.mem_cons_self, Sample.assigns_hypershift _ (.bare nofun)⟩
  · exact ⟨_, List.mem_cons_of_mem _ List.mem_cons_self, Sample.assigns_selfManaged⟩
  · rfl

end FeatureGates
