import FeatureGates.Proofs.Annotations

namespace FeatureGates

/-!
# The part of a key that decides

The keys of release annotations start alike. No marker stands in what they start with or reaches out
of it, so the profile of a key is the profile of the rest, wherever in the rest a marker stands.
-/

/-- The part stands in the text behind that many characters. -/
def StandsAt (part text : List Char) (n : Nat) : Prop :=
  ∃ before after, text = before ++ part ++ after ∧ before.length = n

theorem exists_standsAt_iff {part text : List Char} :
    (∃ n, StandsAt part text n) ↔ part <:+: text := by
  constructor
  · rintro ⟨_, before, after, rfl, _⟩
    exact ⟨before, after, rfl⟩
  · rintro ⟨before, after, rfl⟩
    exact ⟨_, before, after, rfl, rfl⟩

/-- A part without the separator stands on one side of it. -/
theorem standsAt_append_cons_iff {part before after : List Char} {c : Char} (hc : c ∉ part)
    {n : Nat} :
    StandsAt part (before ++ c :: after) n ↔
      StandsAt part before n ∨ ∃ k, n = before.length + 1 + k ∧ StandsAt part after k := by
  constructor
  · rintro ⟨left, right, heq, rfl⟩
    rcases List.append_eq_append_iff.mp heq with ⟨gap, hleft, hgap⟩ | ⟨gap, rfl, rfl⟩
    · rcases List.cons_eq_append_iff.mp hgap with ⟨rfl, -⟩ | ⟨gap, rfl, rfl⟩
      · rw [List.append_nil] at hleft
        exact .inl ⟨left, [], by rw [hleft, List.append_nil], rfl⟩
      · -- The part ends behind the separator, so it also starts there.
        rcases List.append_eq_append_iff.mp hleft with ⟨rest, rfl, hpart⟩ | ⟨rest, rfl, hrest⟩
        · exact absurd (hpart ▸ by simp) hc
        · rcases List.cons_eq_append_iff.mp hrest with ⟨-, hpart⟩ | ⟨rest, rfl, rfl⟩
          · exact absurd (hpart ▸ by simp) hc
          · refine .inr ⟨rest.length, ?_, rest, right, rfl, rfl⟩
            simp only [List.length_append, List.length_cons]
            omega
    · exact .inl ⟨left, gap, rfl, rfl⟩
  · rintro (⟨left, right, rfl, rfl⟩ | ⟨_, rfl, left, right, rfl, rfl⟩)
    · exact ⟨left, right ++ c :: after, by simp, rfl⟩
    · refine ⟨before ++ c :: left, right, by simp, ?_⟩
      simp only [List.length_append, List.length_cons]
      omega

/-- What stands before the separator at which the start of a release key ends. -/
def releaseHost : String := "include.release.openshift.io"

theorem toList_releaseInclude : releaseInclude.toList = releaseHost.toList ++ ['/'] := by decide

namespace ClusterProfile

/-- What a key is searched for. -/
def markers : List String := [selfManagedMarker, hypershiftMarker]

theorem marker_apart_from_releaseInclude :
    ∀ marker ∈ markers, '/' ∉ marker.toList ∧ holds releaseHost marker = false := by
  decide

theorem standsAt_releaseInclude_append {marker : String} (h : marker ∈ markers) (s : String)
    {n : Nat} :
    StandsAt marker.toList (releaseInclude ++ s).toList n ↔
      ∃ k, n = releaseInclude.toList.length + k ∧ StandsAt marker.toList s.toList k := by
  obtain ⟨hseparator, hhost⟩ := marker_apart_from_releaseInclude marker h
  have hnot : ¬ StandsAt marker.toList releaseHost.toList n := by
    intro hstands
    rw [holds_iff.mpr (exists_standsAt_iff.mp ⟨n, hstands⟩)] at hhost
    cases hhost
  have hsplit : (releaseInclude ++ s).toList = releaseHost.toList ++ '/' :: s.toList := by
    rw [String.toList_append, toList_releaseInclude, List.append_assoc, List.singleton_append]
  have hlength : releaseInclude.toList.length = releaseHost.toList.length + 1 := by
    rw [toList_releaseInclude, List.length_append, List.length_singleton]
  rw [hsplit, hlength, standsAt_append_cons_iff hseparator, or_iff_right hnot]

theorem holds_releaseInclude_append {marker : String} (h : marker ∈ markers) (s : String) :
    holds (releaseInclude ++ s) marker = holds s marker := by
  rw [Bool.eq_iff_iff, holds_iff, holds_iff, ← exists_standsAt_iff, ← exists_standsAt_iff]
  simp only [standsAt_releaseInclude_append h]
  constructor
  · rintro ⟨_, k, _, hk⟩
    exact ⟨k, hk⟩
  · rintro ⟨k, hk⟩
    exact ⟨_, k, rfl, hk⟩

theorem ofKey?_releaseInclude_append (s : String) : ofKey? (releaseInclude ++ s) = ofKey? s := by
  have hself : holds (releaseInclude ++ s) selfManagedMarker = holds s selfManagedMarker :=
    holds_releaseInclude_append List.mem_cons_self s
  have hhyper : holds (releaseInclude ++ s) hypershiftMarker = holds s hypershiftMarker :=
    holds_releaseInclude_append (List.mem_cons_of_mem _ List.mem_cons_self) s
  rw [ofKey?, ofKey?, hself, hhyper]

theorem ofKey?_eq_selfManagedHA_iff {key : String} :
    ofKey? key = some selfManagedHA ↔ selfManagedMarker.toList <:+: key.toList := by
  rw [ofKey?_eq_some_iff]
  constructor
  · intro h
    cases h with
    | selfManagedHA hmarker => exact hmarker
  · exact .selfManagedHA

theorem ofKey?_eq_hypershift_iff {key : String} :
    ofKey? key = some hypershift ↔ hypershiftMarker.toList <:+: key.toList ∧
      ¬ selfManagedMarker.toList <:+: key.toList := by
  rw [ofKey?_eq_some_iff]
  constructor
  · intro h
    cases h with
    | hypershift hmarker hnot => exact ⟨hmarker, hnot⟩
  · exact fun h => .hypershift h.1 h.2

theorem ofKey?_eq_none_iff {key : String} :
    ofKey? key = none ↔ ∀ marker ∈ markers, ¬ marker.toList <:+: key.toList := by
  simp only [markers, List.forall_mem_cons, List.not_mem_nil, ← holds_iff, ofKey?]
  split
  next hself => simp [hself]
  next hself => split <;> simp [*]

end ClusterProfile

theorem assigned?_releaseInclude_append (s : String) :
    Annotations.assigned? (releaseInclude ++ s) configOperatorOnly = ClusterProfile.ofKey? s := by
  have hstart : releaseInclude.toList <+: (releaseInclude ++ s).toList := by
    rw [String.toList_append]
    exact List.prefix_append _ _
  rw [Annotations.assigned?, if_pos ⟨hstart, rfl⟩, ClusterProfile.ofKey?_releaseInclude_append]

/-- The profile of a release annotation is settled by what follows the start of its key. A marker
stands in the key exactly where it stands in the rest, so it is found at any place there. -/
theorem profile_settled_behind_release_prefix (s : String) :
    (ClusterProfile.ofKey? (releaseInclude ++ s) = some .selfManagedHA ↔
      ClusterProfile.selfManagedMarker.toList <:+: s.toList) ∧
    (ClusterProfile.ofKey? (releaseInclude ++ s) = some .hypershift ↔
      ClusterProfile.hypershiftMarker.toList <:+: s.toList ∧
        ¬ ClusterProfile.selfManagedMarker.toList <:+: s.toList) ∧
    (ClusterProfile.ofKey? (releaseInclude ++ s) = none ↔
      ∀ marker ∈ ClusterProfile.markers, ¬ marker.toList <:+: s.toList) ∧
    (∀ marker ∈ ClusterProfile.markers, ∀ n,
      StandsAt marker.toList (releaseInclude ++ s).toList n ↔
        ∃ k, n = releaseInclude.toList.length + k ∧ StandsAt marker.toList s.toList k) ∧
    Annotations.assigned? (releaseInclude ++ s) configOperatorOnly =
      ClusterProfile.ofKey? (releaseInclude ++ s) := by
  rw [assigned?_releaseInclude_append, ClusterProfile.ofKey?_releaseInclude_append]
  exact ⟨ClusterProfile.ofKey?_eq_selfManagedHA_iff, ClusterProfile.ofKey?_eq_hypershift_iff,
    ClusterProfile.ofKey?_eq_none_iff,
    fun marker h n => ClusterProfile.standsAt_releaseInclude_append h s, rfl⟩

/-- A marker that begins twice and is completed once. -/
example : ClusterProfile.ofKey? (releaseInclude ++ "ibm-cloud-ibm-cloud-managed") =
    some .hypershift := by
  decide

end FeatureGates
