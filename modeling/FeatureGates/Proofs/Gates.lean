import FeatureGates.Proofs.Loading
import FeatureGates.Proofs.Ordered

namespace FeatureGates

/-!
# The gates of all manifests together

Adding a manifest writes to one key only. As long as the keys differ, nothing is written over, so
what is found at the end under a key is what the manifest with that key declares.
-/

namespace GatesByProfile

/-- The gates that are enabled for a profile in a feature set. -/
def gates? (gates : GatesByProfile) (profile : ClusterProfile) (featureSet : String) :
    Option GateSet :=
  (gates.get? profile).bind fun sets => sets.get? featureSet

/-- Every profile has a feature set. -/
def Populated (gates : GatesByProfile) : Prop :=
  ∀ p sets, gates.get? p = some sets → ∃ s g, sets.get? s = some g

/-- One declaration for each feature set of each profile. -/
def declared (gates : GatesByProfile) : List FeatureSetEntry :=
  gates.entries.flatMap fun e => e.2.entries.map fun s => ⟨e.1, s.1, s.2⟩

@[simp] theorem gates?_empty (p : ClusterProfile) (s : String) :
    gates? ∅ p s = none := rfl

theorem add_of_entry_eq_none (gates : GatesByProfile) {m : Manifest} (hm : m.entry = none) :
    gates.add m = gates := by
  simp [add, hm]

theorem gates?_add (gates : GatesByProfile) {m : Manifest} {e : FeatureSetEntry}
    (hm : m.entry = some e) (p : ClusterProfile) (s : String) :
    (gates.add m).gates? p s =
      if (e.profile, e.featureSet) = (p, s) then some e.enabled else gates.gates? p s := by
  by_cases hp : p = e.profile
  · subst hp
    by_cases hs : s = e.featureSet
    · simp [gates?, add, hm, hs]
    · cases hg : gates.get? e.profile <;> simp [gates?, add, hm, hs, hg, Ne.symm hs]
  · simp [gates?, add, hm, hp, Ne.symm hp]

theorem populated_add {gates : GatesByProfile} (h : gates.Populated) (m : Manifest) :
    (gates.add m).Populated := by
  cases hm : m.entry with
  | none => rwa [add_of_entry_eq_none gates hm]
  | some e =>
      intro p sets hsets
      simp only [add, hm, OrderedMap.get?_insert] at hsets
      split at hsets
      next =>
        obtain rfl := Option.some.inj hsets
        exact ⟨e.featureSet, e.enabled, by simp⟩
      next => exact h p sets hsets

/-- Under an invariant on the keys, folding neither loses nor replaces a declaration. -/
theorem gates?_foldl_add {ms : List Manifest} (h : (Manifest.keys ms).Nodup)
    (gates : GatesByProfile) (p : ClusterProfile) (s : String) (g : GateSet) :
    gates? (ms.foldl add gates) p s = some g ↔
      (∃ m ∈ ms, m.entry = some ⟨p, s, g⟩) ∨
        (p, s) ∉ Manifest.keys ms ∧ gates.gates? p s = some g := by
  induction ms generalizing gates with
  | nil => simp
  | cons m ms ih =>
      rw [List.foldl_cons]
      cases hm : m.entry with
      | none =>
          have hk : m.key? = none := by simp [Manifest.key?, hm]
          rw [Manifest.keys_cons_of_eq_none hk] at h ⊢
          rw [add_of_entry_eq_none gates hm, ih h]
          simp [hm]
      | some e =>
          have hk : m.key? = some (e.profile, e.featureSet) := by simp [Manifest.key?, hm]
          rw [Manifest.keys_cons_of_eq_some hk, List.nodup_cons] at h
          rw [Manifest.keys_cons_of_eq_some hk, ih h.2, gates?_add gates hm]
          by_cases hps : (e.profile, e.featureSet) = (p, s)
          · obtain ⟨rfl, rfl⟩ := Prod.mk.inj hps
            -- No later manifest has the key, so none writes over the head.
            have hrest : ¬ ∃ n ∈ ms, n.entry = some ⟨e.profile, e.featureSet, g⟩ := by
              rintro ⟨n, hn, hentry⟩
              exact h.1 (Manifest.mem_keys.mpr ⟨n, hn, by simp [Manifest.key?, hentry]⟩)
            obtain ⟨profile, featureSet, enabled⟩ := e
            simp [hm, hrest, h.1]
          · have hne : e ≠ ⟨p, s, g⟩ := by
              rintro rfl
              exact hps rfl
            simp [hm, hne, hps, Ne.symm hps]

theorem mem_declared {gates : GatesByProfile} {e : FeatureSetEntry} :
    e ∈ gates.declared ↔ gates.gates? e.profile e.featureSet = some e.enabled := by
  obtain ⟨p, s, g⟩ := e
  simp only [declared, gates?, List.mem_flatMap, List.mem_map, Option.bind_eq_some_iff,
    OrderedMap.get?_eq_some_iff, FeatureSetEntry.mk.injEq]
  constructor
  · rintro ⟨⟨p', sets⟩, hsets, ⟨s', g'⟩, hg, rfl, rfl, rfl⟩
    exact ⟨sets, hsets, hg⟩
  · rintro ⟨sets, hsets, hg⟩
    exact ⟨(p, sets), hsets, (s, g), hg, rfl, rfl, rfl⟩

theorem nodup_declared (gates : GatesByProfile) : gates.declared.Nodup := by
  rw [declared, List.nodup_flatMap]
  constructor
  · rintro ⟨p, sets⟩ _
    refine List.Nodup.map (fun a b hab => ?_) (List.Nodup.of_map Prod.fst sets.nodup_keys)
    simp only [FeatureSetEntry.mk.injEq] at hab
    exact Prod.ext hab.2.1 hab.2.2
  · refine (List.pairwise_map.mp gates.nodup_keys).imp fun {a b} hab => ?_
    intro e ha hb
    obtain ⟨_, _, rfl⟩ := List.mem_map.mp ha
    obtain ⟨_, _, he⟩ := List.mem_map.mp hb
    exact hab (FeatureSetEntry.mk.inj he).1.symm

theorem Populated.isSome_get?_iff {gates : GatesByProfile} (h : gates.Populated)
    {p : ClusterProfile} : (gates.get? p).isSome = true ↔ ∃ s g, gates.gates? p s = some g := by
  constructor
  · intro hp
    obtain ⟨sets, hsets⟩ := Option.isSome_iff_exists.mp hp
    obtain ⟨s, g, hg⟩ := h p sets hsets
    exact ⟨s, g, by simp [gates?, hsets, hg]⟩
  · rintro ⟨s, g, hg⟩
    obtain ⟨sets, hsets, _⟩ := Option.bind_eq_some_iff.mp hg
    simp [hsets]

/-- Mappings in which every profile has a feature set are determined by the gates that they hold. -/
theorem ext_gates? {gates gates' : GatesByProfile} (h : gates.Populated) (h' : gates'.Populated)
    (heq : ∀ p s, gates.gates? p s = gates'.gates? p s) : gates = gates' := by
  have hsome : ∀ {a b : GatesByProfile}, a.Populated → (∀ p s, a.gates? p s = b.gates? p s) →
      ∀ p sets, a.get? p = some sets → b.get? p = some sets := by
    intro a b ha hab p sets hsets
    obtain ⟨s, g, hg⟩ := ha p sets hsets
    have hb : b.gates? p s = some g := by
      rw [← hab]
      simp [gates?, hsets, hg]
    obtain ⟨sets', hsets', _⟩ := Option.bind_eq_some_iff.mp hb
    have hsame : sets = sets' := OrderedMap.ext_get? fun t => by
      have ht := hab p t
      simpa [gates?, hsets, hsets'] using ht
    rw [hsets', hsame]
  refine OrderedMap.ext_get? fun p => Option.ext fun sets => ?_
  exact ⟨hsome h heq p sets, hsome h' (fun p s => (heq p s).symm) p sets⟩

end GatesByProfile

open GatesByProfile

/-- The keys of the declarations among the entries. -/
def declaredKeys (entries : List (Option FeatureSetEntry)) : List (ClusterProfile × String) :=
  entries.filterMap fun entry => entry.map fun e => (e.profile, e.featureSet)

theorem Manifest.keys_eq_declaredKeys (ms : List Manifest) :
    Manifest.keys ms = declaredKeys (ms.map Manifest.entry) := by
  rw [declaredKeys, List.filterMap_map]
  rfl

theorem gates?_gatesByProfile {ms : List Manifest} (h : (Manifest.keys ms).Nodup)
    {p : ClusterProfile} {s : String} {g : GateSet} :
    (gatesByProfile ms).gates? p s = some g ↔ ∃ m ∈ ms, m.entry = some ⟨p, s, g⟩ := by
  simpa [gatesByProfile] using gates?_foldl_add h ∅ p s g

theorem populated_gatesByProfile (ms : List Manifest) : (gatesByProfile ms).Populated := by
  have hfold : ∀ (ms : List Manifest) (gates : GatesByProfile),
      gates.Populated → GatesByProfile.Populated (ms.foldl add gates) := by
    intro ms
    induction ms with
    | nil => exact fun gates h => h
    | cons m ms ih => exact fun gates h => ih _ (populated_add h m)
  exact hfold ms ∅ fun p sets h => by simp at h

theorem gatesByProfile_eq_of_perm {ms ms' : List Manifest} (h : (Manifest.keys ms).Nodup)
    (hp : (ms.map Manifest.entry).Perm (ms'.map Manifest.entry)) :
    gatesByProfile ms = gatesByProfile ms' := by
  have hkeys : (Manifest.keys ms').Nodup := by
    rw [Manifest.keys_eq_declaredKeys] at h ⊢
    exact (hp.filterMap _).nodup_iff.mp h
  refine ext_gates? (populated_gatesByProfile ms) (populated_gatesByProfile ms') fun p s => ?_
  refine Option.ext fun g => ?_
  rw [gates?_gatesByProfile h, gates?_gatesByProfile hkeys, ← List.mem_map, ← List.mem_map,
    hp.mem_iff]

/-- The declarations of the mapping are those of the manifests, each once. -/
theorem declared_gatesByProfile_perm {ms : List Manifest} (h : (Manifest.keys ms).Nodup) :
    (gatesByProfile ms).declared.Perm (ms.filterMap Manifest.entry) := by
  have hnodup : (ms.filterMap Manifest.entry).Nodup := by
    have hkeys : Manifest.keys ms =
        (ms.filterMap Manifest.entry).map fun e => (e.profile, e.featureSet) := by
      rw [List.map_filterMap]
      rfl
    rw [hkeys] at h
    exact List.Nodup.of_map _ h
  refine (List.perm_ext_iff_of_nodup (nodup_declared _) hnodup).mpr fun e => ?_
  rw [mem_declared, gates?_gatesByProfile h, List.mem_filterMap]

end FeatureGates
