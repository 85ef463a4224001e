import FeatureGates.Profile
import FeatureGates.Proofs.ByteOrder
import FeatureGates.Proofs.Ordered

namespace FeatureGates

/-!
# The profile of annotations

Annotations are scanned in the order of their keys. The profile that is found depends on the
annotations that count, and of their keys only on what they are for and which of them comes first.
-/

/-- What a key is for. The second marker says nothing beside the first one. -/
inductive ClusterProfile.Marks (key : String) : ClusterProfile → Prop
  | selfManagedHA (h : selfManagedMarker.toList <:+: key.toList) : Marks key selfManagedHA
  | hypershift (h : hypershiftMarker.toList <:+: key.toList)
      (hnot : ¬ selfManagedMarker.toList <:+: key.toList) : Marks key hypershift

theorem ClusterProfile.ofKey?_eq_some_iff {key : String} {p : ClusterProfile} :
    ofKey? key = some p ↔ Marks key p := by
  simp only [ofKey?, holds_iff]
  constructor
  · intro h
    split at h
    next hself =>
      cases h
      exact .selfManagedHA hself
    next hself =>
      split at h
      next hhyper =>
        cases h
        exact .hypershift hhyper hself
      next => cases h
  · rintro (hself | ⟨hhyper, hself⟩)
    · rw [if_pos hself]
    · rw [if_neg hself, if_pos hhyper]

/-- With two profiles, those that differ from one of them are equal. -/
theorem ClusterProfile.eq_of_ne {p q r : ClusterProfile} (hq : q ≠ p) (hr : r ≠ p) : q = r := by
  cases p <;> cases q <;> cases r <;> simp_all

namespace ProfileConflict

theorem resolve_of_forall_eq {p : ClusterProfile} {ps : List ClusterProfile}
    (h : ∀ q ∈ ps, q = p) : resolve (p :: ps) = .ok (some p) := by
  have hfind : ps.find? (· ≠ p) = none := by simpa using h
  rw [resolve, hfind]

theorem resolve_of_mem_ne {p q : ClusterProfile} {ps : List ClusterProfile} (hq : q ∈ ps)
    (hne : q ≠ p) : resolve (p :: ps) = .error ⟨p, q⟩ := by
  rw [resolve]
  cases hfind : ps.find? (· ≠ p) with
  | none =>
      have hsame : ∀ r ∈ ps, r = p := by simpa using hfind
      exact absurd (hsame q hq) hne
  | some r =>
      have hr : r ≠ p := by simpa using List.find?_some hfind
      rw [ClusterProfile.eq_of_ne hr hne]

theorem resolve_eq_none_iff {ps : List ClusterProfile} : resolve ps = .ok none ↔ ps = [] := by
  cases ps with
  | nil => simp [resolve]
  | cons p ps =>
      by_cases h : ∀ q ∈ ps, q = p
      · simp [resolve_of_forall_eq h]
      · push Not at h
        obtain ⟨q, hq, hne⟩ := h
        simp [resolve_of_mem_ne hq hne]

theorem resolve_eq_some_iff {ps : List ClusterProfile} {p : ClusterProfile} :
    resolve ps = .ok (some p) ↔ p ∈ ps ∧ ∀ q ∈ ps, q = p := by
  cases ps with
  | nil => simp [resolve]
  | cons q qs =>
      by_cases h : ∀ r ∈ qs, r = q
      · rw [resolve_of_forall_eq h, Except.ok.injEq, Option.some.injEq]
        constructor
        · rintro rfl
          exact ⟨List.mem_cons_self, List.forall_mem_cons.mpr ⟨rfl, h⟩⟩
        · exact fun hp => hp.2 q List.mem_cons_self
      · push Not at h
        obtain ⟨r, hr, hne⟩ := h
        simp only [resolve_of_mem_ne hr hne, reduceCtorEq, false_iff]
        rintro ⟨_, hall⟩
        have hqp : q = p := hall q List.mem_cons_self
        exact hne (by rw [hqp, hall r (List.mem_cons_of_mem q hr)])

/-- The head is named first, wherever the other profile stands. -/
theorem resolve_eq_error_iff {ps : List ClusterProfile} {c : ProfileConflict} :
    resolve ps = .error c ↔ ps.head? = some c.first ∧ c.second ∈ ps ∧ c.second ≠ c.first := by
  obtain ⟨first, second⟩ := c
  constructor
  · intro h
    cases ps with
    | nil => cases h
    | cons p ps =>
        by_cases hall : ∀ q ∈ ps, q = p
        · rw [resolve_of_forall_eq hall] at h
          cases h
        · push Not at hall
          obtain ⟨q, hq, hne⟩ := hall
          rw [resolve_of_mem_ne hq hne] at h
          cases h
          exact ⟨rfl, List.mem_cons_of_mem first hq, hne⟩
  · rintro ⟨hhead, hmem, hne⟩
    obtain ⟨ps, rfl⟩ := List.head?_eq_some_iff.mp hhead
    rcases List.mem_cons.mp hmem with h | hmem
    · exact absurd h hne
    · exact resolve_of_mem_ne hmem hne

end ProfileConflict

namespace Annotations

/-- An annotation counts for a profile by the start of its key, by its value and by a marker. -/
structure Assigns (key value : String) (p : ClusterProfile) : Prop where
  key_start : releaseInclude.toList <+: key.toList
  value_eq : value = configOperatorOnly
  marks : p.Marks key

theorem assigned?_eq_some_iff {key value : String} {p : ClusterProfile} :
    assigned? key value = some p ↔ Assigns key value p := by
  rw [assigned?]
  constructor
  · intro h
    split at h
    next hcounts => exact ⟨hcounts.1, hcounts.2, ClusterProfile.ofKey?_eq_some_iff.mp h⟩
    next => cases h
  · intro h
    rw [if_pos ⟨h.key_start, h.value_eq⟩, ClusterProfile.ofKey?_eq_some_iff]
    exact h.marks

variable {annotations : Annotations}

/-- The annotation of the key counts for the profile. -/
def Names (annotations : Annotations) (key : String) (p : ClusterProfile) : Prop :=
  ∃ value, annotations.get? key = some value ∧ Assigns key value p

/-- No annotation that counts has a key whose bytes come before. -/
def NamesFirst (annotations : Annotations) (p : ClusterProfile) : Prop :=
  ∃ key, annotations.Names key p ∧ ∀ key' q, annotations.Names key' q → key' ≠ key →
    Bytes.ofString key < Bytes.ofString key'

theorem names_iff {key : String} {p : ClusterProfile} :
    annotations.Names key p ↔
      ∃ e ∈ annotations.entries, e.1 = key ∧ assigned? e.1 e.2 = some p := by
  simp only [Names, OrderedMap.get?_eq_some_iff, ← assigned?_eq_some_iff]
  constructor
  · rintro ⟨value, hmem, hp⟩
    exact ⟨(key, value), hmem, rfl, hp⟩
  · rintro ⟨⟨_, value⟩, hmem, rfl, hp⟩
    exact ⟨value, hmem, hp⟩

theorem mem_assigned {p : ClusterProfile} :
    p ∈ annotations.assigned ↔ ∃ key, annotations.Names key p := by
  simp only [assigned, List.mem_filterMap, names_iff]
  constructor
  · rintro ⟨e, hmem, hp⟩
    exact ⟨e.1, e, hmem, rfl, hp⟩
  · rintro ⟨_, e, hmem, rfl, hp⟩
    exact ⟨e, hmem, hp⟩

/-- The keys stand in the order of their bytes. -/
theorem bytes_lt_of_entries_eq {before after : List (String × String)} {e : String × String}
    (h : annotations.entries = before ++ e :: after) :
    (∀ e' ∈ before, Bytes.ofString e'.1 < Bytes.ofString e.1) ∧
      ∀ e' ∈ after, Bytes.ofString e.1 < Bytes.ofString e'.1 := by
  have hsorted := List.pairwise_map.mp annotations.ascending
  rw [h] at hsorted
  obtain ⟨_, hrest, hacross⟩ := List.pairwise_append.mp hsorted
  constructor
  · intro e' he'
    apply Bytes.compare_eq_lt_iff.mp
    exact hacross e' he' e List.mem_cons_self
  · intro e' he'
    apply Bytes.compare_eq_lt_iff.mp
    exact List.rel_of_pairwise_cons hrest he'

theorem head?_assigned {p : ClusterProfile} :
    annotations.assigned.head? = some p ↔ annotations.NamesFirst p := by
  rw [assigned, List.head?_filterMap, List.findSome?_eq_some_iff]
  constructor
  · intro h
    obtain ⟨before, e, after, heq, hp, hbefore⟩ := h
    refine ⟨e.1, names_iff.mpr ⟨e, by simp [heq], rfl, hp⟩, ?_⟩
    intro key' q hnames hne
    obtain ⟨e', hmem, rfl, hq⟩ := names_iff.mp hnames
    rw [heq] at hmem
    rcases List.mem_append.mp hmem with h | h
    · cases (hbefore e' h).symm.trans hq
    · rcases List.mem_cons.mp h with rfl | h
      · exact absurd rfl hne
      · exact (bytes_lt_of_entries_eq heq).2 e' h
  · intro h
    obtain ⟨key, hnames, hleast⟩ := h
    obtain ⟨e, hmem, rfl, hp⟩ := names_iff.mp hnames
    obtain ⟨before, after, heq⟩ := List.append_of_mem hmem
    refine ⟨before, e, after, heq, hp, fun e' he' => ?_⟩
    have hlt := (bytes_lt_of_entries_eq heq).1 e' he'
    -- An earlier key that counts would have to come after the least one.
    by_contra hq
    obtain ⟨q, hq⟩ := Option.ne_none_iff_exists'.mp hq
    have hnames' : annotations.Names e'.1 q :=
      names_iff.mpr ⟨e', by simp [heq, he'], rfl, hq⟩
    have hne : e'.1 ≠ e.1 := by
      intro h
      rw [h] at hlt
      exact List.lt_irrefl _ hlt
    exact List.lt_asymm hlt (hleast e'.1 q hnames' hne)

theorem profile?_eq_none_iff :
    annotations.profile? = .ok none ↔ ∀ key p, ¬ annotations.Names key p := by
  rw [profile?, ProfileConflict.resolve_eq_none_iff, List.eq_nil_iff_forall_not_mem]
  simp only [mem_assigned, not_exists]
  exact forall_comm

theorem profile?_eq_some_iff {p : ClusterProfile} :
    annotations.profile? = .ok (some p) ↔
      (∃ key, annotations.Names key p) ∧ ∀ key q, annotations.Names key q → q = p := by
  rw [profile?, ProfileConflict.resolve_eq_some_iff]
  simp only [mem_assigned]
  constructor
  · rintro ⟨hp, hall⟩
    exact ⟨hp, fun key q hq => hall q ⟨key, hq⟩⟩
  · rintro ⟨hp, hall⟩
    exact ⟨hp, fun q ⟨key, hq⟩ => hall key q hq⟩

theorem profile?_eq_error_iff {c : ProfileConflict} :
    annotations.profile? = .error c ↔
      annotations.NamesFirst c.first ∧ (∃ key, annotations.Names key c.second) ∧
        c.second ≠ c.first := by
  rw [profile?, ProfileConflict.resolve_eq_error_iff, head?_assigned, mem_assigned]

theorem NamesFirst.exists_names {p : ClusterProfile} (h : annotations.NamesFirst p) :
    ∃ key, annotations.Names key p := by
  obtain ⟨key, hkey, _⟩ := h
  exact ⟨key, hkey⟩

theorem exists_profile?_eq_error_iff :
    (∃ c, annotations.profile? = .error c) ↔ ∀ p, ∃ key, annotations.Names key p := by
  constructor
  · rintro ⟨c, hc⟩ p
    obtain ⟨hfirst, hsecond, hne⟩ := profile?_eq_error_iff.mp hc
    by_cases hp : p = c.first
    · exact hp ▸ hfirst.exists_names
    · exact ClusterProfile.eq_of_ne hne hp ▸ hsecond
  · intro hboth
    rcases h : annotations.profile? with c | _ | p
    · exact ⟨c, rfl⟩
    · obtain ⟨key, hkey⟩ := hboth .hypershift
      exact absurd hkey (profile?_eq_none_iff.mp h key _)
    · obtain ⟨key, hkey⟩ := hboth .hypershift
      obtain ⟨key', hkey'⟩ := hboth .selfManagedHA
      have hall := (profile?_eq_some_iff.mp h).2
      cases (hall key _ hkey).trans (hall key' _ hkey').symm

/-- Between annotations that count alike there is no difference. -/
theorem profile?_congr {other : Annotations}
    (h : ∀ key p, other.Names key p ↔ annotations.Names key p) :
    other.profile? = annotations.profile? := by
  rcases ha : annotations.profile? with c | _ | p
  · rw [profile?_eq_error_iff] at ha ⊢
    simpa only [NamesFirst, h] using ha
  · rw [profile?_eq_none_iff] at ha ⊢
    simpa only [h] using ha
  · rw [profile?_eq_some_iff] at ha ⊢
    simpa only [h] using ha

/-- The annotations that count settle the profile. Where they do not agree, the profile of the least
key is named first. All other annotations may be taken away, changed or added. -/
theorem profile?_settled_by_counting_annotations (annotations : Annotations) :
    (annotations.profile? = .ok none ↔ ∀ key p, ¬ annotations.Names key p) ∧
    (∀ p, annotations.profile? = .ok (some p) ↔
      (∃ key, annotations.Names key p) ∧ ∀ key q, annotations.Names key q → q = p) ∧
    ((∃ c, annotations.profile? = .error c) ↔ ∀ p, ∃ key, annotations.Names key p) ∧
    (∀ c, annotations.profile? = .error c ↔ annotations.NamesFirst c.first ∧
      (∃ key, annotations.Names key c.second) ∧ c.second ≠ c.first) ∧
    ∀ other : Annotations,
      (∀ key value p, Assigns key value p →
        (other.get? key = some value ↔ annotations.get? key = some value)) →
      other.profile? = annotations.profile? := by
  refine ⟨profile?_eq_none_iff, fun p => profile?_eq_some_iff, exists_profile?_eq_error_iff,
    fun c => profile?_eq_error_iff, fun other hsame => profile?_congr fun key p => ?_⟩
  constructor
  · rintro ⟨value, hget, hp⟩
    exact ⟨value, (hsame key value p hp).mp hget, hp⟩
  · rintro ⟨value, hget, hp⟩
    exact ⟨value, (hsame key value p hp).mpr hget, hp⟩

end Annotations

namespace Sample

def hypershiftKey : String := "include.release.openshift.io/ibm-cloud-managed"

def selfManagedKey : String := "include.release.openshift.io/self-managed-high-availability"

/-- One annotation for each profile. -/
def annotations : Annotations :=
  .ofList [(selfManagedKey, configOperatorOnly), (hypershiftKey, configOperatorOnly)]

/-- One more, with the value that counts and a key that does not. -/
def moreAnnotations : Annotations :=
  annotations.insert "ibm-cloud-managed" configOperatorOnly

end Sample

theorem profile?_settled_on_sample :
    (∀ key value p, Annotations.Assigns key value p →
      (Sample.moreAnnotations.get? key = some value ↔ Sample.annotations.get? key = some value)) ∧
    Sample.moreAnnotations.profile? = .error ⟨.hypershift, .selfManagedHA⟩ := by
  have hsame : ∀ key value p, Annotations.Assigns key value p →
      (Sample.moreAnnotations.get? key = some value ↔
        Sample.annotations.get? key = some value) := by
    intro key value p h
    have hne : key ≠ "ibm-cloud-managed" := by
      rintro rfl
      exact absurd h.key_start (by decide)
    rw [Sample.moreAnnotations, OrderedMap.get?_insert, if_neg hne]
  obtain ⟨_, _, _, _, hother⟩ :=
    Annotations.profile?_settled_by_counting_annotations Sample.annotations
  refine ⟨hsame, ?_⟩
  rw [hother Sample.moreAnnotations hsame]
  decide +kernel

end FeatureGates
