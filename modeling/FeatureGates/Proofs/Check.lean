import FeatureGates.Proofs.Gates

namespace FeatureGates

/-!
# What the rule finds

A profile gets a diagnostic if it has both feature sets and the derived one lacks a gate of the
baseline. The check passes if there is no such profile.
-/

theorem SubsetRule.finding_eq_checked_iff {rule : SubsetRule} {sets : FeatureSets}
    {missing : List String} :
    rule.finding sets = .checked missing ↔
      ∃ b d, sets.get? rule.baseline = some b ∧ sets.get? rule.derived = some d ∧
        missing = (b.diff d).toList := by
  unfold finding
  cases hb : sets.get? rule.baseline with
  | none => simp
  | some b =>
      cases hd : sets.get? rule.derived with
      | none => simp
      | some d => simp [eq_comm]

theorem SubsetRule.mem_findings {rule : SubsetRule} {gates : GatesByProfile} {p : ClusterProfile}
    {f : Finding} :
    (p, f) ∈ rule.findings gates ↔ ∃ sets, gates.get? p = some sets ∧ rule.finding sets = f := by
  simp only [findings, List.mem_map, Prod.mk.injEq, OrderedMap.get?_eq_some_iff]
  constructor
  · rintro ⟨⟨_, sets⟩, hmem, rfl, rfl⟩
    exact ⟨sets, hmem, rfl⟩
  · rintro ⟨sets, hmem, rfl⟩
    exact ⟨(p, sets), hmem, rfl, rfl⟩

theorem SubsetRule.mem_findings_checked {rule : SubsetRule} {gates : GatesByProfile}
    {p : ClusterProfile} {missing : List String} :
    (p, .checked missing) ∈ rule.findings gates ↔
      ∃ b d, gates.gates? p rule.baseline = some b ∧ gates.gates? p rule.derived = some d ∧
        missing = (b.diff d).toList := by
  rw [mem_findings]
  constructor
  · rintro ⟨sets, hsets, hf⟩
    obtain ⟨b, d, hb, hd, hmissing⟩ := finding_eq_checked_iff.mp hf
    exact ⟨b, d, by simp [GatesByProfile.gates?, hsets, hb],
      by simp [GatesByProfile.gates?, hsets, hd], hmissing⟩
  · rintro ⟨b, d, hb, hd, hmissing⟩
    obtain ⟨sets, hsets, hb⟩ := Option.bind_eq_some_iff.mp hb
    refine ⟨sets, hsets, finding_eq_checked_iff.mpr ⟨b, d, hb, ?_, hmissing⟩⟩
    simpa [GatesByProfile.gates?, hsets] using hd

theorem Finding.diagnostic?_eq_none_iff {p : ClusterProfile} {f : Finding} :
    f.diagnostic? p = none ↔ ∀ missing, f = .checked missing → missing = [] := by
  cases f with
  | skipped missingSet => simp [diagnostic?]
  | checked missing => cases missing <;> simp [diagnostic?]

theorem OrderedSet.toList_diff_eq_nil_iff {s t : GateSet} :
    (s.diff t).toList = [] ↔ ∀ g ∈ s, g ∈ t := by
  rw [List.eq_nil_iff_forall_not_mem]
  simp only [← OrderedSet.mem_def, OrderedSet.mem_diff, not_and, not_not]

theorem passed_check_iff {rule : SubsetRule} {gates : GatesByProfile} :
    (rule.check gates).passed = true ↔
      ∀ p b d, gates.gates? p rule.baseline = some b → gates.gates? p rule.derived = some d →
        ∀ g ∈ b, g ∈ d := by
  have hpassed : (rule.check gates).passed = true ↔
      ∀ x ∈ rule.findings gates, x.2.diagnostic? x.1 = none := by
    simp [CheckOutcome.passed, SubsetRule.check]
  rw [hpassed]
  constructor
  · intro h p b d hb hd
    have hmem := SubsetRule.mem_findings_checked.mpr ⟨b, d, hb, hd, rfl⟩
    exact OrderedSet.toList_diff_eq_nil_iff.mp
      (Finding.diagnostic?_eq_none_iff.mp (h _ hmem) _ rfl)
  · rintro h ⟨p, f⟩ hmem
    refine Finding.diagnostic?_eq_none_iff.mpr ?_
    rintro missing rfl
    obtain ⟨b, d, hb, hd, rfl⟩ := SubsetRule.mem_findings_checked.mp hmem
    exact OrderedSet.toList_diff_eq_nil_iff.mpr (h p b d hb hd)

/-! ## The profiles of an outcome -/

section Outcome

variable {rule : SubsetRule} {gates : GatesByProfile}

theorem SubsetRule.mem_checked {p : ClusterProfile} :
    p ∈ (rule.check gates).checked ↔
      ∃ b d, gates.gates? p rule.baseline = some b ∧ gates.gates? p rule.derived = some d := by
  have hchecked : p ∈ (rule.check gates).checked ↔
      ∃ missing, (p, .checked missing) ∈ rule.findings gates := by
    simp only [check, List.mem_filterMap]
    constructor
    · rintro ⟨⟨q, f⟩, hmem, hf⟩
      cases f with
      | skipped => cases hf
      | checked missing =>
          cases hf
          exact ⟨missing, hmem⟩
    · rintro ⟨missing, hmem⟩
      exact ⟨_, hmem, rfl⟩
  rw [hchecked]
  simp only [mem_findings_checked]
  constructor
  · rintro ⟨_, b, d, hb, hd, _⟩
    exact ⟨b, d, hb, hd⟩
  · rintro ⟨b, d, hb, hd⟩
    exact ⟨_, b, d, hb, hd, rfl⟩

/-- The feature set that a profile is skipped for, the baseline if it lacks both. -/
inductive SubsetRule.Lacks (rule : SubsetRule) (gates : GatesByProfile) (p : ClusterProfile) :
    String → Prop
  | baseline (h : gates.gates? p rule.baseline = none) : Lacks rule gates p rule.baseline
  | derived {b : GateSet} (hb : gates.gates? p rule.baseline = some b)
      (h : gates.gates? p rule.derived = none) : Lacks rule gates p rule.derived

theorem SubsetRule.Lacks.gates?_eq_none {p : ClusterProfile} {s : String}
    (h : rule.Lacks gates p s) : gates.gates? p s = none := by
  cases h with
  | baseline h => exact h
  | derived _ h => exact h

theorem SubsetRule.mem_findings_skipped {p : ClusterProfile} {s : String} :
    (p, .skipped s) ∈ rule.findings gates ↔ p ∈ gates.keys ∧ rule.Lacks gates p s := by
  have hgates : ∀ {sets : FeatureSets}, gates.get? p = some sets →
      ∀ name, gates.gates? p name = sets.get? name := by
    intro sets hsets name
    rw [GatesByProfile.gates?, hsets, Option.bind_some]
  rw [mem_findings]
  constructor
  · rintro ⟨sets, hsets, hf⟩
    have hkey : p ∈ gates.keys :=
      List.mem_map_of_mem (f := Prod.fst) (OrderedMap.get?_eq_some_iff.mp hsets)
    refine ⟨hkey, ?_⟩
    unfold finding at hf
    split at hf
    next hb =>
      cases hf
      exact .baseline ((hgates hsets _).trans hb)
    next hb hd =>
      cases hf
      exact .derived ((hgates hsets _).trans hb) ((hgates hsets _).trans hd)
    next => cases hf
  · rintro ⟨hkey, hlacks⟩
    obtain ⟨⟨_, sets⟩, hmem, rfl⟩ := List.mem_map.mp hkey
    have hsets := OrderedMap.get?_eq_some_iff.mpr hmem
    refine ⟨sets, hsets, ?_⟩
    cases hlacks with
    | baseline hb =>
        rw [hgates hsets] at hb
        simp only [finding, hb]
    | derived hb hd =>
        rw [hgates hsets] at hb hd
        simp only [finding, hb, hd]

theorem SubsetRule.mem_skipped {k : SkippedProfile} :
    k ∈ (rule.check gates).skipped ↔
      k.profile ∈ gates.keys ∧ rule.Lacks gates k.profile k.missingSet := by
  rw [← mem_findings_skipped, check, List.mem_filterMap]
  constructor
  · rintro ⟨⟨p, f⟩, hmem, hf⟩
    cases f with
    | checked missing => cases hf
    | skipped missingSet =>
        cases hf
        exact hmem
  · intro hmem
    exact ⟨_, hmem, rfl⟩

theorem SubsetRule.mem_diagnostics {x : MissingGates} :
    x ∈ (rule.check gates).diagnostics ↔
      ∃ b d, gates.gates? x.profile rule.baseline = some b ∧
        gates.gates? x.profile rule.derived = some d ∧ x.missing = (b.diff d).toList ∧
        x.missing ≠ [] ∧ x.count = x.missing.length := by
  rw [check, List.mem_filterMap]
  constructor
  · rintro ⟨⟨p, f⟩, hmem, hf⟩
    rcases f with missingSet | _ | ⟨g, gs⟩
    · cases hf
    · cases hf
    · cases hf
      obtain ⟨b, d, hb, hd, hmissing⟩ := mem_findings_checked.mp hmem
      exact ⟨b, d, hb, hd, hmissing, List.cons_ne_nil g gs, rfl⟩
  · obtain ⟨p, missing, count⟩ := x
    rintro ⟨b, d, hb, hd, hmissing, hne, hcount⟩
    refine ⟨(p, .checked missing), mem_findings_checked.mpr ⟨b, d, hb, hd, hmissing⟩, ?_⟩
    cases missing with
    | nil => exact absurd rfl hne
    | cons g gs =>
        cases hcount
        rfl

theorem SubsetRule.checked_of_mem_diagnostics {d : MissingGates}
    (h : d ∈ (rule.check gates).diagnostics) : d.profile ∈ (rule.check gates).checked := by
  obtain ⟨b, d, hb, hd, _⟩ := mem_diagnostics.mp h
  exact mem_checked.mpr ⟨b, d, hb, hd⟩

/-- What is picked from the findings, at most one for each, stays in the order of the profiles. -/
theorem SubsetRule.ascending_filterMap {γ : Type} {f : γ → ClusterProfile}
    {pick : ClusterProfile × Finding → Option γ} (h : ∀ x c, pick x = some c → f c = x.1) :
    Ordered.Ascending (((rule.findings gates).filterMap pick).map f) := by
  have hfindings : (rule.findings gates).Pairwise fun x y => compare x.1 y.1 = .lt := by
    rw [findings, List.pairwise_map]
    exact List.pairwise_map.mp gates.ascending
  apply List.pairwise_map.mpr
  apply List.pairwise_filterMap.mpr
  refine hfindings.imp fun {x y} hxy c hc c' hc' => ?_
  rw [h x c hc, h y c' hc']
  exact hxy

theorem Finding.checked_append_skipped_perm (findings : List (ClusterProfile × Finding)) :
    (findings.filterMap (fun (p, f) => f.checked? p) ++
      (findings.filterMap fun (p, f) => f.skipped? p).map SkippedProfile.profile).Perm
      (findings.map Prod.fst) := by
  induction findings with
  | nil => exact .nil
  | cons x findings ih =>
      obtain ⟨p, f⟩ := x
      cases f with
      | checked missing => exact ih.cons p
      | skipped missingSet => exact List.perm_middle.trans (ih.cons p)

/-- Each profile is checked or skipped, and none is both. -/
theorem SubsetRule.checked_append_skipped_perm (rule : SubsetRule) (gates : GatesByProfile) :
    ((rule.check gates).checked ++ (rule.check gates).skipped.map SkippedProfile.profile).Perm
      gates.keys := by
  have hkeys : (rule.findings gates).map Prod.fst = gates.keys := by
    simp [findings, OrderedMap.keys]
  exact hkeys ▸ Finding.checked_append_skipped_perm (rule.findings gates)

end Outcome

end FeatureGates
