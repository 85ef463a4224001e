import FeatureGates.Proofs.ByteOrder
import FeatureGates.Proofs.Check

namespace FeatureGates

/-!
# What a check reports

The outcome of a check is described by the look-ups of the two feature sets that the rule names. The
description leaves one outcome only, so nothing else of the mapping has a part in it.
-/

/-- The profile has both feature sets of the rule. -/
def SubsetRule.Compares (rule : SubsetRule) (gates : GatesByProfile) (p : ClusterProfile)
    (b d : GateSet) : Prop :=
  gates.gates? p rule.baseline = some b ∧ gates.gates? p rule.derived = some d

theorem SubsetRule.Compares.unique {rule : SubsetRule} {gates : GatesByProfile}
    {p : ClusterProfile} {b d b' d' : GateSet} (h : rule.Compares gates p b d)
    (h' : rule.Compares gates p b' d') : b = b' ∧ d = d' :=
  ⟨Option.some.inj (h.1.symm.trans h'.1), Option.some.inj (h.2.symm.trans h'.2)⟩

/-- What the rule says of a mapping, all of it. -/
structure CheckOutcome.Exact (outcome : CheckOutcome) (rule : SubsetRule)
    (gates : GatesByProfile) : Prop where
  /-- Each profile of the mapping is either checked or skipped, and only once. -/
  partition : (outcome.checked ++ outcome.skipped.map SkippedProfile.profile).Perm gates.keys
  checked : ∀ p, p ∈ outcome.checked ↔ ∃ b d, rule.Compares gates p b d
  checked_ascending : Ordered.Ascending outcome.checked
  skipped : ∀ k, k ∈ outcome.skipped ↔
    k.profile ∈ gates.keys ∧ rule.Lacks gates k.profile k.missingSet
  skipped_ascending : Ordered.Ascending (outcome.skipped.map SkippedProfile.profile)
  diagnosed : ∀ p, (∃ x ∈ outcome.diagnostics, x.profile = p) ↔
    ∃ b d, rule.Compares gates p b d ∧ ¬ ∀ g ∈ b, g ∈ d
  diagnostics_ascending : Ordered.Ascending (outcome.diagnostics.map MissingGates.profile)
  missing : ∀ x ∈ outcome.diagnostics, ∀ b d, rule.Compares gates x.profile b d →
    ∀ g, g ∈ x.missing ↔ g ∈ b ∧ g ∉ d
  /-- Gates are listed in the order of their bytes, none of them twice. -/
  missing_ascending : ∀ x ∈ outcome.diagnostics,
    x.missing.Pairwise fun g g' => Bytes.ofString g < Bytes.ofString g'
  count : ∀ x ∈ outcome.diagnostics, x.missing ≠ [] ∧ x.count = x.missing.length
  passed : outcome.passed = true ↔
    ∀ p b d, rule.Compares gates p b d → ∀ g ∈ b, g ∈ d

theorem Ordered.ascending_iff_bytes {gs : List String} :
    Ordered.Ascending gs ↔ gs.Pairwise fun g g' => Bytes.ofString g < Bytes.ofString g' := by
  simp only [Ordered.Ascending, Bytes.compare_eq_lt_iff]

section Rule

variable {rule : SubsetRule} {gates : GatesByProfile}

theorem SubsetRule.diagnosed_iff {p : ClusterProfile} :
    (∃ x ∈ (rule.check gates).diagnostics, x.profile = p) ↔
      ∃ b d, rule.Compares gates p b d ∧ ¬ ∀ g ∈ b, g ∈ d := by
  constructor
  · rintro ⟨x, hx, rfl⟩
    obtain ⟨b, d, hb, hd, hmissing, hne, _⟩ := mem_diagnostics.mp hx
    refine ⟨b, d, ⟨hb, hd⟩, fun hsubset => hne ?_⟩
    rw [hmissing]
    exact OrderedSet.toList_diff_eq_nil_iff.mpr hsubset
  · rintro ⟨b, d, ⟨hb, hd⟩, hnot⟩
    have hne : (b.diff d).toList ≠ [] := fun hnil =>
      hnot (OrderedSet.toList_diff_eq_nil_iff.mp hnil)
    exact ⟨.of p (b.diff d).toList, mem_diagnostics.mpr ⟨b, d, hb, hd, rfl, hne, rfl⟩, rfl⟩

theorem exact_check (rule : SubsetRule) (gates : GatesByProfile) :
    (rule.check gates).Exact rule gates where
  partition := rule.checked_append_skipped_perm gates
  checked _ := SubsetRule.mem_checked
  checked_ascending := by
    rw [← List.map_id (rule.check gates).checked]
    apply SubsetRule.ascending_filterMap
    rintro ⟨p, _ | missing⟩ c hc <;> cases hc
    rfl
  skipped _ := SubsetRule.mem_skipped
  skipped_ascending := by
    apply SubsetRule.ascending_filterMap
    rintro ⟨p, missingSet | _⟩ c hc <;> cases hc
    rfl
  diagnosed _ := SubsetRule.diagnosed_iff
  diagnostics_ascending := by
    apply SubsetRule.ascending_filterMap
    rintro ⟨p, _ | _ | ⟨g, gs⟩⟩ c hc <;> cases hc
    rfl
  missing x hx b d h g := by
    obtain ⟨b', d', hb, hd, hmissing, _⟩ := SubsetRule.mem_diagnostics.mp hx
    obtain ⟨rfl, rfl⟩ := h.unique ⟨hb, hd⟩
    rw [hmissing, ← OrderedSet.mem_def, OrderedSet.mem_diff]
  missing_ascending x hx := by
    obtain ⟨b, d, _, _, hmissing, _⟩ := SubsetRule.mem_diagnostics.mp hx
    rw [hmissing, ← Ordered.ascending_iff_bytes]
    exact (b.diff d).ascending
  count x hx := by
    obtain ⟨_, _, _, _, _, hne, hcount⟩ := SubsetRule.mem_diagnostics.mp hx
    exact ⟨hne, hcount⟩
  passed := by
    rw [passed_check_iff]
    constructor
    · intro h p b d hbd
      exact h p b d hbd.1 hbd.2
    · intro h p b d hb hd
      exact h p b d ⟨hb, hd⟩

namespace CheckOutcome.Exact

variable {outcome outcome' : CheckOutcome} (h : outcome.Exact rule gates)
  (h' : outcome'.Exact rule gates)

include h h'

theorem mem_diagnostics {x : MissingGates} (hx : x ∈ outcome.diagnostics) :
    x ∈ outcome'.diagnostics := by
  obtain ⟨b, d, hbd, hnot⟩ := (h.diagnosed x.profile).mp ⟨x, hx, rfl⟩
  obtain ⟨y, hy, hprofile⟩ := (h'.diagnosed x.profile).mpr ⟨b, d, hbd, hnot⟩
  have hmissing : x.missing = y.missing := by
    apply Ordered.Ascending.eq_of_mem_iff
      (Ordered.ascending_iff_bytes.mpr (h.missing_ascending x hx))
      (Ordered.ascending_iff_bytes.mpr (h'.missing_ascending y hy))
    intro g
    rw [h.missing x hx b d hbd, h'.missing y hy b d (hprofile ▸ hbd)]
  have hcount : x.count = y.count := by
    rw [(h.count x hx).2, (h'.count y hy).2, hmissing]
  have hxy : x = y := by
    cases x
    cases y
    cases hprofile
    cases hmissing
    cases hcount
    rfl
  exact hxy ▸ hy

/-- The description leaves no choice. -/
theorem unique : outcome = outcome' := by
  have hchecked : outcome.checked = outcome'.checked := by
    apply h.checked_ascending.eq_of_mem_iff h'.checked_ascending
    intro p
    rw [h.checked, h'.checked]
  have hskipped : outcome.skipped = outcome'.skipped := by
    apply Ordered.eq_of_ascending_map h.skipped_ascending h'.skipped_ascending
    intro k
    rw [h.skipped, h'.skipped]
  have hdiagnostics : outcome.diagnostics = outcome'.diagnostics := by
    apply Ordered.eq_of_ascending_map h.diagnostics_ascending h'.diagnostics_ascending
    intro x
    exact ⟨h.mem_diagnostics h', h'.mem_diagnostics h⟩
  cases outcome
  cases outcome'
  cases hchecked
  cases hskipped
  cases hdiagnostics
  rfl

end CheckOutcome.Exact

/-- Two mappings have the same profiles, and the feature sets of the rule hold the same in them. -/
structure SubsetRule.SeesAlike (rule : SubsetRule) (gates gates' : GatesByProfile) : Prop where
  keys : gates'.keys = gates.keys
  baseline : ∀ p, gates'.gates? p rule.baseline = gates.gates? p rule.baseline
  derived : ∀ p, gates'.gates? p rule.derived = gates.gates? p rule.derived

theorem SubsetRule.SeesAlike.lacks_iff {gates' : GatesByProfile}
    (h : rule.SeesAlike gates gates') {p : ClusterProfile} {s : String} :
    rule.Lacks gates' p s ↔ rule.Lacks gates p s := by
  constructor
  · rintro (hnone | ⟨hb, hnone⟩)
    · exact .baseline ((h.baseline p).symm.trans hnone)
    · exact .derived ((h.baseline p).symm.trans hb) ((h.derived p).symm.trans hnone)
  · rintro (hnone | ⟨hb, hnone⟩)
    · exact .baseline ((h.baseline p).trans hnone)
    · exact .derived ((h.baseline p).trans hb) ((h.derived p).trans hnone)

theorem CheckOutcome.Exact.of_seesAlike {outcome : CheckOutcome} {gates' : GatesByProfile}
    (h : outcome.Exact rule gates') (hsame : rule.SeesAlike gates gates') :
    outcome.Exact rule gates := by
  have hcompares : ∀ p b d, rule.Compares gates' p b d ↔ rule.Compares gates p b d := by
    intro p b d
    rw [SubsetRule.Compares, SubsetRule.Compares, hsame.baseline, hsame.derived]
  exact {
    partition := hsame.keys ▸ h.partition
    checked := by simpa only [hcompares] using h.checked
    checked_ascending := h.checked_ascending
    skipped := by simpa only [hsame.keys, hsame.lacks_iff] using h.skipped
    skipped_ascending := h.skipped_ascending
    diagnosed := by simpa only [hcompares] using h.diagnosed
    diagnostics_ascending := h.diagnostics_ascending
    missing := by simpa only [hcompares] using h.missing
    missing_ascending := h.missing_ascending
    count := h.count
    passed := by simpa only [hcompares] using h.passed }

end Rule

/-- The outcome is what the rule says, and feature sets that the rule does not name have no part in
it. -/
theorem check_exact_and_blind_to_other_sets (rule : SubsetRule) (gates : GatesByProfile) :
    (rule.check gates).Exact rule gates ∧
      ∀ gates', rule.SeesAlike gates gates' → rule.check gates' = rule.check gates := by
  refine ⟨exact_check rule gates, fun gates' hsame => ?_⟩
  have hexact : (rule.check gates').Exact rule gates :=
    (exact_check rule gates').of_seesAlike hsame
  exact hexact.unique (exact_check rule gates)

namespace Sample

/-- One profile lacks gates, the other one lacks the derived feature set. -/
def gates : GatesByProfile :=
  .ofList [(.hypershift, .ofList [("Default", .ofList ["Zeta", "A", "C"]), ("OKD", .ofList ["A"])]),
    (.selfManagedHA, .ofList [("Default", .ofList ["A"])])]

/-- The same with feature sets that the rule does not name. -/
def moreGates : GatesByProfile :=
  .ofList [(.hypershift, .ofList [("Default", .ofList ["Zeta", "A", "C"]), ("OKD", .ofList ["A"]),
      ("Preview", .ofList ["B"])]),
    (.selfManagedHA, .ofList [("Default", .ofList ["A"]), ("Preview", ∅)])]

end Sample

theorem check_exact_on_sample :
    SubsetRule.standard.SeesAlike Sample.gates Sample.moreGates ∧
      SubsetRule.standard.check Sample.moreGates =
        ⟨[⟨.hypershift, ["C", "Zeta"], 2⟩], [.hypershift], [⟨.selfManagedHA, "OKD"⟩]⟩ := by
  have hsame : SubsetRule.standard.SeesAlike Sample.gates Sample.moreGates := by
    refine ⟨by decide, fun p => ?_, fun p => ?_⟩
    · cases p <;> decide
    · cases p <;> decide
  refine ⟨hsame, ?_⟩
  rw [(check_exact_and_blind_to_other_sets _ _).2 _ hsame]
  decide

end FeatureGates
