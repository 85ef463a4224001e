import FeatureGates.Proofs.Check

namespace FeatureGates

/-!
# Mending a violation

Gates can be enabled for the derived feature set or withdrawn from the baseline. Both have the same
effect on a check: the gates are no longer missing, and nothing else is different.
-/

section Maps

variable {α β γ : Type} [Ord α]

/-- Each value is exchanged for one that depends on it and on its key. -/
def OrderedMap.mapValues (f : α → β → γ) (m : OrderedMap α β) : OrderedMap α γ :=
  ⟨m.entries.map fun e => (e.1, f e.1 e.2), by
    rw [List.map_map]; exact m.ascending⟩

namespace OrderedSet

variable [Std.TransOrd α] [Std.LawfulEqOrd α]

/-- The elements of either set. -/
def union (s t : OrderedSet α) : OrderedSet α := ofList (s.toList ++ t.toList)

@[simp] theorem mem_union {a : α} {s t : OrderedSet α} : a ∈ s.union t ↔ a ∈ s ∨ a ∈ t := by
  rw [union, mem_ofList, List.mem_append, mem_def, mem_def]

variable [DecidableEq α]

theorem toList_diff_union (s t x : OrderedSet α) :
    (s.diff (t.union x)).toList = (s.diff t).toList.filter (· ∉ x) := by
  simp only [diff, List.filter_filter]
  refine List.filter_congr fun a _ => ?_
  simp only [mem_union, not_or, Bool.decide_and, Bool.and_comm]

omit [Std.TransOrd α] [Std.LawfulEqOrd α] in
theorem toList_diff_diff (s t x : OrderedSet α) :
    ((s.diff x).diff t).toList = (s.diff t).toList.filter (· ∉ x) := by
  simp only [diff, List.filter_filter, Bool.and_comm]

end OrderedSet

end Maps

/-- Exchanges the gates of a feature set if it is there. -/
def FeatureSets.amend (sets : FeatureSets) (name : String) (f : GateSet → GateSet) :
    FeatureSets :=
  match sets.get? name with
  | none => sets
  | some gates => sets.insert name (f gates)

theorem FeatureSets.get?_amend (sets : FeatureSets) (name s : String) (f : GateSet → GateSet) :
    (sets.amend name f).get? s = if s = name then (sets.get? s).map f else sets.get? s := by
  rw [amend]
  by_cases hs : s = name
  · subst hs
    cases h : sets.get? s <;> simp [h]
  · cases sets.get? name <;> simp [hs]

namespace SubsetRule

variable (rule : SubsetRule)

/-- Gates are added to the derived feature set of each profile that has it. A profile that is not
checked may be given some, too. -/
def enable (extra : ClusterProfile → GateSet) (gates : GatesByProfile) : GatesByProfile :=
  gates.mapValues fun p sets => FeatureSets.amend sets rule.derived fun d => d.union (extra p)

/-- Gates are taken out of the baseline feature set of each profile that has it. -/
def withdraw (extra : ClusterProfile → GateSet) (gates : GatesByProfile) : GatesByProfile :=
  gates.mapValues fun p sets => FeatureSets.amend sets rule.baseline fun b => b.diff (extra p)

end SubsetRule

/-! ## Outcomes without some gates -/

/-- What is left of a finding when some gates may be missing. -/
def Finding.without (excused : GateSet) : Finding → Finding
  | skipped missingSet => skipped missingSet
  | checked missing => checked (missing.filter (· ∉ excused))

/-- The missing gates that are not excused, in order; nothing if all of them are. -/
def MissingGates.without? (excused : GateSet) (d : MissingGates) : Option MissingGates :=
  match d.missing.filter (· ∉ excused) with
  | [] => none
  | g :: gs => some (.of d.profile (g :: gs))

/-- The same profiles are checked and skipped, and excused gates are not reported. -/
def CheckOutcome.without (outcome : CheckOutcome) (excused : ClusterProfile → GateSet) :
    CheckOutcome where
  diagnostics := outcome.diagnostics.filterMap fun d => d.without? (excused d.profile)
  checked := outcome.checked
  skipped := outcome.skipped

/-- The gate is reported as missing for the profile. -/
def CheckOutcome.Reports (outcome : CheckOutcome) (p : ClusterProfile) (gate : String) : Prop :=
  ∃ d ∈ outcome.diagnostics, d.profile = p ∧ gate ∈ d.missing

namespace Finding

variable (f : Finding) (p : ClusterProfile)

@[simp] theorem checked?_without (excused : GateSet) :
    (f.without excused).checked? p = f.checked? p := by
  cases f <;> rfl

@[simp] theorem skipped?_without (excused : GateSet) :
    (f.without excused).skipped? p = f.skipped? p := by
  cases f <;> rfl

theorem diagnostic?_without (excused : ClusterProfile → GateSet) :
    (f.without (excused p)).diagnostic? p =
      (f.diagnostic? p).bind fun d => d.without? (excused d.profile) := by
  rcases f with missingSet | _ | ⟨g, gs⟩
  · rfl
  · rfl
  · simp only [without, diagnostic?, MissingGates.of, MissingGates.without?, Option.bind_some]
    cases (g :: gs).filter (· ∉ excused p) <;> rfl

end Finding

theorem MissingGates.without?_reports_iff {excused : GateSet} {d : MissingGates}
    {p : ClusterProfile} {gate : String} :
    (∃ x, d.without? excused = some x ∧ x.profile = p ∧ gate ∈ x.missing) ↔
      d.profile = p ∧ gate ∈ d.missing ∧ gate ∉ excused := by
  have hmem : gate ∈ d.missing ∧ gate ∉ excused ↔ gate ∈ d.missing.filter (· ∉ excused) := by
    rw [List.mem_filter, decide_eq_true_iff]
  rw [hmem, without?]
  split
  next h =>
    rw [h]
    simp
  next h =>
    rw [h]
    simp [of]

theorem CheckOutcome.reports_without_iff {outcome : CheckOutcome}
    {excused : ClusterProfile → GateSet} {p : ClusterProfile} {gate : String} :
    (outcome.without excused).Reports p gate ↔ outcome.Reports p gate ∧ gate ∉ excused p := by
  simp only [Reports, without, List.mem_filterMap]
  constructor
  · rintro ⟨x, ⟨d, hd, hx⟩, hp, hgate⟩
    obtain ⟨rfl, hmem, hnot⟩ := MissingGates.without?_reports_iff.mp ⟨x, hx, hp, hgate⟩
    exact ⟨⟨d, hd, rfl, hmem⟩, hnot⟩
  · rintro ⟨⟨d, hd, rfl, hmem⟩, hnot⟩
    obtain ⟨x, hx, hp, hgate⟩ := MissingGates.without?_reports_iff.mpr ⟨rfl, hmem, hnot⟩
    exact ⟨x, ⟨d, hd, hx⟩, hp, hgate⟩

namespace SubsetRule

variable {rule : SubsetRule} {gates : GatesByProfile}

theorem passed_check_iff_reports :
    (rule.check gates).passed = true ↔ ∀ p gate, ¬ (rule.check gates).Reports p gate := by
  rw [CheckOutcome.passed, List.isEmpty_iff, List.eq_nil_iff_forall_not_mem]
  constructor
  · rintro h p gate ⟨d, hd, _⟩
    exact h d hd
  · intro h d hd
    obtain ⟨_, _, _, _, _, hne, _⟩ := mem_diagnostics.mp hd
    obtain ⟨gate, hgate⟩ := List.exists_mem_of_ne_nil _ hne
    exact h d.profile gate ⟨d, hd, rfl, hgate⟩

/-! ## Changes of one feature set -/

/-- The rule may compare a feature set with itself, so the change can reach both sides. -/
theorem finding_amend {sets : FeatureSets} {name : String} {f : GateSet → GateSet} {x : GateSet}
    (h : ∀ b d, sets.get? rule.baseline = some b → sets.get? rule.derived = some d →
      ((if rule.baseline = name then f b else b).diff
        (if rule.derived = name then f d else d)).toList = (b.diff d).toList.filter (· ∉ x)) :
    rule.finding (sets.amend name f) = (rule.finding sets).without x := by
  have hget : ∀ s g, sets.get? s = some g →
      (sets.amend name f).get? s = some (if s = name then f g else g) := by
    intro s g hg
    rw [FeatureSets.get?_amend, hg]
    split <;> rfl
  have hnone : ∀ s, sets.get? s = none → (sets.amend name f).get? s = none := by
    intro s hs
    rw [FeatureSets.get?_amend, hs]
    split <;> rfl
  cases hb : sets.get? rule.baseline with
  | none => simp only [finding, hb, hnone _ hb, Finding.without]
  | some b =>
      cases hd : sets.get? rule.derived with
      | none => simp only [finding, hb, hd, hget _ _ hb, hnone _ hd, Finding.without]
      | some d =>
          simp only [finding, hb, hd, hget _ _ hb, hget _ _ hd, Finding.without, h b d hb hd]

theorem toList_diff_self (s : GateSet) : (s.diff s).toList = [] :=
  OrderedSet.toList_diff_eq_nil_iff.mpr fun _ h => h

theorem finding_enable (rule : SubsetRule) (sets : FeatureSets) (x : GateSet) :
    rule.finding (sets.amend rule.derived fun d => d.union x) = (rule.finding sets).without x := by
  apply finding_amend
  intro b d hb hd
  rw [if_pos rfl]
  by_cases hrule : rule.baseline = rule.derived
  · obtain rfl := Option.some.inj (hb.symm.trans (hrule ▸ hd))
    rw [if_pos hrule, toList_diff_self, toList_diff_self, List.filter_nil]
  · rw [if_neg hrule, OrderedSet.toList_diff_union]

theorem finding_withdraw (rule : SubsetRule) (sets : FeatureSets) (x : GateSet) :
    rule.finding (sets.amend rule.baseline fun b => b.diff x) = (rule.finding sets).without x := by
  apply finding_amend
  intro b d hb hd
  rw [if_pos rfl]
  by_cases hrule : rule.derived = rule.baseline
  · obtain rfl := Option.some.inj (hd.symm.trans (hrule ▸ hb))
    rw [if_pos hrule, toList_diff_self, toList_diff_self, List.filter_nil]
  · rw [if_neg hrule, OrderedSet.toList_diff_diff]

/-- What is excused in the findings of each profile is excused in the outcome. -/
theorem check_mapValues {excused : ClusterProfile → GateSet}
    {f : ClusterProfile → FeatureSets → FeatureSets}
    (h : ∀ p sets, rule.finding (f p sets) = (rule.finding sets).without (excused p)) :
    rule.check (gates.mapValues f) = (rule.check gates).without excused := by
  have hfindings : rule.findings (gates.mapValues f) =
      (rule.findings gates).map fun x => (x.1, x.2.without (excused x.1)) := by
    simp only [findings, OrderedMap.mapValues, List.map_map, Function.comp_def, h]
  simp only [check, CheckOutcome.without, hfindings, List.filterMap_map, List.filterMap_filterMap,
    Function.comp_def, Finding.checked?_without, Finding.skipped?_without,
    Finding.diagnostic?_without]

theorem check_enable (rule : SubsetRule) (extra : ClusterProfile → GateSet)
    (gates : GatesByProfile) :
    rule.check (rule.enable extra gates) = (rule.check gates).without extra :=
  check_mapValues fun p sets => finding_enable rule sets (extra p)

theorem check_withdraw (rule : SubsetRule) (extra : ClusterProfile → GateSet)
    (gates : GatesByProfile) :
    rule.check (rule.withdraw extra gates) = (rule.check gates).without extra :=
  check_mapValues fun p sets => finding_withdraw rule sets (extra p)

theorem passed_check_enable_iff {extra : ClusterProfile → GateSet} :
    (rule.check (rule.enable extra gates)).passed = true ↔
      ∀ d ∈ (rule.check gates).diagnostics, ∀ gate ∈ d.missing, gate ∈ extra d.profile := by
  rw [passed_check_iff_reports, check_enable]
  simp only [CheckOutcome.reports_without_iff, not_and, not_not]
  constructor
  · intro h d hd gate hgate
    exact h d.profile gate ⟨d, hd, rfl, hgate⟩
  · rintro h p gate ⟨d, hd, rfl, hgate⟩
    exact h d hd gate hgate

end SubsetRule

/-- Gates that are enabled for the derived feature set are no longer missing, and that is all there
is to it: the check then passes if none of the gates that it listed is left out. It is the same with
gates that the baseline loses. Neither way is a gate reported that was not reported before. -/
theorem missing_gates_are_the_repair (rule : SubsetRule) (gates : GatesByProfile)
    (extra : ClusterProfile → GateSet) :
    rule.check (rule.enable extra gates) = (rule.check gates).without extra ∧
    ((rule.check (rule.enable extra gates)).passed = true ↔
      ∀ d ∈ (rule.check gates).diagnostics, ∀ gate ∈ d.missing, gate ∈ extra d.profile) ∧
    (∀ p gate, (rule.check (rule.enable extra gates)).Reports p gate ↔
      (rule.check gates).Reports p gate ∧ gate ∉ extra p) ∧
    (∀ p gate, (rule.check (rule.withdraw extra gates)).Reports p gate ↔
      (rule.check gates).Reports p gate ∧ gate ∉ extra p) := by
  refine ⟨rule.check_enable extra gates, SubsetRule.passed_check_enable_iff, fun p gate => ?_,
    fun p gate => ?_⟩
  · rw [rule.check_enable extra gates, CheckOutcome.reports_without_iff]
  · rw [rule.check_withdraw extra gates, CheckOutcome.reports_without_iff]

end FeatureGates
