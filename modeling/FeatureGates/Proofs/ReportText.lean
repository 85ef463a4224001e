import FeatureGates.Proofs.JsonText
import FeatureGates.Proofs.Report

namespace FeatureGates

/-!
# Reading reports

The value of a report is read member by member: each at its place, under its key, and none besides.
What is read is the report, so the file that holds a report determines it.
-/

namespace Json

def asText? : Json → Option String
  | string s => some s
  | _ => none

def asNatural? : Json → Option Nat
  | number (.ofNat n) => some n
  | _ => none

def asOptional? {α : Type} (read : Json → Option α) : Json → Option (Option α)
  | null => some none
  | j => (read j).map some

def asList? {α : Type} (read : Json → Option α) : Json → Option (List α)
  | array items => items.mapM read
  | _ => none

@[simp] theorem asNatural?_natural (n : Nat) : (natural n).asNatural? = some n := rfl

@[simp] theorem asOptional?_asText? (s : Option String) :
    (optional s).asOptional? asText? = some s := by
  cases s <;> rfl

theorem asList?_array {α : Type} {read : Json → Option α} (write : α → Json)
    (h : ∀ a, read (write a) = some a) (as : List α) :
    (array (as.map write)).asList? read = some as := by
  rw [asList?]
  induction as with
  | nil => rfl
  | cons a as ih => simp [h, ih]

end Json

/-! ## The records -/

def ClusterProfile.ofJson? : Json → Option ClusterProfile
  | .string "SelfManagedHA" => some .selfManagedHA
  | .string "Hypershift" => some .hypershift
  | _ => none

def ManifestSource.ofJson? : Json → Option ManifestSource
  | .object [
      ("path", path),
      ("sha256", digest),
      ("cluster_profile", profile),
      ("feature_set", featureSet),
      ("enabled_count", enabledCount)] => do
    let path ← path.asText?
    let digest ← digest.asText?
    let profile ← profile.asOptional? ClusterProfile.ofJson?
    let featureSet ← featureSet.asOptional? Json.asText?
    let enabledCount ← enabledCount.asNatural?
    some ⟨path, digest, profile, featureSet, enabledCount⟩
  | _ => none

def SkippedProfile.ofJson? : Json → Option SkippedProfile
  | .object [("cluster_profile", profile), ("missing_feature_set", missingSet)] => do
    let profile ← ClusterProfile.ofJson? profile
    let missingSet ← missingSet.asText?
    some ⟨profile, missingSet⟩
  | _ => none

def MissingGates.ofJson? : Json → Option MissingGates
  | .object [("cluster_profile", profile), ("missing", missing), ("missing_count", count)] => do
    let profile ← ClusterProfile.ofJson? profile
    let missing ← missing.asList? Json.asText?
    let count ← count.asNatural?
    some ⟨profile, missing, count⟩
  | _ => none

def VerificationReport.ofMembers? : List (String × Json) → Option VerificationReport
  | [
      ("report_version", version),
      ("generated_at", generatedAt),
      ("manifest_dir", manifestDirectory),
      ("baseline_feature_set", baseline),
      ("derived_feature_set", derived),
      ("passed", .bool passed),
      ("sources", sources),
      ("checked_profiles", checked),
      ("skipped_profiles", skipped),
      ("diagnostics", diagnostics)] => do
    let version ← version.asNatural?
    let generatedAt ← generatedAt.asText?
    let manifestDirectory ← manifestDirectory.asText?
    let baseline ← baseline.asText?
    let derived ← derived.asText?
    let sources ← sources.asList? ManifestSource.ofJson?
    let checked ← checked.asList? ClusterProfile.ofJson?
    let skipped ← skipped.asList? SkippedProfile.ofJson?
    let diagnostics ← diagnostics.asList? MissingGates.ofJson?
    some ⟨version, generatedAt, manifestDirectory, baseline, derived, passed, sources, checked,
      skipped, diagnostics⟩
  | _ => none

theorem ClusterProfile.ofJson?_json (p : ClusterProfile) : ofJson? p.json = some p := by
  cases p <;> rfl

theorem ManifestSource.ofJson?_json (s : ManifestSource) : ofJson? s.json = some s := by
  have hprofile : (Json.optional (s.profile.map ClusterProfile.name)).asOptional?
      ClusterProfile.ofJson? = some s.profile := by
    rcases s.profile with _ | _ | _ <;> rfl
  simp [ofJson?, json, hprofile, Json.asText?]

theorem SkippedProfile.ofJson?_json (s : SkippedProfile) : ofJson? s.json = some s := by
  simp [ofJson?, json, ClusterProfile.ofJson?_json, Json.asText?]

theorem MissingGates.ofJson?_json (d : MissingGates) : ofJson? d.json = some d := by
  have hmissing : (Json.array (d.missing.map Json.string)).asList? Json.asText? =
      some d.missing := Json.asList?_array Json.string (fun _ => rfl) d.missing
  simp [ofJson?, json, ClusterProfile.ofJson?_json, hmissing]

namespace VerificationReport

theorem ofMembers?_json {r : VerificationReport} {members : List (String × Json)}
    (h : r.json = .object members) : ofMembers? members = some r := by
  have hsources := Json.asList?_array _ ManifestSource.ofJson?_json r.sources
  have hchecked := Json.asList?_array _ ClusterProfile.ofJson?_json r.checked
  have hskipped := Json.asList?_array _ SkippedProfile.ofJson?_json r.skipped
  have hdiagnostics := Json.asList?_array _ MissingGates.ofJson?_json r.diagnostics
  cases h
  simp [ofMembers?, Json.asText?, hsources, hchecked, hskipped, hdiagnostics]

/-- The keys of the members, in their order. -/
def keys : List String := [
  "report_version", "generated_at", "manifest_dir", "baseline_feature_set",
  "derived_feature_set", "passed", "sources", "checked_profiles", "skipped_profiles",
  "diagnostics"]

/-- The contents are one text of a value, with one newline behind it. What the members of the value
tell is the report. -/
def ToldBy (r : VerificationReport) (contents : Bytes) : Prop :=
  ∃ text members, contents = Bytes.ofString (text ++ "\n") ∧ ¬ ['\n'] <:+ text.toList ∧
    Json.read? text = some (.object members) ∧ members.map Prod.fst = keys ∧
    ofMembers? members = some r

theorem ToldBy.unique {r r' : VerificationReport} {contents : Bytes} (h : r.ToldBy contents)
    (h' : r'.ToldBy contents) : r = r' := by
  obtain ⟨text, members, rfl, _, hread, _, hr⟩ := h
  obtain ⟨text', members', htext, _, hread', _, hr'⟩ := h'
  obtain rfl : text = text' := by simpa using Bytes.ofString_injective htext
  cases hread.symm.trans hread'
  exact Option.some.inj (hr.symm.trans hr')

theorem toldBy_fileContents (r : VerificationReport) : r.ToldBy r.json.fileContents := by
  refine ⟨r.json.text, _, rfl, ?_, Json.read?_text r.json, rfl, ofMembers?_json rfl⟩
  rw [Json.text, String.toList_ofList, json, Json.write, List.singleton_suffix_iff_getLast?_eq_some,
    List.getLast?_concat]
  decide

end VerificationReport

/-- A file to which a report has been written tells the report and no other one. -/
theorem report_file_determines_report (r : VerificationReport) :
    (∀ fs path fs', writeJson fs path (some r.json) = (.ok (), fs') → HoldsReport fs' path r) ∧
    r.ToldBy r.json.fileContents ∧
    (∀ contents, r.ToldBy contents → ∀ r', r'.ToldBy contents → r' = r) ∧
    ∀ r', r' ≠ r → r'.json.fileContents ≠ r.json.fileContents := by
  refine ⟨fun fs path fs' h => holds_of_writeJson h, r.toldBy_fileContents,
    fun contents h r' h' => h'.unique h, fun r' hne heq => ?_⟩
  have h := r'.toldBy_fileContents
  rw [heq] at h
  exact hne (h.unique r.toldBy_fileContents)

namespace Sample

/-- Names that need escapes, empty names, empty lists and absent fields. -/
def oddReport : VerificationReport where
  version := 1
  generatedAt := ""
  manifestDirectory := "a\"\\\n\x01é"
  baseline := ", "
  derived := ""
  passed := false
  sources := [⟨"\x7d", "", none, none, 0⟩, ⟨"[]", "0", some .hypershift, some "null", 10⟩]
  checked := []
  skipped := [⟨.selfManagedHA, "\t"⟩]
  diagnostics := [⟨.hypershift, ["\"", ""], 2⟩, ⟨.hypershift, [], 0⟩]

end Sample

theorem report_file_determines_odd_report :
    ∃ fs', writeJson Sample.files [0x72] (some Sample.oddReport.json) = (.ok (), fs') ∧
      HoldsReport fs' [0x72] Sample.oddReport ∧
      Sample.oddReport.ToldBy Sample.oddReport.json.fileContents ∧
      Sample.report.json.fileContents ≠ Sample.oddReport.json.fileContents := by
  have hopens : Sample.files.Opens [0x72] (.file [Sample.r]) := .new (l := []) rfl
  have hwrite : writeJson Sample.files [0x72] (some Sample.oddReport.json) = (.ok (),
      Sample.files.put [Sample.r] (.file Sample.oddReport.json.fileContents)) :=
    writeJson_eq_ok_iff.mpr ⟨Sample.files, rfl, .inl ⟨_, hopens, rfl⟩⟩
  obtain ⟨hholds, htold, _, hdiffer⟩ := report_file_determines_report Sample.oddReport
  exact ⟨_, hwrite, hholds _ _ _ hwrite, htold, hdiffer Sample.report (by decide)⟩

end FeatureGates
