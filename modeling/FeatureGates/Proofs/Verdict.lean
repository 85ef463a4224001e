import FeatureGates.Proofs.Check
import FeatureGates.Proofs.Inventory
import FeatureGates.Proofs.Verification

namespace FeatureGates

/-!
# The verdict

A run passes if it gets as far as the verdict and the files cover each other's gates. Only a run
that gets as far and does not pass writes diagnostics.
-/

/-- A gate that a file lists for the baseline is listed by every file of the same profile for the
derived feature set. -/
def GatesCovered (parse : Notation) (fs : FileSystem) (o : VerifyOptions) : Prop :=
  ∀ entries, fs.list o.directory = .ok entries →
    ∀ p name name' t t', IsFile entries name → IsFile entries name' →
      ClassifiedAs parse fs (o.directory.join name) p o.baseline t →
      ClassifiedAs parse fs (o.directory.join name') p o.derived t' →
      ∀ gate, t.ListsGate gate → t'.ListsGate gate

theorem gates?_iff_classifiedAs {parse : Notation} {fs : FileSystem} {directory : Path}
    {ms : List Manifest} (h : (load parse fs directory).outcome = .ok ms)
    {entries : List (Name × Node)} (hl : fs.list directory = .ok entries) {p : ClusterProfile}
    {s : String} {g : GateSet} :
    (gatesByProfile ms).gates? p s = some g ↔
      ∃ name t, IsFile entries name ∧ ClassifiedAs parse fs (directory.join name) p s t ∧
        g = t.enabledGates := by
  obtain ⟨entries', names, hl', hf, hread, hkeys⟩ := load_eq_ok_iff.mp h
  obtain rfl := Except.ok.inj (hl.symm.trans hl')
  rw [gates?_gatesByProfile hkeys, mem_entries_iff_fileDeclares hread]
  simp only [fileDeclares_some_iff, hf.mem_iff]
  constructor
  · rintro ⟨name, hname, t, ht, hg⟩
    exact ⟨name, t, hname, ht, hg⟩
  · rintro ⟨name, t, hname, ht, hg⟩
    exact ⟨name, hname, t, ht, hg⟩

theorem passed_iff_gatesCovered {parse : Notation} {fs : FileSystem} {o : VerifyOptions}
    {ms : List Manifest} (h : (load parse fs o.directory).outcome = .ok ms) :
    (evaluation o ms).passed = true ↔ GatesCovered parse fs o := by
  rw [evaluation, passed_check_iff]
  constructor
  · intro hpassed entries hl p name name' t t' hname hname' ht ht' gate hgate
    have hb : (gatesByProfile ms).gates? p o.baseline = some t.enabledGates :=
      (gates?_iff_classifiedAs h hl).mpr ⟨name, t, hname, ht, rfl⟩
    have hd : (gatesByProfile ms).gates? p o.derived = some t'.enabledGates :=
      (gates?_iff_classifiedAs h hl).mpr ⟨name', t', hname', ht', rfl⟩
    have hmem : gate ∈ t'.enabledGates :=
      hpassed p _ _ hb hd gate (Tree.mem_enabledGates.mpr hgate)
    exact Tree.mem_enabledGates.mp hmem
  · intro hcovered p b d hb hd gate hgate
    obtain ⟨entries, _, hl, _⟩ := load_eq_ok_iff.mp h
    obtain ⟨name, t, hname, ht, rfl⟩ := (gates?_iff_classifiedAs h hl).mp hb
    obtain ⟨name', t', hname', ht', rfl⟩ := (gates?_iff_classifiedAs h hl).mp hd
    have hlists : t'.ListsGate gate :=
      hcovered entries hl p name name' t t' hname hname' ht ht' gate
        (Tree.mem_enabledGates.mp hgate)
    exact Tree.mem_enabledGates.mpr hlists

/-- A run passes if it gets as far as the verdict and the gates are covered. If they are not, the
diagnostics are all that the sink is asked to take, and the end of their last line is the rest; in
every other case it is not asked at all. -/
theorem verify_passes_iff_gates_covered (env : Surroundings) (fs : FileSystem)
    (o : VerifyOptions) :
    ((verify env fs o).outcome = .ok () ↔
      (∃ ms, ReachesVerdict env fs o ms) ∧ GatesCovered env.parse fs o) ∧
    (∀ ms, ReachesVerdict env fs o ms → ¬ GatesCovered env.parse fs o →
      (env.sink.Takes (verdictTexts o ms) →
        (verify env fs o).outcome = .error (.failed o.derived) ∧
        (verify env fs o).diagnostics = Bytes.ofString (verdictText o ms)) ∧
      (∀ before text refusal, env.sink.Refuses (verdictTexts o ms) before text refusal →
        (verify env fs o).outcome = .error (.diagnosticsRefused refusal.cause) ∧
        (verify env fs o).diagnostics =
          before.flatMap Bytes.ofString ++ (Bytes.ofString text).take refusal.taken) ∧
      ∀ sink : TextSink, sink.Agrees env.sink (verdictTexts o ms) →
        verify { env with sink := sink } fs o = verify env fs o) ∧
    ((¬ ∃ ms, ReachesVerdict env fs o ms ∧ ¬ GatesCovered env.parse fs o) →
      (verify env fs o).diagnostics = [] ∧
      ∀ sink : TextSink, verify { env with sink := sink } fs o = verify env fs o) ∧
    (VerifyError.failed o.derived).message = o.derived ++ " featuregate verification failed" := by
  refine ⟨?_, ?_, ?_, rfl⟩
  · constructor
    · intro hok
      obtain ⟨ms, hreach, hpassed⟩ := verify_outcome_eq_ok_iff.mp hok
      exact ⟨⟨ms, hreach⟩, (passed_iff_gatesCovered hreach.loaded).mp hpassed⟩
    · rintro ⟨⟨ms, hreach⟩, hcovered⟩
      exact verify_outcome_eq_ok_iff.mpr
        ⟨ms, hreach, (passed_iff_gatesCovered hreach.loaded).mpr hcovered⟩
  · intro ms hreach hcovered
    have hfailed : (evaluation o ms).passed = false := by
      rw [← Bool.not_eq_true, passed_iff_gatesCovered hreach.loaded]
      exact hcovered
    refine ⟨fun hsink => ?_, fun before text refusal hsink => ?_, fun sink hsink => ?_⟩
    · have hverdict := deliverVerdict_of_taken hfailed hsink
      exact ⟨by rw [hreach.outcome_eq, hverdict], by rw [hreach.diagnostics_eq, hverdict]⟩
    · have hverdict := deliverVerdict_of_refused hfailed hsink
      exact ⟨by rw [hreach.outcome_eq, hverdict], by rw [hreach.diagnostics_eq, hverdict]⟩
    · exact hreach.verify_congr (deliverVerdict_congr hsink)
  · -- Either the check passes or there is no verdict: the sink is asked in neither case.
    intro hnone
    by_cases hreach : ∃ ms, ReachesVerdict env fs o ms
    · obtain ⟨ms, hreach⟩ := hreach
      have hpassed : (evaluation o ms).passed = true := by
        rw [passed_iff_gatesCovered hreach.loaded]
        by_contra hcovered
        exact hnone ⟨ms, hreach, hcovered⟩
      refine ⟨?_, fun sink => hreach.verify_congr ?_⟩
      · rw [hreach.diagnostics_eq, deliverVerdict_of_passed hpassed]
      · rw [deliverVerdict_of_passed hpassed, deliverVerdict_of_passed hpassed]
    · exact (verify_of_not_reachesVerdict hreach).2

namespace Sample

def surroundings : Surroundings := ⟨Yaml.read, "2024-01-01T00:00:00Z", fun _ _ => .ok ()⟩

/-- The sink takes the diagnostics, but not the end of their last line. -/
def closingSurroundings : Surroundings :=
  { surroundings with sink := fun before _ => if before = [] then .ok () else .error ⟨"closed", 0⟩ }

def options : VerifyOptions := ⟨[0x64], defaultFeatureSet, "OKD", none⟩

def diagnostics : String :=
  "ERROR: ClusterProfile \"SelfManagedHA\": OKD featureset is missing 1 featuregate(s) " ++
    "that are enabled in Default:\n  - A\n\n" ++
    "All featuregates enabled in Default must also be enabled in OKD."

end Sample

theorem verify_fails_on_sample :
    (verify Sample.surroundings Sample.files Sample.options).outcome = .error (.failed "OKD") ∧
      (verify Sample.surroundings Sample.files Sample.options).diagnostics =
        Bytes.ofString (Sample.diagnostics ++ "\n") ∧
      (verify Sample.closingSurroundings Sample.files Sample.options).outcome =
        .error (.diagnosticsRefused "closed") ∧
      (verify Sample.closingSurroundings Sample.files Sample.options).diagnostics =
        Bytes.ofString Sample.diagnostics := by
  have htexts : verdictTexts Sample.options Sample.manifests = [Sample.diagnostics, "\n"] := by
    decide +kernel
  have htext : verdictText Sample.options Sample.manifests = Sample.diagnostics ++ "\n" := by
    decide +kernel
  have hcovered : ¬ GatesCovered Yaml.read Sample.files Sample.options := by
    rw [← passed_iff_gatesCovered Sample.load_eq_ok]
    decide
  have hreach : ReachesVerdict Sample.surroundings Sample.files Sample.options Sample.manifests :=
    ⟨by decide, ⟨_, rfl⟩, by decide, Sample.load_eq_ok, nofun⟩
  have hclosing : ReachesVerdict Sample.closingSurroundings Sample.files Sample.options
    Sample.manifests := ⟨by decide, ⟨_, rfl⟩, by decide, Sample.load_eq_ok, nofun⟩
  obtain ⟨hfailed, _⟩ := (verify_passes_iff_gates_covered Sample.surroundings Sample.files
    Sample.options).2.1 _ hreach hcovered
  obtain ⟨_, hrefused, _⟩ := (verify_passes_iff_gates_covered Sample.closingSurroundings
    Sample.files Sample.options).2.1 _ hclosing hcovered
  obtain ⟨houtcome, hdiagnostics⟩ := hfailed fun _ _ _ => rfl
  have hrefuses : Sample.closingSurroundings.sink.Refuses
      (verdictTexts Sample.options Sample.manifests) [Sample.diagnostics] "\n" ⟨"closed", 0⟩ := by
    refine ⟨by rw [htexts]; exact List.prefix_refl _, fun before text hbefore => ?_, rfl⟩
    obtain rfl : before = [] := by simpa using hbefore.length_le
    rfl
  obtain ⟨hclosed, htaken⟩ := hrefused _ _ _ hrefuses
  exact ⟨houtcome, htext ▸ hdiagnostics, hclosed, by simpa using htaken⟩

end FeatureGates
