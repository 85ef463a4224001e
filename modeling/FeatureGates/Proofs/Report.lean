import FeatureGates.Proofs.Effects

namespace FeatureGates

/-!
# What the report tells

The report is made of the records of the manifests and of the outcome of the check. Both come from
the same manifests, so they fit each other, and they fit the verdict and the text for the sink.
-/

/-- The record is of a profile and a feature set. -/
def ManifestSource.isOf (s : ManifestSource) (p : ClusterProfile) (featureSet : String) : Bool :=
  decide (s.profile = some p ∧ s.featureSet = some featureSet)

theorem Manifest.isOf_source_iff {m : Manifest} {p : ClusterProfile} {featureSet : String} :
    m.source.isOf p featureSet = true ↔ m.key? = some (p, featureSet) := by
  simp only [ManifestSource.isOf, source, key?, decide_eq_true_eq, Option.map_eq_some_iff,
    Prod.mk.injEq]
  constructor
  · rintro ⟨⟨e, he, hp⟩, e', he', hs⟩
    cases he.symm.trans he'
    exact ⟨e, he, hp, hs⟩
  · rintro ⟨e, he, hp, hs⟩
    exact ⟨⟨e, he, hp⟩, e, he, hs⟩

theorem countP_isOf_source (ms : List Manifest) (p : ClusterProfile) (featureSet : String) :
    (ms.map Manifest.source).countP (·.isOf p featureSet) =
      (Manifest.keys ms).count (p, featureSet) := by
  induction ms with
  | nil => rfl
  | cons m ms ih =>
      rw [List.map_cons, List.countP_cons, ih]
      cases hk : m.key? with
      | none =>
          have hnot : ¬ m.source.isOf p featureSet = true := by simp [Manifest.isOf_source_iff, hk]
          rw [Manifest.keys_cons_of_eq_none hk, if_neg hnot, Nat.add_zero]
      | some k =>
          rw [Manifest.keys_cons_of_eq_some hk, List.count_cons]
          simp [Manifest.isOf_source_iff, hk]

theorem mem_keys_iff_gates? {ms : List Manifest} (h : (Manifest.keys ms).Nodup)
    {p : ClusterProfile} {featureSet : String} :
    (p, featureSet) ∈ Manifest.keys ms ↔
      ∃ g, (gatesByProfile ms).gates? p featureSet = some g := by
  simp only [Manifest.mem_keys, Manifest.key?_eq_some_iff, gates?_gatesByProfile h, Prod.mk.injEq]
  constructor
  · rintro ⟨m, hm, e, he, rfl, rfl⟩
    exact ⟨e.enabled, m, hm, he⟩
  · rintro ⟨g, m, hm, he⟩
    exact ⟨m, hm, _, he, rfl, rfl⟩

theorem mem_keys_gatesByProfile {ms : List Manifest} (h : (Manifest.keys ms).Nodup)
    {p : ClusterProfile} :
    p ∈ (gatesByProfile ms).keys ↔ ∃ s ∈ ms.map Manifest.source, s.profile = some p := by
  have hget : p ∈ (gatesByProfile ms).keys ↔ ((gatesByProfile ms).get? p).isSome = true := by
    simp only [OrderedMap.keys, List.mem_map, Option.isSome_iff_exists,
      OrderedMap.get?_eq_some_iff, Prod.exists, exists_and_right, exists_eq_right]
  rw [hget, (populated_gatesByProfile ms).isSome_get?_iff]
  simp only [gates?_gatesByProfile h]
  constructor
  · rintro ⟨s, g, m, hm, he⟩
    exact ⟨m.source, List.mem_map_of_mem hm, by simp [Manifest.source, he]⟩
  · rintro ⟨_, hs, hp⟩
    obtain ⟨m, hm, rfl⟩ := List.mem_map.mp hs
    obtain ⟨e, he, rfl⟩ := Option.map_eq_some_iff.mp hp
    exact ⟨e.featureSet, e.enabled, m, hm, he⟩

/-- The parts of a report fit each other. -/
structure VerificationReport.Consistent (r : VerificationReport) : Prop where
  passed_iff : r.passed = true ↔ r.diagnostics = []
  /-- No profile occurs twice among those checked and those skipped. -/
  apart : (r.checked ++ r.skipped.map SkippedProfile.profile).Nodup
  profiles : ∀ p, p ∈ r.checked ++ r.skipped.map SkippedProfile.profile ↔
    ∃ s ∈ r.sources, s.profile = some p
  diagnosed : ∀ d ∈ r.diagnostics, d.profile ∈ r.checked
  checked : ∀ p ∈ r.checked,
    r.sources.countP (·.isOf p r.baseline) = 1 ∧ r.sources.countP (·.isOf p r.derived) = 1
  skipped : ∀ k ∈ r.skipped, ∀ s ∈ r.sources, s.isOf k.profile k.missingSet = false

theorem consistent_makeReport {ms : List Manifest} (h : (Manifest.keys ms).Nodup) (now : String)
    (o : VerifyOptions) : (makeReport now o ms (evaluation o ms)).Consistent := by
  have hperm := o.rule.checked_append_skipped_perm (gatesByProfile ms)
  have hcount : ∀ p s g, (gatesByProfile ms).gates? p s = some g →
      (ms.map Manifest.source).countP (·.isOf p s) = 1 := by
    intro p s g hg
    rw [countP_isOf_source]
    exact List.count_eq_one_of_mem h ((mem_keys_iff_gates? h).mpr ⟨g, hg⟩)
  refine ⟨by simp [makeReport, CheckOutcome.passed], ?_, fun p => ?_, fun d hd => ?_,
    fun p hp => ?_, fun k hk s hs => ?_⟩
  · exact hperm.nodup_iff.mpr (gatesByProfile ms).nodup_keys
  · exact hperm.mem_iff.trans (mem_keys_gatesByProfile h)
  · exact SubsetRule.checked_of_mem_diagnostics hd
  · obtain ⟨b, d, hb, hd⟩ := SubsetRule.mem_checked.mp hp
    exact ⟨hcount p _ b hb, hcount p _ d hd⟩
  · obtain ⟨m, hm, rfl⟩ := List.mem_map.mp hs
    have hnone := (SubsetRule.mem_skipped.mp hk).2.gates?_eq_none
    rw [Bool.eq_false_iff, Ne, Manifest.isOf_source_iff]
    intro hkey
    obtain ⟨g, hg⟩ := (mem_keys_iff_gates? h).mp (Manifest.mem_keys.mpr ⟨m, hm, hkey⟩)
    cases hnone.symm.trans hg

/-! ## The report of a run -/

/-- A run has got as far as the verdict and has written the report on the way. -/
def Reports (env : Surroundings) (fs : FileSystem) (o : VerifyOptions) (path : Path)
    (r : VerificationReport) : Prop :=
  o.reportPath = some path ∧
    ∃ ms, ReachesVerdict env fs o ms ∧ r = makeReport env.now o ms (evaluation o ms)

/-- The texts for the sink, as the report tells them. -/
def VerificationReport.texts (r : VerificationReport) : List String :=
  [diagnosticText r.diagnostics ⟨r.baseline, r.derived⟩, "\n"]

/-- The report is what the file at the path holds, unless the path leads to a device. -/
def HoldsReport (fs : FileSystem) (path : Path) (r : VerificationReport) : Prop :=
  fs.regular? path = some r.json.fileContents ∨ fs.LeadsToDevice path

/-- The report tells what the run has loaded, how it has ended and what the sink has been asked to
take. -/
structure VerificationReport.Describes (r : VerificationReport) (env : Surroundings)
    (fs : FileSystem) (o : VerifyOptions) : Prop where
  sources : ∃ ms, (load env.parse fs o.directory).outcome = .ok ms ∧
    r.sources = ms.map Manifest.source
  passed_iff : r.passed = true ↔ (verify env fs o).outcome = .ok ()
  silent : r.passed = true → (verify env fs o).diagnostics = [] ∧
    ∀ sink : TextSink, verify { env with sink := sink } fs o = verify env fs o
  taken : r.passed = false → env.sink.Takes r.texts →
    (verify env fs o).outcome = .error (.failed r.derived) ∧
      (verify env fs o).diagnostics = r.texts.flatMap Bytes.ofString
  refused : r.passed = false → ∀ before text refusal,
    env.sink.Refuses r.texts before text refusal →
    (verify env fs o).outcome = .error (.diagnosticsRefused refusal.cause) ∧
      (verify env fs o).diagnostics =
        before.flatMap Bytes.ofString ++ (Bytes.ofString text).take refusal.taken
  /-- Nothing but the texts is asked of the sink. -/
  asked : ∀ sink : TextSink, sink.Agrees env.sink r.texts →
    verify { env with sink := sink } fs o = verify env fs o

section Run

variable {env : Surroundings} {fs : FileSystem} {o : VerifyOptions} {ms : List Manifest}

theorem describes_makeReport (h : ReachesVerdict env fs o ms) :
    (makeReport env.now o ms (evaluation o ms)).Describes env fs o := by
  have hfailed : (evaluation o ms).passed = false ↔ ¬ (evaluation o ms).passed = true := by simp
  refine ⟨⟨ms, h.loaded, rfl⟩, ?_, fun hp => ⟨?_, fun sink => h.verify_congr ?_⟩,
    fun hp hsink => ?_, fun hp before text refusal hsink => ?_,
    fun sink hsink => h.verify_congr (deliverVerdict_congr hsink)⟩
  · rw [verify_outcome_eq_ok_iff]
    constructor
    · exact fun hp => ⟨ms, h, hp⟩
    · rintro ⟨ms', h', hp⟩
      cases h.loaded.symm.trans h'.loaded
      exact hp
  · rw [h.diagnostics_eq, deliverVerdict_of_passed hp]
  · rw [deliverVerdict_of_passed hp, deliverVerdict_of_passed hp]
  · have hverdict := deliverVerdict_of_taken hp hsink
    refine ⟨by rw [h.outcome_eq, hverdict]; rfl, ?_⟩
    rw [h.diagnostics_eq, hverdict, ← flatMap_verdictTexts]
    rfl
  · have hverdict := deliverVerdict_of_refused hp hsink
    exact ⟨by rw [h.outcome_eq, hverdict], by rw [h.diagnostics_eq, hverdict]⟩

theorem Loading.logEvent_of_mem_log {read : Path → Except ManifestError Manifest}
    {earlier : List Manifest} {ps : List Path} {event : LogEvent}
    (h : event ∈ (Loading.from read earlier ps).log) : ∃ m : Manifest, event = m.logEvent := by
  induction ps generalizing earlier with
  | nil => simp [Loading.from] at h
  | cons p ps ih =>
      unfold Loading.from at h
      split at h
      next => simp at h
      next m _ =>
        split at h
        next => exact ⟨m, by simpa using h⟩
        next =>
          rcases List.mem_cons.mp h with rfl | h
          · exact ⟨m, rfl⟩
          · exact ih h

theorem reportWritten_not_mem_load (parse : Notation) (fs : FileSystem) (directory path : Path) :
    LogEvent.reportWritten path ∉ (load parse fs directory).log := by
  intro h
  unfold load at h
  split at h
  next => simp at h
  next =>
    obtain ⟨m, hm⟩ := Loading.logEvent_of_mem_log h
    unfold Manifest.logEvent at hm
    split at hm <;> cases hm

theorem reportWritten_mem_conclude_iff {path : Path} :
    LogEvent.reportWritten path ∈ (conclude env fs o ms).log ↔
      o.reportPath = some path ∧ ∃ fs', writeJson fs path
        (some (makeReport env.now o ms (evaluation o ms)).json) = (.ok (), fs') := by
  have hcheck : LogEvent.reportWritten path ∉
      (evaluation o ms).skipped.map LogEvent.profileSkipped ++
        [.evaluated (runCounts ms (evaluation o ms))] := by simp
  rw [evaluation] at hcheck ⊢
  unfold conclude deliverReport
  cases o.reportPath with
  | none => simp
  | some path' =>
      dsimp only
      rcases hw : writeJson fs path' (some (makeReport env.now o ms
        (o.rule.check (gatesByProfile ms))).json) with ⟨e | _, fs'⟩
      · refine ⟨fun h => absurd h hcheck, ?_⟩
        rintro ⟨hpath, _, hok⟩
        cases hpath
        cases hw.symm.trans hok
      · dsimp only
        rw [List.mem_append, or_iff_right hcheck, List.mem_singleton, LogEvent.reportWritten.injEq,
          Option.some.injEq]
        constructor
        · rintro rfl
          exact ⟨rfl, fs', hw⟩
        · exact fun h => h.1.symm

/-- A run logs that it has written a report exactly if it has. -/
theorem reportWritten_mem_log_iff {path : Path} :
    LogEvent.reportWritten path ∈ (verify env fs o).log ↔ ∃ r, Reports env fs o path r := by
  constructor
  · intro h
    have hload : LogEvent.reportWritten path ∉
        .verifying o.directory o.rule :: (load env.parse fs o.directory).log := by
      intro h
      rcases List.mem_cons.mp h with h | h
      · cases h
      · exact reportWritten_not_mem_load env.parse fs o.directory path h
    rcases verify_cases env fs o with ⟨_, _, hrun⟩ | ⟨_, _, _, hrun⟩ | ⟨ms, hv, hl, hrun⟩
    · rw [hrun] at h
      cases h
    · rw [hrun] at h
      exact absurd h hload
    · rw [hrun] at h
      obtain ⟨hpath, hwrite⟩ :=
        reportWritten_mem_conclude_iff.mp ((List.mem_append.mp h).resolve_left hload)
      obtain ⟨hdirectory, -, hdistinct⟩ := validate_eq_ok_iff.mp hv
      refine ⟨_, hpath, ms, ⟨hdirectory, exists_list_of_load hl, hdistinct, hl,
        fun path' hpath' => ?_⟩, rfl⟩
      cases hpath.symm.trans hpath'
      exact hwrite
  · rintro ⟨_, hpath, ms, h, rfl⟩
    rw [verify_of_loaded h.validate_eq_ok h.loaded]
    refine List.mem_append_right _ ?_
    exact reportWritten_mem_conclude_iff.mpr ⟨hpath, h.reported path hpath⟩

end Run

/-- A run that has written its report leaves it at its path. The report is consistent in itself, and
it tells the verdict of the run and the text for the sink, whether or not the sink takes it. -/
theorem report_describes_run (env : Surroundings) (fs : FileSystem) (o : VerifyOptions)
    (path : Path) :
    (LogEvent.reportWritten path ∈ (verify env fs o).log ↔ ∃ r, Reports env fs o path r) ∧
    ∀ r, Reports env fs o path r →
      HoldsReport (verify env fs o).fileSystem path r ∧ r.Consistent ∧ r.Describes env fs o := by
  refine ⟨reportWritten_mem_log_iff, ?_⟩
  rintro _ ⟨hpath, ms, h, rfl⟩
  obtain ⟨_, _, _, _, _, hkeys⟩ := load_eq_ok_iff.mp h.loaded
  exact ⟨holds_of_writeJson (h.writeJson_eq hpath), consistent_makeReport hkeys env.now o,
    describes_makeReport h⟩

namespace Sample

def r : Name := ⟨[0x72], by decide⟩

/-- The report goes beside the directory. -/
def reporting : VerifyOptions := { options with reportPath := some [0x72] }

theorem reachesVerdict_reporting : ReachesVerdict surroundings files reporting manifests := by
  refine ⟨by decide, ⟨_, rfl⟩, by decide, load_eq_ok, fun path hpath => ?_⟩
  cases hpath
  have hopens : files.Opens [0x72] (.file [r]) := .new (l := []) rfl
  exact ⟨_, writeJson_eq_ok_iff.mpr ⟨files, rfl, .inl ⟨_, hopens, rfl⟩⟩⟩

def report : VerificationReport :=
  makeReport surroundings.now reporting manifests (evaluation reporting manifests)

/-- A sink that takes four bytes and no more. -/
def closing : TextSink := fun _ _ => .error ⟨"closed", 4⟩

end Sample

theorem report_describes_sample_run :
    Reports Sample.surroundings Sample.files Sample.reporting [0x72] Sample.report ∧
      Sample.report.checked = [.selfManagedHA] ∧ Sample.report.passed = false ∧
      Sample.report.Consistent ∧
      (verify Sample.surroundings Sample.files Sample.reporting).outcome =
        .error (.failed "OKD") ∧
      (verify { Sample.surroundings with sink := Sample.closing } Sample.files
        Sample.reporting).outcome = .error (.diagnosticsRefused "closed") ∧
      (verify { Sample.surroundings with sink := Sample.closing } Sample.files
        Sample.reporting).diagnostics = Bytes.ofString "ERRO" := by
  have hpassed : Sample.report.passed = false := by decide
  have hreach := Sample.reachesVerdict_reporting
  have hreports : Reports Sample.surroundings Sample.files Sample.reporting [0x72] Sample.report :=
    ⟨rfl, _, hreach, rfl⟩
  obtain ⟨_, hconsistent, hdescribes⟩ := (report_describes_run Sample.surroundings Sample.files
    Sample.reporting [0x72]).2 _ hreports
  obtain ⟨_, _, hrefused⟩ := (report_describes_run
    { Sample.surroundings with sink := Sample.closing } Sample.files Sample.reporting
    [0x72]).2 Sample.report ⟨rfl, _, ⟨hreach.directory, hreach.listed, hreach.distinct,
      hreach.loaded, hreach.reported⟩, rfl⟩
  have htakes : Sample.surroundings.sink.Takes Sample.report.texts := fun _ _ _ => rfl
  have hcloses : Sample.closing.Refuses Sample.report.texts []
      (diagnosticText Sample.report.diagnostics ⟨defaultFeatureSet, "OKD"⟩) ⟨"closed", 4⟩ :=
    ⟨⟨_, rfl⟩, fun before text h => by simp at h, rfl⟩
  obtain ⟨houtcome, hdiagnostics⟩ := hrefused.refused hpassed _ _ _ hcloses
  exact ⟨hreports, by decide, hpassed, hconsistent, (hdescribes.taken hpassed htakes).1,
    houtcome, hdiagnostics.trans (by decide +kernel)⟩

end FeatureGates
