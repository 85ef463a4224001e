import FeatureGates.Proofs.Verdict
import FeatureGates.Proofs.Writing

namespace FeatureGates

/-!
# What a run leaves behind

A run that ends before all manifests are read leaves everything as it was. Any other run touches
nothing but its report.
-/

/-- The call is not valid, or the directory does not load. -/
inductive EndsEarly (env : Surroundings) (fs : FileSystem) (o : VerifyOptions) :
    VerifyError → Prop
  | invalid {e : VerifyError} (h : validate fs o = .error e) : EndsEarly env fs o e
  | unloaded {e : ManifestError} (hv : validate fs o = .ok ())
      (h : (load env.parse fs o.directory).outcome = .error e) : EndsEarly env fs o (.manifest e)

section Run

variable {env : Surroundings} {fs : FileSystem} {o : VerifyOptions}

theorem EndsEarly.verify_eq {e : VerifyError} (h : EndsEarly env fs o e) :
    ∃ log, ∀ sink : TextSink,
      verify { env with sink := sink } fs o = ⟨.error e, fs, log, []⟩ := by
  cases h with
  | invalid h => exact ⟨_, fun sink => verify_of_invalid h⟩
  | unloaded hv h =>
      exact ⟨.verifying o.directory o.rule :: (load env.parse fs o.directory).log,
        fun sink => @verify_of_fault { env with sink := sink } fs o hv _ h⟩

theorem deliverReport_fileSystem (report : VerificationReport) :
    (deliverReport fs o report).2 =
      o.reportPath.elim fs fun path => (writeJson fs path (some report.json)).2 := by
  unfold deliverReport
  cases o.reportPath with
  | none => rfl
  | some path => rcases hw : writeJson fs path (some report.json) with ⟨e | _, fs'⟩ <;> simp [hw]

theorem conclude_fileSystem (ms : List Manifest) :
    (conclude env fs o ms).fileSystem =
      (deliverReport fs o (makeReport env.now o ms (evaluation o ms))).2 := by
  unfold conclude evaluation
  dsimp only
  split
  next h => rw [h]
  next h => rw [h]

theorem verify_fileSystem_of_loaded (hv : validate fs o = .ok ()) {ms : List Manifest}
    (h : (load env.parse fs o.directory).outcome = .ok ms) :
    (verify env fs o).fileSystem = o.reportPath.elim fs fun path =>
      (writeJson fs path (some (makeReport env.now o ms (evaluation o ms)).json)).2 := by
  rw [verify_of_loaded hv h, ← deliverReport_fileSystem, ← conclude_fileSystem]

/-- A run changes the file system by its report or not at all. -/
theorem verify_fileSystem (env : Surroundings) (fs : FileSystem) (o : VerifyOptions) :
    (verify env fs o).fileSystem = fs ∨ ∃ path report, o.reportPath = some path ∧
      (verify env fs o).fileSystem = (writeJson fs path (some report)).2 := by
  rcases verify_cases env fs o with ⟨_, _, hrun⟩ | ⟨_, _, _, hrun⟩ | ⟨ms, hv, hl, _⟩
  · exact .inl (by rw [hrun])
  · exact .inl (by rw [hrun])
  · rw [verify_fileSystem_of_loaded hv hl]
    cases o.reportPath with
    | none => exact .inl rfl
    | some path => exact .inr ⟨path, _, rfl, rfl⟩

theorem ReachesVerdict.writeJson_eq {ms : List Manifest} (h : ReachesVerdict env fs o ms)
    {path : Path} (hpath : o.reportPath = some path) :
    writeJson fs path (some (makeReport env.now o ms (evaluation o ms)).json) =
      (.ok (), (verify env fs o).fileSystem) := by
  obtain ⟨fs', hwrite⟩ := h.reported path hpath
  rw [verify_fileSystem_of_loaded h.validate_eq_ok h.loaded, hpath, Option.elim_some, hwrite]

end Run

/-- If the call is not valid or the directory does not load, nothing has changed and the sink has
not been asked. No run changes more than the report and the directories above it. -/
theorem verify_changes_only_its_report (env : Surroundings) (fs : FileSystem)
    (o : VerifyOptions) :
    (∀ e, EndsEarly env fs o e →
      (verify env fs o).outcome = .error e ∧ (verify env fs o).fileSystem = fs ∧
        (verify env fs o).diagnostics = [] ∧
        ∀ sink : TextSink, verify { env with sink := sink } fs o = verify env fs o) ∧
    (o.reportPath = none → (verify env fs o).fileSystem = fs) ∧
    ∀ path, o.reportPath = some path → WritesOnly path fs (verify env fs o).fileSystem := by
  refine ⟨fun e h => ?_, fun hnone => ?_, fun path hpath => ?_⟩
  · obtain ⟨log, hlog⟩ := h.verify_eq
    have hself : verify env fs o = ⟨.error e, fs, log, []⟩ := hlog env.sink
    refine ⟨by rw [hself], by rw [hself], by rw [hself], fun sink => ?_⟩
    rw [hlog, hself]
  · rcases verify_fileSystem env fs o with h | ⟨path, _, hpath, _⟩
    · exact h
    · cases hnone.symm.trans hpath
  · rcases verify_fileSystem env fs o with h | ⟨path', report, hpath', h⟩
    · rw [h]
      exact (FileSystem.MakesOnly.refl fs).writesOnly
    · cases hpath.symm.trans hpath'
      rw [h]
      exact writesOnly_writeJson fs path (some report)

namespace Sample

/-- A report in a directory that is not there yet. -/
def reportPath : Path := [0x6E, slash, 0x72]

end Sample

theorem verify_changes_only_sample_report :
    (verify Sample.surroundings Sample.files
        ⟨[0x67], defaultFeatureSet, "OKD", some Sample.reportPath⟩).fileSystem = Sample.files ∧
      (verify Sample.surroundings Sample.files Sample.options).fileSystem = Sample.files ∧
      WritesOnly Sample.reportPath Sample.files
        (verify Sample.surroundings Sample.files
          { Sample.options with reportPath := some Sample.reportPath }).fileSystem := by
  have hmissing := (verify_changes_only_its_report Sample.surroundings Sample.files
    ⟨[0x67], defaultFeatureSet, "OKD", some Sample.reportPath⟩).1 (.directoryUnopened .notFound)
    (.invalid rfl)
  refine ⟨hmissing.2.1, ?_, ?_⟩
  · exact (verify_changes_only_its_report _ _ _).2.1 rfl
  · exact (verify_changes_only_its_report _ _ _).2.2 _ rfl

end FeatureGates
