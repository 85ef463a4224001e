import FeatureGates.Proofs.Listing
import FeatureGates.Verification

namespace FeatureGates

/-!
# The course of a run

A run ends in the validation of the call, in the loading of the directory, or in what follows once
all manifests are read.
-/

theorem validate_eq_ok_iff {fs : FileSystem} {o : VerifyOptions} :
    validate fs o = .ok () ↔
      o.directory ≠ [] ∧ (∃ reading, fs.openDirectory o.directory = .ok reading) ∧
        o.baseline ≠ o.derived := by
  unfold validate
  by_cases hd : o.directory = []
  · simp [hd]
  · cases hl : fs.openDirectory o.directory with
    | error cause => simp [hd]
    | ok reading => by_cases hs : o.baseline = o.derived <;> simp [hd, hs]

section Run

variable {env : Surroundings} {fs : FileSystem} {o : VerifyOptions}

theorem verify_of_invalid {e : VerifyError} (h : validate fs o = .error e) :
    verify env fs o = ⟨.error e, fs, [], []⟩ := by
  simp only [verify, h]

theorem verify_of_fault (hv : validate fs o = .ok ()) {e : ManifestError}
    (h : (load env.parse fs o.directory).outcome = .error e) :
    verify env fs o = ⟨.error (.manifest e), fs,
      .verifying o.directory o.rule :: (load env.parse fs o.directory).log, []⟩ := by
  simp only [verify, hv, h]

theorem verify_of_loaded (hv : validate fs o = .ok ()) {ms : List Manifest}
    (h : (load env.parse fs o.directory).outcome = .ok ms) :
    verify env fs o = { conclude env fs o ms with
      log := (.verifying o.directory o.rule :: (load env.parse fs o.directory).log) ++
        (conclude env fs o ms).log } := by
  simp only [verify, hv, h]

/-- A run ends where the call is not valid or the directory does not load, or else as it
concludes. -/
theorem verify_cases (env : Surroundings) (fs : FileSystem) (o : VerifyOptions) :
    (∃ e, validate fs o = .error e ∧ verify env fs o = ⟨.error e, fs, [], []⟩) ∨
    (∃ e, validate fs o = .ok () ∧ (load env.parse fs o.directory).outcome = .error e ∧
      verify env fs o = ⟨.error (.manifest e), fs,
        .verifying o.directory o.rule :: (load env.parse fs o.directory).log, []⟩) ∨
    ∃ ms, validate fs o = .ok () ∧ (load env.parse fs o.directory).outcome = .ok ms ∧
      verify env fs o = { conclude env fs o ms with
        log := (.verifying o.directory o.rule :: (load env.parse fs o.directory).log) ++
          (conclude env fs o ms).log } := by
  cases hv : validate fs o with
  | error e => exact .inl ⟨e, rfl, verify_of_invalid hv⟩
  | ok _ =>
      cases hl : (load env.parse fs o.directory).outcome with
      | error e => exact .inr (.inl ⟨e, rfl, rfl, verify_of_fault hv hl⟩)
      | ok ms => exact .inr (.inr ⟨ms, rfl, rfl, verify_of_loaded hv hl⟩)

end Run

/-! ## The verdict at the end of a run -/

namespace TextSink

/-- The sink takes each of the texts once it has taken those before it. -/
def Takes (sink : TextSink) (texts : List String) : Prop :=
  ∀ before text, before ++ [text] <+: texts → sink before text = .ok ()

/-- The sink takes some of the texts and refuses the next one. -/
structure Refuses (sink : TextSink) (texts before : List String) (text : String)
    (refusal : Refusal) : Prop where
  handed : before ++ [text] <+: texts
  taken : sink.Takes before
  refused : sink before text = .error refusal

/-- The sinks answer alike whatever they can be asked about the texts. -/
def Agrees (sink sink' : TextSink) (texts : List String) : Prop :=
  ∀ before text, before ++ [text] <+: texts → sink before text = sink' before text

theorem takeAll_append {sink : TextSink} {taken : List String} (done : List String)
    (h : ∀ before text, before ++ [text] <+: taken → sink (done ++ before) text = .ok ())
    (rest : List String) :
    sink.takeAll done (taken ++ rest) =
      ((sink.takeAll (done ++ taken) rest).1,
        taken.flatMap Bytes.ofString ++ (sink.takeAll (done ++ taken) rest).2) := by
  induction taken generalizing done with
  | nil => simp
  | cons text taken ih =>
      have hfirst : sink done text = .ok () := by simpa using h [] text (by simp)
      have hrest := @ih (done ++ [text]) fun before later hlater => by
        simpa using h (text :: before) later (by simpa using hlater)
      rw [List.append_assoc] at hrest
      simp only [List.cons_append, takeAll, hfirst, hrest, List.nil_append, List.flatMap_cons,
        List.append_assoc]

theorem Takes.takeAll_eq {sink : TextSink} {texts : List String} (h : sink.Takes texts) :
    sink.takeAll [] texts = (.ok (), texts.flatMap Bytes.ofString) := by
  simpa [takeAll] using takeAll_append [] h []

theorem Refuses.takeAll_eq {sink : TextSink} {texts before : List String} {text : String}
    {refusal : Refusal} (h : sink.Refuses texts before text refusal) :
    sink.takeAll [] texts = (.error refusal.cause,
      before.flatMap Bytes.ofString ++ (Bytes.ofString text).take refusal.taken) := by
  obtain ⟨after, rfl⟩ := h.handed
  rw [List.append_assoc, takeAll_append [] h.taken]
  simp [takeAll, h.refused]

theorem Agrees.takeAll_eq {sink sink' : TextSink} {texts : List String}
    (h : sink.Agrees sink' texts) : sink.takeAll [] texts = sink'.takeAll [] texts := by
  have hfrom : ∀ done texts : List String,
      (∀ before text, before ++ [text] <+: texts →
        sink (done ++ before) text = sink' (done ++ before) text) →
      sink.takeAll done texts = sink'.takeAll done texts := by
    intro done texts hagrees
    induction texts generalizing done with
    | nil => rfl
    | cons text texts ih =>
        have hfirst : sink done text = sink' done text := by
          simpa using hagrees [] text (by simp)
        have hrest := ih (done ++ [text]) fun before later hlater => by
          simpa using hagrees (text :: before) later (by simpa using hlater)
        simp only [takeAll, hfirst, hrest]
  exact hfrom [] texts h

end TextSink

/-- What the rule of a call says of the manifests. -/
def evaluation (o : VerifyOptions) (ms : List Manifest) : CheckOutcome :=
  o.rule.check (gatesByProfile ms)

/-- The texts for the sink: the diagnostics, and the end of their last line. -/
def verdictTexts (o : VerifyOptions) (ms : List Manifest) : List String :=
  [diagnosticText (evaluation o ms).diagnostics o.rule, "\n"]

/-- The texts as one. -/
def verdictText (o : VerifyOptions) (ms : List Manifest) : String :=
  diagnosticText (evaluation o ms).diagnostics o.rule ++ "\n"

theorem flatMap_verdictTexts (o : VerifyOptions) (ms : List Manifest) :
    (verdictTexts o ms).flatMap Bytes.ofString = Bytes.ofString (verdictText o ms) := by
  simp [verdictTexts, verdictText, Bytes.ofString_append]

/-- Nothing ends the run before its verdict. -/
structure ReachesVerdict (env : Surroundings) (fs : FileSystem) (o : VerifyOptions)
    (ms : List Manifest) : Prop where
  directory : o.directory ≠ []
  listed : ∃ entries, fs.list o.directory = .ok entries
  distinct : o.baseline ≠ o.derived
  loaded : (load env.parse fs o.directory).outcome = .ok ms
  reported : ∀ path, o.reportPath = some path → ∃ fs',
    writeJson fs path (some (makeReport env.now o ms (evaluation o ms)).json) = (.ok (), fs')

section Verdict

variable {env : Surroundings} {fs : FileSystem} {o : VerifyOptions} {ms : List Manifest}

theorem deliverReport_eq_ok_iff {report : VerificationReport} :
    (∃ written fs', deliverReport fs o report = (.ok written, fs')) ↔
      ∀ path, o.reportPath = some path →
        ∃ fs', writeJson fs path (some report.json) = (.ok (), fs') := by
  unfold deliverReport
  cases o.reportPath with
  | none => simp
  | some path =>
      rcases hw : writeJson fs path (some report.json) with ⟨e | _, fs'⟩
      · simp [hw]
      · simp [hw]

theorem deliverVerdict_of_passed {sink : TextSink} {rule : SubsetRule} {outcome : CheckOutcome}
    (h : outcome.passed = true) : deliverVerdict sink rule outcome = (.ok (), []) := by
  simp only [deliverVerdict, h, if_true]

theorem deliverVerdict_of_taken {sink : TextSink} (h : (evaluation o ms).passed = false)
    (hsink : sink.Takes (verdictTexts o ms)) :
    deliverVerdict sink o.rule (evaluation o ms) =
      (.error (.failed o.derived), Bytes.ofString (verdictText o ms)) := by
  have hall := hsink.takeAll_eq
  rw [flatMap_verdictTexts, verdictTexts] at hall
  simp only [deliverVerdict, h, hall, Bool.false_eq_true, if_false]
  rfl

theorem deliverVerdict_of_refused {sink : TextSink} (h : (evaluation o ms).passed = false)
    {before : List String} {text : String} {refusal : Refusal}
    (hsink : sink.Refuses (verdictTexts o ms) before text refusal) :
    deliverVerdict sink o.rule (evaluation o ms) = (.error (.diagnosticsRefused refusal.cause),
      before.flatMap Bytes.ofString ++ (Bytes.ofString text).take refusal.taken) := by
  have hall := hsink.takeAll_eq
  rw [verdictTexts] at hall
  simp only [deliverVerdict, h, hall, Bool.false_eq_true, if_false]

theorem deliverVerdict_congr {sink sink' : TextSink} (h : sink.Agrees sink' (verdictTexts o ms)) :
    deliverVerdict sink o.rule (evaluation o ms) =
      deliverVerdict sink' o.rule (evaluation o ms) := by
  have hall := h.takeAll_eq
  rw [verdictTexts] at hall
  simp only [deliverVerdict, hall]

theorem conclude_of_delivered {written : List LogEvent} {fs' : FileSystem}
    (h : deliverReport fs o (makeReport env.now o ms (evaluation o ms)) = (.ok written, fs')) :
    (conclude env fs o ms).outcome = (deliverVerdict env.sink o.rule (evaluation o ms)).1 ∧
      (conclude env fs o ms).diagnostics =
        (deliverVerdict env.sink o.rule (evaluation o ms)).2 := by
  rw [evaluation] at h
  simp only [conclude, h, evaluation, and_self]

theorem conclude_of_undelivered {e : JsonFileError} {fs' : FileSystem}
    (h : deliverReport fs o (makeReport env.now o ms (evaluation o ms)) = (.error e, fs')) :
    (conclude env fs o ms).outcome = .error (.report e) ∧
      (conclude env fs o ms).diagnostics = [] ∧
      ∀ sink : TextSink, conclude { env with sink := sink } fs o ms = conclude env fs o ms := by
  rw [evaluation] at h
  simp only [conclude, h, true_and, implies_true]

theorem conclude_congr {sink : TextSink}
    (h : deliverVerdict sink o.rule (evaluation o ms) =
      deliverVerdict env.sink o.rule (evaluation o ms)) :
    conclude { env with sink := sink } fs o ms = conclude env fs o ms := by
  rw [evaluation] at h
  simp only [conclude, h]

theorem deliverReport_sublist {report : VerificationReport} {written : List LogEvent}
    {fs' : FileSystem} (h : deliverReport fs o report = (.ok written, fs')) :
    written.Sublist (o.reportPath.toList.map .reportWritten) := by
  unfold deliverReport at h
  split at h
  next =>
    cases h
    exact List.nil_sublist _
  next path hpath =>
    split at h
    next => cases h
    next =>
      cases h
      rw [hpath]
      exact List.Sublist.refl _

/-- Behind the counts, a run logs at most that the report has been written. -/
theorem exists_conclude_log (env : Surroundings) (fs : FileSystem) (o : VerifyOptions)
    (ms : List Manifest) :
    ∃ written : List LogEvent, written.Sublist (o.reportPath.toList.map .reportWritten) ∧
      (conclude env fs o ms).log = (evaluation o ms).skipped.map .profileSkipped ++
        .evaluated (runCounts ms (evaluation o ms)) :: written := by
  unfold conclude evaluation
  dsimp only
  split
  next => exact ⟨[], List.nil_sublist _, rfl⟩
  next written _ h => exact ⟨written, deliverReport_sublist h, by simp⟩

namespace ReachesVerdict

variable (h : ReachesVerdict env fs o ms)

include h

theorem validate_eq_ok : validate fs o = .ok () :=
  have ⟨_, hlisted⟩ := h.listed
  validate_eq_ok_iff.mpr ⟨h.directory, FileSystem.exists_openDirectory_of_list hlisted, h.distinct⟩

theorem outcome_eq :
    (verify env fs o).outcome = (deliverVerdict env.sink o.rule (evaluation o ms)).1 := by
  obtain ⟨written, fs', hdelivered⟩ := deliverReport_eq_ok_iff.mpr h.reported
  rw [verify_of_loaded h.validate_eq_ok h.loaded]
  exact (conclude_of_delivered hdelivered).1

theorem diagnostics_eq :
    (verify env fs o).diagnostics = (deliverVerdict env.sink o.rule (evaluation o ms)).2 := by
  obtain ⟨written, fs', hdelivered⟩ := deliverReport_eq_ok_iff.mpr h.reported
  rw [verify_of_loaded h.validate_eq_ok h.loaded]
  exact (conclude_of_delivered hdelivered).2

theorem verify_congr {sink : TextSink}
    (hsink : deliverVerdict sink o.rule (evaluation o ms) =
      deliverVerdict env.sink o.rule (evaluation o ms)) :
    verify { env with sink := sink } fs o = verify env fs o := by
  simp only [verify, h.validate_eq_ok, h.loaded, conclude_congr hsink]

end ReachesVerdict

/-- A run that ends before its verdict fails and asks nothing of the sink. -/
theorem verify_of_not_reachesVerdict (h : ¬ ∃ ms, ReachesVerdict env fs o ms) :
    (∃ e, (verify env fs o).outcome = .error e) ∧ (verify env fs o).diagnostics = [] ∧
      ∀ sink : TextSink, verify { env with sink := sink } fs o = verify env fs o := by
  rcases verify_cases env fs o with ⟨e, hv, hrun⟩ | ⟨e, hv, hl, hrun⟩ | ⟨ms, hv, hl, hrun⟩
  · rw [hrun]
    exact ⟨⟨e, rfl⟩, rfl, fun sink => verify_of_invalid hv⟩
  · rw [hrun]
    exact ⟨⟨_, rfl⟩, rfl, fun sink => @verify_of_fault { env with sink := sink } fs o hv _ hl⟩
  · obtain ⟨hdirectory, -, hdistinct⟩ := validate_eq_ok_iff.mp hv
    have hlisted := exists_list_of_load hl
    rcases hr : deliverReport fs o (makeReport env.now o ms (evaluation o ms)) with
      ⟨e | written, fs'⟩
    · obtain ⟨houtcome, hdiagnostics, hsink⟩ := conclude_of_undelivered hr
      refine ⟨⟨_, by rw [hrun]; exact houtcome⟩, by rw [hrun]; exact hdiagnostics,
        fun sink => ?_⟩
      simp only [verify, hv, hl, hsink]
    · exact absurd ⟨ms, hdirectory, hlisted, hdistinct, hl,
        deliverReport_eq_ok_iff.mp ⟨written, fs', hr⟩⟩ h

theorem verify_outcome_eq_ok_iff :
    (verify env fs o).outcome = .ok () ↔
      ∃ ms, ReachesVerdict env fs o ms ∧ (evaluation o ms).passed = true := by
  constructor
  · intro hok
    by_cases hreach : ∃ ms, ReachesVerdict env fs o ms
    · obtain ⟨ms, hreach⟩ := hreach
      refine ⟨ms, hreach, ?_⟩
      rw [hreach.outcome_eq, deliverVerdict] at hok
      split at hok
      next hpassed => exact hpassed
      next => split at hok <;> cases hok
    · obtain ⟨⟨e, herror⟩, _⟩ := verify_of_not_reachesVerdict hreach
      cases hok.symm.trans herror
  · rintro ⟨ms, hreach, hpassed⟩
    rw [hreach.outcome_eq, deliverVerdict_of_passed hpassed]

end Verdict

end FeatureGates
