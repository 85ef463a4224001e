import FeatureGates.Proofs.Calls
import FeatureGates.Proofs.FirstFault

namespace FeatureGates

/-!
# The log as a trace

Loading logs one event for each file, in the order of the names, up to the file at which it ends.
What follows in a run is one event for each profile that is skipped, and the counts.
-/

/-! ## What events carry -/

/-- What is shown of an event. -/
structure LogContent where
  level : LogLevel
  message : String
  fields : List (String × String)
deriving DecidableEq

def LogEvent.content (event : LogEvent) : LogContent := ⟨event.level, event.message, event.fields⟩

namespace LogContent

def line (c : LogContent) : String :=
  c.level.label ++ " " ++ c.message ++
    String.join (c.fields.map fun f => " " ++ f.1 ++ "=" ++ f.2)

def start (o : VerifyOptions) : LogContent where
  level := .info
  message := "verifying featuregate manifests"
  fields := [("manifest_dir", o.directory.display), ("baseline", o.baseline),
    ("derived", o.derived)]

def unclassified (path : String) : LogContent :=
  ⟨.debug, "no recognized cluster profile; skipping manifest", [("path", path)]⟩

def classified (path : String) (profile : ClusterProfile) (featureSet : String) (enabled : Nat) :
    LogContent where
  level := .debug
  message := "classified featuregate manifest"
  fields := [("path", path), ("cluster_profile", profile.name), ("feature_set", featureSet),
    ("enabled", toString enabled)]

def skipped (s : SkippedProfile) : LogContent where
  level := .debug
  message := "cluster profile skipped"
  fields := [("cluster_profile", s.profile.name), ("missing_feature_set", s.missingSet)]

def summary (c : RunCounts) : LogContent where
  level := .info
  message := "featuregate verification evaluated"
  fields := [("manifests", toString c.manifests), ("classified", toString c.classified),
    ("checked_profiles", toString c.checked), ("skipped_profiles", toString c.skipped),
    ("violations", toString c.violations)]

def written (path : Path) : LogContent :=
  ⟨.info, "wrote verification report", [("path", path.display)]⟩

end LogContent

theorem LogEvent.line_eq_content (event : LogEvent) : event.line = event.content.line := rfl

/-- What the record of a file tells is what the log says of it. -/
def ManifestSource.content (s : ManifestSource) : LogContent :=
  match s.profile, s.featureSet with
  | some profile, some featureSet => .classified s.path profile featureSet s.enabledCount
  | _, _ => .unclassified s.path

theorem Manifest.content_source (m : Manifest) : m.source.content = m.logEvent.content := by
  obtain ⟨path, contents, entry⟩ := m
  cases entry <;> rfl

/-- What the log says of a file that declares something, if only nothing. -/
inductive TracedAs (parse : Notation) (fs : FileSystem) (p : Path) : LogContent → Prop
  | unclassified (hd : FileDeclares parse fs p none) :
      TracedAs parse fs p (.unclassified p.display)
  | classified {e : FeatureSetEntry} (hd : FileDeclares parse fs p (some e)) :
      TracedAs parse fs p (.classified p.display e.profile e.featureSet e.enabled.size)

/-- What the log says of the file at which loading ends. Only a duplicate has been classified
before. -/
inductive TraceEnd (parse : Notation) (fs : FileSystem) (p : Path) :
    ManifestError → List LogContent → Prop
  | unclassified {e : ManifestError} (h : ∀ profile s q q', e ≠ .duplicateEntry profile s q q') :
      TraceEnd parse fs p e []
  | duplicate {e : FeatureSetEntry} {q : Path} (hd : FileDeclares parse fs p (some e)) :
      TraceEnd parse fs p (.duplicateEntry e.profile e.featureSet q p)
        [.classified p.display e.profile e.featureSet e.enabled.size]

/-! ## Loading -/

/-- The log of loading the files at the paths, by how it ends. -/
inductive LoadingTrace (parse : Notation) (fs : FileSystem) (ps : List Path) :
    Except ManifestError (List Manifest) → List LogContent → Prop
  | loaded {ms : List Manifest}
      (hfiles : List.Forall₂ (TracedAs parse fs) ps
        ((ms.map Manifest.source).map ManifestSource.content)) :
      LoadingTrace parse fs ps (.ok ms) ((ms.map Manifest.source).map ManifestSource.content)
  | stopped {i : Nat} {e : ManifestError} {p : Path} {before last : List LogContent}
      (hfault : FirstFault parse fs ps i e) (hp : ps[i]? = some p)
      (hbefore : List.Forall₂ (TracedAs parse fs) (ps.take i) before)
      (hlast : TraceEnd parse fs p e last) : LoadingTrace parse fs ps (.error e) (before ++ last)

section Loading

variable {parse : Notation} {fs : FileSystem} {ps : List Path} {ms : List Manifest}

theorem tracedAs_content {p : Path} {m : Manifest} (h : Manifest.read parse fs p = .ok m) :
    TracedAs parse fs p m.source.content := by
  have hdeclares := Manifest.fileDeclares_of_read h
  obtain ⟨path, contents, entry⟩ := m
  obtain ⟨rfl, _⟩ := Manifest.read_eq_ok_iff.mp h
  cases entry with
  | none => exact .unclassified hdeclares
  | some e => exact .classified hdeclares

theorem map_content_logEvent (ms : List Manifest) :
    (ms.map Manifest.logEvent).map LogEvent.content =
      (ms.map Manifest.source).map ManifestSource.content := by
  simp [Manifest.content_source]

theorem Loads.tracedAs (h : Loads (Manifest.read parse fs) [] ps ms) :
    List.Forall₂ (TracedAs parse fs) ps
      ((ms.map Manifest.source).map ManifestSource.content) := by
  obtain ⟨hread, _⟩ := (loads_iff (by simp)).mp h
  rw [List.map_map, List.forall₂_map_right_iff]
  exact hread.imp fun _ _ hr => tracedAs_content hr

theorem Stops.traceEnd {p : Path} {log : List LogEvent} {e : ManifestError}
    (hs : Stops (Manifest.read parse fs) ms p log e) :
    TraceEnd parse fs p e (log.map LogEvent.content) := by
  cases hs with
  | unread hr =>
      apply TraceEnd.unclassified
      intro profile s q q' heq
      cases heq ▸ Manifest.read_eq_error_iff.mp hr
  | @duplicate m _ hr hd =>
      have hdeclares := Manifest.fileDeclares_of_read hr
      obtain ⟨hpath, _⟩ := Manifest.read_eq_ok_iff.mp hr
      unfold Manifest.duplicateError? at hd
      split at hd
      next entry first hentry _ =>
        cases hd
        rw [Manifest.logEvent, hentry, hpath]
        exact .duplicate (hentry ▸ hdeclares)
      next => cases hd

theorem from_loadingTrace (hps : ps.Nodup) :
    LoadingTrace parse fs ps (Loading.from (Manifest.read parse fs) [] ps).outcome
      ((Loading.from (Manifest.read parse fs) [] ps).log.map LogEvent.content) := by
  rcases loads_or_stops (Manifest.read parse fs) [] ps with
    ⟨ms, hl⟩ | ⟨pre, p, post, ms, last, e, rfl, hl, hs⟩
  · rw [Loading.from_of_loads hl, List.nil_append, map_content_logEvent]
    exact .loaded hl.tracedAs
  · rw [Loading.from_of_stops hl hs, List.map_append, map_content_logEvent]
    refine .stopped (hs.firstFault hps hl) (by simp) ?_ hs.traceEnd
    rw [List.take_left]
    exact hl.tracedAs

theorem load_trace {directory : Path} {entries : List (Name × Node)} {names : List Name}
    (hl : fs.list directory = .ok entries) (hf : FilesOf entries names) :
    LoadingTrace parse fs (names.map directory.join) (load parse fs directory).outcome
      ((load parse fs directory).log.map LogEvent.content) := by
  rw [load_of_filesOf hl hf]
  exact from_loadingTrace (hf.nodup_paths directory)

end Loading

/-! ## The counts -/

/-- The counts are those of what has been loaded and found, and they fit each other. -/
structure RunCounts.Tell (c : RunCounts) (ms : List Manifest) (outcome : CheckOutcome) : Prop where
  manifests : c.manifests = (ms.map Manifest.source).length
  classified : c.classified = (gatesByProfile ms).declared.length
  checked : c.checked = outcome.checked.length
  skipped : c.skipped = outcome.skipped.length
  violations : c.violations = outcome.diagnostics.length
  profiles : c.checked + c.skipped = (gatesByProfile ms).keys.length
  violations_le : c.violations ≤ c.checked

/-- Only a profile that is checked gets a diagnostic, and no more than one. -/
theorem Finding.length_diagnostics_le (findings : List (ClusterProfile × Finding)) :
    (findings.filterMap fun (p, f) => f.diagnostic? p).length ≤
      (findings.filterMap fun (p, f) => f.checked? p).length := by
  induction findings with
  | nil => exact Nat.le_refl 0
  | cons x findings ih =>
      obtain ⟨p, f⟩ := x
      rcases f with missingSet | _ | ⟨g, gs⟩
      · exact ih
      · exact Nat.le_succ_of_le ih
      · exact Nat.succ_le_succ ih

theorem SubsetRule.length_checked_add_skipped (rule : SubsetRule) (gates : GatesByProfile) :
    (rule.check gates).checked.length + (rule.check gates).skipped.length = gates.keys.length := by
  have hperm := (rule.checked_append_skipped_perm gates).length_eq
  rwa [List.length_append, List.length_map] at hperm

theorem runCounts_tell {ms : List Manifest} (h : (Manifest.keys ms).Nodup) (o : VerifyOptions) :
    (runCounts ms (evaluation o ms)).Tell ms (evaluation o ms) where
  manifests := (List.length_map Manifest.source).symm
  classified := by
    have hsources : ((ms.map Manifest.source).filter fun s => s.profile.isSome).length =
        (ms.filter fun m => m.entry.isSome).length := by
      rw [List.filter_map, List.length_map]
      simp only [Function.comp_def, Manifest.source, Option.isSome_map]
    exact hsources.symm.trans (length_classified h)
  checked := rfl
  skipped := rfl
  violations := rfl
  profiles := o.rule.length_checked_add_skipped (gatesByProfile ms)
  violations_le := Finding.length_diagnostics_le (o.rule.findings (gatesByProfile ms))

/-! ## A run -/

/-- The log of a run, by how far it gets. Behind the counts there is at most the note that the
report has been written. -/
inductive RunTrace (env : Surroundings) (fs : FileSystem) (o : VerifyOptions) :
    List LogContent → Prop
  | invalid {e : VerifyError} (hv : validate fs o = .error e) : RunTrace env fs o []
  | faulty {e : ManifestError} (hv : validate fs o = .ok ())
      (hl : (load env.parse fs o.directory).outcome = .error e) :
      RunTrace env fs o
        (.start o :: (load env.parse fs o.directory).log.map LogEvent.content)
  | evaluated {ms : List Manifest} {counts : RunCounts} {written : List LogContent}
      (hv : validate fs o = .ok ()) (hl : (load env.parse fs o.directory).outcome = .ok ms)
      (hcounts : counts.Tell ms (evaluation o ms))
      (hwritten : written.Sublist (o.reportPath.toList.map .written)) :
      RunTrace env fs o
        (.start o :: (load env.parse fs o.directory).log.map LogEvent.content ++
          (evaluation o ms).skipped.map .skipped ++ .summary counts :: written)

theorem verify_trace (env : Surroundings) (fs : FileSystem) (o : VerifyOptions) :
    RunTrace env fs o ((verify env fs o).log.map LogEvent.content) := by
  rcases verify_cases env fs o with ⟨e, hv, hrun⟩ | ⟨e, hv, hl, hrun⟩ | ⟨ms, hv, hl, hrun⟩
  · rw [hrun]
    exact .invalid hv
  · rw [hrun]
    exact .faulty hv hl
  · obtain ⟨_, _, _, _, _, hkeys⟩ := load_eq_ok_iff.mp hl
    obtain ⟨written, hwritten, hlog⟩ := exists_conclude_log env fs o ms
    have hsublist := hwritten.map LogEvent.content
    rw [List.map_map] at hsublist
    have htrace := RunTrace.evaluated hv hl (runCounts_tell hkeys o) hsublist
    rw [hrun, hlog, List.map_append, List.map_append, List.map_map, ← List.append_assoc]
    exact htrace

/-! ## What is shown -/

/-- Nothing is logged below that level. -/
theorem LogEvent.rank_level_le (event : LogEvent) : event.level.rank ≤ LogLevel.debug.rank := by
  cases event <;> simp [level, LogLevel.rank]

theorem Call.run_notices_of_debug {c : Call}
    (h : ∀ event : LogEvent, event.level.rank ≤ LogLevel.debug.rank → c.filter.shows event = true)
    (env : Surroundings) (fs : FileSystem) : (c.run env fs).notices = c.notices env fs := by
  rw [run_notices, List.filter_eq_self]
  intro n _
  cases n with
  | event e => exact h e e.rank_level_le
  | plain b => rfl

/-- Loading logs one event for each file up to the one at fault, which is among them only if it is a
duplicate. A run adds one for each skipped profile and the counts of what it has loaded and found,
and a log that shows that level shows it all. -/
theorem log_traces_run (env : Surroundings) (fs : FileSystem) :
    (∀ directory entries names, fs.list directory = .ok entries → FilesOf entries names →
      LoadingTrace env.parse fs (names.map directory.join)
        (load env.parse fs directory).outcome
        ((load env.parse fs directory).log.map LogEvent.content)) ∧
    (∀ directory cause, fs.list directory = .error cause →
      (load env.parse fs directory).log = []) ∧
    (∀ o, RunTrace env fs o ((verify env fs o).log.map LogEvent.content)) ∧
    ∀ (c : Call) (o : VerifyOptions), readArguments c.arguments.tail = .ok o →
      (∀ event : LogEvent, event.level.rank ≤ LogLevel.debug.rank →
        c.filter.shows event = true) →
      (c.run env fs).notices = (verify env fs o).log.map .event ++
        .plain (verify env fs o).diagnostics :: (verify env fs o).finalEvents.map .event := by
  refine ⟨fun directory entries names => load_trace, fun directory cause hl => ?_,
    verify_trace env fs, fun c o ho hshown => ?_⟩
  · rw [load_of_unlisted hl]
  · rw [Call.run_notices_of_debug hshown, Call.notices, ho]
    rfl

namespace Sample

/-- No file declares gates for the derived feature set. -/
def skipping : VerifyOptions := { options with derived := "X" }

def loadingContents : List LogContent :=
  [.classified "d/a" .selfManagedHA "OKD" 0, .classified "d/b" .selfManagedHA "Default" 1]

def skippingContents : List LogContent :=
  .start skipping :: loadingContents ++ [.skipped ⟨.selfManagedHA, "X"⟩, .summary ⟨2, 2, 0, 1, 0⟩]

end Sample

theorem log_traces_sample_run :
    (load Yaml.read Sample.files [0x64]).log.map LogEvent.content = Sample.loadingContents ∧
      LoadingTrace Yaml.read Sample.files [[0x66, slash, 0x61], [0x66, slash, 0x62]]
        (load Yaml.read Sample.files [0x66]).outcome
        ((load Yaml.read Sample.files [0x66]).log.map LogEvent.content) ∧
      (verify Sample.surroundings Sample.files Sample.skipping).log.map LogEvent.line =
        [" INFO verifying featuregate manifests manifest_dir=d baseline=Default derived=X",
          "DEBUG classified featuregate manifest path=d/a cluster_profile=SelfManagedHA " ++
            "feature_set=OKD enabled=0",
          "DEBUG classified featuregate manifest path=d/b cluster_profile=SelfManagedHA " ++
            "feature_set=Default enabled=1",
          "DEBUG cluster profile skipped cluster_profile=SelfManagedHA missing_feature_set=X",
          " INFO featuregate verification evaluated manifests=2 classified=2 " ++
            "checked_profiles=0 skipped_profiles=1 violations=0"] ∧
      (Sample.call (some "debug")).filter = [⟨"", false, none, .debug⟩] ∧
      ∀ event ∈ (verify Sample.surroundings Sample.files Sample.reporting).log, .event event ∈
        ((Sample.call (some "debug")).run Sample.surroundings Sample.files).notices := by
  obtain ⟨hload, _, hrun, hshown⟩ := log_traces_run Sample.surroundings Sample.files
  have hloaded : (load Yaml.read Sample.files [0x64]).log.map LogEvent.content =
      Sample.loadingContents := by
    have htrace := hload [0x64] _ [Sample.a, Sample.b] rfl
      (filesOf_of_ascending (by decide) (by decide))
    change LoadingTrace _ _ _ (load Yaml.read Sample.files [0x64]).outcome
      ((load Yaml.read Sample.files [0x64]).log.map LogEvent.content) at htrace
    rw [Sample.load_eq_ok] at htrace
    generalize (load Yaml.read Sample.files [0x64]).log.map LogEvent.content = contents at htrace
    cases htrace with
    | loaded _ => decide +kernel
  have hskipping : (verify Sample.surroundings Sample.files Sample.skipping).log.map
      LogEvent.content = Sample.skippingContents := by
    have htrace := hrun Sample.skipping
    generalize (verify Sample.surroundings Sample.files Sample.skipping).log.map
      LogEvent.content = contents at htrace
    cases htrace with
    | invalid hv => cases hv
    | faulty _ hl => cases hl.symm.trans Sample.load_eq_ok
    | @evaluated ms counts written _ hl hcounts hwritten =>
        obtain rfl := Except.ok.inj (Sample.load_eq_ok.symm.trans hl)
        obtain rfl := List.eq_nil_of_sublist_nil hwritten
        obtain ⟨manifests, classified, checked, skipped, violations⟩ := counts
        obtain ⟨rfl, rfl, rfl, rfl, rfl, -, -⟩ := hcounts
        change _ :: (load Yaml.read Sample.files [0x64]).log.map LogEvent.content ++ _ ++ _ = _
        rw [hloaded]
        decide +kernel
  have hfaulty := hload [0x66] _ [Sample.a, Sample.b] rfl
    (filesOf_of_ascending (by decide) (by decide))
  have hfilter : (Sample.call (some "debug")).filter = [⟨"", false, none, .debug⟩] := by
    decide +kernel
  refine ⟨hloaded, hfaulty, ?_, hfilter, fun event hevent => ?_⟩
  · have hlines : ∀ log : List LogEvent,
        log.map LogEvent.line = (log.map LogEvent.content).map LogContent.line := by
      simp [LogEvent.line_eq_content]
    rw [hlines, hskipping]
    decide +kernel
  · rw [hshown _ Sample.reporting (Sample.readArguments_call _) ?_]
    · exact List.mem_append_left _ (List.mem_map_of_mem hevent)
    · intro event hrank
      rw [hfilter, shows_level]
      exact decide_eq_true hrank

end FeatureGates
