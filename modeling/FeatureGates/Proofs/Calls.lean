import FeatureGates.Program
import FeatureGates.Proofs.Report

namespace FeatureGates

/-!
# How a call ends

The status of a call tells how it has ended. The log setting selects among the log lines and does
nothing else, and the time changes nothing but the contents of the report.
-/

/-! ## The time of a run -/

/-- The file systems differ at most in the time that a report tells. -/
inductive FileSystem.AlikeButTime : FileSystem → FileSystem → Prop
  | same (fs : FileSystem) : AlikeButTime fs fs
  | report (fs : FileSystem) (l : Location) (r : VerificationReport) (now : String) :
      AlikeButTime (fs.put l (.file r.json.fileContents))
        (fs.put l (.file { r with generatedAt := now }.json.fileContents))

structure VerifyResult.AlikeButTime (r r' : VerifyResult) : Prop where
  outcome : r.outcome = r'.outcome
  log : r.log = r'.log
  diagnostics : r.diagnostics = r'.diagnostics
  fileSystem : r.fileSystem.AlikeButTime r'.fileSystem

section Run

variable {env : Surroundings} {fs : FileSystem} {o : VerifyOptions}

end Run

/-! ## The end of a call -/

namespace Call

variable {c c' : Call} {env : Surroundings} {fs : FileSystem} {o : VerifyOptions}

/-- What the call has for the error output, of which the filter lets pass a part. -/
def notices (c : Call) (env : Surroundings) (fs : FileSystem) : List Notice :=
  match readArguments c.arguments.tail with
  | .error (.refused e) => [.plain (Bytes.ofString (e.text ⟨c.caller, .stream⟩))]
  | .error _ => []
  | .ok o => (verify env fs o).notices

theorem run_notices (c : Call) (env : Surroundings) (fs : FileSystem) :
    (c.run env fs).notices = (c.notices env fs).filter fun n => n.shownBy c.filter := by
  unfold run notices
  rcases readArguments c.arguments.tail with (_ | _ | e) | o <;> rfl

end Call

/-! ## What logging cannot change -/

/-- What is written whether or not log lines are shown. -/
def Notice.plain? : Notice → Option Bytes
  | event _ => none
  | plain b => some b

def CallResult.plain (r : CallResult) : List Bytes := r.notices.filterMap Notice.plain?

namespace Call

variable {c c' : Call} {env : Surroundings} {fs : FileSystem} {o : VerifyOptions}

end Call

namespace Call

variable {c : Call} {env : Surroundings} {fs : FileSystem} {o : VerifyOptions}

end Call

/-- A filter with one level for all sources. -/
theorem shows_level (l : LogLevel) (event : LogEvent) :
    LogFilter.shows [⟨"", false, none, l⟩] event = decide (event.level.rank ≤ l.rank) := by
  have habout : List.filter (fun d => LogDirective.isAbout d event) [⟨"", false, none, l⟩] =
      [⟨"", false, none, l⟩] := by
    simp [LogDirective.isAbout]
  rw [LogFilter.shows, habout]
  rfl

namespace Sample

/-- The call of the run that writes its report beside the directory. -/
def call (setting : Option String) : Call where
  arguments := [programName, Command.verifyName, "--featureset-manifest-path", "d",
    "--report-path=r"].map Bytes.ofString
  logSetting := setting

theorem readArguments_call (setting : Option String) :
    readArguments (call setting).arguments.tail = .ok reporting := by
  change readArguments (call none).arguments.tail = .ok reporting
  decide +kernel

end Sample

end FeatureGates
