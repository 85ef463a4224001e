import FeatureGates.Diagnostic
import FeatureGates.Report

namespace FeatureGates

/-!
# Verifying a directory

The call is validated, the directory loaded and checked, the report written if one is wanted, and
the diagnostics go out last. Nothing is written before all manifests have been read.
-/

structure VerifyOptions where
  directory : Path
  baseline : String
  derived : String
  reportPath : Option Path
deriving DecidableEq

def VerifyOptions.rule (o : VerifyOptions) : SubsetRule := ⟨o.baseline, o.derived⟩

inductive VerifyError
  | directoryMissing
  | directoryUnopened (cause : FileError)
  | sameFeatureSets (name : String)
  | manifest (e : ManifestError)
  | report (e : JsonFileError)
  | diagnosticsRefused (cause : String)
  | failed (derived : String)
deriving DecidableEq

namespace VerifyError

def message : VerifyError → String
  | directoryMissing => "--featureset-manifest-path is required"
  | directoryUnopened _ => "--featureset-manifest-path cannot be read"
  | sameFeatureSets name =>
    "--baseline-feature-set and --derived-feature-set must differ (both are " ++ quoted name ++ ")"
  | manifest e => e.message
  | report e => e.message
  | diagnosticsRefused _ => "failed to write verification diagnostics"
  | failed derived => derived ++ " featuregate verification failed"

/-- What lies behind the error, the nearest cause first. -/
def causes : VerifyError → List String
  | directoryUnopened cause => [cause.message]
  | manifest e => e.causes
  | report e => [e.cause]
  | diagnosticsRefused cause => [cause]
  | _ => []

end VerifyError

def validate (fs : FileSystem) (o : VerifyOptions) : Except VerifyError Unit :=
  if o.directory = [] then .error .directoryMissing
  else
    match fs.openDirectory o.directory with
    | .error cause => .error (.directoryUnopened cause)
    | .ok _ => if o.baseline = o.derived then .error (.sameFeatureSets o.baseline) else .ok ()

/-- Why a sink refuses a text, and how many bytes of it the sink has taken all the same. -/
structure Refusal where
  cause : String
  taken : Nat

/-- Takes a text after those that it has taken before, the earliest first, or refuses it. -/
abbrev TextSink := List String → String → Except Refusal Unit

/-- Hands over texts one after another, up to the first that is refused; with the bytes taken. -/
def TextSink.takeAll (sink : TextSink) (before : List String) :
    List String → Except String Unit × Bytes
  | [] => (.ok (), [])
  | text :: texts =>
    match sink before text with
    | .error refusal => (.error refusal.cause, (Bytes.ofString text).take refusal.taken)
    | .ok _ =>
      let (outcome, taken) := sink.takeAll (before ++ [text]) texts
      (outcome, Bytes.ofString text ++ taken)

structure VerifyResult where
  outcome : Except VerifyError Unit
  fileSystem : FileSystem
  log : List LogEvent
  /-- What the sink has taken. -/
  diagnostics : Bytes

/-- What a run depends on beside its options and the file system. -/
structure Surroundings where
  parse : Notation
  now : String
  sink : TextSink

def runCounts (ms : List Manifest) (outcome : CheckOutcome) : RunCounts where
  manifests := ms.length
  classified := (ms.filter fun m => m.entry.isSome).length
  checked := outcome.checked.length
  skipped := outcome.skipped.length
  violations := outcome.diagnostics.length

def reportVersion : Nat := 1

def makeReport (now : String) (o : VerifyOptions) (ms : List Manifest) (outcome : CheckOutcome) :
    VerificationReport where
  version := reportVersion
  generatedAt := now
  manifestDirectory := o.directory.display
  baseline := o.baseline
  derived := o.derived
  passed := outcome.passed
  sources := ms.map Manifest.source
  checked := outcome.checked
  skipped := outcome.skipped
  diagnostics := outcome.diagnostics

/-- Writes the report if one is wanted, and logs that. -/
def deliverReport (fs : FileSystem) (o : VerifyOptions) (report : VerificationReport) :
    Except JsonFileError (List LogEvent) × FileSystem :=
  match o.reportPath with
  | none => (.ok [], fs)
  | some path =>
    match writeJson fs path (some report.json) with
    | (.error e, fs) => (.error e, fs)
    | (.ok _, fs) => (.ok [.reportWritten path], fs)

/-- The verdict, and what the sink has taken of the text and the line feed behind it. -/
def deliverVerdict (sink : TextSink) (rule : SubsetRule) (outcome : CheckOutcome) :
    Except VerifyError Unit × Bytes :=
  if outcome.passed then (.ok (), [])
  else
    match sink.takeAll [] [diagnosticText outcome.diagnostics rule, "\n"] with
    | (.error cause, taken) => (.error (.diagnosticsRefused cause), taken)
    | (.ok _, taken) => (.error (.failed rule.derived), taken)

/-- What follows once all manifests are read. -/
def conclude (env : Surroundings) (fs : FileSystem) (o : VerifyOptions) (ms : List Manifest) :
    VerifyResult :=
  let outcome := o.rule.check (gatesByProfile ms)
  let log := outcome.skipped.map LogEvent.profileSkipped ++ [.evaluated (runCounts ms outcome)]
  match deliverReport fs o (makeReport env.now o ms outcome) with
  | (.error e, fs) => ⟨.error (.report e), fs, log, []⟩
  | (.ok written, fs) =>
    let (verdict, taken) := deliverVerdict env.sink o.rule outcome
    ⟨verdict, fs, log ++ written, taken⟩

def verify (env : Surroundings) (fs : FileSystem) (o : VerifyOptions) : VerifyResult :=
  match validate fs o with
  | .error e => ⟨.error e, fs, [], []⟩
  | .ok _ =>
    let loading := load env.parse fs o.directory
    let log := .verifying o.directory o.rule :: loading.log
    match loading.outcome with
    | .error e => ⟨.error (.manifest e), fs, log, []⟩
    | .ok ms =>
      let result := conclude env fs o ms
      { result with log := log ++ result.log }

end FeatureGates
