import FeatureGates.Inventory
import FeatureGates.Json

namespace FeatureGates

/-!
# The verification report
-/

structure VerificationReport where
  version : Nat
  generatedAt : String
  manifestDirectory : String
  baseline : String
  derived : String
  passed : Bool
  sources : List ManifestSource
  checked : List ClusterProfile
  skipped : List SkippedProfile
  diagnostics : List MissingGates
deriving DecidableEq

namespace Json

def natural (n : Nat) : Json := number n

def optional (s : Option String) : Json := s.elim null string

end Json

def ClusterProfile.json (p : ClusterProfile) : Json := .string p.name

def ManifestSource.json (s : ManifestSource) : Json := .object [
  ("path", .string s.path),
  ("sha256", .string s.digest),
  ("cluster_profile", .optional (s.profile.map ClusterProfile.name)),
  ("feature_set", .optional s.featureSet),
  ("enabled_count", .natural s.enabledCount)]

def SkippedProfile.json (s : SkippedProfile) : Json := .object [
  ("cluster_profile", s.profile.json),
  ("missing_feature_set", .string s.missingSet)]

def MissingGates.json (d : MissingGates) : Json := .object [
  ("cluster_profile", d.profile.json),
  ("missing", .array (d.missing.map .string)),
  ("missing_count", .natural d.count)]

def VerificationReport.json (r : VerificationReport) : Json := .object [
  ("report_version", .natural r.version),
  ("generated_at", .string r.generatedAt),
  ("manifest_dir", .string r.manifestDirectory),
  ("baseline_feature_set", .string r.baseline),
  ("derived_feature_set", .string r.derived),
  ("passed", .bool r.passed),
  ("sources", .array (r.sources.map ManifestSource.json)),
  ("checked_profiles", .array (r.checked.map ClusterProfile.json)),
  ("skipped_profiles", .array (r.skipped.map SkippedProfile.json)),
  ("diagnostics", .array (r.diagnostics.map MissingGates.json))]

/-! ## Writing a value to a file -/

inductive JsonFileError
  | directory (path : Path) (cause : FileError)
  | value (path : Path)
  | creation (path : Path) (cause : FileError)
  | contents (path : Path) (cause : FileError)
  | ending (path : Path) (cause : FileError)
deriving DecidableEq

namespace JsonFileError

def message : JsonFileError → String
  | directory path _ => "failed to create directory: " ++ path.display
  | value path => "failed to serialize json: " ++ path.display
  | creation path _ => "failed to create json file: " ++ path.display
  | contents path _ => "failed to write json file: " ++ path.display
  | ending path _ => "failed to finalize json file: " ++ path.display

def cause : JsonFileError → String
  | directory _ cause | creation _ cause | contents _ cause | ending _ cause => cause.message
  | value _ => "key must be a string"

end JsonFileError

def ensureDirectory (fs : FileSystem) (path : Path) : Except JsonFileError Unit × FileSystem :=
  match fs.makeDirectories path with
  | (.ok _, fs) => (.ok (), fs)
  | (.error cause, fs) => (.error (.directory path cause), fs)

def ensureParent (fs : FileSystem) (path : Path) : Except JsonFileError Unit × FileSystem :=
  match path.parent? with
  | none => (.ok (), fs)
  | some parent => if parent = [] then (.ok (), fs) else ensureDirectory fs parent

/-- Writes a value and a line feed to a file, in place of what the file held. A value that has no
text is found out before the file is opened. -/
def writeJson (fs : FileSystem) (path : Path) (value : Option Json) :
    Except JsonFileError Unit × FileSystem :=
  match ensureParent fs path with
  | (.error e, fs) => (.error e, fs)
  | (.ok _, fs) =>
    match value with
    | none => (.error (.value path), fs)
    | some j =>
      match fs.create path with
      | (.error cause, fs) => (.error (.creation path cause), fs)
      | (.ok out, fs) =>
        match fs.write out (Bytes.ofString j.text) with
        | (.error cause, fs) => (.error (.contents path cause), fs)
        | (.ok out, fs) =>
          match fs.write out (Bytes.ofString "\n") with
          | (.error cause, fs) => (.error (.ending path cause), fs)
          | (.ok _, fs) => (.ok (), fs)

end FeatureGates
