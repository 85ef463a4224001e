import FeatureGates.Digest
import FeatureGates.FileSystem
import FeatureGates.Log
import FeatureGates.Text.Quoted

namespace FeatureGates

/-!
# Loading a directory of manifests

The files of a directory are read one by one in the order of their names. Loading ends at the first
one at fault: one that cannot be read as a manifest, or that declares what an earlier one declares.
-/

inductive ManifestError
  | directoryUnreadable (path : Path) (cause : FileError)
  | fileUnreadable (path : Path) (cause : FileError)
  | notParsed (path : Path) (cause : String)
  | notAMapping (path : Path) (kind : String)
  | ambiguousProfile (path : Path) (conflict : ProfileConflict)
  | duplicateEntry (profile : ClusterProfile) (featureSet : String) (first second : Path)
deriving DecidableEq

namespace ManifestError

def message : ManifestError → String
  | directoryUnreadable path _ => "cannot read manifest dir " ++ path.display
  | fileUnreadable path _ => "unable to read " ++ path.display
  | notParsed path _ => "unable to parse " ++ path.display
  | notAMapping path kind =>
    "unable to parse " ++ path.display ++ ": expected a mapping at the top level, found " ++ kind
  | ambiguousProfile path c =>
    path.display ++ " carries release annotations for both " ++ c.first.name ++ " and " ++
      c.second.name
  | duplicateEntry profile featureSet first second =>
    "ClusterProfile " ++ profile.name ++ " featureset " ++ quoted featureSet ++
      " is declared by both " ++ first.display ++ " and " ++ second.display

/-- What lies behind the error, the nearest cause first. -/
def causes : ManifestError → List String
  | directoryUnreadable _ cause | fileUnreadable _ cause => [cause.message]
  | notParsed _ cause => [cause]
  | _ => []

end ManifestError

namespace Tree

/-- What a document is that holds no manifest; an empty one may. -/
def otherKind? : Tree → Option String
  | null | mapping _ => none
  | sequence _ => some "a sequence"
  | string _ => some "a string"
  | int _ | float _ => some "a number"
  | bool _ => some "a bool"
  | tagged _ _ => some "a tagged value"

def entryAt (manifest : Tree) (path : Path) : Except ManifestError (Option FeatureSetEntry) :=
  match manifest.entry with
  | .ok e => .ok e
  | .error c => .error (.ambiguousProfile path c)

end Tree

/-- A notation in which documents are written: the tree of a byte string that is a document, or what
is wrong with it. -/
abbrev Notation := Bytes → Except String Tree

structure Manifest where
  path : Path
  contents : Bytes
  entry : Option FeatureSetEntry

namespace Manifest

/-- What no two manifests may share. -/
def key? (m : Manifest) : Option (ClusterProfile × String) :=
  m.entry.map fun e => (e.profile, e.featureSet)

def logEvent (m : Manifest) : LogEvent :=
  match m.entry with
  | none => .manifestSkipped m.path
  | some e => .manifestClassified m.path e.profile e.featureSet e.enabled.size

def read (parse : Notation) (fs : FileSystem) (path : Path) : Except ManifestError Manifest :=
  match fs.read path with
  | .error cause => .error (.fileUnreadable path cause)
  | .ok contents =>
    match parse contents with
    | .error cause => .error (.notParsed path cause)
    | .ok t =>
      match t.otherKind? with
      | some kind => .error (.notAMapping path kind)
      | none => (t.entryAt path).map fun entry => ⟨path, contents, entry⟩

def rival? (earlier : List Manifest) (m : Manifest) : Option Manifest :=
  earlier.find? fun n => n.key?.isSome && n.key? == m.key?

def duplicateError? (earlier : List Manifest) (m : Manifest) : Option ManifestError :=
  match m.entry, rival? earlier m with
  | some e, some first => some (.duplicateEntry e.profile e.featureSet first.path m.path)
  | _, _ => none

end Manifest

/-- What loading logs, and the manifests it ends with or the fault that it ends at. -/
structure Loading where
  log : List LogEvent
  outcome : Except ManifestError (List Manifest)

/-- Reads the files at the paths after the manifests read so far. -/
def Loading.from (read : Path → Except ManifestError Manifest) (earlier : List Manifest) :
    List Path → Loading
  | [] => ⟨[], .ok earlier⟩
  | p :: ps =>
    match read p with
    | .error e => ⟨[], .error e⟩
    | .ok m =>
      match m.duplicateError? earlier with
      | some e => ⟨[m.logEvent], .error e⟩
      | none =>
        let rest := Loading.from read (earlier ++ [m]) ps
        ⟨m.logEvent :: rest.log, rest.outcome⟩

/-- The names of the entries that are no directories; reading ends at the first entry that is not
given or whose kind cannot be told. -/
def Reading.fileNames : Reading → Except FileError (List Name)
  | [] => return []
  | entry :: rest => do
    let entry ← entry
    if (← entry.node) = .directory then fileNames rest
    else return entry.name :: (← fileNames rest)

/-- The paths of the files in a directory, in the order of their names. -/
def manifestPaths (fs : FileSystem) (directory : Path) : Except ManifestError (List Path) :=
  match fs.openDirectory directory with
  | .error cause => .error (.directoryUnreadable directory cause)
  | .ok reading =>
    match reading.fileNames with
    | .error cause => .error (.directoryUnreadable directory cause)
    | .ok names =>
      .ok ((names.mergeSort fun a b => decide (a.bytes ≤ b.bytes)).map directory.join)

def load (parse : Notation) (fs : FileSystem) (directory : Path) : Loading :=
  match manifestPaths fs directory with
  | .error e => ⟨[], .error e⟩
  | .ok paths => .from (Manifest.read parse fs) [] paths

/-! ## What has been loaded -/

structure ManifestSource where
  path : String
  digest : String
  profile : Option ClusterProfile
  featureSet : Option String
  enabledCount : Nat
deriving DecidableEq

def Manifest.source (m : Manifest) : ManifestSource where
  path := m.path.display
  digest := sha256Hex m.contents
  profile := m.entry.map FeatureSetEntry.profile
  featureSet := m.entry.map FeatureSetEntry.featureSet
  enabledCount := (m.entry.map fun e => e.enabled.size).getD 0

/-- Adds what a manifest declares to what others declare. -/
def GatesByProfile.add (gates : GatesByProfile) (m : Manifest) : GatesByProfile :=
  match m.entry with
  | none => gates
  | some e => gates.insert e.profile (((gates.get? e.profile).getD ∅).insert e.featureSet e.enabled)

def gatesByProfile (ms : List Manifest) : GatesByProfile := ms.foldl GatesByProfile.add ∅

end FeatureGates
