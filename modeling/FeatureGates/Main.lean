import FeatureGates.Program
import FeatureGates.Utc
import FeatureGates.Yaml
import Std.Time.DateTime.Timestamp

namespace FeatureGates

/-!
# The program on a machine

What a call may look at is read off the machine, the call is made on what has been read, and what it
changes there is carried out.
-/

namespace Machine

def text (l : Location) : String := "/" ++ "/".intercalate (l.map fun name => name.bytes.display)

/-- Where an absolute path without steps up leads if none of its names is that of a link. -/
def location (absolute : Path) : Location :=
  absolute.steps.filterMap fun step =>
    match step with
    | .into name => some name
    | _ => none

def nowhere : Path := Bytes.ofString "/nowhere"

def linkEnd (l : Location) : IO Path := do
  try return Bytes.ofString (← IO.FS.realPath ((← IO.currentDir) / text l)).toString
  catch _ => return nowhere

/-- What stands at a location. A link counts as one to the place at which it ends. -/
def node? (l : Location) : IO (Option Node) := do
  let file := (← IO.currentDir) / text l
  try
    match (← file.symlinkMetadata).type with
    | .dir => return some .directory
    | .file => return some (.file (← IO.FS.readBinFile file).toList)
    | .other => return some (.device (if text l = "/dev/full" then .full else .null))
    | .symlink => return some (.link (← linkEnd l))
  catch _ => return none

def look (fs : FileSystem) (l : Location) : IO FileSystem := do
  match ← node? l with
  | some n => return fs.put l n
  | none => return fs

def lookDown (fs : FileSystem) (l : Location) : IO FileSystem :=
  (List.range l.length).foldlM (fun fs n => look fs (l.take (n + 1))) fs

/-- Looks at an entry and, if it is a link, at the place where it ends, which is returned. -/
def lookThrough (fs : FileSystem) (l : Location) : IO (FileSystem × Location) := do
  let fs ← look fs l
  match fs.node? l with
  | some (.link target) =>
    return (← lookDown fs (location target), location target)
  | _ => return (fs, l)

def lookAlong (fs : FileSystem) (p : Path) : IO (FileSystem × Location) :=
  p.steps.foldlM
    (fun (fs, l) step =>
      match step with
      | .into name => lookThrough fs (l ++ [name])
      | .up => return (fs, l.dropLast)
      | .here | .directory => return (fs, l))
    (fs, fs.origin p)

/-- What is in a directory. If it cannot be read, none of its entries is given. -/
def lookInto (fs : FileSystem) (l : Location) : IO FileSystem := do
  if !fs.isDirectoryAt l then return fs
  let directory := (← IO.currentDir) / text l
  try
    (← directory.readDir).foldlM
      (fun fs e => return (← lookThrough fs (l ++ location (Bytes.ofString e.fileName))).1) fs
  catch _ =>
    let unread : Interruption := ⟨0, none, .permissionDenied⟩
    return { fs with interruption? := fun k => if k = l then some unread else fs.interruption? k }

/-- All that a run with given options may look at. -/
def observe (o : VerifyOptions) : IO FileSystem := do
  let here := location (Bytes.ofString (← IO.currentDir).toString)
  let fs ← lookDown { entries := [], distinct := .nil, workingDirectory := here } here
  let (fs, l) ← lookAlong fs o.directory
  let fs ← lookInto fs l
  match o.reportPath with
  | none => return fs
  | some p => return (← lookAlong fs p).1

/-- Makes the directories and writes the files in which one file system differs from another. -/
def carryOut (before after : FileSystem) : IO Unit :=
  after.entries.forM fun (l, n) => do
    if before.node? l ≠ some n then
      match n with
      | .directory => IO.FS.createDirAll (text l)
      | .file contents => IO.FS.writeBinFile (text l) ⟨contents.toArray⟩
      | .link _ | .device _ => return

def now : IO Moment := do
  return ⟨(← Std.Time.Timestamp.now).toSecondsSinceUnixEpoch.val⟩

/-- The line of a log event starts with the time. -/
def stamped (now : String) : Notice → Bytes
  | .event e => Bytes.ofString (now ++ " ") ++ (Notice.event e).bytes
  | .plain b => b

end Machine

end FeatureGates

open FeatureGates in
def main (arguments : List String) : IO UInt32 := do
  let now := (← Machine.now).text
  let setting ← IO.getEnv logVariable
  let call : Call := ⟨(programName :: arguments).map Bytes.ofString, setting⟩
  let before ← match readArguments call.arguments.tail with
    | .ok o => Machine.observe o
    | .error _ => pure { entries := [], distinct := .nil, workingDirectory := [] }
  -- The error output is written to in the end, so it takes everything as long as the run goes on.
  let result := call.run ⟨Yaml.read, now, fun _ _ => .ok ()⟩ before
  Machine.carryOut before result.fileSystem
  (← IO.getStdout).putStr result.output
  (← IO.getStderr).write ⟨(result.notices.flatMap (Machine.stamped now)).toArray⟩
  return UInt32.ofNat result.status
