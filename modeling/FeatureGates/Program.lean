import FeatureGates.CommandLine
import FeatureGates.Log.Filter

namespace FeatureGates

/-!
# A call of the program

A call ends with a status, and leaves the file system and what has been written: a reply on the
standard output, or the notices of a run and the refusals on the error output. The log filter
decides which log events are written, and nothing else.
-/

/-- What is written on the error output: a log line, or something that no log setting hides. -/
inductive Notice
  | event (e : LogEvent)
  | plain (bytes : Bytes)
deriving DecidableEq

namespace Notice

def shownBy (filter : LogFilter) : Notice → Bool
  | event e => filter.shows e
  | plain _ => true

def bytes : Notice → Bytes
  | event e => Bytes.ofString (e.line ++ "\n")
  | plain b => b

end Notice

structure Call where
  /-- The path of the program comes first. -/
  arguments : List Bytes
  logSetting : Option String

structure CallResult where
  status : Nat
  output : String
  notices : List Notice
  fileSystem : FileSystem

namespace VerifyResult

def finalEvents (r : VerifyResult) : List LogEvent :=
  match r.outcome with
  | .ok _ => []
  | .error e => .commandFailed e.message :: e.causes.map .causedBy

def notices (r : VerifyResult) : List Notice :=
  r.log.map .event ++ .plain r.diagnostics :: r.finalEvents.map .event

def status (r : VerifyResult) : Nat :=
  match r.outcome with
  | .ok _ => 0
  | .error _ => 1

end VerifyResult

namespace Call

def filter (c : Call) : LogFilter := .ofSetting c.logSetting

def caller (c : Call) : Option String := (c.arguments.head?.bind Path.fileName?).bind Bytes.text?

/-- The sink of the surroundings stands for the error output, to which the diagnostics go. -/
def run (c : Call) (env : Surroundings) (fs : FileSystem) : CallResult :=
  match readArguments c.arguments.tail with
  | .error reply =>
    let text := reply.text ⟨c.caller, .stream⟩
    if reply.isError then ⟨2, "", [.plain (Bytes.ofString text)], fs⟩ else ⟨0, text, [], fs⟩
  | .ok o =>
    let r := verify env fs o
    ⟨r.status, "", r.notices.filter fun n => n.shownBy c.filter, r.fileSystem⟩

end Call

end FeatureGates
