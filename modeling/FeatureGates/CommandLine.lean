import FeatureGates.CommandLine.Reply
import FeatureGates.CommandLine.Word
import FeatureGates.Text.Similarity

namespace FeatureGates

/-!
# Reading the arguments

The arguments are read from left to right. A value that follows its option as an argument of its own
is looked at only when the next option has been recognised, or at the end.
-/

namespace GivenOptions

def pathValue (o : OptionName) (value : Bytes) : Except UsageError Path :=
  if value = [] then .error (.valueMissing o) else .ok value

def textValue (value : Bytes) : Except UsageError String :=
  match value.text? with
  | some s => .ok s
  | none => .error .notText

def accept (g : GivenOptions) (o : OptionName) (value : Bytes) : Except UsageError GivenOptions :=
  if g.has o then .error (.repeated o)
  else
    match o with
    | .directory => (pathValue o value).map fun v => { g with directory := some v }
    | .baseline => (textValue value).map fun v => { g with baseline := some v }
    | .derived => (textValue value).map fun v => { g with derived := some v }
    | .report => (pathValue o value).map fun v => { g with report := some v }

end GivenOptions

namespace Command

def flag? (c : Command) (long : Bytes) : Option Flag :=
  c.flags.find? fun f => Bytes.ofString f.long = long

def reply (c : Command) : Flag → Reply
  | .help => .help c
  | .version => .version

def replyToLetters (c : Command) (letters : Bytes) : Reply :=
  let first := letters.firstChar?
  match c.flags.find? fun f => first = some f.letter with
  | some f => c.reply f
  | none =>
    let shown := first.elim letters.display String.singleton
    .refused (.unexpected c ("-" ++ shown) none [])

def unknownLong (c : Command) (long : Bytes) (ms : List Mention) (later : List Bytes) :
    UsageError :=
  let shown := "--" ++ long.display
  match mostSimilar? long.display c.longNames with
  | some name => .unexpected c shown (some (.flag name)) (Mention.add ms name)
  | none =>
    let name? :=
      if c = .program ∧ Bytes.ofString verifyName ∈ later then
        mostSimilar? long.display verify.longNames
      else none
    .unexpected c shown (name?.map (Hint.flagOf verifyName)) ms

end Command

/-! ## The options of the command that verifies -/

structure Progress where
  given : GivenOptions
  /-- The options that have been given, in the order of the call. -/
  met : List OptionName
  /-- The last option that stood alone, with its value if that has followed. -/
  waiting : Option (OptionName × Option Bytes)
  /-- Whether a separator has been passed. -/
  separated : Bool
deriving DecidableEq

namespace Progress

def start : Progress := ⟨∅, [], none, false⟩

def accept (p : Progress) (o : OptionName) (value : Bytes) : Except UsageError Progress :=
  (p.given.accept o value).map fun g =>
    { p with given := g, met := p.met ++ [o], waiting := none }

def settle (p : Progress) : Except UsageError Progress :=
  match p.waiting with
  | none => .ok p
  | some (o, none) => .error (.valueMissing o)
  | some (o, some value) => p.accept o value

/-- The options that a usage line mentions. One that waits is mentioned whatever its value, and one
that has been given twice is not mentioned any more. -/
def mentioned (p : Progress) : List Mention :=
  let met := match p.waiting with
    | some (o, some _) => if o ∈ p.met then p.met.erase o else p.met ++ [o]
    | _ => p.met
  met.map .option

def unexpected (shown : String) : UsageError := .unexpected .verify shown none []

def replyToFlag (p : Progress) (f : Flag) : Reply :=
  match p.settle with
  | .error e => .refused e
  | .ok _ => Command.verify.reply f

def takeOption (p : Progress) (o : OptionName) (value : Option Bytes) : Except Reply Progress :=
  match p.settle with
  | .error e => .error (.refused e)
  | .ok p =>
    match value with
    | none => .ok { p with waiting := some (o, none) }
    | some v =>
      match p.accept o v with
      | .error e => .error (.refused e)
      | .ok p => .ok p

def takeLong (p : Progress) (long : Bytes) (value : Option Bytes) : Except Reply Progress :=
  match OptionName.ofLong? long, Command.verify.flag? long, value with
  | some o, _, value => p.takeOption o value
  | none, some f, none => .error (p.replyToFlag f)
  | none, some f, some v =>
    let group := if p.met = [] then [] else [Mention.anyOption]
    .error (.refused (.needlessValue .verify f v.display (.flag f :: group)))
  | none, none, _ => .error (.refused (Command.verify.unknownLong long p.mentioned []))

def takeLetters (p : Progress) (letters : Bytes) : Reply :=
  match Command.verify.replyToLetters letters with
  | .refused e => .refused e
  | reply =>
    match p.settle with
    | .error e => .refused e
    | .ok _ => reply

def takePlain (p : Progress) (text : Bytes) : Except Reply Progress :=
  match p.waiting with
  | some (o, none) => .ok { p with waiting := some (o, some text) }
  | _ => .error (.refused (unexpected text.display))

def take (p : Progress) (argument : Bytes) : Except Reply Progress :=
  if p.separated then .error (.refused (unexpected argument.display))
  else
    match Word.ofBytes argument with
    | .separator => .ok { p with separated := true }
    | .long name value => p.takeLong name value
    | .short letters => .error (p.takeLetters letters)
    | .plain text => p.takePlain text

def finish (p : Progress) : List Bytes → Except Reply VerifyOptions
  | [] =>
    match p.settle with
    | .error e => .error (.refused e)
    | .ok p => .ok p.given.complete
  | a :: rest =>
    match p.take a with
    | .error reply => .error reply
    | .ok p => finish p rest

end Progress

/-! ## The command -/

namespace Command

def helpOn (c : Command) : List Bytes → Reply
  | [] => .help c
  | a :: rest =>
    match c, ofName? a with
    | .program, some d => helpOn d rest
    | c, _ => .refused (.unknownCommand c a.display [])

def notACommand (word : Bytes) : UsageError :=
  .unknownCommand .program word.display (similarTo word.display names)

def separatedReply : List Bytes → Reply
  | [] => .refused .commandMissing
  | a :: _ =>
    match ofName? a with
    | some _ =>
      .refused (.unexpected .program a.display (some (.needlessSeparator a.display)) [])
    | none => .refused (notACommand a)

def longReply (long : Bytes) (value : Option Bytes) (later : List Bytes) : Reply :=
  match program.flag? long, value with
  | some f, none => program.reply f
  | some f, some v => .refused (.needlessValue .program f v.display [.flag f])
  | none, _ => .refused (program.unknownLong long [] later)

end Command

/-- What the arguments behind the name of the program ask for. -/
def readArguments : List Bytes → Except Reply VerifyOptions
  | [] => .error (.refused .commandMissing)
  | a :: rest =>
    match Word.ofBytes a with
    | .separator => .error (Command.separatedReply rest)
    | .long name value => .error (Command.longReply name value rest)
    | .short letters => .error (Command.program.replyToLetters letters)
    | .plain text =>
      match Command.ofName? text with
      | some .verify => Progress.start.finish rest
      | some _ => .error (Command.program.helpOn rest)
      | none => .error (.refused (Command.notACommand text))

end FeatureGates
