import FeatureGates.Decimal
import FeatureGates.Log
import FeatureGates.Log.Pattern

namespace FeatureGates

/-!
# Which events are shown

A setting is a list of directives, each of which lets the events of some sources through down to
some level. Of the directives about an event the most specific one decides; where there is none, the
event is not shown.
-/

namespace LogLevel

def ofName? (name : List Char) : Option LogLevel :=
  let lower := String.ofList (name.map Char.toLower)
  if lower = "error" then some error
  else if lower = "warn" then some warn
  else if lower = "info" then some info
  else if lower = "debug" then some debug
  else if lower = "trace" then some trace
  else if lower = "off" then some off
  else none

def ofNumber? (text : List Char) : Option LogLevel :=
  let digits := if text.head? = some '+' then text.tail else text
  if digits ≠ [] ∧ digits.all Char.isDigit then
    [off, error, warn, info, debug, trace][Nat.ofDigitChars 10 digits 0]?
  else none

def ofText? (text : List Char) : Option LogLevel :=
  match ofNumber? text with
  | some l => some l
  | none => ofName? text

end LogLevel

/-- What a directive asks of the fields of an event. -/
structure FieldTest where
  name : String
  /-- Whether the field must have some value, not only be there. -/
  valued : Bool
deriving DecidableEq

namespace FieldTest

def numberNames : List String := ["inf", "infinity", "nan"]

def isNumber (text : List Char) : Bool :=
  let unsigned := if text.head?.any (· ∈ ['+', '-']) then text.tail else text
  String.ofList (unsigned.map Char.toLower) ∈ numberNames || (Decimal.read? unsigned).isSome

/-- A name, and behind an equals sign the value, a number or a pattern, up to the next one. -/
def ofText? (text : List Char) : Option FieldTest :=
  match text.splitOn '=' with
  | name :: value :: _ =>
    if isNumber value || Pattern value then some ⟨String.ofList name, true⟩ else none
  | _ => some ⟨String.ofList text, false⟩

end FieldTest

/-- A text as it is written, and without the blanks around it. The parts of a directive are measured
in bytes on the latter and cut from the former. -/
structure Piece where
  written : Bytes
  shown : List Char

namespace Piece

def trimmed (text : List Char) : List Char :=
  ((text.dropWhile fun c => WhiteSpace c).reverse.dropWhile fun c => WhiteSpace c).reverse

def ofText (text : List Char) : Piece := ⟨Bytes.ofString (String.ofList text), trimmed text⟩

def tail (p : Piece) : Piece := ⟨p.written.tail, p.shown.tail⟩

/-- The longest part of characters that pass a test, if it can be cut between characters, and the
rest. -/
def split? (p : Piece) (test : Char → Bool) : Option (String × Piece) :=
  let n := (String.ofList (p.shown.takeWhile test)).utf8ByteSize
  (Bytes.text? (p.written.take n)).map fun s => (s, ⟨p.written.drop n, p.shown.dropWhile test⟩)

end Piece

structure LogDirective where
  /-- What the sources that it is about start with. -/
  target : String
  /-- Whether it is only about what happens inside some span. -/
  inSpan : Bool
  field : Option FieldTest
  level : LogLevel
deriving DecidableEq

namespace LogDirective

/-- The level after an equals sign; none given is the lowest. -/
def level? (p : Piece) : Option LogLevel :=
  p.written.text?.bind fun s => if s = "" then some .trace else LogLevel.ofText? s.toList

def close? (d : LogDirective) (p : Piece) : Option LogDirective :=
  match p.shown with
  | [] => some d
  | '=' :: _ => (level? p.tail).map fun l => { d with level := l }
  | _ => none

/-- Reads on behind the opening bracket of a span. -/
def inBrackets? (target : String) (p : Piece) : Option LogDirective := do
  let (span, p) ← p.split? fun c => c ≠ ']' && c ≠ '\x7b'
  match p.shown with
  | ']' :: _ => close? ⟨target, true, none, .trace⟩ p.tail
  | _ :: _ =>
    let (field, p) ← p.tail.split? (· ≠ '\x7d')
    match p.shown with
    | _ :: ']' :: _ =>
      if field = "" then none
      else
        let f ← FieldTest.ofText? field.toList
        close? ⟨target, span ≠ "", some f, .trace⟩ p.tail.tail
    | _ => none
  | [] => none

def startsTarget (c : Char) : Bool := c = '-' || c = ':' || c = '_' || Alphanumeric c

def belongsToTarget (c : Char) : Bool := c ≠ '=' && c ≠ '['

/-- A level for all sources, or else a target. -/
def levelOrTarget (text : String) : LogDirective :=
  match LogLevel.ofText? text.toList with
  | some l => ⟨"", false, none, l⟩
  | none => ⟨text, false, none, .trace⟩

def ofPiece? (p : Piece) : Option LogDirective :=
  if p.shown.head? = some '[' then inBrackets? "" p.tail
  else if p.shown.head?.any startsTarget then
    if p.shown.all belongsToTarget then p.written.text?.map levelOrTarget
    else do
      let (target, rest) ← p.split? belongsToTarget
      if rest.shown.head? = some '=' then
        (level? rest.tail).map fun l => ⟨target, false, none, l⟩
      else inBrackets? target rest.tail
  else none

def ofText? (text : List Char) : Option LogDirective := ofPiece? (.ofText text)

/-- No event happens inside a span or is known by the value of a field before it is shown. -/
def canDecide (d : LogDirective) : Bool := !d.inSpan && !d.field.any FieldTest.valued

def isAbout (d : LogDirective) (e : LogEvent) : Bool :=
  d.target.toList.isPrefixOf e.source.toList &&
    d.field.all fun f => ("message" :: e.fields.map Prod.fst).contains f.name

/-- Whether the first of two directives about one event is no less specific: by its target, then by
its field. -/
def asSpecific (d e : LogDirective) : Bool :=
  if d.target.length ≠ e.target.length then e.target.length < d.target.length
  else
    match d.field, e.field with
    | _, none => true
    | none, some _ => false
    | some f, some g => decide (g.name ≤ f.name)

/-- The most specific directive, the last of those that are alike. -/
def mostSpecific? (ds : List LogDirective) : Option LogDirective :=
  ds.foldl (fun best d => if best.all d.asSpecific then some d else best) none

end LogDirective

abbrev LogFilter := List LogDirective

def logVariable : String := "RUST_LOG"

namespace LogFilter

/-- Everything of note, whatever its source. -/
def standard : LogFilter := [⟨"", false, none, .info⟩]

def pieces (text : List Char) : List (List Char) := (text.splitOn ',').filter (· ≠ [])

/-- Directives stand between commas; one that cannot be read spoils them all. -/
def ofText? (text : String) : Option LogFilter :=
  ((pieces text.toList).mapM LogDirective.ofText?).map fun ds => ds.filter LogDirective.canDecide

def ofSetting (setting : Option String) : LogFilter := (setting.bind ofText?).getD standard

def shows (filter : LogFilter) (e : LogEvent) : Bool :=
  match LogDirective.mostSpecific? (filter.filter fun d => d.isAbout e) with
  | some d => e.level.rank ≤ d.level.rank
  | none => false

end LogFilter

end FeatureGates
