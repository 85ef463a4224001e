import FeatureGates.Yaml.Folding

namespace FeatureGates.Yaml

/-!
# Tokens

Indentation opens and closes collections, and a colon may turn the node before it into a key. That
node is remembered while it is short enough and on the colon's line; its place among the tokens is
where the key, and the mapping that it opens, are inserted.
-/

inductive Token
  | directive (d : Directive)
  | documentStart
  | documentEnd
  | blockSequenceStart
  | blockMappingStart
  | blockEnd
  | flowSequenceStart
  | flowSequenceEnd
  | flowMappingStart
  | flowMappingEnd
  | blockEntry
  | flowEntry
  | key
  | value
  | reference (name : String)
  | anchor (name : String)
  | tag (label : TagLabel)
  | scalar (plain : Bool) (text : String)

/-- A node that a colon may turn into a key. Where nothing but a key can stand, the colon must
come. -/
structure KeyCandidate where
  start : Cell
  position : Nat
  required : Bool

structure Lexer where
  cells : Cells
  /-- The latest token comes first. -/
  tokens : List Token
  /-- How many tokens there are. -/
  count : Nat
  indent : Int
  outerIndents : List Int
  keyAllowed : Bool
  candidate : Option KeyCandidate
  /-- The candidates outside each open flow collection. -/
  outerCandidates : List (Option KeyCandidate)

namespace Lexer

def start (cells : Cells) : Lexer := ⟨cells, [], 0, -1, [], true, none, []⟩

def inFlow (l : Lexer) : Bool := !l.outerCandidates.isEmpty

def column (l : Lexer) : Int := l.cells.column

def push (l : Lexer) (t : Token) : Lexer := { l with tokens := t :: l.tokens, count := l.count + 1 }

def insertAt (l : Lexer) (position : Nat) (t : Token) : Lexer :=
  { l with tokens := l.tokens.insertIdx (l.count - position) t, count := l.count + 1 }

def skip (l : Lexer) (n : Nat) : Lexer := { l with cells := l.cells.drop n }

def allowKey (l : Lexer) (allowed : Bool) : Lexer := { l with keyAllowed := allowed }

/-- Opens a block collection to the right of the current one. -/
def indentTo (l : Lexer) (column : Int) (position : Nat) (t : Token) : Lexer :=
  if !l.inFlow ∧ l.indent < column then
    { l with indent := column, outerIndents := l.indent :: l.outerIndents }.insertAt position t
  else l

/-- Closes the block collections to the right of a column. -/
def outdentTo (l : Lexer) (column : Int) : Lexer :=
  if l.inFlow then l else close l l.indent l.outerIndents
where
  close (l : Lexer) (indent : Int) : List Int → Lexer
    | [] => { l with indent, outerIndents := [] }
    | outer :: rest =>
      if column < indent then close (l.push .blockEnd) outer rest
      else { l with indent, outerIndents := outer :: rest }

def dropCandidate? (l : Lexer) : Option Lexer :=
  if l.candidate.any (·.required) then none else some { l with candidate := none }

def saveCandidate? (l : Lexer) : Option Lexer :=
  match l.keyAllowed, l.cells with
  | true, c :: _ => do
    let required := !l.inFlow && l.indent == l.column
    let l ← l.dropCandidate?
    some { l with candidate := some ⟨c, l.count, required⟩ }
  | _, _ => some l

/-- The candidate stays while the current cell is near enough to it. -/
def fresh? (here : Cell) (candidate : Option KeyCandidate) : Option (Option KeyCandidate) :=
  match candidate with
  | none => some none
  | some k =>
    if k.start.line < here.line ∨ k.start.index + 1024 < here.index then
      if k.required then none else some none
    else some candidate

def dropStale? (l : Lexer) : Option Lexer :=
  match l.cells with
  | [] => some l
  | here :: _ => do
    let candidate ← fresh? here l.candidate
    let outerCandidates ← l.outerCandidates.mapM (fresh? here)
    some { l with candidate, outerCandidates }

/-- Skips blanks, comments and line breaks; a tab is a blank only where no key may start. -/
def skipToToken (l : Lexer) : Nat → Lexer
  | 0 => l
  | n + 1 =>
    let tabs := l.inFlow || !l.keyAllowed
    let cs := l.cells.skipByteOrderMark.dropWhile fun c => c.char == ' ' || (tabs && c.char == '\t')
    let cs := if Cells.startsWith cs '#' then Cells.skipLine cs else cs
    if Cells.atBreak cs then
      skipToToken { l with cells := cs.tail, keyAllowed := l.keyAllowed || !l.inFlow } n
    else { l with cells := cs }

/-! ## One token -/

def toTop? (l : Lexer) : Option Lexer := (l.outdentTo (-1)).dropCandidate?

def lexDirective? (l : Lexer) : Option Lexer := do
  let l ← l.toTop?
  let (d, cells) ← directive? l.cells.tail
  some ({ l with cells, keyAllowed := false }.push (.directive d))

def lexBoundary? (l : Lexer) (t : Token) : Option Lexer := do
  let l ← l.toTop?
  some (((l.allowKey false).skip 3).push t)

def openFlow? (l : Lexer) (t : Token) : Option Lexer := do
  let l ← l.saveCandidate?
  let l := { l with candidate := none, outerCandidates := l.candidate :: l.outerCandidates }
  some (((l.allowKey true).skip 1).push t)

def closeFlow? (l : Lexer) (t : Token) : Option Lexer := do
  let l ← l.dropCandidate?
  let l := match l.outerCandidates with
    | [] => l
    | c :: cs => { l with candidate := c, outerCandidates := cs }
  some (((l.allowKey false).skip 1).push t)

def lexComma? (l : Lexer) : Option Lexer := do
  let l ← l.dropCandidate?
  some (((l.allowKey true).skip 1).push .flowEntry)

/-- Opens a block collection at an indicator, where one may start. -/
def startBlock? (l : Lexer) (t : Token) : Option Lexer :=
  if l.inFlow then some l
  else if l.keyAllowed then some (l.indentTo l.column l.count t)
  else none

def lexDash? (l : Lexer) : Option Lexer := do
  let l ← l.startBlock? .blockSequenceStart
  let l ← l.dropCandidate?
  some (((l.allowKey true).skip 1).push .blockEntry)

def lexKey? (l : Lexer) : Option Lexer := do
  let l ← l.startBlock? .blockMappingStart
  let l ← l.dropCandidate?
  some (((l.allowKey !l.inFlow).skip 1).push .key)

def lexValue? (l : Lexer) : Option Lexer :=
  match l.candidate with
  | some k =>
    let l := { l with candidate := none }.insertAt k.position .key
    let l := l.indentTo k.start.column k.position .blockMappingStart
    some (((l.allowKey false).skip 1).push .value)
  | none => do
    let l ← l.startBlock? .blockMappingStart
    some (((l.allowKey !l.inFlow).skip 1).push .value)

def lexAnchor? (l : Lexer) (token : String → Token) : Option Lexer := do
  let l ← l.saveCandidate?
  let (name, cells) ← anchorName? l.cells.tail
  some ({ l with cells, keyAllowed := false }.push (token name))

def lexTag? (l : Lexer) : Option Lexer := do
  let l ← l.saveCandidate?
  let (label, cells) ← tagLabel? l.inFlow l.cells
  some ({ l with cells, keyAllowed := false }.push (.tag label))

def lexBlockScalar? (l : Lexer) (literal : Bool) : Option Lexer := do
  let l ← l.dropCandidate?
  let (text, cells) ← blockScalar? literal l.indent l.cells.tail
  some ({ l with cells, keyAllowed := true }.push (.scalar false (String.ofList text)))

def lexQuoted? (l : Lexer) (single : Bool) (most : Nat) : Option Lexer := do
  let l ← l.saveCandidate?
  let (text, cells) ← quotedScalar? single most l.cells.tail
  some ({ l with cells, keyAllowed := false }.push (.scalar false (String.ofList text)))

def lexPlain? (l : Lexer) (most : Nat) : Option Lexer := do
  let l ← l.saveCandidate?
  let (s, cells) ← plainScalar? l.inFlow (l.indent + 1) most .none l.cells
  some ({ l with cells, keyAllowed := s.broken }.push (.scalar true (String.ofList s.text)))

/-- Characters that start no plain scalar by themselves. -/
def indicators : List Char :=
  ['-', '?', ':', ',', '[', ']', '{', '}', '#', '&', '*', '!', '|', '>', '\'', '"', '%', '@',
    '\u0060']

def startsPlain (inFlow : Bool) (c : Char) (rest : Cells) : Bool :=
  !(isBlank c || isBreak c || c ∈ indicators) || (c == '-' && !rest.atBlank) ||
    (!inFlow && (c == '?' || c == ':') && !rest.atWordEnd)

/-- The next token, where at most so many cells are left. -/
def lexToken? (l : Lexer) (most : Nat) (c : Cell) (rest : Cells) : Option Lexer :=
  let alone := l.inFlow || rest.atWordEnd
  if c.column = 0 ∧ c.char = '%' then l.lexDirective?
  else if l.cells.atBoundary '-' then l.lexBoundary? .documentStart
  else if l.cells.atBoundary '.' then l.lexBoundary? .documentEnd
  else match c.char with
    | '[' => l.openFlow? .flowSequenceStart
    | '{' => l.openFlow? .flowMappingStart
    | ']' => l.closeFlow? .flowSequenceEnd
    | '}' => l.closeFlow? .flowMappingEnd
    | ',' => l.lexComma?
    | '*' => l.lexAnchor? .reference
    | '&' => l.lexAnchor? .anchor
    | '!' => l.lexTag?
    | '\'' => l.lexQuoted? true most
    | '"' => l.lexQuoted? false most
    | '|' => if l.inFlow then none else l.lexBlockScalar? true
    | '>' => if l.inFlow then none else l.lexBlockScalar? false
    | '-' => if rest.atWordEnd then l.lexDash? else l.lexPlain? most
    | '?' => if alone then l.lexKey? else l.lexPlain? most
    | ':' => if alone then l.lexValue? else l.lexPlain? most
    | _ => if startsPlain l.inFlow c.char rest then l.lexPlain? most else none

def run? (l : Lexer) : Nat → Option (List Token)
  | 0 => none
  | n + 1 => do
    let l := l.skipToToken n
    let l ← l.dropStale?
    let l := l.outdentTo l.column
    match l.cells with
    | [] => do
      let l ← l.toTop?
      some l.tokens.reverse
    | c :: rest =>
      let l ← l.lexToken? n c rest
      l.run? n

end Lexer

def tokens? (cells : Cells) : Option (List Token) :=
  (Lexer.start cells).run? (cells.length + 1)

end FeatureGates.Yaml
