import FeatureGates.Text.Alphanumeric
import FeatureGates.Text.Hex
import FeatureGates.Text.WhiteSpace

namespace FeatureGates

/-!
# Patterns of field values

A pattern describes texts by characters, repetitions, choices and groups. What matters here is
whether a text is a pattern at all: whether its brackets close, its repetitions have something to
repeat, and its escapes and flags are known. Its parts are nested at most 250 deep. Which characters
of all scripts are letters, digits or blanks is not known, nor which of them differ in case only. A
pattern that would need it is refused.
-/

namespace Pattern

structure Mode where
  /-- Blanks, and lines from a number sign on, are no part of the pattern. -/
  spaced : Bool
  /-- Characters of all scripts are meant, not bytes; what could match a part of a character is
  refused among bytes. -/
  unicode : Bool
  /-- Letters match those of the other case too. -/
  anyCase : Bool

namespace Mode

def start : Mode := ⟨false, true, false⟩

def dropSpaces (inComment : Bool) : List Char → List Char
  | [] => []
  | c :: cs =>
    if inComment then dropSpaces (c ≠ '\n') cs
    else if c = '#' then dropSpaces true cs
    else if WhiteSpace c then dropSpaces false cs
    else c :: cs

def skip (m : Mode) (cs : List Char) : List Char := if m.spaced then dropSpaces false cs else cs

/-- Whether single characters can be meant. -/
def admitsCharacters (m : Mode) : Bool := !(m.unicode && m.anyCase)

/-- Whether a character can be a member of a class. -/
def admits (m : Mode) (c : Char) : Bool := m.unicode || c.toNat < 0x80

/-- Whether flags, of which those behind a hyphen are turned off, turn one on or off. -/
def flagState? (flags : List Char) (flag : Char) : Option Bool :=
  if flag ∈ flags then some (flag ∈ flags.takeWhile (· ≠ '-')) else none

def set (m : Mode) (flags : List Char) : Mode :=
  ⟨(flagState? flags 'x').getD m.spaced, (flagState? flags 'u').getD m.unicode,
    (flagState? flags 'i').getD m.anyCase⟩

end Mode

/-! ## Depth -/

/-- Parts one after another: how many there are, how deep they are nested, and how deep the last one
is, if it can be repeated. -/
structure Parts where
  count : Nat
  depth : Nat
  last : Option Nat

namespace Parts

def none : Parts := ⟨0, 0, .none⟩

def add (ps : Parts) (depth : Nat) : Parts := ⟨ps.count + 1, max ps.depth depth, some depth⟩

/-- Adds flags, which are not repeated. -/
def addFlags (ps : Parts) : Parts := ⟨ps.count + 1, ps.depth, .none⟩

def again? (ps : Parts) : Option Parts :=
  ps.last.map fun d => ⟨ps.count, max ps.depth (d + 1), some (d + 1)⟩

/-- Several parts are one level deeper, as a sequence. -/
def total (ps : Parts) : Nat := if ps.count < 2 then ps.depth else ps.depth + 1

end Parts

/-! ## Escapes -/

/-- What a character or an escape stands for: a character, one of several, or a place in between. -/
inductive Atom
  | char (c : Char)
  | set
  | place

def Atom.isChar : Atom → Bool
  | char _ => true
  | _ => false

/-- How many hexadecimal digits a letter behind a backslash announces. -/
def codeLength? : Char → Option Nat
  | 'x' => some 2
  | 'u' => some 4
  | 'U' => some 8
  | _ => none

def code? (m : Mode) : Nat → Nat → List Char → Option (Nat × List Char)
  | 0, value, cs => some (value, cs)
  | n + 1, value, cs =>
    match m.skip cs with
    | [] => none
    | c :: cs => (hexValue? c).bind fun digit => code? m n (16 * value + digit) cs

def control? : Char → Option Char
  | 'a' => some '\x07'
  | 'f' => some '\x0c'
  | 't' => some '\t'
  | 'n' => some '\n'
  | 'r' => some '\r'
  | 'v' => some '\x0b'
  | _ => none

/-- What stands behind a backslash. A byte beyond ASCII is no character, but a code point is. -/
def escape? (m : Mode) : List Char → Option (Atom × List Char)
  | [] => none
  | c :: cs =>
    match codeLength? c, control? c with
    | some n, _ => do
      let (value, cs) ← code? m n 0 cs
      if h : value.isValidChar then
        if c = 'x' ∧ !m.unicode ∧ 0x80 ≤ value then none
        else some (.char (Char.ofNatAux value h), cs)
      else none
    | none, some x => some (.char x, cs)
    | none, none =>
      if c ∈ ['d', 's', 'w'] then if m.unicode then none else some (.set, cs)
      else if c ∈ ['A', 'z'] then some (.place, cs)
      else if c ∈ ['b', 'B', '<', '>'] then if m.unicode then none else some (.place, cs)
      else if c.toNat < 0x80 ∧ !c.isAlphanum then some (.char c, cs)
      else none

/-! ## Bracketed classes -/

/-- What has been read of a class, with the depth of what stands left of its last operator. -/
structure Class where
  items : Parts
  left : Option Nat

namespace Class

def add (c : Class) (depth : Nat) : Class := { c with items := c.items.add depth }

def total (c : Class) : Nat :=
  match c.left with
  | none => c.items.total
  | some d => max d c.items.total + 1

def operator (c : Class) : Class := ⟨.none, some c.total⟩

end Class

def classNames : List String :=
  ["alnum", "alpha", "ascii", "blank", "cntrl", "digit", "graph", "lower", "print", "punct",
    "space", "upper", "word", "xdigit"]

/-- A class by its name, from behind its first bracket on, and whether it is negated. -/
def namedClass? : List Char → Option (Bool × List Char)
  | ':' :: cs =>
    let negated := cs.head? = some '^'
    let cs := if negated then cs.tail else cs
    match cs.dropWhile (· ≠ ':') with
    | ':' :: ']' :: rest =>
      if String.ofList (cs.takeWhile (· ≠ ':')) ∈ classNames then some (negated, rest) else none
    | _ => none
  | _ => none

def leadingHyphens (m : Mode) : Nat → Parts → List Char → Parts × List Char
  | n + 1, ps, '-' :: cs => leadingHyphens m n (ps.add 0) (m.skip cs)
  | _, ps, cs => (ps, cs)

/-- The start of a class behind its bracket: hyphens stand for themselves there, and so does a
bracket that comes first. -/
def openClass? (m : Mode) (cs : List Char) : Option (Class × List Char) :=
  let cs := m.skip cs
  let negated := cs.head? = some '^'
  let cs := if negated then m.skip cs.tail else cs
  let (ps, cs) := leadingHyphens m cs.length .none cs
  let (ps, cs) := if ps.count = 0 ∧ cs.head? = some ']' then (ps.add 0, cs.tail) else (ps, cs)
  if negated ∧ !m.unicode ∨ ps.count ≠ 0 ∧ !m.admitsCharacters then none
  else some (⟨ps, none⟩, cs)

def classAtom? (m : Mode) (cs : List Char) : Option (Atom × List Char) := do
  let (atom, cs) ← match cs with
    | [] => none
    | '\\' :: cs => escape? m cs
    | c :: cs => some (.char c, cs)
  match atom with
  | .char c => if m.admits c && m.admitsCharacters then some (atom, cs) else none
  | .set => some (atom, cs)
  | .place => none

def member? (m : Mode) (cs : List Char) : Option (List Char) := do
  let (first, cs) ← classAtom? m cs
  match m.skip cs with
  | '-' :: rest =>
    match m.skip rest with
    | [] => none
    | c :: cs =>
      if c = ']' ∨ c = '-' then some ('-' :: rest)
      else
        let (last, cs) ← classAtom? m (c :: cs)
        match first, last with
        | .char x, .char y => if x ≤ y then some cs else none
        | _, _ => none
  | cs => some cs

/-- The rest of a class and of those around it: how deep it is nested, and what follows. -/
def classDepth? (m : Mode) : Nat → List Class → Class → List Char → Option (Nat × List Char)
  | 0, _, _, _ => none
  | n + 1, outer, k, cs =>
    match m.skip cs with
    | [] => none
    | '[' :: cs =>
      match namedClass? cs with
      | some (negated, cs) =>
        if !m.admitsCharacters ∨ negated ∧ !m.unicode then none
        else classDepth? m n outer (k.add 0) cs
      | none => do
        let (inner, cs) ← openClass? m cs
        classDepth? m n (k :: outer) inner cs
    | ']' :: cs =>
      match outer with
      | [] => some (k.total + 1, cs)
      | o :: outer => classDepth? m n outer (o.add (k.total + 1)) cs
    | '&' :: '&' :: cs => classDepth? m n outer k.operator cs
    | '-' :: '-' :: cs => classDepth? m n outer k.operator cs
    | '~' :: '~' :: cs => classDepth? m n outer k.operator cs
    | cs => do
      let cs ← member? m cs
      classDepth? m n outer (k.add 0) cs

/-! ## Groups -/

/-- The choices of a group: how many are complete, how deep they are nested, and the parts of the
last one. -/
structure Choice where
  complete : Nat
  depth : Nat
  parts : Parts

namespace Choice

def start : Choice := ⟨0, 0, .none⟩

def next (c : Choice) : Choice := ⟨c.complete + 1, max c.depth c.parts.total, .none⟩

def total (c : Choice) : Nat :=
  if c.complete = 0 then c.parts.total else max c.depth c.parts.total + 1

end Choice

structure Reader where
  mode : Mode
  choice : Choice
  /-- The open groups around, each as it was when the next one was opened. -/
  outer : List (Mode × Choice)
  names : List String

namespace Reader

def start : Reader := ⟨.start, .start, [], []⟩

def add (r : Reader) (depth : Nat) : Reader :=
  { r with choice := { r.choice with parts := r.choice.parts.add depth } }

def again? (r : Reader) : Option Reader :=
  r.choice.parts.again?.map fun ps => { r with choice := { r.choice with parts := ps } }

def openGroup (r : Reader) (mode : Mode) : Reader :=
  { r with mode, choice := .start, outer := (r.mode, r.choice) :: r.outer }

def closeGroup? (r : Reader) : Option Reader :=
  match r.outer with
  | [] => none
  | (mode, choice) :: outer => some ({ r with mode, choice, outer }.add (r.choice.total + 1))

def setFlags (r : Reader) (flags : List Char) : Reader :=
  { r with
    mode := r.mode.set flags
    choice := { r.choice with parts := r.choice.parts.addFlags } }

end Reader

def groupName? (cs : List Char) : Option (String × List Char) :=
  match cs.takeWhile (· ≠ '>'), cs.dropWhile (· ≠ '>') with
  | c :: name, _ :: rest =>
    if (c = '_' ∨ Alphanumeric c ∧ !c.isDigit) ∧
        name.all fun d => d ∈ ['_', '.', '[', ']'] ∨ Alphanumeric d then
      some (String.ofList (c :: name), rest)
    else none
  | _, _ => none

def flagLetters : List Char := ['-', 'i', 'm', 's', 'U', 'u', 'R', 'x']

/-- Flags up to a colon or a closing bracket, none of them twice and no hyphen last. -/
def flags? (flags : List Char) : List Char → Option (List Char × List Char)
  | [] => none
  | c :: cs =>
    if c = ':' ∨ c = ')' then if flags.getLast? = some '-' then none else some (flags, c :: cs)
    else if c ∈ flagLetters ∧ c ∉ flags then flags? (flags ++ [c]) cs
    else none

/-- What stands behind an opening bracket: a group with a name, with flags or without either, or
flags for what follows. -/
def group? (r : Reader) (cs : List Char) : Option (Reader × List Char) :=
  let named (cs : List Char) : Option (Reader × List Char) := do
    let (name, cs) ← groupName? cs
    if name ∈ r.names then none
    else some ({ r.openGroup r.mode with names := name :: r.names }, cs)
  match r.mode.skip cs with
  | '?' :: 'P' :: '<' :: cs => named cs
  | '?' :: '<' :: cs => named cs
  | '?' :: cs => do
    let (flags, cs) ← flags? [] cs
    if cs.head? = some ':' then some (r.openGroup (r.mode.set flags), cs.tail)
    else if flags = [] then none
    else some (r.setFlags flags, cs.tail)
  | cs => some (r.openGroup r.mode, cs)

/-! ## The whole pattern -/

def dropQuestion : List Char → List Char
  | '?' :: cs => cs
  | cs => cs

/-- How deep a pattern is nested. A brace would open a count, which no value can close. -/
def depth? (r : Reader) (cs : List Char) : Nat → Option Nat
  | 0 => none
  | n + 1 =>
    match r.mode.skip cs with
    | [] => if r.outer.isEmpty then some r.choice.total else none
    | c :: cs =>
      match c with
      | '(' => (group? r cs).bind fun (r, cs) => depth? r cs n
      | ')' => r.closeGroup?.bind fun r => depth? r cs n
      | '|' => depth? { r with choice := r.choice.next } cs n
      | '?' | '*' | '+' => r.again?.bind fun r => depth? r (dropQuestion cs) n
      | '\x7b' => none
      | '\\' => do
        let (atom, cs) ← escape? r.mode cs
        if atom.isChar ∧ !r.mode.admitsCharacters then none else depth? (r.add 0) cs n
      | '[' => do
        let (k, cs) ← openClass? r.mode cs
        let (depth, cs) ← classDepth? r.mode cs.length.succ [] k cs
        depth? (r.add depth) cs n
      | '^' | '$' => depth? (r.add 0) cs n
      | '.' => if r.mode.unicode then depth? (r.add 0) cs n else none
      | _ => if r.mode.admitsCharacters then depth? (r.add 0) cs n else none

def maxDepth : Nat := 250

end Pattern

def Pattern (text : List Char) : Bool :=
  (Pattern.depth? .start text (text.length + 1)).any (· ≤ Pattern.maxDepth)

end FeatureGates
