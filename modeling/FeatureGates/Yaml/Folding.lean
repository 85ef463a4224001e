import FeatureGates.Yaml.Label

namespace FeatureGates.Yaml

/-!
# The texts of scalars

A text may run over lines. Inside plain and quoted scalars a single line break reads as a space, and
breaks after it stand for themselves; a literal block keeps its breaks, a folded one joins the lines
that start without a blank.
-/

/-- Blanks and breaks between two words, the latest first. -/
structure Gap where
  blanks : List Char
  firstBreak : Option Char
  moreBreaks : List Char

namespace Gap

def none : Gap := ⟨[], .none, []⟩

def isNone (g : Gap) : Bool := g.blanks.isEmpty && g.firstBreak.isNone

def folded (g : Gap) : List Char :=
  match g.firstBreak with
  | .none => g.blanks.reverse ++ g.moreBreaks.reverse
  | some '\n' => if g.moreBreaks.isEmpty then [' '] else g.moreBreaks.reverse
  | some c => c :: g.moreBreaks.reverse

end Gap

/-- The gap at the start of the cells; blanks at the start of a line count for nothing, and a tab
left of the given column is refused there. -/
def gap? (tabsFrom : Int) (broken : Bool) (g : Gap) : Cells → Option (Gap × Cells)
  | [] => some (g, [])
  | c :: cs =>
    if isBlank c.char then
      if broken then
        if c.char = '\t' ∧ (c.column : Int) < tabsFrom then .none else gap? tabsFrom broken g cs
      else gap? tabsFrom broken { g with blanks := c.char :: g.blanks } cs
    else if isBreak c.char then
      if broken then gap? tabsFrom broken { g with moreBreaks := c.char :: g.moreBreaks } cs
      else gap? tabsFrom true ⟨[], some c.char, g.moreBreaks⟩ cs
    else some (g, c :: cs)

/-! ## Plain scalars -/

def isFlowEnd (c : Char) : Bool := c ∈ [',', '[', ']', '{', '}']

/-- The characters up to a blank, a break or an indicator; in a flow collection a colon before
another indicator is refused. -/
def plainWord? (inFlow : Bool) : Cells → Option (List Char × Cells)
  | [] => some ([], [])
  | c :: cs =>
    if isBlank c.char || isBreak c.char then some ([], c :: cs)
    else
      let colon := c.char == ':'
      if inFlow && colon && (Cells.head? cs).any (fun d => d == '?' || isFlowEnd d) then none
      else if colon && Cells.atWordEnd cs || inFlow && isFlowEnd c.char then some ([], c :: cs)
      else (plainWord? inFlow cs).map fun (word, rest) => (c.char :: word, rest)

structure PlainScalar where
  text : List Char
  /-- A line break follows the last word. -/
  broken : Bool

/-- What is left of a plain scalar behind a gap; none of its later lines starts left of the given
column. -/
def plainScalar? (inFlow : Bool) (column : Int) : Nat → Gap → Cells → Option (PlainScalar × Cells)
  | 0, g, cs => some (⟨[], g.firstBreak.isSome⟩, cs)
  | n + 1, g, cs =>
    if cs.atBoundary '-' || cs.atBoundary '.' || cs.startsWith '#' then
      some (⟨[], g.firstBreak.isSome⟩, cs)
    else do
      let (word, cs) ← plainWord? inFlow cs
      let text := if word.isEmpty then [] else g.folded ++ word
      let g := if word.isEmpty then g else .none
      if !(cs.atBlank || cs.atBreak) then some (⟨text, g.firstBreak.isSome⟩, cs)
      else
        let (g, cs) ← gap? column g.firstBreak.isSome g cs
        if !inFlow ∧ (cs.column : Int) < column then some (⟨text, g.firstBreak.isSome⟩, cs)
        else
          let (rest, cs) ← plainScalar? inFlow column n g cs
          some ({ rest with text := text ++ rest.text }, cs)

/-! ## Quoted scalars -/

def escapedAs? : Char → Option Char
  | '0' => some '\x00'
  | 'a' => some '\x07'
  | 'b' => some '\x08'
  | 't' => some '\t'
  | '\t' => some '\t'
  | 'n' => some '\n'
  | 'v' => some '\x0b'
  | 'f' => some '\x0c'
  | 'r' => some '\r'
  | 'e' => some '\x1b'
  | ' ' => some ' '
  | '"' => some '"'
  | '/' => some '/'
  | '\\' => some '\\'
  | 'N' => some '\u0085'
  | '_' => some '\u00a0'
  | 'L' => some '\u2028'
  | 'P' => some '\u2029'
  | _ => none

def escapeLength? : Char → Option Nat
  | 'x' => some 2
  | 'u' => some 4
  | 'U' => some 8
  | _ => none

def numberedChar? (digits : List Char) : Option Char := do
  let n ← digits.foldlM (fun n c => (hexValue? c).map (16 * n + ·)) 0
  if h : n.isValidChar then some (Char.ofNatAux n h) else none

/-- What ends a run of characters inside quotation marks. -/
inductive QuotedEnd
  | gap
  | escapedBreak

def singleQuotedWord : Cells → List Char × Cells
  | [] => ([], [])
  | [c] => if c.char = '\'' ∨ isBlank c.char ∨ isBreak c.char then ([], [c]) else ([c.char], [])
  | c :: d :: cs =>
    if c.char = '\'' then
      if d.char = '\'' then
        let (word, rest) := singleQuotedWord cs
        ('\'' :: word, rest)
      else ([], c :: d :: cs)
    else if isBlank c.char ∨ isBreak c.char then ([], c :: d :: cs)
    else
      let (word, rest) := singleQuotedWord (d :: cs)
      (c.char :: word, rest)

def doubleQuotedWord? : Nat → Cells → Option (List Char × QuotedEnd × Cells)
  | 0, cs => some ([], .gap, cs)
  | _, [] => some ([], .gap, [])
  | n + 1, c :: cs =>
    if c.char = '"' ∨ isBlank c.char ∨ isBreak c.char then some ([], .gap, c :: cs)
    else if c.char = '\\' then
      match cs with
      | [] => none
      | d :: ds =>
        if isBreak d.char then some ([], .escapedBreak, ds)
        else
          match escapeLength? d.char with
          | some k => do
            let digits := Cells.chars (ds.take k)
            let x ← if digits.length = k then numberedChar? digits else none
            let (word, stop, rest) ← doubleQuotedWord? n (ds.drop k)
            some (x :: word, stop, rest)
          | none => do
            let x ← escapedAs? d.char
            let (word, stop, rest) ← doubleQuotedWord? n ds
            some (x :: word, stop, rest)
    else do
      let (word, stop, rest) ← doubleQuotedWord? n cs
      some (c.char :: word, stop, rest)

/-- A quoted scalar, from behind its opening mark through its closing one; the number exceeds that
of the cells. -/
def quotedScalar? (single : Bool) : Nat → Cells → Option (List Char × Cells)
  | 0, _ => none
  | n + 1, cs =>
    if cs.isEmpty || cs.atBoundary '-' || cs.atBoundary '.' then none
    else do
      let (word, stop, cs) ←
        if single then
          let (word, rest) := singleQuotedWord cs
          some (word, QuotedEnd.gap, rest)
        else doubleQuotedWord? n cs
      if cs.startsWith (if single then '\'' else '"') then some (word, cs.tail)
      else
        let broken := match stop with
          | .gap => false
          | .escapedBreak => true
        let (g, cs) ← gap? 0 broken .none cs
        let (rest, cs) ← quotedScalar? single n cs
        some (word ++ g.folded ++ rest, cs)

/-! ## Block scalars -/

inductive Chomping
  | strip
  | clip
  | keep
deriving DecidableEq

def chomping? : Char → Option Chomping
  | '-' => some .strip
  | '+' => some .keep
  | _ => none

def indentDigit? (c : Char) : Option Nat :=
  if '1' ≤ c ∧ c ≤ '9' then some (c.toNat - '0'.toNat) else none

structure BlockHeader where
  chomping : Chomping
  indent? : Option Nat

/-- The signs behind the mark of a block scalar, in either order. -/
def blockHeader (cs : Cells) : BlockHeader × Cells :=
  match cs.head?.bind chomping?, cs.head?.bind indentDigit? with
  | some chomping, _ =>
    match Cells.head? cs.tail |>.bind indentDigit? with
    | some n => (⟨chomping, some n⟩, cs.drop 2)
    | none => (⟨chomping, none⟩, cs.tail)
  | none, some n =>
    match Cells.head? cs.tail |>.bind chomping? with
    | some chomping => (⟨chomping, some n⟩, cs.drop 2)
    | none => (⟨.clip, some n⟩, cs.tail)
  | none, none => (⟨.clip, none⟩, cs)

structure Margin where
  /-- The latest break comes first. -/
  breaks : List Char
  widest : Nat

/-- The empty lines in front of the next line of a block, with the spaces of its indentation. -/
def margin? (indent? : Option Nat) (m : Margin) : Cells → Option (Margin × Cells)
  | [] => some (m, [])
  | c :: cs =>
    let inside := indent?.all (c.column < ·)
    if inside ∧ c.char = ' ' then margin? indent? m cs
    else if inside ∧ c.char = '\t' then none
    else
      let m := { m with widest := max m.widest c.column }
      if isBreak c.char then margin? indent? { m with breaks := c.char :: m.breaks } cs
      else some (m, c :: cs)

structure BlockText where
  /-- The latest line comes first. -/
  lines : List (List Char)
  lastBreak : List Char
  emptyLines : List Char
  afterBlank : Bool

def BlockText.addLine (literal : Bool) (t : BlockText) (line : List Char) : BlockText :=
  let blank := line.head?.any isBlank
  let joined :=
    if !literal && t.lastBreak == ['\n'] && !t.afterBlank && !blank then
      if t.emptyLines.isEmpty then [' '] else []
    else t.lastBreak
  ⟨(joined ++ t.emptyLines ++ line) :: t.lines, [], [], blank⟩

def BlockText.text (t : BlockText) : List Char := t.lines.reverse.flatten

def blockLines? (literal : Bool) (indent : Nat) :
    Nat → BlockText → Cells → Option (BlockText × Cells)
  | 0, t, cs => some (t, cs)
  | n + 1, t, cs =>
    if cs.isEmpty || cs.column != indent then some (t, cs)
    else do
      let line := Cells.chars (cs.takeWhile fun c => !isBreak c.char)
      let t := t.addLine literal line
      let cs := cs.skipLine
      let lastBreak := Cells.chars (cs.take 1)
      let (m, cs) ← margin? (some indent) ⟨[], 0⟩ cs.tail
      blockLines? literal indent n { t with lastBreak, emptyLines := m.breaks.reverse } cs

/-- A block scalar below a given indentation, from behind its mark on. -/
def blockScalar? (literal : Bool) (parent : Int) (cs : Cells) : Option (List Char × Cells) := do
  let (header, cs) := blockHeader cs
  let cs ← cs.endLine?
  let given := header.indent?.map fun n => (max parent 0).toNat + n
  let (m, cs) ← margin? given ⟨[], 0⟩ cs
  let indent := given.getD (max (max m.widest (parent + 1).toNat) 1)
  let (t, cs) ← blockLines? literal indent cs.length ⟨[], [], m.breaks.reverse, false⟩ cs
  let text := match header.chomping with
    | .strip => t.text
    | .clip => t.text ++ t.lastBreak
    | .keep => t.text ++ t.lastBreak ++ t.emptyLines
  some (text, cs)

end FeatureGates.Yaml
