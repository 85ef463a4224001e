namespace FeatureGates.Yaml

/-!
# Located characters

YAML gives meaning to where a character stands. A text is read as a list of cells, each a character
with its place; a line break is one cell however it is written.
-/

structure Cell where
  char : Char
  /-- How many bytes come before. -/
  index : Nat
  line : Nat
  column : Nat

abbrev Cells := List Cell

def isBreak (c : Char) : Bool :=
  c == '\n' || c == '\r' || c == '\u0085' || c == '\u2028' || c == '\u2029'

def isBlank (c : Char) : Bool := c == ' ' || c == '\t'

/-- Characters of names, anchors and tag handles. -/
def isWord (c : Char) : Bool := c.isAlphanum || c == '-' || c == '_'

def isAllowed (c : Char) : Bool :=
  c == '\t' || c == '\n' || c == '\r' || (' ' ≤ c && c ≤ '~') || c == '\u0085' ||
    ('\u00A0' ≤ c && c.toNat ≤ 0xFFFD) || 0x10000 ≤ c.toNat

def locate (index line column : Nat) : List Char → Cells
  | [] => []
  | '\r' :: '\n' :: cs => ⟨'\n', index, line, column⟩ :: locate (index + 2) (line + 1) 0 cs
  | c :: cs =>
    if isBreak c then
      let shown := if c == '\u2028' || c == '\u2029' then c else '\n'
      ⟨shown, index, line, column⟩ :: locate (index + c.utf8Size) (line + 1) 0 cs
    else ⟨c, index, line, column⟩ :: locate (index + c.utf8Size) line (column + 1) cs

namespace Cells

def chars (cs : Cells) : List Char := cs.map Cell.char

def head? (cs : Cells) : Option Char := (List.head? cs).map Cell.char

def startsWith (cs : Cells) (c : Char) : Bool := cs.head? == some c

def column (cs : Cells) : Nat := (List.head? cs).elim 0 Cell.column

def atBlank (cs : Cells) : Bool := cs.head?.any isBlank

def atBreak (cs : Cells) : Bool := cs.head?.any isBreak

def atLineEnd (cs : Cells) : Bool := cs.isEmpty || cs.atBreak

def atWordEnd (cs : Cells) : Bool := cs.atBlank || cs.atLineEnd

def skipBlanks (cs : Cells) : Cells := cs.dropWhile fun c => isBlank c.char

/-- A mark at the start of a line says how the text is encoded, and is no part of it. -/
def skipByteOrderMark (cs : Cells) : Cells :=
  if cs.column = 0 ∧ cs.startsWith '\uFEFF' then cs.tail else cs

def skipLine (cs : Cells) : Cells := cs.dropWhile fun c => !isBreak c.char

/-- Blanks, a comment and the line break behind them. -/
def endLine? (cs : Cells) : Option Cells :=
  let cs := cs.skipBlanks
  let cs := if cs.startsWith '#' then cs.skipLine else cs
  if cs.atLineEnd then some cs.tail else none

def splitWord (cs : Cells) : List Char × Cells :=
  (chars (cs.takeWhile fun c => isWord c.char), cs.dropWhile fun c => isWord c.char)

/-- The three characters that start or end a document, alone at the start of a line. -/
def atBoundary (cs : Cells) (mark : Char) : Bool :=
  cs.column == 0 && chars (cs.take 3) == [mark, mark, mark] && atWordEnd (cs.drop 3)

end Cells

end FeatureGates.Yaml
