import FeatureGates.Text.Utf8
import FeatureGates.Yaml.Cell

namespace FeatureGates.Yaml

/-!
# Anchors, tags and directives

What may be said about a node before its content, and about a document before its first node.
-/

def anchorName? (cs : Cells) : Option (String × Cells) :=
  let (name, rest) := cs.splitWord
  let closed := rest.atWordEnd || rest.head?.any (· ∈ ['?', ':', ',', ']', '}', '%', '@', '\u0060'])
  if name ≠ [] ∧ closed then some (String.ofList name, rest) else none

def escapedByte? : Cells → Option (UInt8 × Cells)
  | p :: a :: b :: rest =>
    match p.char, hexValue? a.char, hexValue? b.char with
    | '%', some hi, some lo => some (UInt8.ofNat (16 * hi + lo), rest)
    | _, _, _ => none
  | _ => none

def continuation? (n : Nat) (cs : Cells) : Option (Bytes × Cells) :=
  match n with
  | 0 => some ([], cs)
  | n + 1 => do
    let (b, cs) ← escapedByte? cs
    if b &&& 0xC0 = 0x80 then
      let (bs, cs) ← continuation? n cs
      some (b :: bs, cs)
    else none

/-- The escaped bytes of one character, as many as its first byte announces. -/
def escapedChar? (cs : Cells) : Option (Bytes × Cells) := do
  let (b, cs) ← escapedByte? cs
  let more ←
    if b &&& 0x80 = 0 then some 0
    else if b &&& 0xE0 = 0xC0 then some 1
    else if b &&& 0xF0 = 0xE0 then some 2
    else if b &&& 0xF8 = 0xF0 then some 3
    else none
  let (bs, cs) ← continuation? more cs
  some (b :: bs, cs)

def isUriChar (brackets : Bool) (c : Char) : Bool :=
  isWord c || c ∈ [';', '/', '?', ':', '@', '&', '=', '+', '$', '.', '%', '!', '~', '*', '\'', '(',
    ')'] || (brackets && c ∈ [',', '[', ']'])

/-- The longest run of address characters, escapes resolved. -/
def uri? (brackets : Bool) : Nat → Cells → Option (Bytes × Cells)
  | 0, cs => some ([], cs)
  | n + 1, cs =>
    match cs with
    | [] => some ([], [])
    | c :: rest =>
      if !isUriChar brackets c.char then some ([], c :: rest)
      else do
        let (bs, rest) ← if c.char = '%' then escapedChar? (c :: rest)
          else some (Bytes.ofString (String.singleton c.char), rest)
        let (more, rest) ← uri? brackets n rest
        some (bs ++ more, rest)

/-- A nonempty address; a zero byte and what follows it are not part of it. -/
def address? (brackets : Bool) (cs : Cells) : Option (Bytes × Cells) := do
  let (bs, rest) ← uri? brackets cs.length cs
  if rest.length = cs.length then none else some (bs.takeWhile (· ≠ 0), rest)

def handle (cs : Cells) : List Char × Cells :=
  let (word, rest) := Cells.splitWord cs.tail
  if rest.startsWith '!' then ('!' :: word ++ ['!'], rest.tail) else ('!' :: word, rest)

/-- A handle stands for the start of a tag that a directive has given it; a tag without one is
written in full. -/
structure TagLabel where
  handle : String
  suffix : Bytes

def verbatimTag? (cs : Cells) : Option (TagLabel × Cells) := do
  let (bs, rest) ← address? true cs
  if rest.startsWith '>' then some (⟨"", bs⟩, rest.tail) else none

def shorthandTag? (cs : Cells) : Option (TagLabel × Cells) :=
  let (name, rest) := handle cs
  if 2 ≤ name.length ∧ name.getLast? = some '!' then do
    let (bs, rest) ← address? false rest
    some (⟨String.ofList name, bs⟩, rest)
  else do
    let (bs, rest) ← uri? false rest.length rest
    let suffix := Bytes.ofString (String.ofList name.tail) ++ bs.takeWhile (· ≠ 0)
    if suffix = [] then some (⟨"", Bytes.ofString "!"⟩, rest) else some (⟨"!", suffix⟩, rest)

/-- A tag, from its first mark on. -/
def tagLabel? (inFlow : Bool) (cs : Cells) : Option (TagLabel × Cells) := do
  let (label, rest) ← if Cells.startsWith cs.tail '<' then verbatimTag? (cs.drop 2)
    else shorthandTag? cs
  if rest.atWordEnd || (inFlow && rest.startsWith ',') then some (label, rest) else none

inductive Directive
  | version (major minor : Nat)
  | handle (name : String) (start : Bytes)

def versionNumber? (cs : Cells) : Option (Nat × Cells) :=
  let digits := Cells.chars (cs.takeWhile fun c => c.char.isDigit)
  if digits = [] ∨ 9 < digits.length then none
  else some (digits.foldl (fun n c => 10 * n + (c.toNat - '0'.toNat)) 0, cs.drop digits.length)

def versionDirective? (cs : Cells) : Option (Directive × Cells) := do
  let (major, cs) ← versionNumber? cs.skipBlanks
  if cs.startsWith '.' then
    let (minor, cs) ← versionNumber? cs.tail
    some (.version major minor, cs)
  else none

def handleDirective? (cs : Cells) : Option (Directive × Cells) :=
  let cs := cs.skipBlanks
  if !cs.startsWith '!' then none
  else
    let (name, rest) := handle cs
    if (name = ['!'] ∨ 2 ≤ name.length ∧ name.getLast? = some '!') ∧ rest.atBlank then do
      let (start, rest) ← address? true rest.skipBlanks
      if rest.atWordEnd then some (.handle (String.ofList name) start, rest) else none
    else none

def directive? (cs : Cells) : Option (Directive × Cells) := do
  let (name, rest) := cs.splitWord
  if !rest.atWordEnd then none
  else
    let (d, rest) ←
      if name = "YAML".toList then versionDirective? rest
      else if name = "TAG".toList then handleDirective? rest
      else none
    let rest ← rest.endLine?
    some (d, rest)

end FeatureGates.Yaml
