import FeatureGates.Yaml.Document
import FeatureGates.Yaml.Scalar

namespace FeatureGates

/-!
# Reading a YAML document

The bytes of a stream with one document become a tree. Keys must differ, collections are nested at
most 128 deep, and references may be followed a hundred times as often as the document has events.
-/

namespace Yaml

/-- Anchors are numbered by how many names there are when they are met, so a name that is given
twice shares its number with the next new one. -/
structure Anchors where
  names : List (String × Nat)
  /-- Where the node of each number starts; the latest one counts. -/
  starts : List (Nat × Nat)

namespace Anchors

def none : Anchors := ⟨[], []⟩

def add (a : Anchors) (name : String) (position : Nat) : Anchors :=
  let number := a.names.length
  ⟨(name, number) :: a.names.filter (·.1 ≠ name), (number, position) :: a.starts⟩

def addTo (a : Anchors) (p : Properties) (position : Nat) : Anchors :=
  match p.anchor with
  | some name => a.add name position
  | .none => a

end Anchors

/-- References by number instead of name, with the anchors that they refer to. -/
def numbered? (a : Anchors) (position : Nat) :
    List (Event String) → Option (List (Event Nat) × Anchors)
  | [] => some ([], a)
  | e :: es => do
    let (e, a) ← match e with
      | .reference name => (a.names.lookup name).map fun n => (.reference n, a)
      | .scalar p plain text => some (.scalar p plain text, a.addTo p position)
      | .sequenceStart p => some (.sequenceStart p, a.addTo p position)
      | .sequenceEnd => some (.sequenceEnd, a)
      | .mappingStart p => some (.mappingStart p, a.addTo p position)
      | .mappingEnd => some (.mappingEnd, a)
    let (es, a) ← numbered? a (position + 1) es
    some (e :: es, a)

abbrev Events := List (Event Nat)

/-- A node read off the front of the events, the events behind it, and how many more references may
be followed. -/
abbrev Step (α : Type) := Events → Nat → Option (α × Events × Nat)

def items? (node? : Step Tree) : Nat → Step (List Tree)
  | 0, _, _ => none
  | n + 1, es, left =>
    match es with
    | .sequenceEnd :: es => some ([], es, left)
    | es => do
      let (t, es, left) ← node? es left
      let (ts, es, left) ← items? node? n es left
      some (t :: ts, es, left)

def pairs? (node? : Step Tree) : Nat → List (Tree × Tree) → Step (List (Tree × Tree))
  | 0, _, _, _ => none
  | n + 1, seen, es, left =>
    match es with
    | .mappingEnd :: es => some (seen.reverse, es, left)
    | es => do
      let (k, es, left) ← node? es left
      if seen.any fun e => k.same e.1 then none
      else
        let (v, es, left) ← node? es left
        pairs? node? n ((k, v) :: seen) es left

def wrap (tag : Option String) (t : Tree) : Tree := tag.elim t fun name => .tagged name t

def follow? (target? : Nat → Option Events) (content? : Step Tree) : Step Tree :=
  fun es left =>
    match es with
    | .reference n :: es =>
      match left, target? n with
      | left + 1, some target => do
        let (t, _, left) ← content? target left
        some (t, es, left)
      | _, _ => none
    | es => content? es left

/-- The value of a scalar; a local tag leaves it to the spelling. -/
def scalarValue? (tag : Option Bytes) (plain : Bool) (text : String) : Option Tree :=
  match tag with
  | some t =>
    if (localTag? tag).isSome then if plain then plainValue? text else some (.string text)
    else taggedValue? t plain text
  | none => if plain then plainValue? text else some (.string text)

def content? (target? : Nat → Option Events) : Nat → Step Tree
  | _, .scalar p plain text :: es, left =>
    (scalarValue? p.tag plain text).map fun t => (wrap (localTag? p.tag) t, es, left)
  | depth + 1, .sequenceStart p :: es, left => do
    let node? := follow? target? (content? target? depth)
    let (ts, es, left) ← items? node? (es.length + 1) es left
    some (wrap (localTag? p.tag) (.sequence ts), es, left)
  | depth + 1, .mappingStart p :: es, left => do
    let node? := follow? target? (content? target? depth)
    let (ps, es, left) ← pairs? node? (es.length + 1) [] es left
    some (wrap (localTag? p.tag) (.mapping ps), es, left)
  | _, _, _ => none

def maxDepth : Nat := 128

def tree? (events : List (Event String)) : Option Tree := do
  let (es, anchors) ← numbered? .none 0 events
  if es.isEmpty then some .null
  else
    let target? n := (anchors.starts.lookup n).map es.drop
    let (t, _, _) ← follow? target? (content? target? maxDepth) es (100 * es.length)
    some t

/-- The tree of the only document of a text; an empty text holds a null. -/
def document? (cs : List Char) : Option Tree :=
  if !cs.all isAllowed then none
  else do
    let ts ← tokens? (locate 0 0 0 cs)
    let es ← events? ts
    tree? es

def read? (bytes : Bytes) : Option Tree := bytes.text?.bind fun text => document? text.toList

theorem read?_ofString (text : String) : read? (Bytes.ofString text) = document? text.toList := by
  simp [read?]

/-- What is said of bytes that are no document. The readers of YAML each say it in their own way. -/
def refusal : String := "not a YAML document"

def read (bytes : Bytes) : Except String Tree :=
  match read? bytes with
  | some t => .ok t
  | none => .error refusal

end Yaml

end FeatureGates
