import FeatureGates.Yaml.Token

namespace FeatureGates.Yaml

/-!
# Events

The nodes of a document in the order of its text, each collection between its start and its end.
A node that the text leaves out is an empty plain scalar.
-/

structure Properties where
  anchor : Option String
  tag : Option Bytes

def Properties.none : Properties := ⟨.none, .none⟩

/-- References are by name in the text, and by number once anchors have been counted. -/
inductive Event (ρ : Type)
  | reference (target : ρ)
  | scalar (properties : Properties) (plain : Bool) (text : String)
  | sequenceStart (properties : Properties)
  | sequenceEnd
  | mappingStart (properties : Properties)
  | mappingEnd

/-- Tag handles with what they stand for. -/
abbrev Handles := List (String × Bytes)

def standardHandles : Handles :=
  [("!", Bytes.ofString "!"), ("!!", Bytes.ofString "tag:yaml.org,2002:")]

def TagLabel.resolve? (handles : Handles) (label : TagLabel) : Option Bytes :=
  if label.handle = "" then some label.suffix
  else (handles.lookup label.handle).map (· ++ label.suffix)

structure Reader where
  tokens : List Token
  /-- The latest event comes first. -/
  events : List (Event String)

namespace Reader

def emit (r : Reader) (e : Event String) : Reader := { r with events := e :: r.events }

def goOn (r : Reader) (ts : List Token) : Reader := { r with tokens := ts }

def leftOut (r : Reader) : Reader := r.emit (.scalar .none true "")

def tag? (handles : Handles) (r : Reader) : Option (Option Bytes × Reader) :=
  match r.tokens with
  | .tag label :: ts => (label.resolve? handles).map fun tag => (some tag, r.goOn ts)
  | _ => some (none, r)

def anchor (r : Reader) : Option String × Reader :=
  match r.tokens with
  | .anchor name :: ts => (some name, r.goOn ts)
  | _ => (none, r)

def properties? (handles : Handles) (r : Reader) : Option (Properties × Reader) :=
  match r.anchor with
  | (some name, r) => (r.tag? handles).map fun (tag, r) => (⟨some name, tag⟩, r)
  | (none, r) => do
    let (tag, r) ← r.tag? handles
    match tag with
    | none => some (.none, r)
    | some tag =>
      let (name, r) := r.anchor
      some (⟨name, some tag⟩, r)

/-- Where a node stands: a block collection needs a block, and one kind of sequence may share the
indentation of the mapping around it. -/
structure Place where
  block : Bool
  unindented : Bool

def inFlow : Place := ⟨false, false⟩

def inSequence : Place := ⟨true, false⟩

def inMapping : Place := ⟨true, true⟩

def endsEntry : Token → Bool
  | .blockEntry | .blockEnd => true
  | _ => false

def endsPart : Token → Bool
  | .key | .value | .blockEnd => true
  | _ => false

def endsUnindented (t : Token) : Bool := endsEntry t || endsPart t

def endsFlowItem : Token → Bool
  | .flowEntry | .flowSequenceEnd => true
  | _ => false

def endsFlowPart : Token → Bool
  | .flowEntry | .flowMappingEnd => true
  | _ => false

def endsFlowKey : Token → Bool
  | .value => true
  | t => endsFlowPart t

/-- A node with nothing but properties; without them there is no node. -/
def bare? (r : Reader) (p : Properties) : Option Reader :=
  if p.anchor.isNone ∧ p.tag.isNone then none else some (r.emit (.scalar p true ""))

def separated? (r : Reader) (first : Bool) : Option Reader :=
  if first then some r
  else match r.tokens with
    | .flowEntry :: ts => some (r.goOn ts)
    | _ => none

mutual

def node? (handles : Handles) (r : Reader) (place : Place) : Nat → Option Reader
  | 0 => none
  | n + 1 =>
    match r.tokens with
    | .reference name :: ts => some ((r.goOn ts).emit (.reference name))
    | _ => do
      let (p, r) ← r.properties? handles
      let ts := r.tokens.tail
      match r.tokens.head? with
      | some .blockEntry =>
        if place.unindented then unindentedItems? handles (r.emit (.sequenceStart p)) n
        else bare? r p
      | some (.scalar plain text) => some ((r.goOn ts).emit (.scalar p plain text))
      | some .flowSequenceStart =>
        flowItems? handles ((r.goOn ts).emit (.sequenceStart p)) true n
      | some .flowMappingStart =>
        flowPairs? handles ((r.goOn ts).emit (.mappingStart p)) true n
      | some .blockSequenceStart =>
        if place.block then blockItems? handles ((r.goOn ts).emit (.sequenceStart p)) n
        else bare? r p
      | some .blockMappingStart =>
        if place.block then blockPairs? handles ((r.goOn ts).emit (.mappingStart p)) n
        else bare? r p
      | _ => bare? r p

def blockItems? (handles : Handles) (r : Reader) : Nat → Option Reader
  | 0 => none
  | n + 1 =>
    match r.tokens with
    | .blockEntry :: ts => do
      let r ← nodeUnless? handles (r.goOn ts) inSequence endsEntry n
      blockItems? handles r n
    | .blockEnd :: ts => some ((r.goOn ts).emit .sequenceEnd)
    | _ => none

def unindentedItems? (handles : Handles) (r : Reader) : Nat → Option Reader
  | 0 => none
  | n + 1 =>
    match r.tokens with
    | .blockEntry :: ts => do
      let r ← nodeUnless? handles (r.goOn ts) inSequence endsUnindented n
      unindentedItems? handles r n
    | _ => some (r.emit .sequenceEnd)

def blockPairs? (handles : Handles) (r : Reader) : Nat → Option Reader
  | 0 => none
  | n + 1 =>
    match r.tokens with
    | .key :: ts => do
      let r ← nodeUnless? handles (r.goOn ts) inMapping endsPart n
      let r ← valueUnless? handles r inMapping endsPart n
      blockPairs? handles r n
    | .blockEnd :: ts => some ((r.goOn ts).emit .mappingEnd)
    | _ => none

def flowItems? (handles : Handles) (r : Reader) (first : Bool) : Nat → Option Reader
  | 0 => none
  | n + 1 =>
    match r.tokens with
    | .flowSequenceEnd :: ts => some ((r.goOn ts).emit .sequenceEnd)
    | _ => do
      let r ← r.separated? first
      match r.tokens with
      | .flowSequenceEnd :: ts => some ((r.goOn ts).emit .sequenceEnd)
      | .key :: ts =>
        let r ← pairKey? handles ((r.goOn ts).emit (.mappingStart .none)) n
        let r ← valueUnless? handles r inFlow endsFlowItem n
        flowItems? handles (r.emit .mappingEnd) false n
      | _ =>
        let r ← node? handles r inFlow n
        flowItems? handles r false n

/-- The key of a pair that stands for a mapping by itself; one that is left out takes the place of
the token behind it. -/
def pairKey? (handles : Handles) (r : Reader) : Nat → Option Reader
  | 0 => none
  | n + 1 =>
    match r.tokens with
    | .value :: ts => some (r.goOn ts).leftOut
    | .flowEntry :: ts => some (r.goOn ts).leftOut
    | .flowSequenceEnd :: ts => some (r.goOn ts).leftOut
    | _ => node? handles r inFlow n

def flowPairs? (handles : Handles) (r : Reader) (first : Bool) : Nat → Option Reader
  | 0 => none
  | n + 1 =>
    match r.tokens with
    | .flowMappingEnd :: ts => some ((r.goOn ts).emit .mappingEnd)
    | _ => do
      let r ← r.separated? first
      match r.tokens with
      | .flowMappingEnd :: ts => some ((r.goOn ts).emit .mappingEnd)
      | .key :: ts =>
        let r ← nodeUnless? handles (r.goOn ts) inFlow endsFlowKey n
        let r ← valueUnless? handles r inFlow endsFlowPart n
        flowPairs? handles r false n
      | _ =>
        let r ← node? handles r inFlow n
        flowPairs? handles r.leftOut false n

/-- A node, which the given tokens show to be left out. -/
def nodeUnless? (handles : Handles) (r : Reader) (place : Place) (stop : Token → Bool) :
    Nat → Option Reader
  | 0 => none
  | n + 1 => if r.tokens.head?.any stop then some r.leftOut else node? handles r place n

/-- The value behind a colon; without the colon it is left out. -/
def valueUnless? (handles : Handles) (r : Reader) (place : Place) (stop : Token → Bool) :
    Nat → Option Reader
  | 0 => none
  | n + 1 =>
    match r.tokens with
    | .value :: ts => nodeUnless? handles (r.goOn ts) place stop n
    | _ => some r.leftOut

end

end Reader

end FeatureGates.Yaml
