import FeatureGates.Yaml.Event

namespace FeatureGates.Yaml

/-!
# The one document of a stream

Directives come before a document that starts with a mark. A second document is refused, and a
stream may hold none.
-/

structure Prologue where
  versioned : Bool
  handles : Handles

namespace Prologue

def none : Prologue := ⟨false, []⟩

def add? (p : Prologue) : Directive → Option Prologue
  | .version major minor =>
    if p.versioned ∨ major ≠ 1 ∨ minor ≠ 1 ∧ minor ≠ 2 then .none
    else some { p with versioned := true }
  | .handle name start =>
    if (p.handles.lookup name).isSome then .none
    else some { p with handles := p.handles ++ [(name, start)] }

/-- The standard handles keep their meaning where no directive changes it. -/
def allHandles (p : Prologue) : Handles := p.handles ++ standardHandles

end Prologue

def prologue? (p : Prologue) : List Token → Option (Prologue × List Token)
  | .directive d :: ts => (p.add? d).bind fun p => prologue? p ts
  | ts => some (p, ts)

def startsDocument : Token → Bool
  | .directive _ | .documentStart => true
  | _ => false

def endsContent : Token → Bool
  | .documentEnd => true
  | t => startsDocument t

def isDocumentEnd : Token → Bool
  | .documentEnd => true
  | _ => false

/-- The root node, and nothing but end marks behind it. -/
def root? (handles : Handles) (ts : List Token) : Option (List (Event String)) := do
  let r ← Reader.node? handles ⟨ts, []⟩ Reader.inSequence (4 * ts.length + 8)
  if r.tokens.all isDocumentEnd then some r.events.reverse else none

/-- The events of the only document; none if the stream is empty. -/
def events? (ts : List Token) : Option (List (Event String)) :=
  match ts with
  | [] => some []
  | t :: _ =>
    if !startsDocument t then root? standardHandles ts
    else do
      let (p, ts) ← prologue? .none ts
      match ts with
      | .documentStart :: ts =>
        if ts.head?.all endsContent then
          if ts.all isDocumentEnd then some [.scalar .none true ""] else none
        else root? p.allHandles ts
      | _ => none

end FeatureGates.Yaml
