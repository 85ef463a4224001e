import FeatureGates.Text.Utf8

namespace FeatureGates

/-!
# Paths

A path is a byte string. Its parent and the paths below it are found by its bytes alone; the steps
that it takes are what the file system follows.
-/

abbrev Path := Bytes

def slash : UInt8 := 0x2F

def dot : UInt8 := 0x2E

/-- The name of an entry is one piece of a path, and neither stays nor goes up. -/
def Path.IsName (piece : Bytes) : Prop :=
  slash ∉ piece ∧ piece ≠ [] ∧ piece ≠ [dot] ∧ piece ≠ [dot, dot]

instance (piece : Bytes) : Decidable (Path.IsName piece) :=
  inferInstanceAs (Decidable (_ ∧ _ ∧ _ ∧ _))

@[ext]
structure Name where
  bytes : Bytes
  isName : Path.IsName bytes
deriving DecidableEq

/-- One step of a path. The last one may be a bare slash, which asks for a directory. -/
inductive Step
  | here
  | up
  | into (name : Name)
  | directory
deriving DecidableEq

namespace Path

def isAbsolute (p : Path) : Bool := p.head? == some slash

def pieces : Bytes → List Bytes
  | [] => [[]]
  | b :: bs =>
    if b = slash then [] :: pieces bs
    else
      match pieces bs with
      | [] => [[b]]
      | p :: ps => (b :: p) :: ps

def step? (piece : Bytes) : Option Step :=
  if h : IsName piece then some (.into ⟨piece, h⟩)
  else if piece = [dot] then some .here
  else if piece = [dot, dot] then some .up
  else none

/-- The steps, with the request for a directory that a last slash makes. -/
def steps (p : Path) : List Step :=
  (pieces p).filterMap step? ++ if p.getLast? = some slash then [.directory] else []

/-- The name at the end, unless the path ends with a step up or has no name. -/
def fileName? (p : Path) : Option Bytes :=
  match (((pieces p).filterMap step?).filter (· ≠ .here)).getLast? with
  | some (.into name) => some name.bytes
  | _ => none

def join (dir : Path) (name : Name) : Path :=
  if dir = [] ∨ dir.getLast? = some slash then dir ++ name.bytes else dir ++ slash :: name.bytes

/-- How many bytes at the front stand before the first name: a slash, or a dot that is a piece. -/
def rootLength (p : Path) : Nat :=
  if p.isAbsolute then 1
  else if p = [dot] ∨ p.take 2 = [dot, slash] then 1
  else 0

/-- The bytes without their last piece and the slash before it; the argument is reversed. -/
def dropPiece (reversed : Bytes) : Bytes := (reversed.dropWhile (· ≠ slash)).tail

/-- Drops pieces that lead nowhere from the end; the argument is reversed. -/
def trimEnd : Nat → Bytes → Bytes
  | 0, reversed => reversed
  | n + 1, reversed =>
    let piece := reversed.takeWhile (· ≠ slash)
    if reversed ≠ [] ∧ (piece = [] ∨ piece = [dot]) then trimEnd n (dropPiece reversed)
    else reversed

def parent? (p : Path) : Option Path :=
  let root := p.take p.rootLength
  let body := trimEnd p.length (p.drop p.rootLength).reverse
  if body ≠ [] then some (root ++ (trimEnd p.length (dropPiece body)).reverse)
  else if root = [dot] then some []
  else none

/-- The path and its parents as long as there are names, the longest first. -/
def ancestors (p : Path) : List Path := go p.length p
where
  go : Nat → Path → List Path
    | 0, _ => []
    | n + 1, p =>
      match p.parent? with
      | none => []
      | some q => p :: go n q

end Path

end FeatureGates
