namespace FeatureGates

/-!
# Document trees

What a manifest says, whatever notation it is written in. A mapping keeps its entries in document
order, and its keys may be any trees; a tag is named without its leading mark.
-/

/-- A 64-bit floating-point number by its bits; one value stands for all that are not a number. -/
structure Binary64 where
  bits : UInt64
deriving DecidableEq

namespace Binary64

def notANumber : Binary64 := ⟨0x7FF8000000000000⟩

def infinity : Binary64 := ⟨0x7FF0000000000000⟩

def neg (x : Binary64) : Binary64 := ⟨x.bits ^^^ 0x8000000000000000⟩

def magnitude (x : Binary64) : UInt64 := x.bits &&& 0x7FFFFFFFFFFFFFFF

def IsNaN (x : Binary64) : Bool := infinity.bits < x.magnitude

/-- Zero has two signs and one value. -/
def same (x y : Binary64) : Bool :=
  x.bits == y.bits || (x.magnitude == 0 && y.magnitude == 0) || (x.IsNaN && y.IsNaN)

end Binary64

inductive Tree
  | null
  | bool (b : Bool)
  | int (n : Int)
  | float (x : Binary64)
  | string (s : String)
  | sequence (items : List Tree)
  | mapping (entries : List (Tree × Tree))
  | tagged (tag : String) (value : Tree)

namespace Tree

instance : Inhabited Tree := ⟨null⟩

mutual

/-- Equality as keys: the entries of a mapping have no order. -/
def same : Tree → Tree → Bool
  | null, null => true
  | bool a, bool b => a == b
  | int a, int b => a == b
  | float a, float b => a.same b
  | string a, string b => a == b
  | sequence xs, sequence ys => sameItems xs ys
  | mapping es, mapping fs => es.length == fs.length && within es fs
  | tagged s x, tagged t y => s == t && same x y
  | _, _ => false
termination_by structural t => t

def sameItems : List Tree → List Tree → Bool
  | [], [] => true
  | x :: xs, y :: ys => same x y && sameItems xs ys
  | _, _ => false
termination_by structural ts => ts

def within : List (Tree × Tree) → List (Tree × Tree) → Bool
  | [], _ => true
  | (k, v) :: es, fs => fs.any (fun f => same k f.1 && same v f.2) && within es fs
termination_by structural es => es

end

/-- Adds an entry at the end, or gives an equal key its new value. -/
def putEntry (k v : Tree) : List (Tree × Tree) → List (Tree × Tree)
  | [] => [(k, v)]
  | e :: es => if k.same e.1 then (e.1, v) :: es else e :: putEntry k v es

/-- The mapping of a list of entries, in which a later equal key replaces the value. -/
def mappingOf (es : List (Tree × Tree)) : Tree :=
  mapping (es.foldl (fun fs e => putEntry e.1 e.2 fs) [])

/-- The mark in front of a tag is no part of its name, unless it is all of it. -/
def tagName (tag : String) : String :=
  match tag.toList with
  | '!' :: c :: cs => String.ofList (c :: cs)
  | _ => tag

def untagged : Tree → Tree
  | tagged _ t => untagged t
  | t => t

def text? (t : Tree) : Option String :=
  match t.untagged with
  | string s => some s
  | _ => none

def items? (t : Tree) : Option (List Tree) :=
  match t.untagged with
  | sequence ts => some ts
  | _ => none

def entries? (t : Tree) : Option (List (Tree × Tree)) :=
  match t.untagged with
  | mapping es => some es
  | _ => none

end Tree

end FeatureGates
