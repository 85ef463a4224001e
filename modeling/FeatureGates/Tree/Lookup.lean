import FeatureGates.Ordered
import FeatureGates.Tree

namespace FeatureGates

/-!
# Looking up what stands at a path

A path is a list of names. Each step looks through the tags of the mapping it enters and finds the
entry whose key is the name itself, without a tag.
-/

namespace Tree

/-- The value of the entry with a name for its key. -/
def valueOf? (name : String) : List (Tree × Tree) → Option Tree
  | [] => none
  | (string s, v) :: es => if s = name then some v else valueOf? name es
  | _ :: es => valueOf? name es

def field? (t : Tree) (name : String) : Option Tree := t.entries?.bind (valueOf? name)

def at? (t : Tree) : List String → Option Tree
  | [] => some t
  | name :: path => (t.field? name).bind fun v => v.at? path
termination_by structural path => path

def textAt? (t : Tree) (path : List String) : Option String := (t.at? path).bind text?

def itemsAt? (t : Tree) (path : List String) : Option (List Tree) := (t.at? path).bind items?

/-- The entry as two texts, if key and value are texts under their tags. -/
def textPair? (e : Tree × Tree) : Option (String × String) :=
  match e.1.text?, e.2.text? with
  | some k, some v => some (k, v)
  | _, _ => none

/-- The entries with texts for both key and value; the last one of a key wins. -/
def textsAt (t : Tree) (path : List String) : OrderedMap String String :=
  match (t.at? path).bind entries? with
  | none => ∅
  | some es => OrderedMap.ofList (es.filterMap textPair?)

@[simp] theorem at?_nil (t : Tree) : t.at? [] = some t := rfl

theorem at?_cons (t : Tree) (name : String) (path : List String) :
    t.at? (name :: path) = (t.field? name).bind fun v => v.at? path := rfl

theorem at?_append (t : Tree) (p q : List String) :
    t.at? (p ++ q) = (t.at? p).bind fun v => v.at? q := by
  induction p generalizing t with
  | nil => rfl
  | cons name p ih => simp [at?_cons, ih, Option.bind_assoc]

end Tree

end FeatureGates
