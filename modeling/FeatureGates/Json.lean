import FeatureGates.Text.Hex
import FeatureGates.Tree

namespace FeatureGates

/-!
# JSON values

A value is written over indented lines, one for each item or member. Members keep their order.
-/

inductive Json
  | null
  | bool (b : Bool)
  | number (n : Int)
  | string (s : String)
  | array (items : List Json)
  | object (members : List (String × Json))

namespace Json

instance : Inhabited Json := ⟨null⟩

/-! ## Strings -/

/-- The letter that stands behind a backslash for a character. -/
def shortEscape? (c : Char) : Option Char :=
  if c = '"' then some '"'
  else if c = '\\' then some '\\'
  else if c = '\x08' then some 'b'
  else if c = '\t' then some 't'
  else if c = '\n' then some 'n'
  else if c = '\x0c' then some 'f'
  else if c = '\r' then some 'r'
  else none

/-- Quotation marks, backslashes and controls are escaped; all else stands for itself. -/
def escape (c : Char) : List Char :=
  match shortEscape? c with
  | some letter => ['\\', letter]
  | none =>
    if c.toNat < 32 then
      ['\\', 'u', '0', '0', hexDigit (c.toNat / 16), hexDigit c.toNat]
    else [c]

def quote (s : String) : List Char := '"' :: s.toList.flatMap escape ++ ['"']

/-! ## Numbers -/

def integerText (n : Int) : List Char :=
  (if n < 0 then ['-'] else []) ++ Nat.toDigits 10 n.natAbs

/-! ## Layout -/

def newLine (depth : Nat) : List Char := '\n' :: List.replicate (2 * depth) ' '

/-- The lines of a collection, whose pieces are set one deeper than its ends. -/
def lines (depth : Nat) : List (List Char) → List Char
  | [] => []
  | [p] => newLine (depth + 1) ++ p ++ newLine depth
  | p :: ps => newLine (depth + 1) ++ p ++ ',' :: lines depth ps

mutual

def write (depth : Nat) : Json → List Char
  | null => "null".toList
  | bool true => "true".toList
  | bool false => "false".toList
  | number n => integerText n
  | string s => quote s
  | array items => '[' :: lines depth (writeItems (depth + 1) items) ++ [']']
  | object members => '\x7b' :: lines depth (writeMembers (depth + 1) members) ++ ['\x7d']

def writeItems (depth : Nat) : List Json → List (List Char)
  | [] => []
  | j :: js => write depth j :: writeItems depth js

def writeMembers (depth : Nat) : List (String × Json) → List (List Char)
  | [] => []
  | (k, j) :: ms => (quote k ++ ':' :: ' ' :: write depth j) :: writeMembers depth ms

end

def text (j : Json) : String := String.ofList (write 0 j)

end Json

namespace Tree

/-- The key of a member: a text, or a number or Boolean written out. -/
def memberName? : Tree → Option String
  | string s => some s
  | int n => some (toString n)
  | bool b => some (toString b)
  | _ => none

mutual

/-- The tree as a JSON value, unless it has a key that cannot name a member. -/
def json? : Tree → Option Json
  | null => some .null
  | bool b => some (.bool b)
  | int n => some (.number n)
  | float _ => none
  | string s => some (.string s)
  | sequence ts => (jsonItems? ts).map .array
  | mapping es => (jsonMembers? es).map .object
  | tagged _ _ => none

def jsonItems? : List Tree → Option (List Json)
  | [] => some []
  | t :: ts =>
    match json? t, jsonItems? ts with
    | some j, some js => some (j :: js)
    | _, _ => none

def jsonMembers? : List (Tree × Tree) → Option (List (String × Json))
  | [] => some []
  | (k, v) :: es =>
    match memberName? k, json? v, jsonMembers? es with
    | some name, some j, some ms => some ((name, j) :: ms)
    | _, _, _ => none

end

end Tree

namespace Json

mutual

/-- The tree that a value denotes. -/
def tree : Json → Tree
  | null => .null
  | bool b => .bool b
  | number n => .int n
  | string s => .string s
  | array items => .sequence (trees items)
  | object members => .mapping (entries members)

def trees : List Json → List Tree
  | [] => []
  | j :: js => tree j :: trees js

def entries : List (String × Json) → List (Tree × Tree)
  | [] => []
  | (name, j) :: ms => (.string name, tree j) :: entries ms

end

mutual

/-- The tree that a value denotes is written as that value. -/
theorem json?_tree : ∀ j : Json, j.tree.json? = some j
  | null => rfl
  | bool _ => rfl
  | number _ => rfl
  | string _ => rfl
  | array items => by rw [tree, Tree.json?, jsonItems?_trees items]; rfl
  | object members => by rw [tree, Tree.json?, jsonMembers?_entries members]; rfl

theorem jsonItems?_trees : ∀ js : List Json, Tree.jsonItems? (trees js) = some js
  | [] => rfl
  | j :: js => by rw [trees, Tree.jsonItems?, json?_tree j, jsonItems?_trees js]

theorem jsonMembers?_entries :
    ∀ ms : List (String × Json), Tree.jsonMembers? (entries ms) = some ms
  | [] => rfl
  | (name, j) :: ms => by
    rw [entries, Tree.jsonMembers?, Tree.memberName?, json?_tree j, jsonMembers?_entries ms]

end

end Json

end FeatureGates
