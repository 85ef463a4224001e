import FeatureGates.Decimal
import FeatureGates.Text.Utf8

namespace FeatureGates.Yaml

/-!
# The values of scalars

A plain scalar is a null, a Boolean, a number or else a text, by its spelling; a core tag demands
one of these.
-/

def isNull (cs : List Char) : Bool :=
  cs ∈ ["null".toList, "Null".toList, "NULL".toList, "~".toList]

def bool? (cs : List Char) : Option Bool :=
  if cs ∈ ["true".toList, "True".toList, "TRUE".toList] then some true
  else if cs ∈ ["false".toList, "False".toList, "FALSE".toList] then some false
  else none

def isSign (c : Char) : Bool := c == '+' || c == '-'

def dropPlus : List Char → List Char
  | '+' :: cs => cs
  | cs => cs

def dropSign (cs : List Char) : List Char := if cs.head?.any isSign then cs.tail else cs

/-- Digits that start with a zero spell no number. -/
def isPaddedNumber (cs : List Char) : Bool :=
  match dropSign cs with
  | '0' :: c :: ds => (c :: ds).all Char.isDigit
  | _ => false

def digitOf? (base : Nat) (c : Char) : Option Nat :=
  let n :=
    if c.isDigit then c.toNat - '0'.toNat
    else if 'a' ≤ c ∧ c ≤ 'z' then c.toNat - 'a'.toNat + 10
    else if 'A' ≤ c ∧ c ≤ 'Z' then c.toNat - 'A'.toNat + 10
    else base
  if n < base then some n else none

def digits? (base : Nat) (cs : List Char) : Option Nat :=
  if cs = [] then none else cs.foldlM (fun n c => (digitOf? base c).map (base * n + ·)) 0

/-- The base that the first two characters of a number announce. -/
def based? : List Char → Option (Nat × List Char)
  | '0' :: 'x' :: cs => some (16, cs)
  | '0' :: 'o' :: cs => some (8, cs)
  | '0' :: 'b' :: cs => some (2, cs)
  | _ => none

def natural? (cs : List Char) : Option Nat :=
  match based? (dropPlus cs) with
  | some (base, ds) => digits? base ds
  | none => if isPaddedNumber cs then none else digits? 10 (dropPlus cs)

def negative? : List Char → Option Int
  | '-' :: cs =>
    match based? cs with
    | some (base, ds) => (digits? base ds).map fun n => -n
    | none => if isPaddedNumber cs then none else (digits? 10 cs).map fun n => -n
  | _ => none

def integer? (cs : List Char) : Option Int := ((natural? cs).map Int.ofNat).or (negative? cs)

def isHeld (n : Int) : Bool := -Int.ofNat (Nat.pow 2 63) ≤ n && n < Int.ofNat (Nat.pow 2 64)

/-- Integers too wide to hold, but not so wide that they are taken for floating-point numbers. -/
def isRefused (n : Int) : Bool :=
  !isHeld n && -Int.ofNat (Nat.pow 2 127) ≤ n && n < Int.ofNat (Nat.pow 2 128)

def infinities : List (List Char) := [".inf".toList, ".Inf".toList, ".INF".toList]

def float? (cs : List Char) : Option Binary64 :=
  let unsigned := dropPlus cs
  if unsigned.length < cs.length ∧ unsigned.head?.any isSign then none
  else if unsigned ∈ infinities then some .infinity
  else if cs ∈ infinities.map ('-' :: ·) then some (Binary64.neg .infinity)
  else if cs ∈ [".nan".toList, ".NaN".toList, ".NAN".toList] then some .notANumber
  else
    let read (ds : List Char) : Option Binary64 :=
      ((Decimal.read? ds).map Decimal.toBinary64).filter (· ≠ .infinity)
    match unsigned with
    | '-' :: ds => (read ds).map Binary64.neg
    | ds => read ds

/-- What a plain scalar without a core tag is; integers too wide to hold are refused. -/
def plainValue? (text : String) : Option Tree :=
  let cs := text.toList
  if cs = [] ∨ isNull cs then some .null
  else match bool? cs with
    | some b => some (.bool b)
    | none =>
      match (integer? cs).filter fun n => isHeld n || isRefused n with
      | some n => if isHeld n then some (.int n) else none
      | none =>
        match if isPaddedNumber cs then none else float? cs with
        | some x => some (.float x)
        | none => some (.string text)

def coreTag (name : String) : Bytes := Bytes.ofString ("tag:yaml.org,2002:" ++ name)

def taggedValue? (tag : Bytes) (plain : Bool) (text : String) : Option Tree :=
  let cs := text.toList
  if tag = coreTag "bool" then (bool? cs).map .bool
  else if tag = coreTag "int" then ((integer? cs).filter isHeld).map .int
  else if tag = coreTag "float" then (float? cs).map .float
  else if tag = coreTag "null" then if isNull cs then some .null else none
  else if tag.head? = some 0x21 ∧ plain then plainValue? text
  else some (.string text)

/-- The name of a tag that is no core tag. An exclamation mark alone names itself. -/
def localTag? (tag : Option Bytes) : Option String :=
  match tag with
  | some (0x21 :: rest) => (Bytes.text? (if rest = [] then [0x21] else rest)).map Tree.tagName
  | _ => none

end FeatureGates.Yaml
