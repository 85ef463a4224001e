import FeatureGates.Json

namespace FeatureGates

/-!
# Reading JSON values

Every text of a value is read, with blanks between its parts and in any spelling of its strings;
numbers are integers. Each function returns what it has read and the text behind it.
-/

namespace Json

def isBlank (c : Char) : Bool := c == ' ' || c == '\n' || c == '\r' || c == '\t'

def skipBlanks (cs : List Char) : List Char := cs.dropWhile isBlank

/-! ## Strings -/

def escapedAs? : Char → Option Char
  | '"' => some '"'
  | '\\' => some '\\'
  | '/' => some '/'
  | 'b' => some '\x08'
  | 't' => some '\t'
  | 'n' => some '\n'
  | 'f' => some '\x0c'
  | 'r' => some '\r'
  | _ => none

def unit? : List Char → Option (Nat × List Char)
  | a :: b :: c :: d :: cs =>
    ([a, b, c, d].foldlM (fun n x => (hexValue? x).map (16 * n + ·)) 0).map fun n => (n, cs)
  | _ => none

/-- A character by one number, or by two of which the first announces the second. -/
def numbered? (cs : List Char) : Option (Char × List Char) := do
  let (high, cs) ← unit? cs
  if high < 0xD800 ∨ 0xDFFF < high then some (Char.ofNat high, cs)
  else if 0xDBFF < high then none
  else
    match cs with
    | '\\' :: 'u' :: cs => do
      let (low, cs) ← unit? cs
      if 0xDC00 ≤ low ∧ low ≤ 0xDFFF then
        some (Char.ofNat (0x10000 + (high - 0xD800) * 0x400 + (low - 0xDC00)), cs)
      else none
    | _ => none

def string? : Nat → List Char → Option (List Char × List Char)
  | 0, _ => none
  | n + 1, cs =>
    match cs with
    | [] => none
    | '"' :: cs => some ([], cs)
    | '\\' :: 'u' :: cs => do
      let (c, cs) ← numbered? cs
      let (s, cs) ← string? n cs
      some (c :: s, cs)
    | '\\' :: letter :: cs => do
      let c ← escapedAs? letter
      let (s, cs) ← string? n cs
      some (c :: s, cs)
    | c :: cs =>
      if c = '\\' ∨ c.toNat < 32 then none
      else (string? n cs).map fun (s, cs) => (c :: s, cs)

/-! ## Numbers -/

/-- Digits of which the first is no zero, unless it is the only one. -/
def natural? (cs : List Char) : Option (Nat × List Char) :=
  let digits := cs.takeWhile Char.isDigit
  if digits = [] ∨ (digits.head? = some '0' ∧ digits ≠ ['0']) then none
  else some (Nat.ofDigitChars 10 digits 0, cs.dropWhile Char.isDigit)

def integer? : List Char → Option (Int × List Char)
  | '-' :: cs => (natural? cs).map fun (n, cs) => (-Int.ofNat n, cs)
  | cs => (natural? cs).map fun (n, cs) => (Int.ofNat n, cs)

/-! ## Values -/

mutual

def value? : Nat → List Char → Option (Json × List Char)
  | 0, _ => none
  | n + 1, cs =>
    match skipBlanks cs with
    | 'n' :: 'u' :: 'l' :: 'l' :: cs => some (null, cs)
    | 't' :: 'r' :: 'u' :: 'e' :: cs => some (bool true, cs)
    | 'f' :: 'a' :: 'l' :: 's' :: 'e' :: cs => some (bool false, cs)
    | '"' :: cs => (string? (cs.length + 1) cs).map fun (s, cs) => (string (String.ofList s), cs)
    | '[' :: cs =>
      match skipBlanks cs with
      | ']' :: cs => some (array [], cs)
      | cs => (items? n cs).map fun (js, cs) => (array js, cs)
    | '\x7b' :: cs =>
      match skipBlanks cs with
      | '\x7d' :: cs => some (object [], cs)
      | cs => (members? n cs).map fun (ms, cs) => (object ms, cs)
    | cs => (integer? cs).map fun (k, cs) => (number k, cs)

/-- One item or more, with the bracket that ends them. -/
def items? : Nat → List Char → Option (List Json × List Char)
  | 0, _ => none
  | n + 1, cs => do
    let (j, cs) ← value? n cs
    match skipBlanks cs with
    | ',' :: cs => (items? n cs).map fun (js, cs) => (j :: js, cs)
    | ']' :: cs => some ([j], cs)
    | _ => none

/-- One member or more, with the brace that ends them. -/
def members? : Nat → List Char → Option (List (String × Json) × List Char)
  | 0, _ => none
  | n + 1, cs =>
    match skipBlanks cs with
    | '"' :: cs => do
      let (name, cs) ← string? (cs.length + 1) cs
      match skipBlanks cs with
      | ':' :: cs => do
        let (j, cs) ← value? n cs
        let member := (String.ofList name, j)
        match skipBlanks cs with
        | ',' :: cs => (members? n cs).map fun (ms, cs) => (member :: ms, cs)
        | '\x7d' :: cs => some ([member], cs)
        | _ => none
      | _ => none
    | _ => none

end

/-- The value that a text is written for, with nothing but blanks around it. -/
def read? (text : String) : Option Json :=
  let cs := text.toList
  match value? (2 * cs.length + 1) cs with
  | some (j, rest) => if skipBlanks rest = [] then some j else none
  | none => none

end Json

end FeatureGates
