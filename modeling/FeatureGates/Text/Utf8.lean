import FeatureGates.Text.Hex

namespace FeatureGates

/-!
# Bytes and the text they spell

File contents, names and arguments are byte strings. A byte string is the text of at most one
string; shown in a message, each piece of it that spells no character becomes U+FFFD.
-/

abbrev Bytes := List UInt8

namespace Bytes

def ofString (s : String) : Bytes := s.toUTF8.data.toList

def text? (b : Bytes) : Option String := String.fromUTF8? ⟨b.toArray⟩

@[simp] theorem text?_ofString (s : String) : (ofString s).text? = some s := by
  have h : (⟨(ofString s).toArray⟩ : ByteArray) = s.toByteArray := by
    simp [ofString, String.toUTF8]
  rw [text?, h, String.fromUTF8?, dif_pos s.isValidUTF8]
  rfl

theorem ofString_injective {s t : String} (h : ofString s = ofString t) : s = t := by
  simpa using congrArg text? h

theorem ofString_append (s t : String) : ofString (s ++ t) = ofString s ++ ofString t := by
  simp [ofString, String.toUTF8, String.toByteArray_append, ByteArray.data_append]

/-- The ranges of the bytes that follow a given first byte; a byte without them opens no
character. -/
def followers (b : UInt8) : Option (List (UInt8 × UInt8)) :=
  let any : UInt8 × UInt8 := (0x80, 0xBF)
  if b < 0x80 then some []
  else if b < 0xC2 then none
  else if b < 0xE0 then some [any]
  else if b = 0xE0 then some [(0xA0, 0xBF), any]
  else if b = 0xED then some [(0x80, 0x9F), any]
  else if b < 0xF0 then some [any, any]
  else if b = 0xF0 then some [(0x90, 0xBF), any, any]
  else if b < 0xF4 then some [any, any, any]
  else if b = 0xF4 then some [(0x80, 0x8F), any, any]
  else none

/-- How many leading bytes lie in the ranges, each in its own. -/
def matching : List (UInt8 × UInt8) → Bytes → Nat
  | (lo, hi) :: ranges, b :: bs => if lo ≤ b ∧ b ≤ hi then matching ranges bs + 1 else 0
  | _, _ => 0

def codePoint (b : UInt8) (rest : Bytes) : Nat :=
  let lead := b.toNat % (1 <<< if rest.isEmpty then 7 else 6 - rest.length)
  rest.foldl (fun n c => n * 64 + c.toNat % 64) lead

/-- The characters spelled, with one U+FFFD for every longest piece that starts a character and
does not complete it, and for every byte that starts none. -/
def replaced : Bytes → List Char
  | [] => []
  | b :: bs =>
    match followers b with
    | none => '\uFFFD' :: replaced bs
    | some ranges =>
      let n := matching ranges bs
      let c := if n = ranges.length then Char.ofNat (codePoint b (bs.take n)) else '\uFFFD'
      c :: replaced (bs.drop n)
termination_by b => b.length

/-- The bytes as shown in messages and reports. -/
def display (b : Bytes) : String := b.text?.getD (String.ofList b.replaced)

/-- The character that the first bytes spell. -/
def firstChar? (b : Bytes) : Option Char :=
  match b with
  | [] => none
  | x :: xs =>
    (followers x).bind fun ranges =>
      if matching ranges xs = ranges.length then
        some (Char.ofNat (codePoint x (xs.take ranges.length)))
      else none

def hex (b : Bytes) : String :=
  String.ofList (b.flatMap fun x => [hexDigit (x.toNat / 16), hexDigit x.toNat])

end Bytes

end FeatureGates
