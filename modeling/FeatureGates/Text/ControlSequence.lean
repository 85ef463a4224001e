namespace FeatureGates

/-!
# Control sequences

A terminal obeys some characters instead of showing them: control characters other than blanks and
line ends, and the sequences that an escape character opens. What the program says of a text that it
was given is free of them.
-/

/-- How far a control sequence has been read. -/
inductive ControlSequence
  /-- Up to the escape character. -/
  | escape
  /-- Up to the punctuation before the letter that ends it. -/
  | intermediate
  /-- Up to some of the numbers that a command is given. -/
  | parameters
  /-- Within a text for the system, such as a title. -/
  | title
  /-- At the start of a command for a device. -/
  | device
  | deviceParameters
  | deviceIntermediate
  /-- Within a text for a device, or for whoever may listen. -/
  | message
deriving DecidableEq

namespace ControlSequence

def opener : Char := '\x1b'

/-- The two characters that break off any sequence. -/
def cancels (c : Char) : Bool := c = '\x18' || c = '\x1a'

def isBlank (c : Char) : Bool := c ∈ ['\t', '\n', '\x0c', '\r']

def shows (c : Char) : Bool := isBlank c || (0x20 ≤ c.toNat && c ≠ '\x7f')

def showsBlanks : ControlSequence → Bool
  | escape | intermediate | parameters => true
  | _ => false

def within (first last : Nat) (c : Char) : Bool := first ≤ c.toNat && c.toNat ≤ last

/-- The characters of which some byte ends a text for a device. -/
def endsMessage (c : Char) : Bool := (String.utf8EncodeChar c).contains 0x9C

/-- The sequence with one more character, unless that completes it. -/
def next? (s : ControlSequence) (c : Char) : Option ControlSequence :=
  if c = opener then some escape
  else if cancels c then none
  else
    match s with
    | escape =>
      if within 0x20 0x2F c then some intermediate
      else if c = '[' then some parameters
      else if c = ']' then some title
      else if c = 'P' then some device
      else if c ∈ ['X', '^', '_'] then some message
      else if within 0x30 0x7E c then none
      else some escape
    | intermediate => if within 0x30 0x7E c then none else some intermediate
    | parameters => if within 0x40 0x7E c then none else some parameters
    | title => if c = '\x07' then none else some title
    | device =>
      if within 0x20 0x2F c then some deviceIntermediate
      else if within 0x30 0x3F c then some deviceParameters
      else if within 0x40 0x7E c then some message
      else some device
    | deviceParameters =>
      if within 0x20 0x2F c then some deviceIntermediate
      else if within 0x3C 0x7E c then some message
      else some deviceParameters
    | deviceIntermediate => if within 0x30 0x7E c then some message else some deviceIntermediate
    | message => if endsMessage c then none else some message

end ControlSequence

/-- What is shown to the user: a text as a whole, or a stream as it comes. A blank inside of a
sequence ends it in a text; in a stream the sequence goes on at the next control character. -/
inductive Medium
  | text
  | stream
deriving DecidableEq

namespace Medium

/-- Whether characters are shown, while a sequence may wait to go on, or belong to a sequence. -/
inductive Reading
  | shown (waiting : Option ControlSequence)
  | hidden (s : ControlSequence)

namespace Reading

/-- Behind what completes or continues a sequence. -/
def resume (s : Option ControlSequence) : Reading := s.elim (shown none) hidden

end Reading

open ControlSequence

def interrupted (s : ControlSequence) : Medium → Reading
  | text => .shown none
  | stream => .shown (some s)

def visible (m : Medium) : Reading → List Char → List Char
  | _, [] => []
  | .shown waiting, c :: cs =>
    if shows c then c :: m.visible (.shown (if c.toNat < 0x80 then waiting else none)) cs
    else if c = opener then m.visible (.hidden .escape) cs
    else if cancels c then m.visible (.shown none) cs
    else m.visible (.resume waiting) cs
  | .hidden s, c :: cs =>
    if isBlank c && s.showsBlanks then c :: m.visible (m.interrupted s) cs
    else m.visible (.resume (s.next? c)) cs

def displayed (m : Medium) (s : String) : String := String.ofList (m.visible (.shown none) s.toList)

end Medium

end FeatureGates
