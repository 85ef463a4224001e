import FeatureGates.Text.Utf8

namespace FeatureGates

/-!
# The words of a command line

Each argument is taken for one of four kinds of word by its first bytes.
-/

def hyphen : UInt8 := 0x2D

def equalsSign : UInt8 := 0x3D

inductive Word
  | separator
  | long (name : Bytes) (value : Option Bytes)
  | short (letters : Bytes)
  | plain (text : Bytes)
deriving DecidableEq

namespace Word

/-- What stands before the first equals sign, and behind it if there is one. -/
def nameAndValue : Bytes → Bytes × Option Bytes
  | [] => ([], none)
  | b :: bs =>
    if b = equalsSign then ([], some bs) else (b :: (nameAndValue bs).1, (nameAndValue bs).2)

theorem nameAndValue_of_not_mem {name : Bytes} (h : equalsSign ∉ name) :
    nameAndValue name = (name, none) := by
  induction name with
  | nil => rfl
  | cons b bs ih =>
      obtain ⟨hb, hbs⟩ := not_or.mp (mt List.mem_cons.mpr h)
      simp [nameAndValue, Ne.symm hb, ih hbs]

theorem nameAndValue_append {name : Bytes} (value : Bytes) (h : equalsSign ∉ name) :
    nameAndValue (name ++ equalsSign :: value) = (name, some value) := by
  induction name with
  | nil => simp [nameAndValue]
  | cons b bs ih =>
      obtain ⟨hb, hbs⟩ := not_or.mp (mt List.mem_cons.mpr h)
      simp [nameAndValue, Ne.symm hb, ih hbs]

/-- A single hyphen is plain. -/
def ofBytes : Bytes → Word
  | [] => .plain []
  | [a] => .plain [a]
  | a :: b :: rest =>
    if a ≠ hyphen then .plain (a :: b :: rest)
    else if b ≠ hyphen then .short (b :: rest)
    else if rest = [] then .separator
    else .long (nameAndValue rest).1 (nameAndValue rest).2

theorem ofBytes_of_head? {b : Bytes} (h : b.head? ≠ some hyphen) : ofBytes b = .plain b := by
  match b with
  | [] => rfl
  | [_] => rfl
  | a :: _ :: _ =>
    have ha : a ≠ hyphen := by simpa using h
    simp [ofBytes, ha]

theorem ofBytes_long {name : Bytes} (hn : name ≠ []) (h : equalsSign ∉ name) :
    ofBytes (hyphen :: hyphen :: name) = .long name none := by
  simp [ofBytes, hn, nameAndValue_of_not_mem h]

theorem ofBytes_long_value {name : Bytes} (value : Bytes) (h : equalsSign ∉ name) :
    ofBytes (hyphen :: hyphen :: (name ++ equalsSign :: value)) = .long name (some value) := by
  simp [ofBytes, nameAndValue_append value h]

end Word

end FeatureGates
