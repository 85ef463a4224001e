import FeatureGates.Proofs.JsonText
import Mathlib.Data.List.Forall2

namespace FeatureGates

/-!
# What a tree is written as

A tree is written as the value that has the same parts. A value is laid out over lines, one for each
item and member, and each collection sets what is in it two blanks deeper.
-/

namespace Tree

/-- The text of a key that names a member. -/
inductive NamesMember : Tree → String → Prop
  | string (s : String) : NamesMember (string s) s
  | int (n : Int) : NamesMember (int n) (toString n)
  | bool (b : Bool) : NamesMember (bool b) (if b then "true" else "false")

/-- The value has the parts of the tree, in the same order. -/
inductive WritesAs : Tree → Json → Prop
  | null : WritesAs null .null
  | bool (b : Bool) : WritesAs (bool b) (.bool b)
  | int (n : Int) : WritesAs (int n) (.number n)
  | string (s : String) : WritesAs (string s) (.string s)
  | sequence {items : List Tree} {values : List Json}
      (h : List.Forall₂ WritesAs items values) : WritesAs (sequence items) (.array values)
  | mapping {entries : List (Tree × Tree)} {members : List (String × Json)}
      (hnames : List.Forall₂ NamesMember (entries.map Prod.fst) (members.map Prod.fst))
      (hvalues : List.Forall₂ WritesAs (entries.map Prod.snd) (members.map Prod.snd)) :
      WritesAs (mapping entries) (.object members)

theorem namesMember_of_memberName? {key : Tree} {name : String} (h : key.memberName? = some name) :
    key.NamesMember name := by
  cases key with
  | string _ =>
      cases h
      exact .string _
  | int _ =>
      cases h
      exact .int _
  | bool b =>
      cases h
      cases b <;> exact .bool _
  | _ => cases h

mutual

theorem writesAs_of_json? : ∀ {t : Tree} {j : Json}, t.json? = some j → t.WritesAs j
  | null, _, rfl => .null
  | bool b, _, rfl => .bool b
  | int n, _, rfl => .int n
  | string s, _, rfl => .string s
  | sequence items, j, h => by
    rw [json?, Option.map_eq_some_iff] at h
    obtain ⟨values, hvalues, rfl⟩ := h
    exact .sequence (writesAs_of_jsonItems? hvalues)
  | mapping entries, j, h => by
    rw [json?, Option.map_eq_some_iff] at h
    obtain ⟨members, hmembers, rfl⟩ := h
    exact .mapping (writesAs_of_jsonMembers? hmembers).1 (writesAs_of_jsonMembers? hmembers).2

theorem writesAs_of_jsonItems? : ∀ {items : List Tree} {values : List Json},
    jsonItems? items = some values → List.Forall₂ WritesAs items values
  | [], _, rfl => .nil
  | t :: ts, values, h => by
    rw [jsonItems?] at h
    split at h
    next j js hj hjs =>
      cases h
      exact .cons (writesAs_of_json? hj) (writesAs_of_jsonItems? hjs)
    next => cases h

theorem writesAs_of_jsonMembers? : ∀ {entries : List (Tree × Tree)}
    {members : List (String × Json)}, jsonMembers? entries = some members →
    List.Forall₂ NamesMember (entries.map Prod.fst) (members.map Prod.fst) ∧
      List.Forall₂ WritesAs (entries.map Prod.snd) (members.map Prod.snd)
  | [], _, rfl => ⟨.nil, .nil⟩
  | (k, v) :: es, members, h => by
    rw [jsonMembers?] at h
    split at h
    next name j ms hname hj hms =>
      cases h
      obtain ⟨hnames, hvalues⟩ := writesAs_of_jsonMembers? hms
      exact ⟨.cons (namesMember_of_memberName? hname) hnames, .cons (writesAs_of_json? hj) hvalues⟩
    next => cases h

end

end Tree

namespace Json

/-! ## Lines -/

def indented (ls : List (List Char)) : List (List Char) := ls.map fun l => ' ' :: ' ' :: l

/-- Puts a text in front of the first line. -/
def opened (front : List Char) : List (List Char) → List (List Char)
  | [] => []
  | l :: ls => (front ++ l) :: ls

/-- Puts a character behind the last line. -/
def ended (c : Char) : List (List Char) → List (List Char)
  | [] => []
  | [l] => [l ++ [c]]
  | l :: ls => l :: ended c ls

mutual

/-- The lines of a value. -/
def layout : Json → List (List Char)
  | null => ["null".toList]
  | bool b => [(if b then "true" else "false").toList]
  | number n => [(toString n).toList]
  | string s => [quote s]
  | array items =>
    if items.isEmpty then [['[', ']']] else ['['] :: indented (itemLayout items) ++ [[']']]
  | object members =>
    if members.isEmpty then [['\x7b', '\x7d']]
    else ['\x7b'] :: indented (memberLayout members) ++ [['\x7d']]

def itemLayout : List Json → List (List Char)
  | [] => []
  | j :: js => (if js.isEmpty then layout j else ended ',' (layout j)) ++ itemLayout js

def memberLayout : List (String × Json) → List (List Char)
  | [] => []
  | (name, j) :: ms =>
    let ls := opened (quote name ++ [':', ' ']) (layout j)
    (if ms.isEmpty then ls else ended ',' ls) ++ memberLayout ms

end

/-- Lines at a depth, each behind its line feed. -/
def setAt (depth : Nat) (ls : List (List Char)) : List Char :=
  ls.flatMap fun l => newLine depth ++ l

theorem newLine_succ (depth : Nat) : newLine (depth + 1) = newLine depth ++ [' ', ' '] := by
  simp [newLine, Nat.mul_add, List.replicate_add]

theorem setAt_indented (depth : Nat) (ls : List (List Char)) :
    setAt depth (indented ls) = setAt (depth + 1) ls := by
  simp [setAt, indented, List.flatMap_map, newLine_succ]

theorem setAt_append (depth : Nat) (ls ms : List (List Char)) :
    setAt depth (ls ++ ms) = setAt depth ls ++ setAt depth ms := by
  simp [setAt]

/-- A collection over more lines than one. -/
theorem setAt_between (depth : Nat) (first last : Char) (ls : List (List Char)) :
    setAt depth ([first] :: (indented ls ++ [[last]])) =
      newLine depth ++ first :: (setAt (depth + 1) ls ++ (newLine depth ++ [last])) := by
  rw [← setAt_indented]
  simp [setAt]

theorem setAt_ended (depth : Nat) (c : Char) {ls : List (List Char)} (h : ls ≠ []) :
    setAt depth (ended c ls) = setAt depth ls ++ [c] := by
  induction ls with
  | nil => exact absurd rfl h
  | cons l ls ih =>
      cases ls with
      | nil => simp [setAt, ended]
      | cons k ls => simp only [ended, setAt, List.flatMap_cons] at ih ⊢; simp [ih]

theorem setAt_opened (depth : Nat) (front : List Char) {ls : List (List Char)} (h : ls ≠ [])
    {text : List Char} (ht : setAt depth ls = newLine depth ++ text) :
    setAt depth (opened front ls) = newLine depth ++ front ++ text := by
  cases ls with
  | nil => exact absurd rfl h
  | cons l ls =>
      simp only [setAt, opened, List.flatMap_cons, List.append_assoc, List.append_cancel_left_eq]
        at ht ⊢
      rw [ht]

theorem integerText_eq (n : Int) : integerText n = (toString n).toList := by
  cases n with
  | ofNat m => simp [integerText, toString, Int.repr, Nat.repr]
  | negSucc m => simp [integerText, toString, Int.repr, Nat.repr]

theorem opened_ne_nil {front : List Char} {ls : List (List Char)} (h : ls ≠ []) :
    opened front ls ≠ [] := by
  cases ls with
  | nil => exact absurd rfl h
  | cons l ls => nofun

theorem layout_ne_nil (j : Json) : j.layout ≠ [] := by
  cases j with
  | array items => cases items <;> nofun
  | object members => cases members <;> nofun
  | _ => nofun

mutual

/-- A value whose first line is at some depth has all its lines there. -/
theorem setAt_layout : ∀ (j : Json) (depth : Nat),
    setAt depth j.layout = newLine depth ++ write depth j
  | null, depth => by simp [setAt, layout, write]
  | bool true, depth => by simp [setAt, layout, write]
  | bool false, depth => by simp [setAt, layout, write]
  | number n, depth => by simp [setAt, layout, write, integerText_eq]
  | string s, depth => by simp [setAt, layout, write]
  | array items, depth => by
    cases hitems : items.isEmpty with
    | true => simp [setAt, layout, write, writeItems, lines, List.isEmpty_iff.mp hitems]
    | false =>
        have hlines := setAt_itemLayout items depth (List.isEmpty_eq_false_iff.mp hitems)
        simp [layout, hitems, setAt_between, write, ← hlines]
  | object members, depth => by
    cases hmembers : members.isEmpty with
    | true => simp [setAt, layout, write, writeMembers, lines, List.isEmpty_iff.mp hmembers]
    | false =>
        have hlines := setAt_memberLayout members depth (List.isEmpty_eq_false_iff.mp hmembers)
        simp [layout, hmembers, setAt_between, write, ← hlines]

theorem setAt_itemLayout : ∀ (items : List Json) (depth : Nat), items ≠ [] →
    setAt (depth + 1) (itemLayout items) ++ newLine depth =
      lines depth (writeItems (depth + 1) items)
  | [j], depth, _ => by simp [itemLayout, setAt_layout j, writeItems, lines]
  | j :: k :: js, depth, _ => by
    have hrest := setAt_itemLayout (k :: js) depth nofun
    rw [itemLayout]
    simp [setAt_append, setAt_ended _ _ j.layout_ne_nil, setAt_layout j, writeItems, lines, hrest]

theorem setAt_memberLayout : ∀ (members : List (String × Json)) (depth : Nat), members ≠ [] →
    setAt (depth + 1) (memberLayout members) ++ newLine depth =
      lines depth (writeMembers (depth + 1) members)
  | [(name, j)], depth, _ => by
    simp [memberLayout, setAt_opened _ _ j.layout_ne_nil (setAt_layout j _), writeMembers, lines]
  | (name, j) :: (other, k) :: ms, depth, _ => by
    have hrest := setAt_memberLayout ((other, k) :: ms) depth nofun
    rw [memberLayout]
    simp [setAt_append, setAt_ended _ _ (opened_ne_nil j.layout_ne_nil),
      setAt_opened _ _ j.layout_ne_nil (setAt_layout j _), writeMembers, lines, hrest]

end

theorem intercalate_cons (sep l : List Char) (ls : List (List Char)) :
    sep.intercalate (l :: ls) = l ++ ls.flatMap fun k => sep ++ k := by
  induction ls generalizing l with
  | nil => simp [List.intercalate]
  | cons k ls ih => simp [List.intercalate_cons_cons, ih]

/-- The text of a value is its lines, with a line feed between any two. -/
theorem text_eq (j : Json) : j.text.toList = ['\n'].intercalate j.layout := by
  have hlines := setAt_layout j 0
  obtain ⟨l, ls, h⟩ := List.exists_cons_of_ne_nil j.layout_ne_nil
  rw [h] at hlines ⊢
  simpa [setAt, newLine, intercalate_cons, text, eq_comm] using hlines

end Json

end FeatureGates
