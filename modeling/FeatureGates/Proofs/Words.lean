import FeatureGates.CommandLine

namespace FeatureGates

/-!
# The arguments that spell a word

An argument is read as one word, and the kind of the word tells how the argument is written.
-/

theorem Bytes.text?_eq_some_iff {b : Bytes} {s : String} : b.text? = some s ↔ b = ofString s := by
  constructor
  · intro h
    rw [text?, String.fromUTF8?] at h
    split at h
    next =>
      obtain rfl := Option.some.inj h
      rfl
    next => cases h
  · intro h
    rw [h, text?_ofString]

namespace Word

theorem eq_of_nameAndValue {b name : Bytes} {value : Option Bytes}
    (h : nameAndValue b = (name, value)) :
    b = name ++ value.elim [] (equalsSign :: ·) := by
  induction b generalizing name with
  | nil =>
      cases h
      rfl
  | cons x b ih =>
      rw [nameAndValue] at h
      split at h
      next hx =>
        cases h
        rw [hx]
        rfl
      next =>
        cases h
        rw [List.cons_append, ← ih rfl]

/-- The text does not begin with a hyphen, or it is a single one. -/
def IsPlain (text : Bytes) : Prop := text.head? ≠ some hyphen ∨ text = [hyphen]

/-- How each kind of word is written. -/
inductive SpelledBy : Word → Bytes → Prop
  | separator : SpelledBy .separator [hyphen, hyphen]
  | long (name : Bytes) (value : Option Bytes) :
      SpelledBy (.long name value)
        (hyphen :: hyphen :: (name ++ value.elim [] (equalsSign :: ·)))
  | short (letters : Bytes) : SpelledBy (.short letters) (hyphen :: letters)
  | plain {text : Bytes} (h : IsPlain text) : SpelledBy (.plain text) text

theorem spelledBy_ofBytes : ∀ argument : Bytes, (ofBytes argument).SpelledBy argument
  | [] => .plain (.inl nofun)
  | [a] => by
      by_cases ha : a = hyphen
      · exact .plain (.inr (by rw [ha]))
      · exact .plain (.inl fun h => ha (Option.some.inj h))
  | a :: b :: rest => by
      rw [ofBytes]
      split
      next ha => exact .plain (.inl fun h => ha (Option.some.inj h))
      next ha =>
        obtain rfl := Decidable.not_not.mp ha
        split
        next => exact .short (b :: rest)
        next hb =>
          obtain rfl := Decidable.not_not.mp hb
          split
          next hrest =>
            rw [hrest]
            exact .separator
          next =>
            have hlong := SpelledBy.long (nameAndValue rest).1 (nameAndValue rest).2
            rwa [← eq_of_nameAndValue rfl] at hlong

theorem ofBytes_of_isPlain {text : Bytes} (h : IsPlain text) : ofBytes text = .plain text := by
  rcases h with h | h
  · exact ofBytes_of_head? h
  · rw [h]
    rfl

end Word

namespace OptionName

/-- The argument that announces the value of the option. -/
def flag (o : OptionName) : Bytes := hyphen :: hyphen :: Bytes.ofString o.long

/-- The argument that gives the option a value by itself. -/
def assign (o : OptionName) (value : Bytes) : Bytes := o.flag ++ equalsSign :: value

theorem ofString_long_ne_nil (o : OptionName) : Bytes.ofString o.long ≠ [] := by
  cases o <;> decide

theorem equalsSign_not_mem_long (o : OptionName) : equalsSign ∉ Bytes.ofString o.long := by
  cases o <;> decide

theorem ofLong?_eq_some_iff {o : OptionName} {name : Bytes} :
    ofLong? name = some o ↔ name = Bytes.ofString o.long := by
  constructor
  · intro h
    have hlong := List.find?_some h
    exact (of_decide_eq_true hlong).symm
  · intro h
    rw [h]
    cases o <;> decide

theorem ofBytes_flag (o : OptionName) :
    Word.ofBytes o.flag = .long (Bytes.ofString o.long) none :=
  Word.ofBytes_long o.ofString_long_ne_nil o.equalsSign_not_mem_long

theorem ofBytes_assign (o : OptionName) (value : Bytes) :
    Word.ofBytes (o.assign value) = .long (Bytes.ofString o.long) (some value) :=
  Word.ofBytes_long_value value o.equalsSign_not_mem_long

/-- The argument gives the option, with a value or without. -/
inductive GivenBy (n : OptionName) : Bytes → Prop
  | flag : GivenBy n n.flag
  | assign (value : Bytes) : GivenBy n (n.assign value)

/-- The option that an argument gives, if it gives one. -/
def ofArgument? (argument : Bytes) : Option OptionName :=
  match Word.ofBytes argument with
  | .long name _ => ofLong? name
  | _ => none

theorem ofArgument?_flag (n : OptionName) : ofArgument? n.flag = some n := by
  rw [ofArgument?, ofBytes_flag]
  exact ofLong?_eq_some_iff.mpr rfl

theorem ofArgument?_assign (n : OptionName) (value : Bytes) :
    ofArgument? (n.assign value) = some n := by
  rw [ofArgument?, ofBytes_assign]
  exact ofLong?_eq_some_iff.mpr rfl

theorem ofArgument?_of_isPlain {text : Bytes} (h : Word.IsPlain text) :
    ofArgument? text = none := by
  rw [ofArgument?, Word.ofBytes_of_isPlain h]

theorem GivenBy.ofArgument?_eq {n : OptionName} {argument : Bytes} (h : n.GivenBy argument) :
    ofArgument? argument = some n := by
  cases h with
  | flag => exact n.ofArgument?_flag
  | assign value => exact n.ofArgument?_assign value

theorem assign_inj {m n : OptionName} {v w : Bytes} (h : m.assign v = n.assign w) :
    m = n ∧ v = w := by
  have hword := congrArg Word.ofBytes h
  rw [ofBytes_assign, ofBytes_assign, Word.long.injEq, Option.some.injEq] at hword
  have hname : some m = some n := by
    rw [← m.ofArgument?_assign v, ← n.ofArgument?_assign w, h]
  exact ⟨Option.some.inj hname, hword.2⟩

theorem assign_ne_flag (m n : OptionName) (value : Bytes) : m.assign value ≠ n.flag := by
  intro h
  have hword := congrArg Word.ofBytes h
  rw [ofBytes_assign, ofBytes_flag, Word.long.injEq] at hword
  cases hword.2

end OptionName

end FeatureGates
