namespace FeatureGates

/-!
# Parts of a text

A text holds another one if the other stands somewhere in it in one piece.
-/

/-- Whether the first list stands somewhere in the second, tried at each place from the front. -/
def isPartOf (part : List Char) : List Char → Bool
  | [] => part.isEmpty
  | c :: cs => part.isPrefixOf (c :: cs) || isPartOf part cs

theorem isPartOf_iff {part text : List Char} : isPartOf part text = true ↔ part <:+: text := by
  induction text with
  | nil => simp [isPartOf]
  | cons c cs ih =>
      rw [isPartOf, Bool.or_eq_true, List.isPrefixOf_iff_prefix, ih, List.infix_cons_iff]

def holds (text part : String) : Bool := isPartOf part.toList text.toList

theorem holds_iff {text part : String} :
    holds text part = true ↔ part.toList <:+: text.toList := isPartOf_iff

end FeatureGates
