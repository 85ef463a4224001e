import FeatureGates.Json.Reader
import Mathlib.Tactic.SplitIfs

namespace FeatureGates

/-!
# Reading what has been written

The text of a value is read as that value, whatever stands behind it that cannot be taken for a part
of it: behind a number no digit may follow.
-/

namespace Json

/-! ## Blanks -/

theorem skipBlanks_cons_of_blank {c : Char} (h : isBlank c = true) (cs : List Char) :
    skipBlanks (c :: cs) = skipBlanks cs := by
  rw [skipBlanks, List.dropWhile_cons_of_pos h]
  rfl

theorem skipBlanks_cons {c : Char} (h : isBlank c = false) (cs : List Char) :
    skipBlanks (c :: cs) = c :: cs := by
  rw [skipBlanks, List.dropWhile_cons_of_neg (by simp [h])]

theorem skipBlanks_skipBlanks (cs : List Char) : skipBlanks (skipBlanks cs) = skipBlanks cs := by
  induction cs with
  | nil => rfl
  | cons c cs ih =>
      cases hc : isBlank c with
      | true => rw [skipBlanks_cons_of_blank hc, ih]
      | false => rw [skipBlanks_cons hc, skipBlanks_cons hc]

theorem skipBlanks_newLine (depth : Nat) (cs : List Char) :
    skipBlanks (newLine depth ++ cs) = skipBlanks cs := by
  have hspaces : ∀ n, skipBlanks (List.replicate n ' ' ++ cs) = skipBlanks cs := by
    intro n
    induction n with
    | zero => rfl
    | succ n ih => rw [List.replicate_succ, List.cons_append, skipBlanks_cons_of_blank rfl, ih]
  rw [newLine, List.cons_append, skipBlanks_cons_of_blank rfl, hspaces]

/-! ## Numbers -/

/-- The text does not go on with a digit. -/
def EndsNumber (rest : List Char) : Prop := ∀ c ∈ rest.head?, c.isDigit = false

theorem endsNumber_nil : EndsNumber [] := by
  intro c hc
  cases hc

theorem endsNumber_cons {c : Char} (h : c.isDigit = false) (cs : List Char) :
    EndsNumber (c :: cs) := by
  intro d hd
  cases hd
  exact h

theorem takeWhile_isDigit_append {digits rest : List Char} (h : ∀ c ∈ digits, c.isDigit = true)
    (hrest : EndsNumber rest) : (digits ++ rest).takeWhile Char.isDigit = digits := by
  rw [List.takeWhile_append_of_pos h]
  cases rest with
  | nil => simp
  | cons c rest => rw [List.takeWhile_cons_of_neg (by simp [hrest c rfl]), List.append_nil]

theorem dropWhile_isDigit_append {digits rest : List Char} (h : ∀ c ∈ digits, c.isDigit = true)
    (hrest : EndsNumber rest) : (digits ++ rest).dropWhile Char.isDigit = rest := by
  rw [List.dropWhile_append_of_pos h]
  cases rest with
  | nil => rfl
  | cons c rest => rw [List.dropWhile_cons_of_neg (by simp [hrest c rfl])]

theorem digitChar_eq_zero : ∀ n < 10, Nat.digitChar n = '0' → n = 0 := by decide

/-- Only zero is written with a zero in front. -/
theorem eq_zero_of_head?_toDigits {n : Nat} (h : (Nat.toDigits 10 n).head? = some '0') : n = 0 := by
  induction n using Nat.strongRecOn with
  | ind n ih =>
      by_cases hn : n < 10
      · rw [Nat.toDigits_of_lt_base hn, List.head?_cons, Option.some.injEq] at h
        exact digitChar_eq_zero n hn h
      · obtain ⟨d, hdigits⟩ : ∃ d, (Nat.toDigits 10 (n / 10)).head? = some d :=
          Option.isSome_iff_exists.mp (List.isSome_head?.mpr Nat.toDigits_ne_nil)
        have hhead : (Nat.toDigits 10 (n / 10)).head? = some '0' := by
          rw [Nat.toDigits_of_base_le (by omega) (by omega)] at h
          rwa [List.head?_append, hdigits, Option.some_or, ← hdigits] at h
        have hzero : n / 10 = 0 := ih (n / 10) (by omega) hhead
        omega

theorem natural?_toDigits (n : Nat) {rest : List Char} (hrest : EndsNumber rest) :
    natural? (Nat.toDigits 10 n ++ rest) = some (n, rest) := by
  have hdigits : ∀ c ∈ Nat.toDigits 10 n, c.isDigit = true := fun c hc =>
    Nat.isDigit_of_mem_toDigits (by omega) (by omega) hc
  have hproper : ¬ (Nat.toDigits 10 n = [] ∨
      (Nat.toDigits 10 n).head? = some '0' ∧ Nat.toDigits 10 n ≠ ['0']) := by
    rintro (hnil | ⟨hhead, hne⟩)
    · exact Nat.toDigits_ne_nil hnil
    · rw [eq_zero_of_head?_toDigits hhead] at hne
      exact hne (Nat.toDigits_zero 10)
  simp only [natural?, takeWhile_isDigit_append hdigits hrest,
    dropWhile_isDigit_append hdigits hrest, if_neg hproper, Nat.ofDigitChars_ten_toDigits]

theorem exists_toDigits_eq_cons (n : Nat) :
    ∃ c cs, Nat.toDigits 10 n = c :: cs ∧ c.isDigit = true := by
  obtain ⟨c, cs, h⟩ := List.exists_cons_of_ne_nil (Nat.toDigits_ne_nil (n := n) (b := 10))
  refine ⟨c, cs, h, Nat.isDigit_of_mem_toDigits (b := 10) (n := n) (by omega) (by omega) ?_⟩
  rw [h]
  exact List.mem_cons_self

/-- No other character starts a number. -/
def StartsNumber (c : Char) : Prop := c.isDigit = true ∨ c = '-'

theorem StartsNumber.ne {c : Char} (h : StartsNumber c) (d : Char)
    (hd : d.isDigit = false ∧ d ≠ '-' := by decide) : c ≠ d := by
  rintro rfl
  rcases h with hdigit | hminus
  · rw [hd.1] at hdigit
    cases hdigit
  · exact hd.2 hminus

theorem StartsNumber.isBlank {c : Char} (h : StartsNumber c) : isBlank c = false := by
  simp [Json.isBlank, h.ne ' ', h.ne '\n', h.ne '\r', h.ne '\t']

theorem exists_integerText_eq_cons (n : Int) :
    ∃ c cs, integerText n = c :: cs ∧ StartsNumber c := by
  obtain ⟨c, cs, hcs, hc⟩ := exists_toDigits_eq_cons n.natAbs
  rw [integerText, hcs]
  split_ifs
  · exact ⟨'-', c :: cs, rfl, .inr rfl⟩
  · exact ⟨c, cs, rfl, .inl hc⟩

theorem integer?_integerText (n : Int) {rest : List Char} (hrest : EndsNumber rest) :
    integer? (integerText n ++ rest) = some (n, rest) := by
  rw [integerText]
  split_ifs with hneg
  · rw [List.cons_append, List.nil_append, List.cons_append, integer?,
      natural?_toDigits _ hrest, Option.map_some]
    have hn : -Int.ofNat n.natAbs = n := by
      rw [Int.ofNat_eq_natCast]
      omega
    simp only [hn]
  · obtain ⟨c, cs, hcs, hc⟩ := exists_toDigits_eq_cons n.natAbs
    have hminus : c ≠ '-' := by
      rintro rfl
      exact absurd hc (by decide)
    have hn : Int.ofNat n.natAbs = n := by
      rw [Int.ofNat_eq_natCast]
      omega
    rw [List.nil_append, hcs, List.cons_append, integer?, ← List.cons_append, ← hcs,
      natural?_toDigits _ hrest, Option.map_some]
    · simp only [hn]
    · exact fun cs h => hminus (List.cons.inj h).1

/-! ## Strings -/

theorem escapedAs?_of_shortEscape? {c letter : Char} (h : shortEscape? c = some letter) :
    escapedAs? letter = some c := by
  unfold shortEscape? at h
  split_ifs at h with hc hc hc hc hc hc hc <;> cases h <;> subst hc <;> rfl

theorem unit?_control {c : Char} (h : c.toNat < 32) (cs : List Char) :
    unit? ('0' :: '0' :: hexDigit (c.toNat / 16) :: hexDigit c.toNat :: cs) =
      some (c.toNat, cs) := by
  have hzero : hexValue? '0' = some 0 := by decide
  have hvalue : 16 * (c.toNat / 16 % 16) + c.toNat % 16 = c.toNat := by omega
  simp [unit?, hzero, hvalue]

theorem string?_control (n : Nat) {c : Char} (h : c.toNat < 32) (cs : List Char) :
    string? (n + 1) ('\\' :: 'u' :: '0' :: '0' :: hexDigit (c.toNat / 16) :: hexDigit c.toNat ::
      cs) = (string? n cs).map fun (s, rest) => (c :: s, rest) := by
  have hnumbered : numbered? ('0' :: '0' :: hexDigit (c.toNat / 16) :: hexDigit c.toNat :: cs) =
      some (c, cs) := by
    rw [numbered?, unit?_control h]
    have hplain : c.toNat < 0xD800 ∨ 0xDFFF < c.toNat := .inl (by omega)
    simp [hplain]
  cases hs : string? n cs <;> simp [string?, hnumbered, hs]

theorem string?_letter (n : Nat) {c letter : Char} (h : escapedAs? letter = some c)
    (cs : List Char) :
    string? (n + 1) ('\\' :: letter :: cs) =
      (string? n cs).map fun (s, rest) => (c :: s, rest) := by
  have hletter : letter ≠ 'u' := by
    rintro rfl
    cases h
  cases hs : string? n cs <;> simp [string?, h, hs]

theorem string?_plain (n : Nat) {c : Char} (hquote : c ≠ '"') (hback : c ≠ '\\')
    (h : 32 ≤ c.toNat) (cs : List Char) :
    string? (n + 1) (c :: cs) = (string? n cs).map fun (s, rest) => (c :: s, rest) := by
  have hplain : ¬ (c = '\\' ∨ c.toNat < 32) := by
    rintro (rfl | hlt)
    · exact hback rfl
    · omega
  rw [string?, if_neg hplain]
  all_goals simp [hquote, hback]

theorem string?_escape (n : Nat) (c : Char) (cs : List Char) :
    string? (n + 1) (escape c ++ cs) =
      (string? n cs).map fun (s, rest) => (c :: s, rest) := by
  unfold escape
  split
  next letter hletter =>
    exact string?_letter n (escapedAs?_of_shortEscape? hletter) cs
  next hnone =>
    split_ifs with hcontrol
    · exact string?_control n hcontrol cs
    · have hquote : c ≠ '"' := by
        rintro rfl
        cases hnone
      have hback : c ≠ '\\' := by
        rintro rfl
        cases hnone
      exact string?_plain n hquote hback (by omega) cs

theorem string?_quoted {n : Nat} {s : List Char} (h : s.length < n) (rest : List Char) :
    string? n (s.flatMap escape ++ '"' :: rest) = some (s, rest) := by
  induction s generalizing n with
  | nil =>
      obtain ⟨n, rfl⟩ := Nat.exists_eq_add_one_of_ne_zero (Nat.ne_zero_of_lt h)
      rfl
  | cons c s ih =>
      obtain ⟨n, rfl⟩ := Nat.exists_eq_add_one_of_ne_zero (Nat.ne_zero_of_lt h)
      rw [List.length_cons] at h
      rw [List.flatMap_cons, List.append_assoc, string?_escape, ih (by omega), Option.map_some]

theorem length_le_length_flatMap_escape (s : List Char) :
    s.length ≤ (s.flatMap escape).length := by
  have hescape : ∀ c, 1 ≤ (escape c).length := by
    intro c
    unfold escape
    split
    next => simp
    next => split_ifs <;> simp
  induction s with
  | nil => simp
  | cons c s ih =>
      have hc := hescape c
      rw [List.flatMap_cons, List.length_append, List.length_cons]
      omega

/-- A string is read with as much fuel as there are characters. -/
theorem exists_quote_eq_cons (s : String) (rest : List Char) :
    ∃ cs, quote s ++ rest = '"' :: cs ∧ string? (cs.length + 1) cs = some (s.toList, rest) := by
  refine ⟨s.toList.flatMap escape ++ '"' :: rest, by simp [quote], ?_⟩
  have hlength := length_le_length_flatMap_escape s.toList
  apply string?_quoted
  rw [List.length_append]
  omega

/-! ## Values -/

theorem value?_skipBlanks (n : Nat) {cs ds : List Char} (h : skipBlanks cs = skipBlanks ds) :
    value? n cs = value? n ds := by
  cases n with
  | zero => rfl
  | succ n => simp only [value?, h]

theorem items?_skipBlanks (n : Nat) {cs ds : List Char} (h : skipBlanks cs = skipBlanks ds) :
    items? n cs = items? n ds := by
  cases n with
  | zero => rfl
  | succ n => simp only [items?, value?_skipBlanks n h]

theorem members?_skipBlanks (n : Nat) {cs ds : List Char} (h : skipBlanks cs = skipBlanks ds) :
    members? n cs = members? n ds := by
  cases n with
  | zero => rfl
  | succ n => simp only [members?, h]

theorem value?_number (n : Nat) {c : Char} (h : StartsNumber c) (cs : List Char) :
    value? (n + 1) (c :: cs) = (integer? (c :: cs)).map fun (k, cs) => (number k, cs) := by
  simp [value?, skipBlanks_cons h.isBlank, h.ne 'n', h.ne 't', h.ne 'f', h.ne '"', h.ne '[',
    h.ne '\x7b']

theorem value?_quote (n : Nat) (s : String) (rest : List Char) :
    value? (n + 1) (quote s ++ rest) = some (string s, rest) := by
  obtain ⟨cs, hcs, hs⟩ := exists_quote_eq_cons s rest
  rw [hcs, value?, skipBlanks_cons rfl]
  simp only [hs, Option.map_some, String.ofList_toList]

theorem value?_bracket {n : Nat} {cs rest : List Char} {js : List Json}
    (hopen : ∀ ds, skipBlanks cs ≠ ']' :: ds) (h : items? n cs = some (js, rest)) :
    value? (n + 1) ('[' :: cs) = some (array js, rest) := by
  have hblanks : items? n (skipBlanks cs) = some (js, rest) := by
    rw [items?_skipBlanks n (skipBlanks_skipBlanks cs), h]
  rw [value?, skipBlanks_cons rfl]
  simp only [hblanks, Option.map_some]

theorem value?_brace {n : Nat} {cs rest : List Char} {ms : List (String × Json)}
    (hopen : ∀ ds, skipBlanks cs ≠ '\x7d' :: ds) (h : members? n cs = some (ms, rest)) :
    value? (n + 1) ('\x7b' :: cs) = some (object ms, rest) := by
  have hblanks : members? n (skipBlanks cs) = some (ms, rest) := by
    rw [members?_skipBlanks n (skipBlanks_skipBlanks cs), h]
  rw [value?, skipBlanks_cons rfl]
  simp only [hblanks, Option.map_some]

theorem items?_end {n : Nat} {cs more rest : List Char} {j : Json}
    (hj : value? n cs = some (j, more)) (hmore : skipBlanks more = ']' :: rest) :
    items? (n + 1) cs = some ([j], rest) := by
  simp [items?, hj, hmore]

theorem items?_comma {n : Nat} {cs more ds rest : List Char} {j : Json} {js : List Json}
    (hj : value? n cs = some (j, more)) (hmore : skipBlanks more = ',' :: ds)
    (hjs : items? n ds = some (js, rest)) : items? (n + 1) cs = some (j :: js, rest) := by
  simp [items?, hj, hmore, hjs]

theorem members?_end {n : Nat} {cs ds more rest : List Char} {name : String} {j : Json}
    (hname : skipBlanks cs = quote name ++ ':' :: ds) (hj : value? n ds = some (j, more))
    (hmore : skipBlanks more = '\x7d' :: rest) :
    members? (n + 1) cs = some ([(name, j)], rest) := by
  obtain ⟨ps, hps, hread⟩ := exists_quote_eq_cons name (':' :: ds)
  have hcolon : skipBlanks (':' :: ds) = ':' :: ds := skipBlanks_cons rfl ds
  simp [members?, hname, hps, hread, hcolon, hj, hmore]

theorem members?_comma {n : Nat} {cs ds more es rest : List Char} {name : String} {j : Json}
    {ms : List (String × Json)} (hname : skipBlanks cs = quote name ++ ':' :: ds)
    (hj : value? n ds = some (j, more)) (hmore : skipBlanks more = ',' :: es)
    (hms : members? n es = some (ms, rest)) :
    members? (n + 1) cs = some ((name, j) :: ms, rest) := by
  obtain ⟨ps, hps, hread⟩ := exists_quote_eq_cons name (':' :: ds)
  have hcolon : skipBlanks (':' :: ds) = ':' :: ds := skipBlanks_cons rfl ds
  simp [members?, hname, hps, hread, hcolon, hj, hmore, hms]

/-! ## Lines -/

/-- A value starts neither with a blank nor with the bracket of an empty list. -/
theorem exists_write_eq_cons (depth : Nat) (j : Json) :
    ∃ c cs, write depth j = c :: cs ∧ isBlank c = false ∧ c ≠ ']' := by
  have hword : ∀ (c : Char) (cs : List Char), isBlank c = false → c ≠ ']' →
      ∃ d ds, c :: cs = d :: ds ∧ isBlank d = false ∧ d ≠ ']' :=
    fun c cs hblank hc => ⟨c, cs, rfl, hblank, hc⟩
  cases j with
  | null => exact hword 'n' _ rfl (by decide)
  | bool b => cases b <;> exact hword _ _ rfl (by decide)
  | number n =>
      obtain ⟨c, cs, hcs, hc⟩ := exists_integerText_eq_cons n
      exact ⟨c, cs, hcs, hc.isBlank, hc.ne ']'⟩
  | string s => exact hword '"' _ rfl (by decide)
  | array items => exact hword '[' _ rfl (by decide)
  | object members => exact hword '\x7b' _ rfl (by decide)

theorem skipBlanks_write (depth : Nat) (j : Json) (rest : List Char) :
    skipBlanks (write depth j ++ rest) = write depth j ++ rest := by
  obtain ⟨c, cs, hcs, hblank, -⟩ := exists_write_eq_cons depth j
  rw [hcs, List.cons_append, skipBlanks_cons hblank]

theorem endsNumber_newLine (depth : Nat) (cs : List Char) : EndsNumber (newLine depth ++ cs) :=
  endsNumber_cons (by decide) _

/-- What stands first on the lines of a collection. -/
theorem skipBlanks_lines (depth : Nat) (p : List Char) (ps : List (List Char))
    (rest : List Char) :
    ∃ ds, skipBlanks (lines depth (p :: ps) ++ rest) = skipBlanks (p ++ ds) := by
  cases ps with
  | nil =>
      refine ⟨newLine depth ++ rest, ?_⟩
      rw [lines, List.append_assoc, List.append_assoc, skipBlanks_newLine]
  | cons q ps =>
      refine ⟨',' :: lines depth (q :: ps) ++ rest, ?_⟩
      rw [lines, List.append_assoc, List.append_assoc, skipBlanks_newLine]
      intro h
      cases h

theorem skipBlanks_lines_ne (depth : Nat) (j : Json) (js : List Json) (rest : List Char) :
    ∀ ds, skipBlanks (lines depth (writeItems (depth + 1) (j :: js)) ++ rest) ≠ ']' :: ds := by
  intro ds h
  obtain ⟨es, hes⟩ := skipBlanks_lines depth (write (depth + 1) j) (writeItems (depth + 1) js) rest
  obtain ⟨c, cs, hcs, -, hc⟩ := exists_write_eq_cons (depth + 1) j
  rw [writeItems, hes, skipBlanks_write, hcs, List.cons_append] at h
  exact hc (List.cons.inj h).1

theorem skipBlanks_lines_quote_ne (depth : Nat) (name : String) (j : Json)
    (ms : List (String × Json)) (rest : List Char) :
    ∀ ds, skipBlanks (lines depth (writeMembers (depth + 1) ((name, j) :: ms)) ++ rest) ≠
      '\x7d' :: ds := by
  intro ds h
  obtain ⟨es, hes⟩ := skipBlanks_lines depth (quote name ++ ':' :: ' ' :: write (depth + 1) j)
    (writeMembers (depth + 1) ms) rest
  rw [writeMembers, hes] at h
  cases h

theorem skipBlanks_newLine_quote (depth : Nat) (name : String) (cs : List Char) :
    skipBlanks (newLine depth ++ (quote name ++ cs)) = quote name ++ cs := by
  rw [skipBlanks_newLine]
  exact skipBlanks_cons rfl _

theorem value?_space (n : Nat) (cs : List Char) : value? n (' ' :: cs) = value? n cs :=
  value?_skipBlanks n (skipBlanks_cons_of_blank rfl cs)

theorem value?_newLine (n depth : Nat) (cs : List Char) :
    value? n (newLine depth ++ cs) = value? n cs :=
  value?_skipBlanks n (skipBlanks_newLine depth cs)

-- The fuel exceeds the length of what is to be read. Each call takes one from the fuel, and each
-- nested value leaves at least a bracket, a comma or the blanks of its line to its surroundings.
mutual

theorem value?_write : ∀ (j : Json) {n depth : Nat} {rest : List Char}, EndsNumber rest →
    (write depth j).length < n → value? n (write depth j ++ rest) = some (j, rest)
  | null, n + 1, depth, rest, _, _ => rfl
  | bool true, n + 1, depth, rest, _, _ => rfl
  | bool false, n + 1, depth, rest, _, _ => rfl
  | number k, n + 1, depth, rest, hrest, _ => by
      obtain ⟨c, cs, hcs, hc⟩ := exists_integerText_eq_cons k
      have hread := integer?_integerText k hrest
      rw [hcs, List.cons_append] at hread
      rw [write, hcs, List.cons_append, value?_number n hc, hread, Option.map_some]
  | string s, n + 1, depth, rest, _, _ => value?_quote n s rest
  | array [], n + 1, depth, rest, _, _ => rfl
  | array (j :: js), n + 1, depth, rest, _, hn => by
      have hjs : (lines depth (writeItems (depth + 1) (j :: js))).length < n := by
        simp only [write, List.length_append, List.length_cons] at hn
        omega
      have hread := value?_bracket (skipBlanks_lines_ne depth j js (']' :: rest))
        (items?_lines j js hjs)
      simpa [write] using hread
  | object [], n + 1, depth, rest, _, _ => rfl
  | object ((name, j) :: ms), n + 1, depth, rest, _, hn => by
      have hms : (lines depth (writeMembers (depth + 1) ((name, j) :: ms))).length < n := by
        simp only [write, List.length_append, List.length_cons] at hn
        omega
      have hread := value?_brace (skipBlanks_lines_quote_ne depth name j ms ('\x7d' :: rest))
        (members?_lines name j ms hms)
      simpa [write] using hread

theorem items?_lines : ∀ (j : Json) (js : List Json) {n depth : Nat} {rest : List Char},
    (lines depth (writeItems (depth + 1) (j :: js))).length < n →
    items? n (lines depth (writeItems (depth + 1) (j :: js)) ++ ']' :: rest) =
      some (j :: js, rest)
  | j, [], n + 1, depth, rest, hn => by
      have hlength : (write (depth + 1) j).length < n := by
        simp only [writeItems, lines, newLine, List.length_append, List.length_cons] at hn
        omega
      have hj := value?_write j (endsNumber_newLine depth (']' :: rest)) hlength
      have hread := items?_end ((value?_newLine n (depth + 1) _).trans hj)
        (skipBlanks_newLine depth (']' :: rest))
      simpa [writeItems, lines] using hread
  | j, k :: js, n + 1, depth, rest, hn => by
      have hlength : (write (depth + 1) j).length < n ∧
          (lines depth (writeItems (depth + 1) (k :: js))).length < n := by
        simp only [writeItems, lines, newLine, List.length_append, List.length_cons] at hn ⊢
        omega
      have hj := value?_write j (endsNumber_cons (c := ',') (by decide)
        (lines depth (writeItems (depth + 1) (k :: js)) ++ ']' :: rest)) hlength.1
      have hread := items?_comma ((value?_newLine n (depth + 1) _).trans hj)
        (skipBlanks_cons rfl _) (items?_lines k js hlength.2)
      simpa [writeItems, lines] using hread

theorem members?_lines : ∀ (name : String) (j : Json) (ms : List (String × Json)) {n depth : Nat}
    {rest : List Char},
    (lines depth (writeMembers (depth + 1) ((name, j) :: ms))).length < n →
    members? n (lines depth (writeMembers (depth + 1) ((name, j) :: ms)) ++ '\x7d' :: rest) =
      some ((name, j) :: ms, rest)
  | name, j, [], n + 1, depth, rest, hn => by
      have hlength : (write (depth + 1) j).length < n := by
        simp only [writeMembers, lines, newLine, List.length_append, List.length_cons] at hn
        omega
      have hj := value?_write j (endsNumber_newLine depth ('\x7d' :: rest)) hlength
      have hread := members?_end (skipBlanks_newLine_quote (depth + 1) name _)
        ((value?_space n _).trans hj) (skipBlanks_newLine depth ('\x7d' :: rest))
      simpa [writeMembers, lines] using hread
  | name, j, (other, k) :: ms, n + 1, depth, rest, hn => by
      have hlength : (write (depth + 1) j).length < n ∧
          (lines depth (writeMembers (depth + 1) ((other, k) :: ms))).length < n := by
        simp only [writeMembers, lines, newLine, List.length_append, List.length_cons] at hn ⊢
        omega
      have hj := value?_write j (endsNumber_cons (c := ',') (by decide)
        (lines depth (writeMembers (depth + 1) ((other, k) :: ms)) ++ '\x7d' :: rest)) hlength.1
      have hread := members?_comma (skipBlanks_newLine_quote (depth + 1) name _)
        ((value?_space n _).trans hj) (skipBlanks_cons rfl _) (members?_lines other k ms hlength.2)
      simpa [writeMembers, lines] using hread

end

/-- The text of a value is read as that value. -/
theorem read?_text (j : Json) : read? j.text = some j := by
  have hvalue : value? (2 * (write 0 j).length + 1) (write 0 j ++ []) = some (j, []) :=
    value?_write j endsNumber_nil (by omega)
  rw [List.append_nil] at hvalue
  simp only [read?, text, String.toList_ofList, hvalue]
  rfl

end Json

end FeatureGates
