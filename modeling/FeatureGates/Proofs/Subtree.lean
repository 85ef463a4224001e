import FeatureGates.Tree.Lookup
import Mathlib.Data.List.Induction

namespace FeatureGates

/-!
# What stands at a path

A path leads through mappings, each of which may stand under any number of tags, by keys that stand
under none. These are relations on trees; the look-ups are shown to compute them.
-/

namespace Tree

/-- The tree is another one, which is no tagged value, with any number of tags around it. -/
inductive Wraps : Tree → Tree → Prop
  | bare {t : Tree} (h : ∀ tag v, t ≠ tagged tag v) : Wraps t t
  | tag (tag : String) {t u : Tree} (h : Wraps t u) : Wraps (tagged tag t) u

theorem wraps_untagged : ∀ t : Tree, t.Wraps t.untagged
  | tagged tag t => .tag tag (wraps_untagged t)
  | null | bool _ | int _ | float _ | string _ | sequence _ | mapping _ => .bare nofun

theorem wraps_iff {t u : Tree} : t.Wraps u ↔ t.untagged = u := by
  constructor
  · intro h
    induction h with
    | @bare t hbare =>
        cases t with
        | tagged tag v => exact absurd rfl (hbare tag v)
        | _ => rfl
    | tag _ _ ih => exact ih
  · rintro rfl
    exact wraps_untagged t

theorem text?_eq_some_iff {t : Tree} {s : String} : t.text? = some s ↔ t.Wraps (string s) := by
  rw [wraps_iff, text?]
  split
  next s' h => rw [h, Option.some.injEq, string.injEq]
  next h => exact ⟨nofun, fun hs => absurd hs (h s)⟩

theorem items?_eq_some_iff {t : Tree} {items : List Tree} :
    t.items? = some items ↔ t.Wraps (sequence items) := by
  rw [wraps_iff, items?]
  split
  next items' h => rw [h, Option.some.injEq, sequence.injEq]
  next h => exact ⟨nofun, fun hs => absurd hs (h items)⟩

theorem entries?_eq_some_iff {t : Tree} {entries : List (Tree × Tree)} :
    t.entries? = some entries ↔ t.Wraps (mapping entries) := by
  rw [wraps_iff, entries?]
  split
  next entries' h => rw [h, Option.some.injEq, mapping.injEq]
  next h => exact ⟨nofun, fun hs => absurd hs (h entries)⟩

/-! ## Paths -/

/-- The first entry whose key is the name itself has the value. -/
def HasField (t : Tree) (name : String) (v : Tree) : Prop :=
  ∃ before after, t.Wraps (mapping (before ++ (string name, v) :: after)) ∧
    ∀ e ∈ before, e.1 ≠ string name

theorem valueOf?_cons_of_ne {name : String} {key w : Tree} (h : key ≠ string name)
    (entries : List (Tree × Tree)) :
    valueOf? name ((key, w) :: entries) = valueOf? name entries := by
  cases key with
  | string s => rw [valueOf?, if_neg fun hs => h (congrArg string hs)]
  | _ => rfl

theorem valueOf?_eq_some_iff {name : String} {v : Tree} {entries : List (Tree × Tree)} :
    valueOf? name entries = some v ↔
      ∃ before after, entries = before ++ (string name, v) :: after ∧
        ∀ e ∈ before, e.1 ≠ string name := by
  induction entries with
  | nil => simp [valueOf?]
  | cons e entries ih =>
      obtain ⟨key, w⟩ := e
      by_cases hkey : key = string name
      · subst hkey
        rw [valueOf?, if_pos rfl, Option.some.injEq]
        constructor
        · rintro rfl
          exact ⟨[], entries, rfl, nofun⟩
        · rintro ⟨_ | ⟨e, before⟩, after, heq, hbefore⟩
          · cases heq
            rfl
          · cases heq
            exact absurd rfl (hbefore _ List.mem_cons_self)
      · rw [valueOf?_cons_of_ne hkey, ih]
        constructor
        · rintro ⟨before, after, rfl, hbefore⟩
          exact ⟨(key, w) :: before, after, rfl, List.forall_mem_cons.mpr ⟨hkey, hbefore⟩⟩
        · rintro ⟨_ | ⟨e, before⟩, after, heq, hbefore⟩
          · cases heq
            exact absurd rfl hkey
          · cases heq
            exact ⟨before, after, rfl, fun e he => hbefore e (List.mem_cons_of_mem _ he)⟩

theorem field?_eq_some_iff {t v : Tree} {name : String} :
    t.field? name = some v ↔ t.HasField name v := by
  rw [field?, Option.bind_eq_some_iff]
  constructor
  · rintro ⟨entries, hentries, hvalue⟩
    obtain ⟨before, after, rfl, hbefore⟩ := valueOf?_eq_some_iff.mp hvalue
    exact ⟨before, after, entries?_eq_some_iff.mp hentries, hbefore⟩
  · rintro ⟨before, after, hwraps, hbefore⟩
    exact ⟨_, entries?_eq_some_iff.mpr hwraps,
      valueOf?_eq_some_iff.mpr ⟨before, after, rfl, hbefore⟩⟩

inductive LeadsTo : Tree → List String → Tree → Prop
  | here (t : Tree) : LeadsTo t [] t
  | step {t v u : Tree} {name : String} {path : List String} (h : t.HasField name v)
      (hv : LeadsTo v path u) : LeadsTo t (name :: path) u

theorem at?_eq_some_iff {t u : Tree} {path : List String} :
    t.at? path = some u ↔ t.LeadsTo path u := by
  induction path generalizing t with
  | nil =>
      rw [at?_nil, Option.some.injEq]
      constructor
      · rintro rfl
        exact .here t
      · rintro ⟨⟩
        rfl
  | cons name path ih =>
      rw [at?_cons, Option.bind_eq_some_iff]
      constructor
      · rintro ⟨v, hv, hu⟩
        exact .step (field?_eq_some_iff.mp hv) (ih.mp hu)
      · intro h
        cases h with
        | step hv hu => exact ⟨_, field?_eq_some_iff.mpr hv, ih.mpr hu⟩

/-- The path leads to a tree, whatever tags are around that. -/
def Holds (t : Tree) (path : List String) (u : Tree) : Prop :=
  ∃ v, t.LeadsTo path v ∧ v.Wraps u

theorem Holds.unique {t u u' : Tree} {path : List String} (h : t.Holds path u)
    (h' : t.Holds path u') : u = u' := by
  obtain ⟨v, hv, hu⟩ := h
  obtain ⟨v', hv', hu'⟩ := h'
  have hsame : v = v' :=
    Option.some.inj ((at?_eq_some_iff.mpr hv).symm.trans (at?_eq_some_iff.mpr hv'))
  rw [← wraps_iff.mp hu, ← wraps_iff.mp hu', hsame]

theorem textAt?_eq_some_iff {t : Tree} {path : List String} {s : String} :
    t.textAt? path = some s ↔ t.Holds path (string s) := by
  simp only [textAt?, Option.bind_eq_some_iff, at?_eq_some_iff, text?_eq_some_iff, Holds]

theorem itemsAt?_eq_some_iff {t : Tree} {path : List String} {items : List Tree} :
    t.itemsAt? path = some items ↔ t.Holds path (sequence items) := by
  simp only [itemsAt?, Option.bind_eq_some_iff, at?_eq_some_iff, items?_eq_some_iff, Holds]

/-! ## Texts by keys -/

/-- The entries give a text for a key. Both may be tagged; of several such entries for one key the
last one counts. -/
def LastText (entries : List (Tree × Tree)) (key value : String) : Prop :=
  ∃ before k v after, entries = before ++ (k, v) :: after ∧ k.Wraps (string key) ∧
    v.Wraps (string value) ∧ ∀ e ∈ after, e.1.Wraps (string key) → ∀ s, ¬ e.2.Wraps (string s)

theorem textPair?_eq_some_iff {e : Tree × Tree} {key value : String} :
    textPair? e = some (key, value) ↔ e.1.Wraps (string key) ∧ e.2.Wraps (string value) := by
  rw [← text?_eq_some_iff, ← text?_eq_some_iff, textPair?]
  split
  next hk hv => rw [hk, hv, Option.some.injEq, Option.some.injEq, Option.some.injEq, Prod.mk.injEq]
  next h => exact ⟨nofun, fun hkv => absurd hkv.2 (h _ _ hkv.1)⟩

end Tree

namespace OrderedMap

variable {α β : Type} [Ord α] [Std.TransOrd α] [Std.LawfulEqOrd α] [DecidableEq α]

theorem get?_ofList_concat (es : List (α × β)) (e : α × β) (k : α) :
    (ofList (es ++ [e])).get? k = if k = e.1 then some e.2 else (ofList es).get? k := by
  rw [ofList, List.foldl_append, List.foldl_cons, List.foldl_nil, get?_insert, ofList]

end OrderedMap

namespace Tree

theorem lastText_concat_iff {entries : List (Tree × Tree)} {e : Tree × Tree} {key value : String} :
    LastText (entries ++ [e]) key value ↔
      textPair? e = some (key, value) ∨
        (∀ s, textPair? e ≠ some (key, s)) ∧ LastText entries key value := by
  simp only [LastText, ne_eq, textPair?_eq_some_iff]
  constructor
  · rintro ⟨before, k, v, after, heq, hk, hv, hafter⟩
    rcases List.eq_nil_or_concat after with rfl | ⟨after, last, rfl⟩
    · obtain ⟨rfl, hlast⟩ := List.append_inj' heq rfl
      cases hlast
      exact .inl ⟨hk, hv⟩
    · rw [List.concat_eq_append] at heq hafter
      rw [← List.cons_append, ← List.append_assoc] at heq
      obtain ⟨rfl, hlast⟩ := List.append_inj' heq rfl
      cases hlast
      have hnot : ∀ s, ¬ (e.1.Wraps (string key) ∧ e.2.Wraps (string s)) := by
        rintro s ⟨hkey, hs⟩
        exact hafter e (by simp) hkey s hs
      exact .inr ⟨hnot, before, k, v, after, rfl, hk, hv,
        fun e he => hafter e (List.mem_append_left _ he)⟩
  · rintro (⟨hk, hv⟩ | ⟨hnot, before, k, v, after, rfl, hk, hv, hafter⟩)
    · exact ⟨entries, e.1, e.2, [], rfl, hk, hv, nofun⟩
    · refine ⟨before, k, v, after ++ [e], by simp, hk, hv, fun e' he' hkey s hs => ?_⟩
      rcases List.mem_append.mp he' with he' | he'
      · exact hafter e' he' hkey s hs
      · rw [List.mem_singleton] at he'
        exact hnot s (he' ▸ ⟨hkey, hs⟩)

theorem get?_ofList_textPairs {entries : List (Tree × Tree)} {key value : String} :
    (OrderedMap.ofList (entries.filterMap textPair?)).get? key = some value ↔
      LastText entries key value := by
  induction entries using List.reverseRecOn with
  | nil =>
      constructor
      · exact nofun
      · rintro ⟨before, k, v, after, heq, _⟩
        simp at heq
  | append_singleton entries e ih =>
      rw [lastText_concat_iff, ← ih, List.filterMap_append]
      cases hpair : textPair? e with
      | none => simp [hpair]
      | some pair =>
          obtain ⟨k, v⟩ := pair
          have hlast : [e].filterMap textPair? = [(k, v)] := by simp [hpair]
          rw [hlast, OrderedMap.get?_ofList_concat]
          by_cases hk : key = k
          · subst hk
            simp
          · simp [hk, Ne.symm hk]

/-- The map has the texts that the entries at the path give for their keys, and no others. -/
def HasTexts (t : Tree) (path : List String) (texts : OrderedMap String String) : Prop :=
  ∀ key value, texts.get? key = some value ↔
    ∃ entries, t.Holds path (mapping entries) ∧ LastText entries key value

theorem holds_mapping_iff {t : Tree} {path : List String} {entries : List (Tree × Tree)} :
    t.Holds path (mapping entries) ↔ (t.at? path).bind entries? = some entries := by
  simp only [Option.bind_eq_some_iff, at?_eq_some_iff, entries?_eq_some_iff, Holds]

theorem hasTexts_textsAt (t : Tree) (path : List String) : t.HasTexts path (t.textsAt path) := by
  intro key value
  simp only [holds_mapping_iff, textsAt]
  cases (t.at? path).bind entries? with
  | none => simp
  | some entries => simp [get?_ofList_textPairs]

theorem get?_textsAt_iff {t : Tree} {path : List String} {entries : List (Tree × Tree)}
    {key value : String} (h : t.Holds path (mapping entries)) :
    (t.textsAt path).get? key = some value ↔ LastText entries key value := by
  rw [hasTexts_textsAt t path key value]
  constructor
  · rintro ⟨entries', h', hlast⟩
    cases h.unique h'
    exact hlast
  · exact fun hlast => ⟨entries, h, hlast⟩

end Tree

end FeatureGates
