import FeatureGates.Proofs.Words
import Mathlib.Data.List.Nodup

namespace FeatureGates

/-!
# Options with their values

Options are given one after another, each with a value that it takes. If none comes twice, the run
has just the values that are given.
-/

/-- An option with a value that it takes. -/
inductive Assignment
  | directory (p : Path) (h : p ≠ [])
  | baseline (s : String)
  | derived (s : String)
  | report (p : Path) (h : p ≠ [])

namespace Assignment

def name : Assignment → OptionName
  | directory _ _ => .directory
  | baseline _ => .baseline
  | derived _ => .derived
  | report _ _ => .report

def value : Assignment → Bytes
  | directory p _ | report p _ => p
  | baseline s | derived s => Bytes.ofString s

def give (g : GivenOptions) : Assignment → GivenOptions
  | directory p _ => { g with directory := some p }
  | baseline s => { g with baseline := some s }
  | derived s => { g with derived := some s }
  | report p _ => { g with report := some p }

def giveAll (g : GivenOptions) (as : List Assignment) : GivenOptions := as.foldl give g

theorem giveAll_cons (g : GivenOptions) (a : Assignment) (as : List Assignment) :
    giveAll g (a :: as) = giveAll (a.give g) as := rfl

end Assignment

/-- The value of an option as it is written, if there is one. -/
def GivenOptions.value? (g : GivenOptions) : OptionName → Option Bytes
  | .directory => g.directory
  | .baseline => g.baseline.map Bytes.ofString
  | .derived => g.derived.map Bytes.ofString
  | .report => g.report

def VerifyOptions.value? (o : VerifyOptions) : OptionName → Option Bytes
  | .directory => some o.directory
  | .baseline => some (Bytes.ofString o.baseline)
  | .derived => some (Bytes.ofString o.derived)
  | .report => o.reportPath

namespace GivenOptions

variable {g g' : GivenOptions} {n : OptionName}

theorem has_eq_isSome (g : GivenOptions) (n : OptionName) : g.has n = (g.value? n).isSome := by
  cases n <;> simp [has, value?]

theorem value?_empty (n : OptionName) : (∅ : GivenOptions).value? n = none := by
  cases n <;> rfl

theorem value?_give (g : GivenOptions) (a : Assignment) (n : OptionName) :
    (a.give g).value? n = if n = a.name then some a.value else g.value? n := by
  cases a <;> cases n <;> rfl

theorem has_give (g : GivenOptions) (a : Assignment) (n : OptionName) :
    (a.give g).has n = (decide (n = a.name) || g.has n) := by
  rw [has_eq_isSome, value?_give, has_eq_isSome]
  split <;> simp [*]

theorem value?_complete (g : GivenOptions) (n : OptionName) :
    g.complete.value? n = (g.value? n).or (n.default?.map Bytes.ofString) := by
  obtain ⟨directory, baseline, derived, report⟩ := g
  cases n
  · cases directory <;> rfl
  · cases baseline <;> rfl
  · cases derived <;> rfl
  · cases report <;> rfl

theorem pathValue_eq_ok_iff {value : Bytes} {p : Path} :
    pathValue n value = .ok p ↔ value = p ∧ p ≠ [] := by
  rw [pathValue]
  split
  next h => simp [h]
  next h =>
    rw [Except.ok.injEq]
    constructor
    · intro heq
      exact ⟨heq, heq ▸ h⟩
    · exact fun heq => heq.1

theorem textValue_eq_ok_iff {value : Bytes} {s : String} :
    textValue value = .ok s ↔ value = Bytes.ofString s := by
  rw [textValue, ← Bytes.text?_eq_some_iff]
  cases value.text? <;> simp

theorem map_eq_ok_iff {ε α β : Type} {f : α → β} {x : Except ε α} {b : β} :
    x.map f = .ok b ↔ ∃ a, x = .ok a ∧ f a = b := by
  cases x <;> simp [Except.map]

/-- A value is accepted if the option takes it and has none yet. -/
theorem accept_eq_ok_iff {value : Bytes} :
    g.accept n value = .ok g' ↔
      g.has n = false ∧ ∃ a : Assignment, a.name = n ∧ a.value = value ∧ a.give g = g' := by
  constructor
  · intro h
    unfold accept at h
    split at h
    next => cases h
    next hnot =>
      refine ⟨Bool.eq_false_iff.mpr hnot, ?_⟩
      cases n with
      | directory =>
          obtain ⟨p, hp, rfl⟩ := map_eq_ok_iff.mp h
          obtain ⟨rfl, hne⟩ := pathValue_eq_ok_iff.mp hp
          exact ⟨.directory value hne, rfl, rfl, rfl⟩
      | baseline =>
          obtain ⟨s, hs, rfl⟩ := map_eq_ok_iff.mp h
          obtain rfl := textValue_eq_ok_iff.mp hs
          exact ⟨.baseline s, rfl, rfl, rfl⟩
      | derived =>
          obtain ⟨s, hs, rfl⟩ := map_eq_ok_iff.mp h
          obtain rfl := textValue_eq_ok_iff.mp hs
          exact ⟨.derived s, rfl, rfl, rfl⟩
      | report =>
          obtain ⟨p, hp, rfl⟩ := map_eq_ok_iff.mp h
          obtain ⟨rfl, hne⟩ := pathValue_eq_ok_iff.mp hp
          exact ⟨.report value hne, rfl, rfl, rfl⟩
  · intro h
    obtain ⟨hnot, a, rfl, rfl, rfl⟩ := h
    unfold accept
    rw [if_neg (Bool.eq_false_iff.mp hnot)]
    cases a with
    | directory p hne => exact map_eq_ok_iff.mpr ⟨p, pathValue_eq_ok_iff.mpr ⟨rfl, hne⟩, rfl⟩
    | baseline s => exact map_eq_ok_iff.mpr ⟨s, textValue_eq_ok_iff.mpr rfl, rfl⟩
    | derived s => exact map_eq_ok_iff.mpr ⟨s, textValue_eq_ok_iff.mpr rfl, rfl⟩
    | report p hne => exact map_eq_ok_iff.mpr ⟨p, pathValue_eq_ok_iff.mpr ⟨rfl, hne⟩, rfl⟩

/-- The options are new, none of them comes twice, and with their values the run has its options. -/
structure Gives (g : GivenOptions) (as : List Assignment) (o : VerifyOptions) :
    Prop where
  distinct : (as.map Assignment.name).Nodup
  fresh : ∀ a ∈ as, g.has a.name = false
  complete : (Assignment.giveAll g as).complete = o

theorem gives_nil (g : GivenOptions) : g.Gives [] g.complete := ⟨.nil, nofun, rfl⟩

theorem gives_cons_iff {g : GivenOptions} {a : Assignment} {as : List Assignment}
    {o : VerifyOptions} : g.Gives (a :: as) o ↔ g.has a.name = false ∧ (a.give g).Gives as o := by
  have hhas : ∀ b, (a.give g).has b = false ↔ b ≠ a.name ∧ g.has b = false := by
    intro b
    rw [has_give, Bool.or_eq_false_iff, decide_eq_false_iff_not]
  constructor
  · intro h
    obtain ⟨hnot, hdistinct⟩ := List.nodup_cons.mp h.distinct
    refine ⟨h.fresh a List.mem_cons_self, hdistinct, fun b hb => (hhas b.name).mpr ⟨?_, ?_⟩,
      h.complete⟩
    · intro heq
      exact hnot (heq ▸ List.mem_map_of_mem hb)
    · exact h.fresh b (List.mem_cons_of_mem a hb)
  · intro h
    obtain ⟨ha, hdistinct, hfresh, hcomplete⟩ := h
    refine ⟨List.nodup_cons.mpr ⟨?_, hdistinct⟩, ?_, hcomplete⟩
    · intro hmem
      obtain ⟨b, hb, heq⟩ := List.mem_map.mp hmem
      exact ((hhas b.name).mp (hfresh b hb)).1 heq
    · intro b hb
      rcases List.mem_cons.mp hb with rfl | hb
      · exact ha
      · exact ((hhas b.name).mp (hfresh b hb)).2

variable {g : GivenOptions} {as : List Assignment} {o : VerifyOptions}

theorem value?_giveAll_of_not_mem {n : OptionName} (h : n ∉ as.map Assignment.name) :
    (Assignment.giveAll g as).value? n = g.value? n := by
  induction as generalizing g with
  | nil => rfl
  | cons a as ih =>
      rw [List.map_cons, List.mem_cons, not_or] at h
      rw [Assignment.giveAll_cons, ih h.2, value?_give, if_neg h.1]

theorem value?_giveAll_of_mem (h : (as.map Assignment.name).Nodup) {a : Assignment} (ha : a ∈ as) :
    (Assignment.giveAll g as).value? a.name = some a.value := by
  induction as generalizing g with
  | nil => cases ha
  | cons b as ih =>
      obtain ⟨hb, has⟩ := List.nodup_cons.mp h
      rw [Assignment.giveAll_cons]
      rcases List.mem_cons.mp ha with rfl | ha
      · rw [value?_giveAll_of_not_mem hb, value?_give, if_pos rfl]
      · exact ih has ha

/-- The run has the values that are given, and defaults for the rest. -/
theorem Gives.value? (h : (∅ : GivenOptions).Gives as o) :
    (∀ a ∈ as, o.value? a.name = some a.value) ∧
      ∀ n, n ∉ as.map Assignment.name → o.value? n = n.default?.map Bytes.ofString := by
  obtain ⟨hdistinct, _, rfl⟩ := h
  constructor
  · intro a ha
    rw [value?_complete, value?_giveAll_of_mem hdistinct ha, Option.some_or]
  · intro n hn
    rw [value?_complete, value?_giveAll_of_not_mem hn, value?_empty, Option.none_or]

example : (∅ : GivenOptions).complete =
    ⟨Bytes.ofString "payload-manifests/featuregates", "Default", "OKD", none⟩ := rfl

end GivenOptions

end FeatureGates
