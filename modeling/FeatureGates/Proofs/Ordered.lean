import FeatureGates.Ordered
import Mathlib.Data.List.Nodup

namespace FeatureGates

/-!
# Maps in key order and their look-ups

An entry of a map is what the look-up of its key gives, so maps with the same look-ups are equal.
-/

variable {α β : Type}

namespace Ordered

theorem find?_eq_some_iff [DecidableEq α] {k : α} {v : β} {es : List (α × β)}
    (h : (es.map Prod.fst).Nodup) : find? k es = some v ↔ (k, v) ∈ es := by
  induction es with
  | nil => simp [find?]
  | cons e es ih =>
      obtain ⟨he, hes⟩ := List.nodup_cons.mp h
      by_cases hk : k = e.1
      · subst hk
        have hrest : (e.1, v) ∉ es := fun hv => he (List.mem_map.mpr ⟨(e.1, v), hv, rfl⟩)
        simp only [find?, if_pos, Option.some.injEq, List.mem_cons, hrest, or_false]
        exact ⟨fun hv => Prod.ext rfl hv.symm, fun hv => (congrArg Prod.snd hv).symm⟩
      · have hne : (k, v) ≠ e := fun hv => hk (congrArg Prod.fst hv)
        simp [find?, hk, hne, ih hes]

variable [Ord α] [Std.TransOrd α]

theorem Ascending.nodup {xs : List α} (h : Ascending xs) : xs.Nodup := by
  refine List.Pairwise.imp (fun {a b} hab => ?_) h
  rintro rfl
  simp [Std.ReflCmp.compare_self] at hab

/-- A list in the order of distinct keys is determined by its members. -/
theorem eq_of_ascending_map {γ : Type} {f : γ → α} {xs ys : List γ}
    (hx : Ascending (xs.map f)) (hy : Ascending (ys.map f)) (h : ∀ c, c ∈ xs ↔ c ∈ ys) :
    xs = ys := by
  have hperm : xs.Perm ys :=
    (List.perm_ext_iff_of_nodup (hx.nodup.of_map f) (hy.nodup.of_map f)).mpr h
  apply hperm.eq_of_pairwise _ (List.pairwise_map.mp hx) (List.pairwise_map.mp hy)
  intro a b _ _ hab hba
  simp [Std.OrientedCmp.gt_of_lt hab] at hba

theorem Ascending.eq_of_mem_iff {xs ys : List α} (hx : Ascending xs) (hy : Ascending ys)
    (h : ∀ a, a ∈ xs ↔ a ∈ ys) : xs = ys :=
  eq_of_ascending_map (f := id) (by rwa [List.map_id]) (by rwa [List.map_id]) h

end Ordered

instance [Ord α] [DecidableEq α] : DecidableEq (OrderedSet α) := fun s t =>
  decidable_of_iff (s.toList = t.toList)
    ⟨fun h => by cases s; cases t; cases h; rfl, fun h => h ▸ rfl⟩

namespace OrderedMap

variable [Ord α] [Std.TransOrd α]

theorem nodup_keys (m : OrderedMap α β) : m.keys.Nodup := m.ascending.nodup

theorem get?_eq_some_iff [DecidableEq α] {m : OrderedMap α β} {k : α} {v : β} :
    m.get? k = some v ↔ (k, v) ∈ m.entries :=
  Ordered.find?_eq_some_iff m.nodup_keys

theorem ext_get? [DecidableEq α] {m n : OrderedMap α β} (h : ∀ k, m.get? k = n.get? k) :
    m = n := by
  have hentries : m.entries = n.entries := by
    apply Ordered.eq_of_ascending_map m.ascending n.ascending
    intro e
    rw [← get?_eq_some_iff, ← get?_eq_some_iff, h]
  cases m
  cases n
  cases hentries
  rfl

end OrderedMap

end FeatureGates
