import FeatureGates.Proofs.Subtree
import Mathlib.Logic.Relation

namespace FeatureGates

/-!
# The parts of a tree

The parts of a tree are the tree itself and the parts of what stands directly in it, at any depth. A
mapping has its keys in it as well as its values.
-/

namespace Tree

def children : Tree → List Tree
  | sequence items => items
  | mapping entries => entries.map Prod.fst ++ entries.map Prod.snd
  | tagged _ t => [t]
  | _ => []

theorem sizeOf_lt_of_mem_children {c t : Tree} (h : c ∈ t.children) : sizeOf c < sizeOf t := by
  cases t with
  | sequence items =>
      have hlt : sizeOf c < sizeOf items := List.sizeOf_lt_of_mem h
      simp only [sequence.sizeOf_spec]
      omega
  | mapping entries =>
      have hentry : ∃ e ∈ entries, c = e.1 ∨ c = e.2 := by
        rcases List.mem_append.mp h with h | h <;> obtain ⟨e, he, rfl⟩ := List.mem_map.mp h
        · exact ⟨e, he, .inl rfl⟩
        · exact ⟨e, he, .inr rfl⟩
      obtain ⟨⟨k, v⟩, he, hc⟩ := hentry
      have hlt := List.sizeOf_lt_of_mem he
      simp only [mapping.sizeOf_spec, Prod.mk.sizeOf_spec] at hlt ⊢
      rcases hc with rfl | rfl <;> omega
  | tagged tag t =>
      cases List.mem_singleton.mp h
      simp only [tagged.sizeOf_spec]
      omega
  | _ => cases h

theorem induction_children {P : Tree → Prop} (h : ∀ t, (∀ c ∈ t.children, P c) → P t) (t : Tree) :
    P t :=
  h t fun c _ => induction_children h c
termination_by sizeOf t
decreasing_by exact sizeOf_lt_of_mem_children ‹_›

def PartOf : Tree → Tree → Prop := Relation.ReflTransGen fun c t => c ∈ t.children

theorem PartOf.of_mem_children {c t : Tree} (h : c ∈ t.children) : c.PartOf t := .single h

theorem PartOf.trans {u v t : Tree} (h : u.PartOf v) (h' : v.PartOf t) : u.PartOf t :=
  Relation.ReflTransGen.trans h h'

theorem partOf_iff {u t : Tree} : u.PartOf t ↔ t = u ∨ ∃ c ∈ t.children, u.PartOf c := by
  rw [PartOf, Relation.ReflTransGen.cases_tail_iff]
  simp only [and_comm]

theorem Wraps.partOf {t u : Tree} (h : t.Wraps u) : u.PartOf t := by
  induction h with
  | bare => exact .refl
  | tag _ _ ih => exact ih.tail List.mem_cons_self

/-- Every part has the property. -/
def Everywhere (P : Tree → Prop) (t : Tree) : Prop := ∀ u, u.PartOf t → P u

variable {P : Tree → Prop}

theorem Everywhere.of_partOf {u t : Tree} (h : t.Everywhere P) (hu : u.PartOf t) :
    u.Everywhere P := fun v hv => h v (hv.trans hu)

theorem everywhere_iff {t : Tree} :
    t.Everywhere P ↔ P t ∧ ∀ c ∈ t.children, c.Everywhere P := by
  simp only [Everywhere, partOf_iff (t := t)]
  constructor
  · intro h
    exact ⟨h t (.inl rfl), fun c hc u hu => h u (.inr ⟨c, hc, hu⟩)⟩
  · rintro ⟨ht, hchildren⟩ u (rfl | ⟨c, hc, hu⟩)
    · exact ht
    · exact hchildren c hc u hu

@[simp] theorem everywhere_string {s : String} : (string s).Everywhere P ↔ P (string s) := by
  rw [everywhere_iff]
  simp [children]

@[simp] theorem everywhere_tagged {tag : String} {t : Tree} :
    (tagged tag t).Everywhere P ↔ P (tagged tag t) ∧ t.Everywhere P := by
  rw [everywhere_iff]
  simp [children]

@[simp] theorem everywhere_mapping {entries : List (Tree × Tree)} :
    (mapping entries).Everywhere P ↔
      P (mapping entries) ∧ ∀ e ∈ entries, e.1.Everywhere P ∧ e.2.Everywhere P := by
  rw [everywhere_iff]
  simp only [children, List.mem_append, List.mem_map]
  grind

end Tree

end FeatureGates
