import FeatureGates.Proofs.Extraction
import Mathlib.Data.List.Forall2

namespace FeatureGates

/-!
# Documents that look-ups do not tell apart

A relation between trees is a likeness if what stands under each name is alike again, and so are the
texts and the items. Alike documents with the same annotations declare the same.
-/

section Options

variable {α β γ δ : Type} {R : α → β → Prop} {a : Option α} {b : Option β}

theorem rel_bind {S : γ → δ → Prop} {f : α → Option γ} {g : β → Option δ}
    (h : Option.Rel R a b) (hfg : ∀ x y, R x y → Option.Rel S (f x) (g y)) :
    Option.Rel S (a.bind f) (b.bind g) := by
  cases h with
  | some hxy => exact hfg _ _ hxy
  | none => exact .none

theorem bind_eq_of_rel {f : α → Option γ} {g : β → Option γ} (h : Option.Rel R a b)
    (hfg : ∀ x y, R x y → f x = g y) : a.bind f = b.bind g := by
  cases h with
  | some hxy => exact hfg _ _ hxy
  | none => rfl

theorem rel_imp {S : α → β → Prop} (h : Option.Rel R a b)
    (hS : ∀ x y, a = some x → R x y → S x y) : Option.Rel S a b := by
  cases h with
  | some hxy => exact .some (hS _ _ rfl hxy)
  | none => exact .none

theorem rel_self {R : α → α → Prop} (hR : ∀ x, R x x) (a : Option α) : Option.Rel R a a := by
  cases a with
  | some x => exact .some (hR x)
  | none => exact .none

theorem filterMap_eq_of_forall₂ {f : α → Option γ} {g : β → Option γ} {xs : List α} {ys : List β}
    (h : List.Forall₂ R xs ys) (hfg : ∀ x y, R x y → f x = g y) :
    xs.filterMap f = ys.filterMap g := by
  induction h with
  | nil => rfl
  | cons hxy _ ih => rw [List.filterMap_cons, List.filterMap_cons, hfg _ _ hxy, ih]

end Options

namespace Tree

/-- The keys are the same names, if they are names, and the values are related. -/
def EntriesAlike (R : Tree → Tree → Prop) : List (Tree × Tree) → List (Tree × Tree) → Prop :=
  List.Forall₂ fun e e' => (∀ name, e.1 = string name ↔ e'.1 = string name) ∧ R e.2 e'.2

theorem valueOf?_rel {R : Tree → Tree → Prop} {es es' : List (Tree × Tree)}
    (h : EntriesAlike R es es') (name : String) :
    Option.Rel R (valueOf? name es) (valueOf? name es') := by
  induction h with
  | nil => exact .none
  | @cons e e' es es' he _ ih =>
      obtain ⟨key, v⟩ := e
      obtain ⟨key', v'⟩ := e'
      obtain ⟨hkeys, hv⟩ := he
      by_cases hkey : key = string name
      · have hkey' : key' = string name := (hkeys name).mp hkey
        subst hkey
        subst hkey'
        simpa [valueOf?] using Option.Rel.some hv
      · have hkey' : key' ≠ string name := fun h => hkey ((hkeys name).mpr h)
        rwa [valueOf?_cons_of_ne hkey, valueOf?_cons_of_ne hkey']

theorem filterMap_textPair?_eq {es es' : List (Tree × Tree)}
    (h : List.Forall₂ (fun e e' => e.1.text? = e'.1.text? ∧ e.2.text? = e'.2.text?) es es') :
    es.filterMap textPair? = es'.filterMap textPair? :=
  filterMap_eq_of_forall₂ h fun e e' he => by rw [textPair?, textPair?, he.1, he.2]

theorem textsAt_eq_of_rel {t t' : Tree} {path : List String}
    {S : List (Tree × Tree) → List (Tree × Tree) → Prop}
    (h : Option.Rel S ((t.at? path).bind entries?) ((t'.at? path).bind entries?))
    (hS : ∀ es es', (t.at? path).bind entries? = some es → S es es' →
      OrderedMap.ofList (es.filterMap textPair?) = OrderedMap.ofList (es'.filterMap textPair?)) :
    t.textsAt path = t'.textsAt path := by
  rw [textsAt, textsAt]
  generalize (t.at? path).bind entries? = es? at h hS ⊢
  generalize (t'.at? path).bind entries? = es'? at h ⊢
  cases h with
  | some hes => exact hS _ _ rfl hes
  | none => rfl

/-- The names of the gates that a version lists, as often as it lists them. -/
def listedGates (version : Tree) : List String :=
  ((version.itemsAt? ["enabled"]).getD []).filterMap gateName?

theorem enabledGates_eq (t : Tree) :
    t.enabledGates = OrderedSet.ofList ((t.currentVersion?.map listedGates).getD []) := by
  rw [enabledGates]
  cases t.currentVersion? <;> rfl

theorem mem_listedGates_iff_of_rel {v v' : Tree} {S : List Tree → List Tree → Prop}
    (h : Option.Rel S (v.itemsAt? ["enabled"]) (v'.itemsAt? ["enabled"]))
    (hS : ∀ items items', S items items' →
      ∀ gate, gate ∈ items.filterMap gateName? ↔ gate ∈ items'.filterMap gateName?)
    (gate : String) : gate ∈ v.listedGates ↔ gate ∈ v'.listedGates := by
  rw [listedGates, listedGates]
  generalize v.itemsAt? ["enabled"] = items? at h ⊢
  generalize v'.itemsAt? ["enabled"] = items'? at h ⊢
  cases h with
  | some hitems => exact hS _ _ hitems gate
  | none => rfl

theorem enabledGates_eq_of_rel {t t' : Tree} {R : Tree → Tree → Prop}
    (h : Option.Rel R t.currentVersion? t'.currentVersion?)
    (hR : ∀ v v', R v v' → ∀ gate, gate ∈ v.listedGates ↔ gate ∈ v'.listedGates) :
    t.enabledGates = t'.enabledGates := by
  rw [enabledGates_eq, enabledGates_eq]
  generalize t.currentVersion? = v? at h ⊢
  generalize t'.currentVersion? = v'? at h ⊢
  cases h with
  | some hv => exact OrderedSet.ext_mem fun gate => by simpa using hR _ _ hv gate
  | none => rfl

/-- Related trees have related things under their names and in their items, and the same texts. -/
structure Likeness (R : Tree → Tree → Prop) : Prop where
  field : ∀ {t t' : Tree}, R t t' → ∀ name, Option.Rel R (t.field? name) (t'.field? name)
  text : ∀ {t t' : Tree}, R t t' → t.text? = t'.text?
  items : ∀ {t t' : Tree}, R t t' → Option.Rel (List.Forall₂ R) t.items? t'.items?

namespace Likeness

variable {R : Tree → Tree → Prop} (hR : Likeness R) {t t' : Tree}

include hR

theorem at? (h : R t t') (path : List String) : Option.Rel R (t.at? path) (t'.at? path) := by
  induction path generalizing t t' with
  | nil => exact .some h
  | cons name path ih =>
      rw [at?_cons, at?_cons]
      exact rel_bind (hR.field h name) fun _ _ hv => ih hv

theorem textAt? (h : R t t') (path : List String) : t.textAt? path = t'.textAt? path :=
  bind_eq_of_rel (hR.at? h path) fun _ _ hv => hR.text hv

theorem itemsAt? (h : R t t') (path : List String) :
    Option.Rel (List.Forall₂ R) (t.itemsAt? path) (t'.itemsAt? path) :=
  rel_bind (hR.at? h path) fun _ _ hv => hR.items hv

theorem map_length_itemsAt? (h : R t t') (path : List String) :
    (t.itemsAt? path).map List.length = (t'.itemsAt? path).map List.length := by
  rw [Option.map_eq_bind, Option.map_eq_bind]
  exact bind_eq_of_rel (hR.itemsAt? h path) fun _ _ hitems => congrArg some hitems.length_eq

theorem featureSet (h : R t t') : t.featureSet = t'.featureSet := by
  rw [Tree.featureSet, Tree.featureSet, hR.textAt? h]

theorem currentVersion? (h : R t t') :
    Option.Rel R t.currentVersion? t'.currentVersion? := by
  refine rel_bind (hR.itemsAt? h _) fun versions versions' hversions => ?_
  cases hversions with
  | nil => exact .none
  | cons hv _ => exact .some hv

theorem gateNames {gates gates' : List Tree} (h : List.Forall₂ R gates gates') :
    gates.filterMap gateName? = gates'.filterMap gateName? :=
  filterMap_eq_of_forall₂ h fun gate gate' hgate => by
    rw [gateName?, gateName?, hR.textAt? hgate]

theorem enabledGates (h : R t t') : t.enabledGates = t'.enabledGates := by
  refine enabledGates_eq_of_rel (hR.currentVersion? h) fun v v' hv => ?_
  exact mem_listedGates_iff_of_rel (hR.itemsAt? hv _) fun _ _ hgates _ => by
    rw [hR.gateNames hgates]

theorem entryAt (h : R t t') (ha : t.annotations = t'.annotations) (path : Path) :
    t.entryAt path = t'.entryAt path := by
  rw [Tree.entryAt, Tree.entryAt, entry, entry, ha, hR.featureSet h, hR.enabledGates h]

end Likeness

end Tree

end FeatureGates
