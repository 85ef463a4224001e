import FeatureGates.Proofs.Conflict
import FeatureGates.Proofs.Likeness
import Mathlib.Logic.Relation

namespace FeatureGates

/-!
# Changes that do not matter

Extraction consults three places of a document and, at the last one, the names of the gates that the
first version lists. Whatever else a document says may be changed, also under tags.
-/

/-- One member more, one less or one exchanged, all of them of the kind that is free. -/
inductive Amended {α : Type} (free : α → Prop) : List α → List α → Prop
  | added (before after : List α) {a : α} (h : free a) :
      Amended free (before ++ after) (before ++ a :: after)
  | removed (before after : List α) {a : α} (h : free a) :
      Amended free (before ++ a :: after) (before ++ after)
  | altered (before after : List α) {a b : α} (ha : free a) (hb : free b) :
      Amended free (before ++ a :: after) (before ++ b :: after)

theorem Amended.congr {α β : Type} {free : α → Prop} {f : List α → β}
    (hf : ∀ before after a, free a → f (before ++ a :: after) = f (before ++ after))
    {xs ys : List α} (h : Amended free xs ys) : f xs = f ys := by
  cases h with
  | added before after h => exact (hf before after _ h).symm
  | removed before after h => exact hf before after _ h
  | altered before after ha hb => exact (hf before after _ ha).trans (hf before after _ hb).symm

namespace Tree

/-! ## Changes at a place -/

/-- The entries of a mapping have changed, which may stand under tags. -/
inductive InEntries (R : List (Tree × Tree) → List (Tree × Tree) → Prop) : Tree → Tree → Prop
  | mapping {es es' : List (Tree × Tree)} (h : R es es') : InEntries R (mapping es) (mapping es')
  | tagged (tag : String) {t t' : Tree} (h : InEntries R t t') :
      InEntries R (tagged tag t) (tagged tag t')

/-- The items of a sequence have changed, which may stand under tags. -/
inductive InItems (R : List Tree → List Tree → Prop) : Tree → Tree → Prop
  | sequence {ts ts' : List Tree} (h : R ts ts') : InItems R (sequence ts) (sequence ts')
  | tagged (tag : String) {t t' : Tree} (h : InItems R t t') :
      InItems R (tagged tag t) (tagged tag t')

/-- The value has changed that a look-up of the name finds. -/
inductive AtKey (name : String) (R : Tree → Tree → Prop) :
    List (Tree × Tree) → List (Tree × Tree) → Prop
  | intro (before after : List (Tree × Tree)) {v v' : Tree}
      (hbefore : ∀ e ∈ before, e.1 ≠ string name) (h : R v v') :
      AtKey name R (before ++ (string name, v) :: after) (before ++ (string name, v') :: after)

/-- The first item has changed. -/
inductive AtHead (R : Tree → Tree → Prop) : List Tree → List Tree → Prop
  | intro {v v' : Tree} (h : R v v') (others : List Tree) :
      AtHead R (v :: others) (v' :: others)

/-- Anything may stand behind the first item, which has not changed. -/
inductive BehindHead : List Tree → List Tree → Prop
  | intro (v : Tree) (others others' : List Tree) : BehindHead (v :: others) (v :: others')

/-- One item has changed, wherever it stands. -/
inductive AtMember (R : Tree → Tree → Prop) : List Tree → List Tree → Prop
  | intro (before after : List Tree) {v v' : Tree} (h : R v v') :
      AtMember R (before ++ v :: after) (before ++ v' :: after)

/-- The value under a name has changed. -/
def InField (name : String) (R : Tree → Tree → Prop) : Tree → Tree → Prop :=
  InEntries (AtKey name R)

/-- A change of the first version that is listed. -/
def InVersion (R : Tree → Tree → Prop) : Tree → Tree → Prop :=
  InField "status" (InField "featureGates" (InItems (AtHead R)))

/-! ## The changes -/

/-- The key is none of the names. -/
def Beside (names : List String) (e : Tree × Tree) : Prop := ∀ name ∈ names, e.1 ≠ string name

/-- The item has no name that could be that of a gate. -/
def Nameless (item : Tree) : Prop := ∀ s, item.Holds ["name"] (string s) → s = ""

/-- The items differ by some without a name, or by their order and how often they are repeated. -/
inductive ListsSameGates : List Tree → List Tree → Prop
  | amended {items items' : List Tree} (h : Amended Nameless items items') :
      ListsSameGates items items'
  | rearranged {items items' : List Tree} (h : ∀ item, item ∈ items ↔ item ∈ items') :
      ListsSameGates items items'

/-- One change of something that extraction does not consult. -/
inductive Immaterial : Tree → Tree → Prop
  | entry {t t' : Tree} (h : InEntries (Amended (Beside ["metadata", "spec", "status"])) t t') :
      Immaterial t t'
  | metadata {t t' : Tree}
      (h : InField "metadata" (InEntries (Amended (Beside ["annotations"]))) t t') :
      Immaterial t t'
  | spec {t t' : Tree} (h : InField "spec" (InEntries (Amended (Beside ["featureSet"]))) t t') :
      Immaterial t t'
  | status {t t' : Tree}
      (h : InField "status" (InEntries (Amended (Beside ["featureGates"]))) t t') :
      Immaterial t t'
  | laterVersions {t t' : Tree}
      (h : InField "status" (InField "featureGates" (InItems BehindHead)) t t') :
      Immaterial t t'
  | version {t t' : Tree} (h : InVersion (InEntries (Amended (Beside ["enabled"]))) t t') :
      Immaterial t t'
  | gate {t t' : Tree}
      (h : InVersion (InField "enabled"
        (InItems (AtMember (InEntries (Amended (Beside ["name"])))))) t t') :
      Immaterial t t'
  | gates {t t' : Tree} (h : InVersion (InField "enabled" (InItems ListsSameGates)) t t') :
      Immaterial t t'

/-! ## What they leave -/

theorem InEntries.entries? {R : List (Tree × Tree) → List (Tree × Tree) → Prop} {t t' : Tree}
    (h : InEntries R t t') : Option.Rel R t.entries? t'.entries? := by
  induction h with
  | mapping h => exact .some h
  | tagged _ _ ih => exact ih

theorem InItems.items? {R : List Tree → List Tree → Prop} {t t' : Tree} (h : InItems R t t') :
    Option.Rel R t.items? t'.items? := by
  induction h with
  | sequence h => exact .some h
  | tagged _ _ ih => exact ih

theorem valueOf?_append_cons_of_ne {name : String} {key v : Tree} (hkey : key ≠ string name)
    (before after : List (Tree × Tree)) :
    valueOf? name (before ++ (key, v) :: after) = valueOf? name (before ++ after) := by
  induction before with
  | nil => exact valueOf?_cons_of_ne hkey after
  | cons e before ih =>
      obtain ⟨k, w⟩ := e
      by_cases hk : k = string name
      · subst hk
        simp [valueOf?]
      · rw [List.cons_append, List.cons_append, valueOf?_cons_of_ne hk, valueOf?_cons_of_ne hk, ih]

theorem field?_eq_of_amended {names : List String} {name : String} (hname : name ∈ names)
    {t t' : Tree} (h : InEntries (Amended (Beside names)) t t') :
    t.field? name = t'.field? name := by
  refine bind_eq_of_rel h.entries? fun es es' hes => hes.congr (f := valueOf? name) ?_
  exact fun before after e he => valueOf?_append_cons_of_ne (he name hname) before after

namespace InField

variable {name : String} {R : Tree → Tree → Prop} {t t' : Tree}

theorem field? (h : InField name R t t') : Option.Rel R (t.field? name) (t'.field? name) := by
  refine rel_bind h.entries? fun es es' hes => ?_
  obtain ⟨before, after, hbefore, hv⟩ := hes
  rw [valueOf?_eq_some_iff.mpr ⟨_, _, rfl, hbefore⟩, valueOf?_eq_some_iff.mpr ⟨_, _, rfl, hbefore⟩]
  exact .some hv

theorem field?_of_ne (h : InField name R t t') {other : String} (hne : name ≠ other) :
    t.field? other = t'.field? other := by
  refine bind_eq_of_rel h.entries? fun es es' hes => ?_
  obtain ⟨before, after, _, _⟩ := hes
  have hkey : string name ≠ string other := fun h => hne (string.inj h)
  rw [valueOf?_append_cons_of_ne hkey, valueOf?_append_cons_of_ne hkey]

theorem at?_of_ne (h : InField name R t t') {other : String} (hne : name ≠ other)
    (path : List String) : t.at? (other :: path) = t'.at? (other :: path) := by
  rw [at?_cons, at?_cons, h.field?_of_ne hne]

theorem at?_of_field? (h : InField name R t t') {next : String}
    (hR : ∀ v v', R v v' → v.field? next = v'.field? next) (path : List String) :
    t.at? (name :: next :: path) = t'.at? (name :: next :: path) := by
  rw [at?_cons, at?_cons]
  exact bind_eq_of_rel h.field? fun v v' hv => by rw [at?_cons, at?_cons, hR v v' hv]

theorem itemsAt? {next : String} {S : List Tree → List Tree → Prop}
    (h : InField name (InField next (InItems S)) t t') :
    Option.Rel S (t.itemsAt? [name, next]) (t'.itemsAt? [name, next]) := by
  refine rel_bind (R := InItems S) ?_ fun _ _ hu => hu.items?
  rw [at?_cons, at?_cons]
  refine rel_bind h.field? fun v v' hv => ?_
  rw [at?_cons, at?_cons]
  exact rel_bind hv.field? fun _ _ hu => .some hu

end InField

theorem InVersion.currentVersion? {R : Tree → Tree → Prop} {t t' : Tree} (h : InVersion R t t') :
    Option.Rel R t.currentVersion? t'.currentVersion? := by
  refine rel_bind (InField.itemsAt? h) fun versions versions' hversions => ?_
  cases hversions with
  | intro hv _ => exact .some hv

theorem gateName?_eq_none_of_nameless {item : Tree} (h : Nameless item) :
    item.gateName? = none := by
  refine Option.eq_none_iff_forall_ne_some.mpr fun gate hgate => ?_
  obtain ⟨hname, hne⟩ := gateName?_eq_some_iff.mp hgate
  exact hne (h gate (textAt?_eq_some_iff.mp hname))

theorem ListsSameGates.mem_iff {items items' : List Tree} (h : ListsSameGates items items')
    (gate : String) :
    gate ∈ items.filterMap gateName? ↔ gate ∈ items'.filterMap gateName? := by
  cases h with
  | amended h =>
      rw [h.congr (f := List.filterMap gateName?)]
      intro before after item hitem
      simp [gateName?_eq_none_of_nameless hitem]
  | rearranged h => simp only [List.mem_filterMap, h]

theorem mem_listedGates_iff {S : List Tree → List Tree → Prop}
    (hS : ∀ items items', S items items' →
      ∀ gate, gate ∈ items.filterMap gateName? ↔ gate ∈ items'.filterMap gateName?)
    {v v' : Tree} (h : InField "enabled" (InItems S) v v') (gate : String) :
    gate ∈ v.listedGates ↔ gate ∈ v'.listedGates := by
  refine mem_listedGates_iff_of_rel (S := S) ?_ hS gate
  refine rel_bind (R := InItems S) ?_ fun _ _ hu => hu.items?
  rw [at?_cons, at?_cons]
  exact rel_bind h.field? fun _ _ hu => .some hu

theorem AtMember.filterMap_eq {R : Tree → Tree → Prop} {f : Tree → Option String}
    (hf : ∀ v v', R v v' → f v = f v') {items items' : List Tree} (h : AtMember R items items') :
    items.filterMap f = items'.filterMap f := by
  obtain ⟨before, after, hv⟩ := h
  simp only [List.filterMap_append, List.filterMap_cons, hf _ _ hv]

/-- Extraction asks for nothing but the annotations, the feature set and the enabled gates. -/
theorem entryAt_congr {t t' : Tree}
    (hannotations : t.at? ["metadata", "annotations"] = t'.at? ["metadata", "annotations"])
    (hset : t.at? ["spec", "featureSet"] = t'.at? ["spec", "featureSet"])
    (hgates : t.enabledGates = t'.enabledGates) (path : Path) :
    t.entryAt path = t'.entryAt path := by
  have ha : t.annotations = t'.annotations := by
    rw [annotations, annotations, textsAt, textsAt, hannotations]
  have hf : t.featureSet = t'.featureSet := by
    rw [featureSet, featureSet, textAt?, textAt?, hset]
  rw [entryAt, entryAt, entry, entry, ha, hf, hgates]

theorem enabledGates_eq_of_at? {t t' : Tree}
    (h : t.at? ["status", "featureGates"] = t'.at? ["status", "featureGates"]) :
    t.enabledGates = t'.enabledGates := by
  rw [enabledGates, enabledGates, currentVersion?, currentVersion?, itemsAt?, itemsAt?, h]

theorem entryAt_eq_of_status {R : Tree → Tree → Prop} {t t' : Tree} (h : InField "status" R t t')
    (hgates : t.enabledGates = t'.enabledGates) (path : Path) :
    t.entryAt path = t'.entryAt path :=
  entryAt_congr (h.at?_of_ne (by decide) _) (h.at?_of_ne (by decide) _) hgates path

theorem InVersion.entryAt_eq {R : Tree → Tree → Prop} {t t' : Tree} (h : InVersion R t t')
    (hR : ∀ v v', R v v' → ∀ gate, gate ∈ v.listedGates ↔ gate ∈ v'.listedGates) (path : Path) :
    t.entryAt path = t'.entryAt path :=
  entryAt_eq_of_status h (enabledGates_eq_of_rel h.currentVersion? hR) path

/-- One change leaves what a document declares. -/
theorem Immaterial.entryAt_eq {t t' : Tree} (h : Immaterial t t') (path : Path) :
    t.entryAt path = t'.entryAt path := by
  cases h with
  | entry h =>
      have hat : ∀ name ∈ ["metadata", "spec", "status"], ∀ path,
          t.at? (name :: path) = t'.at? (name :: path) := by
        intro name hname path
        rw [at?_cons, at?_cons, field?_eq_of_amended hname h]
      exact entryAt_congr (hat _ (by simp) _) (hat _ (by simp) _)
        (enabledGates_eq_of_at? (hat _ (by simp) _)) path
  | metadata h =>
      exact entryAt_congr (h.at?_of_field? (fun _ _ => field?_eq_of_amended (by simp)) _)
        (h.at?_of_ne (by decide) _) (enabledGates_eq_of_at? (h.at?_of_ne (by decide) _)) path
  | spec h =>
      exact entryAt_congr (h.at?_of_ne (by decide) _)
        (h.at?_of_field? (fun _ _ => field?_eq_of_amended (by simp)) _)
        (enabledGates_eq_of_at? (h.at?_of_ne (by decide) _)) path
  | status h =>
      have hat : t.at? ["status", "featureGates"] = t'.at? ["status", "featureGates"] :=
        h.at?_of_field? (fun _ _ => field?_eq_of_amended (by simp)) []
      exact entryAt_eq_of_status h (enabledGates_eq_of_at? hat) path
  | laterVersions h =>
      have hcurrent : t.currentVersion? = t'.currentVersion? :=
        bind_eq_of_rel h.itemsAt? fun _ _ hversions => by cases hversions; rfl
      refine entryAt_eq_of_status h ?_ path
      rw [enabledGates_eq, enabledGates_eq, hcurrent]
  | version h =>
      refine InVersion.entryAt_eq h (fun v v' hv gate => ?_) path
      have henabled : v.field? "enabled" = v'.field? "enabled" :=
        field?_eq_of_amended (by simp) hv
      rw [listedGates, listedGates, itemsAt?, itemsAt?, at?_cons, at?_cons, henabled]
  | gate h =>
      refine InVersion.entryAt_eq h (fun v v' hv => mem_listedGates_iff ?_ hv) path
      intro items items' hitems gate
      rw [hitems.filterMap_eq fun item item' hitem => ?_]
      have hname : item.field? "name" = item'.field? "name" :=
        field?_eq_of_amended (by simp) hitem
      rw [gateName?, gateName?, textAt?, textAt?, at?_cons, at?_cons, hname]
  | gates h =>
      refine InVersion.entryAt_eq h (fun v v' hv => mem_listedGates_iff ?_ hv) path
      exact fun items items' hitems => hitems.mem_iff

/-- However many changes of what extraction does not consult lead from one document to another, the
two declare the same, or are refused for the same conflict. -/
theorem extraction_ignores_immaterial_changes {t t' : Tree}
    (h : Relation.ReflTransGen Immaterial t t') (path : Path) :
    t.entryAt path = t'.entryAt path := by
  induction h with
  | refl => rfl
  | tail _ hlast ih => exact ih.trans (hlast.entryAt_eq path)

end Tree

namespace Sample

def gateNamed (name : String) : Tree := .mapping [(.string "name", .string name)]

/-- A document under a tag with some entries, some gates and some later versions. -/
def listing (entries : List (Tree × Tree)) (gates later : List Tree) : Tree :=
  .tagged "x" (.mapping (
    (.string "metadata", .mapping [(.string "annotations",
      .mapping [(.string selfManagedKey, .string configOperatorOnly)])]) ::
    (.string "status", .mapping [(.string "featureGates", .tagged "y"
      (.sequence (.mapping [(.string "enabled", .sequence gates)] :: later)))]) :: entries))

theorem inField_status_listing {R : List Tree → List Tree → Prop}
    (entries : List (Tree × Tree)) {gates gates' later later' : List Tree}
    (h : R (.mapping [(.string "enabled", .sequence gates)] :: later)
      (.mapping [(.string "enabled", .sequence gates')] :: later')) :
    Tree.InField "status" (Tree.InField "featureGates" (Tree.InItems R))
      (listing entries gates later) (listing entries gates' later') := by
  refine .tagged "x" (.mapping (.intro [_] entries (by simp) (.mapping (.intro [] [] nofun ?_))))
  exact .tagged "y" (.sequence h)

theorem inVersion_listing {R : List Tree → List Tree → Prop} (entries : List (Tree × Tree))
    {gates gates' : List Tree} (later : List Tree) (h : R gates gates') :
    Tree.InVersion (Tree.InField "enabled" (Tree.InItems R)) (listing entries gates later)
      (listing entries gates' later) :=
  inField_status_listing entries (.intro (.mapping (.intro [] [] nofun (.sequence h))) later)

def gateItems : List Tree := [gateNamed "A", gateNamed "B"]

/-- The second gate stands first as well. -/
def repeatedItems : List Tree := gateNamed "B" :: gateItems

def kindEntry : Tree × Tree := (.string "kind", .null)

/-- An entry and a later version have been added, the gates are listed in another order, and an item
without a name stands among them. -/
def amendedListing : Tree :=
  listing [kindEntry] (gateNamed "B" :: .null :: gateItems) [gateNamed "C"]

theorem immaterial_amendedListing :
    Relation.ReflTransGen Tree.Immaterial (listing [] gateItems []) amendedListing := by
  have hentry : Tree.Immaterial (listing [] gateItems []) (listing [kindEntry] gateItems []) :=
    .entry (.tagged "x" (.mapping (.added [_, _] [] (by simp [Tree.Beside, kindEntry]))))
  have hlater : Tree.Immaterial (listing [kindEntry] gateItems [])
      (listing [kindEntry] gateItems [gateNamed "C"]) :=
    .laterVersions (inField_status_listing _ (.intro _ _ _))
  have hrepeated : Tree.Immaterial (listing [kindEntry] gateItems [gateNamed "C"])
      (listing [kindEntry] repeatedItems [gateNamed "C"]) :=
    .gates (inVersion_listing _ _ (.rearranged (by simp [repeatedItems, gateItems])))
  have hnull : Tree.Nameless .null := fun s h => by cases Tree.textAt?_eq_some_iff.mpr h
  have hnameless : Tree.Immaterial (listing [kindEntry] repeatedItems [gateNamed "C"])
      amendedListing :=
    .gates (inVersion_listing _ _ (.amended (.added [_] gateItems hnull)))
  exact (((Relation.ReflTransGen.single hentry).tail hlater).tail hrepeated).tail hnameless

end Sample

theorem extraction_ignores_sample_changes :
    Relation.ReflTransGen Tree.Immaterial (Sample.listing [] Sample.gateItems [])
      Sample.amendedListing ∧
    Sample.amendedListing.entryAt [0x64] =
      .ok (some ⟨.selfManagedHA, defaultFeatureSet, .ofList ["A", "B"]⟩) := by
  refine ⟨Sample.immaterial_amendedListing, ?_⟩
  rw [← Tree.extraction_ignores_immaterial_changes Sample.immaterial_amendedListing]
  rfl

end FeatureGates
