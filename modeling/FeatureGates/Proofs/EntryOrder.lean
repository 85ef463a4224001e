import FeatureGates.Proofs.Conflict
import FeatureGates.Proofs.Likeness
import FeatureGates.Proofs.Parts

namespace FeatureGates

/-!
# The order of entries

A document declares the same in whatever order the entries of its mappings stand, at any depth, as
long as no two keys of a mapping are equal and no two annotations have keys of the same text.
-/

namespace OrderedMap

variable {α β : Type} [Ord α] [Std.TransOrd α] [Std.LawfulEqOrd α] [DecidableEq α]

theorem get?_ofList_eq_some_iff {es : List (α × β)} (h : (es.map Prod.fst).Nodup) {k : α} {v : β} :
    (ofList es).get? k = some v ↔ (k, v) ∈ es := by
  induction es using List.reverseRecOn with
  | nil => simp [ofList]
  | append_singleton es e ih =>
      rw [List.map_append, List.nodup_append] at h
      obtain ⟨hes, _, hlast⟩ := h
      rw [get?_ofList_concat, List.mem_append, List.mem_singleton, ← ih hes]
      by_cases hk : k = e.1
      · -- The last entry is the only one with its key.
        subst hk
        have hnone : (e.1, v) ∉ es := fun hv =>
          hlast e.1 (List.mem_map.mpr ⟨_, hv, rfl⟩) e.1 (by simp) rfl
        rw [if_pos rfl, Option.some.injEq, ih hes]
        simp only [hnone, false_or]
        exact ⟨fun hv => Prod.ext rfl hv.symm, fun hv => (congrArg Prod.snd hv).symm⟩
      · have hne : (k, v) ≠ e := fun hv => hk (congrArg Prod.fst hv)
        simp [hk, hne]

theorem ofList_eq_of_perm {es es' : List (α × β)} (h : (es.map Prod.fst).Nodup)
    (hp : es.Perm es') : ofList es = ofList es' := by
  have h' : (es'.map Prod.fst).Nodup := (hp.map Prod.fst).nodup_iff.mp h
  refine ext_get? fun k => Option.ext fun v => ?_
  rw [get?_ofList_eq_some_iff h, get?_ofList_eq_some_iff h', hp.mem_iff]

end OrderedMap

namespace Tree

/-- The trees differ by the order in which the entries of their mappings stand. -/
inductive Reordered : Tree → Tree → Prop
  | same (t : Tree) : Reordered t t
  | sequence {ts ts' : List Tree} (h : List.Forall₂ Reordered ts ts') :
      Reordered (sequence ts) (sequence ts')
  | mapping {es es' es'' : List (Tree × Tree)} (hperm : es.Perm es')
      (hkeys : List.Forall₂ Reordered (es'.map Prod.fst) (es''.map Prod.fst))
      (hvalues : List.Forall₂ Reordered (es'.map Prod.snd) (es''.map Prod.snd)) :
      Reordered (mapping es) (mapping es'')
  | tagged (tag : String) {t t' : Tree} (h : Reordered t t') :
      Reordered (tagged tag t) (tagged tag t')

/-- A mapping has no key twice. -/
def DistinctKeys : Tree → Prop
  | mapping entries => entries.Pairwise fun e e' => e.1 ≠ e'.1
  | _ => True

/-- No mapping in the tree has a key twice. -/
def KeysApart (t : Tree) : Prop := t.Everywhere DistinctKeys

theorem valueOf?_eq_some_iff_mem {entries : List (Tree × Tree)}
    (h : entries.Pairwise fun e e' => e.1 ≠ e'.1) {name : String} {v : Tree} :
    valueOf? name entries = some v ↔ (string name, v) ∈ entries := by
  rw [valueOf?_eq_some_iff]
  constructor
  · rintro ⟨before, after, rfl, _⟩
    simp
  · intro hmem
    obtain ⟨before, after, rfl⟩ := List.append_of_mem hmem
    exact ⟨before, after, rfl, fun e he =>
      (List.pairwise_append.mp h).2.2 e he _ List.mem_cons_self⟩

theorem valueOf?_eq_of_perm {es es' : List (Tree × Tree)}
    (h : es.Pairwise fun e e' => e.1 ≠ e'.1) (hp : es.Perm es') (name : String) :
    valueOf? name es = valueOf? name es' := by
  have h' : es'.Pairwise fun e e' => e.1 ≠ e'.1 := (hp.pairwise_iff fun hne => hne.symm).mp h
  refine Option.ext fun v => ?_
  rw [valueOf?_eq_some_iff_mem h, valueOf?_eq_some_iff_mem h', hp.mem_iff]

namespace Reordered

theorem eq_string_iff {k k' : Tree} (h : Reordered k k') (s : String) :
    k = string s ↔ k' = string s := by
  cases h with
  | same => rfl
  | _ => simp

theorem text?_eq {t t' : Tree} : Reordered t t' → t.text? = t'.text?
  | same _ => rfl
  | sequence _ => rfl
  | mapping _ _ _ => rfl
  | tagged _ h => h.text?_eq

theorem items?_rel {t t' : Tree} :
    Reordered t t' → Option.Rel (List.Forall₂ Reordered) t.items? t'.items?
  | same t => rel_self (fun _ => List.forall₂_same.mpr fun u _ => same u) t.items?
  | sequence h => .some h
  | mapping _ _ _ => .none
  | tagged _ h => h.items?_rel

/-- The entries, put into another order, differ by the order inside their keys and values. -/
def Entries (es es'' : List (Tree × Tree)) : Prop :=
  ∃ es', es.Perm es' ∧
    List.Forall₂ (fun e e' => Reordered e.1 e'.1 ∧ Reordered e.2 e'.2) es' es''

theorem entries?_rel {t t' : Tree} : Reordered t t' → Option.Rel Entries t.entries? t'.entries?
  | same t =>
      rel_self (fun es => ⟨es, .refl es, List.forall₂_same.mpr fun e _ => ⟨same e.1, same e.2⟩⟩)
        t.entries?
  | sequence _ => .none
  | mapping hperm hkeys hvalues => by
      rw [List.forall₂_map_left_iff, List.forall₂_map_right_iff] at hkeys hvalues
      exact .some ⟨_, hperm, hkeys.mp (fun _ _ hkey hvalue => ⟨hkey, hvalue⟩) hvalues⟩
  | tagged _ h => h.entries?_rel

end Reordered

theorem KeysApart.of_entries? {t : Tree} (h : t.KeysApart) {entries : List (Tree × Tree)}
    (he : t.entries? = some entries) :
    (entries.Pairwise fun e e' => e.1 ≠ e'.1) ∧ ∀ e ∈ entries, e.2.KeysApart := by
  have hpart : (mapping entries).PartOf t := (entries?_eq_some_iff.mp he).partOf
  refine ⟨h _ hpart, fun e hmem => h.of_partOf (.trans (.of_mem_children ?_) hpart)⟩
  exact List.mem_append_right _ (List.mem_map.mpr ⟨e, hmem, rfl⟩)

theorem KeysApart.of_items? {t : Tree} (h : t.KeysApart) {items : List Tree}
    (hi : t.items? = some items) : ∀ u ∈ items, u.KeysApart := by
  intro u hmem
  have hpart : u.PartOf (sequence items) := .of_mem_children hmem
  exact h.of_partOf (hpart.trans (items?_eq_some_iff.mp hi).partOf)

theorem Reordered.likeness : Likeness fun t t' => t.KeysApart ∧ Reordered t t' where
  field := by
    rintro t t' ⟨hkeys, h⟩ name
    have hentries := rel_imp h.entries?_rel fun _ _ he hes => And.intro (hkeys.of_entries? he) hes
    refine rel_bind hentries ?_
    rintro es es'' ⟨⟨hapart, hvalues⟩, es', hperm, hes⟩
    rw [valueOf?_eq_of_perm hapart hperm]
    have hvalue := valueOf?_rel (hes.imp fun _ _ he => ⟨he.1.eq_string_iff, he.2⟩) name
    refine rel_imp hvalue fun v v' hv hreordered => ⟨?_, hreordered⟩
    rw [← valueOf?_eq_of_perm hapart hperm, valueOf?_eq_some_iff_mem hapart] at hv
    exact hvalues _ hv
  text h := h.2.text?_eq
  items := by
    rintro t t' ⟨hkeys, h⟩
    refine rel_imp h.items?_rel fun ts ts' hts hitems => ?_
    exact (List.forall₂_and_left _ _).mpr ⟨hkeys.of_items? hts, hitems⟩

/-! ## Annotations in another order -/

theorem nodup_keys_of_textsApart {entries : List (Tree × Tree)} (h : TextsApart entries) :
    ((entries.filterMap textPair?).map Prod.fst).Nodup := by
  rw [List.Nodup, List.pairwise_map, List.pairwise_filterMap]
  refine h.imp fun {e e'} hapart pair hpair pair' hpair' heq => ?_
  obtain ⟨hkey, _⟩ := textPair?_eq_some_iff.mp hpair
  obtain ⟨hkey', _⟩ := textPair?_eq_some_iff.mp hpair'
  exact hapart _ hkey (heq ▸ hkey')

theorem Reordered.Entries.ofList_eq {es es'' : List (Tree × Tree)} (h : Entries es es'')
    (hapart : TextsApart es) :
    OrderedMap.ofList (es.filterMap textPair?) = OrderedMap.ofList (es''.filterMap textPair?) := by
  obtain ⟨es', hperm, hes⟩ := h
  calc OrderedMap.ofList (es.filterMap textPair?)
      = OrderedMap.ofList (es'.filterMap textPair?) :=
        OrderedMap.ofList_eq_of_perm (nodup_keys_of_textsApart hapart) (hperm.filterMap _)
    _ = OrderedMap.ofList (es''.filterMap textPair?) :=
        congrArg _ (filterMap_textPair?_eq (hes.imp fun _ _ he => ⟨he.1.text?_eq, he.2.text?_eq⟩))

/-- Whatever the order of the entries, the declaration is the same, and so is the conflict where the
annotations contradict each other. -/
theorem extraction_independent_of_entry_order {t t' : Tree} (hkeys : t.KeysApart)
    (htexts : ∀ entries, t.Holds ["metadata", "annotations"] (mapping entries) →
      TextsApart entries)
    (h : t.Reordered t') (path : Path) : t.entryAt path = t'.entryAt path := by
  have hentries := rel_bind (Reordered.likeness.at? ⟨hkeys, h⟩ ["metadata", "annotations"])
    fun _ _ hu => hu.2.entries?_rel
  refine Reordered.likeness.entryAt ⟨hkeys, h⟩ (textsAt_eq_of_rel hentries ?_) path
  exact fun es es'' hes hreordered => hreordered.ofList_eq (htexts es (holds_mapping_iff.mpr hes))

end Tree

namespace Sample

/-- A document with an annotation for each profile. Its mappings have two entries each, which are
put in some order. -/
def contradiction (order : Tree × Tree → Tree × Tree → List (Tree × Tree)) : Tree :=
  .mapping (order (.string "kind", .string "FeatureGate")
    (.string "metadata", .mapping (order (.string "name", .string "a")
      (.string "annotations", .mapping (order (.string hypershiftKey, .string configOperatorOnly)
        (.string selfManagedKey, .string configOperatorOnly))))))

def inOrder : Tree := contradiction fun e e' => [e, e']

def inverted : Tree := contradiction fun e e' => [e', e]

theorem keysApart_inOrder : inOrder.KeysApart := by
  simp [inOrder, contradiction, Tree.KeysApart, Tree.DistinctKeys, hypershiftKey, selfManagedKey]

theorem textsApart_inOrder {entries : List (Tree × Tree)}
    (h : inOrder.Holds ["metadata", "annotations"] (.mapping entries)) :
    Tree.TextsApart entries := by
  cases Tree.holds_mapping_iff.mp h
  simp [Tree.TextsApart, Tree.wraps_iff, Tree.untagged, hypershiftKey, selfManagedKey]

theorem reordered_inverted : inOrder.Reordered inverted := by
  have hswap : ∀ {k k' v v' w w' : Tree}, v.Reordered w → v'.Reordered w' →
      (Tree.mapping [(k, v), (k', v')]).Reordered (.mapping [(k', w'), (k, w)]) :=
    fun hv hv' => .mapping (.swap _ _ _) (.cons (.same _) (.cons (.same _) .nil))
      (.cons hv' (.cons hv .nil))
  exact hswap (.same _) (hswap (.same _) (hswap (.same _) (.same _)))

end Sample

theorem extraction_independent_of_sample_order :
    Sample.inOrder.KeysApart ∧
    (∀ entries, Sample.inOrder.Holds ["metadata", "annotations"] (.mapping entries) →
      Tree.TextsApart entries) ∧
    Sample.inOrder.Reordered Sample.inverted ∧
    Sample.inverted.entryAt [0x64] =
      .error (.ambiguousProfile [0x64] ⟨.hypershift, .selfManagedHA⟩) := by
  have htexts : ∀ entries, Sample.inOrder.Holds ["metadata", "annotations"] (.mapping entries) →
      Tree.TextsApart entries := fun _ => Sample.textsApart_inOrder
  refine ⟨Sample.keysApart_inOrder, htexts, Sample.reordered_inverted, ?_⟩
  rw [← Tree.extraction_independent_of_entry_order Sample.keysApart_inOrder htexts
    Sample.reordered_inverted]
  rfl

end FeatureGates
