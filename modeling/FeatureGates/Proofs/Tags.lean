import FeatureGates.Proofs.Likeness
import FeatureGates.Proofs.Conflict
import FeatureGates.Proofs.Reading

namespace FeatureGates

/-!
# Tags on values

Values may be put under tags or taken from under them anywhere in a document, all at once, and no
look-up notices. Only the test for a manifest asks for the outermost node as it stands.
-/

namespace Tree

/-- The trees differ by tags on values. The keys of a mapping are the same trees in both. -/
inductive Retagged : Tree → Tree → Prop
  | same (t : Tree) : Retagged t t
  | sequence {ts ts' : List Tree} (h : List.Forall₂ Retagged ts ts') :
      Retagged (sequence ts) (sequence ts')
  | mapping {es es' : List (Tree × Tree)} (hkeys : es.map Prod.fst = es'.map Prod.fst)
      (hvalues : List.Forall₂ Retagged (es.map Prod.snd) (es'.map Prod.snd)) :
      Retagged (mapping es) (mapping es')
  | wrap (tag : String) {t t' : Tree} (h : Retagged t t') : Retagged t (tagged tag t')
  | unwrap (tag : String) {t t' : Tree} (h : Retagged t t') : Retagged (tagged tag t) t'

namespace Retagged

variable {t t' : Tree}

theorem text?_eq {t t' : Tree} : Retagged t t' → t.text? = t'.text?
  | same _ => rfl
  | sequence _ => rfl
  | mapping _ _ => rfl
  | wrap _ h => h.text?_eq
  | unwrap _ h => h.text?_eq

theorem items?_rel {t t' : Tree} :
    Retagged t t' → Option.Rel (List.Forall₂ Retagged) t.items? t'.items?
  | same t => rel_self (fun _ => List.forall₂_same.mpr fun u _ => same u) t.items?
  | sequence h => .some h
  | mapping _ _ => .none
  | wrap _ h => h.items?_rel
  | unwrap _ h => h.items?_rel

/-- The entries have the same keys, and values that differ by tags. -/
def Entries (es es' : List (Tree × Tree)) : Prop :=
  List.Forall₂ (fun e e' => e.1 = e'.1 ∧ Retagged e.2 e'.2) es es'

theorem entries?_rel {t t' : Tree} : Retagged t t' → Option.Rel Entries t.entries? t'.entries?
  | same t => rel_self (fun _ => List.forall₂_same.mpr fun e _ => ⟨rfl, same e.2⟩) t.entries?
  | sequence _ => .none
  | mapping hkeys hvalues => by
      rw [← List.forall₂_eq_eq_eq, List.forall₂_map_left_iff, List.forall₂_map_right_iff] at hkeys
      rw [List.forall₂_map_left_iff, List.forall₂_map_right_iff] at hvalues
      exact .some (hkeys.mp (fun _ _ hkey hvalue => ⟨hkey, hvalue⟩) hvalues)
  | wrap _ h => h.entries?_rel
  | unwrap _ h => h.entries?_rel

theorem likeness : Likeness Retagged where
  field h name := rel_bind h.entries?_rel fun _ _ hentries =>
    valueOf?_rel (hentries.imp fun _ _ he => ⟨fun _ => by rw [he.1], he.2⟩) name
  text := text?_eq
  items := items?_rel

theorem textsAt_eq (h : Retagged t t') (path : List String) :
    t.textsAt path = t'.textsAt path := by
  have hentries := rel_bind (likeness.at? h path) fun _ _ hu => hu.entries?_rel
  refine textsAt_eq_of_rel hentries fun es es' _ hes => congrArg OrderedMap.ofList ?_
  exact filterMap_textPair?_eq (hes.imp fun _ _ he => ⟨congrArg text? he.1, he.2.text?_eq⟩)

end Retagged

/-- Tags on values change nothing that is taken from a document. The test for a manifest does not
look through them: it is passed by nothing but a mapping or an empty document. -/
theorem extraction_sees_through_value_tags {t t' : Tree} (h : t.Retagged t') :
    (∀ path, t.entryAt path = t'.entryAt path) ∧
    (∀ path, t.textAt? path = t'.textAt? path) ∧
    (∀ path, t.textsAt path = t'.textsAt path) ∧
    (∀ path, (t.itemsAt? path).map List.length = (t'.itemsAt? path).map List.length) ∧
    (∀ u : Tree, u.otherKind? = none ↔ u.HoldsManifest) ∧
    ∀ (parse : Notation) (fs : FileSystem) (path : Path) (contents : Bytes) (u : Tree),
      fs.read path = .ok contents → parse contents = .ok u →
        ((∀ kind, Manifest.read parse fs path ≠ .error (.notAMapping path kind)) ↔
          u.HoldsManifest) := by
  refine ⟨Retagged.likeness.entryAt h (h.textsAt_eq _), Retagged.likeness.textAt? h, h.textsAt_eq,
    Retagged.likeness.map_length_itemsAt? h, fun u => otherKind?_eq_none_iff, ?_⟩
  intro parse fs path contents u hread hparse
  have hfault : ∀ kind, Manifest.read parse fs path = .error (.notAMapping path kind) ↔
      u.otherKind? = some kind := by
    intro kind
    rw [Manifest.read_eq_error_iff, otherKind?_eq_some_iff]
    constructor
    · rintro (_ | _ | ⟨hr, hp, hkind⟩ | _)
      cases hread.symm.trans hr
      cases hparse.symm.trans hp
      exact hkind
    · exact fun hkind => .notAMapping hread hparse hkind
  simp only [ne_eq, hfault, ← otherKind?_eq_none_iff, Option.eq_none_iff_forall_ne_some]

end Tree

namespace Sample

/-- A document with one annotation, a feature set and a gate; all its values are wrapped. -/
def gateDocument (wrap : Tree → Tree) : Tree :=
  wrap (.mapping
    [(.string "metadata", wrap (.mapping
      [(.string "annotations", wrap (.mapping
        [(.string selfManagedKey, wrap (.string configOperatorOnly))]))])),
    (.string "spec", wrap (.mapping [(.string "featureSet", wrap (.string "OKD"))])),
    (.string "status", wrap (.mapping
      [(.string "featureGates", wrap (.sequence
        [wrap (.mapping [(.string "enabled", wrap (.sequence
          [wrap (.mapping [(.string "name", wrap (.string "A"))])]))])]))]))])

theorem retagged_singleton_mapping (tag key : String) {v v' : Tree} (h : v.Retagged v') :
    (Tree.mapping [(.string key, v)]).Retagged (.tagged tag (.mapping [(.string key, v')])) :=
  .wrap tag (.mapping rfl (.cons h .nil))

theorem retagged_singleton_sequence (tag : String) {v v' : Tree} (h : v.Retagged v') :
    (Tree.sequence [v]).Retagged (.tagged tag (.sequence [v'])) :=
  .wrap tag (.sequence (.cons h .nil))

theorem retagged_gateDocument (tag : String) :
    (gateDocument id).Retagged (gateDocument (.tagged tag)) := by
  have htext (s : String) : (Tree.string s).Retagged (.tagged tag (.string s)) :=
    .wrap tag (.same _)
  have hgate := retagged_singleton_mapping tag "name" (htext "A")
  have hversion := retagged_singleton_mapping tag "enabled" (retagged_singleton_sequence tag hgate)
  refine .wrap tag (.mapping rfl (.cons ?_ (.cons ?_ (.cons ?_ .nil))))
  · exact retagged_singleton_mapping tag _ (retagged_singleton_mapping tag _ (htext _))
  · exact retagged_singleton_mapping tag _ (htext _)
  · exact retagged_singleton_mapping tag _ (retagged_singleton_sequence tag hversion)

end Sample

theorem extraction_sees_through_sample_tags :
    (Sample.gateDocument id).Retagged (Sample.gateDocument (.tagged "x")) ∧
    (Sample.gateDocument (.tagged "x")).entryAt [0x64] =
      .ok (some ⟨.selfManagedHA, "OKD", .ofList ["A"]⟩) ∧
    ¬ (Sample.gateDocument (.tagged "x")).HoldsManifest := by
  have hretagged := Sample.retagged_gateDocument "x"
  obtain ⟨hentry, _, _, _, hkind, _⟩ := Tree.extraction_sees_through_value_tags hretagged
  refine ⟨hretagged, ?_, ?_⟩
  · rw [← hentry]
    rfl
  · rw [← hkind]
    nofun

end FeatureGates
