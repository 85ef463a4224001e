import FeatureGates.Proofs.EntryOrder

namespace FeatureGates

/-!
# Two ways to find a text

A text in a mapping can be looked up at the end of a path, or in the map of all texts that the
mapping holds. Where keys are different, both find the same, except that the map also takes the
texts of tagged keys.
-/

namespace Tree

variable {t : Tree} {path : List String} {entries : List (Tree × Tree)} {key value : String}

theorem HasField.partOf {name : String} {v : Tree} (h : t.HasField name v) : v.PartOf t := by
  obtain ⟨before, after, hwraps, _⟩ := h
  refine .trans (.of_mem_children ?_) hwraps.partOf
  simp [children]

theorem LeadsTo.partOf {u : Tree} (h : t.LeadsTo path u) : u.PartOf t := by
  induction h with
  | here t => exact .refl
  | step hfield _ ih => exact ih.trans hfield.partOf

theorem Holds.partOf {u : Tree} (h : t.Holds path u) : u.PartOf t := by
  obtain ⟨v, hv, hu⟩ := h
  exact hu.partOf.trans hv.partOf

/-- A key with the text stands under a tag. -/
def HasTaggedKey (entries : List (Tree × Tree)) (key : String) : Prop :=
  ∃ tag u v, (tagged tag u, v) ∈ entries ∧ u.Wraps (string key)

theorem eq_string_of_wraps (h : ¬ HasTaggedKey entries key) {e : Tree × Tree} (he : e ∈ entries)
    (hkey : e.1.Wraps (string key)) : e.1 = string key := by
  obtain ⟨k, v⟩ := e
  cases hkey with
  | bare => rfl
  | tag tag hu => exact absurd ⟨tag, _, v, he, hu⟩ h

theorem lastText_iff_mem (hapart : entries.Pairwise fun e e' => e.1 ≠ e'.1)
    (h : ¬ HasTaggedKey entries key) :
    LastText entries key value ↔ ∃ v, (string key, v) ∈ entries ∧ v.Wraps (string value) := by
  constructor
  · rintro ⟨before, k, v, after, rfl, hk, hv, _⟩
    have hmem : (k, v) ∈ before ++ (k, v) :: after := by simp
    obtain rfl : k = string key := eq_string_of_wraps h hmem hk
    exact ⟨v, hmem, hv⟩
  · rintro ⟨v, hmem, hv⟩
    obtain ⟨before, after, rfl⟩ := List.append_of_mem hmem
    refine ⟨before, string key, v, after, rfl, .bare nofun, hv, fun e he hkey => ?_⟩
    -- The key cannot come again, with a tag or without.
    have hne : string key ≠ e.1 := List.rel_of_pairwise_cons (List.pairwise_append.mp hapart).2.1 he
    exact absurd (eq_string_of_wraps h (by simp [he]) hkey).symm hne

theorem textAt?_concat (t : Tree) (path : List String) (key : String) :
    t.textAt? (path ++ [key]) =
      (((t.at? path).bind entries?).bind (valueOf? key)).bind text? := by
  simp [textAt?, at?_append, at?_cons, field?, Option.bind_assoc]

theorem textAt?_concat_iff (hkeys : t.KeysApart) (h : t.Holds path (mapping entries)) :
    t.textAt? (path ++ [key]) = some value ↔
      ∃ v, (string key, v) ∈ entries ∧ v.Wraps (string value) := by
  have hapart : entries.Pairwise fun e e' => e.1 ≠ e'.1 := hkeys _ h.partOf
  rw [textAt?_concat, holds_mapping_iff.mp h, Option.bind_some, Option.bind_eq_some_iff]
  simp only [valueOf?_eq_some_iff_mem hapart, text?_eq_some_iff]

/-- Where no key is tagged, the map has just the texts that can be looked up behind the path. Tagged
keys take part in the map, where the last text of a key counts, and are not found by looking up. -/
theorem textsAt_agrees_with_textAt? (hkeys : t.KeysApart) (path : List String) (key : String) :
    ((∀ entries, ¬ t.Holds path (mapping entries)) →
      (t.textsAt path).get? key = none ∧ t.textAt? (path ++ [key]) = none) ∧
    ∀ entries, t.Holds path (mapping entries) →
      (¬ HasTaggedKey entries key →
        (t.textsAt path).get? key = t.textAt? (path ++ [key])) ∧
      (∀ value, (t.textsAt path).get? key = some value ↔ LastText entries key value) ∧
      ∀ value, t.textAt? (path ++ [key]) = some value ↔
        ∃ v, (string key, v) ∈ entries ∧ v.Wraps (string value) := by
  constructor
  · intro hnot
    have hnone : (t.at? path).bind entries? = none := by
      rw [Option.eq_none_iff_forall_ne_some]
      exact fun entries hentries => hnot entries (holds_mapping_iff.mpr hentries)
    rw [textsAt, textAt?_concat, hnone]
    exact ⟨rfl, rfl⟩
  · intro entries h
    refine ⟨fun htags => ?_, fun _ => get?_textsAt_iff h, fun _ => textAt?_concat_iff hkeys h⟩
    have hapart : entries.Pairwise fun e e' => e.1 ≠ e'.1 := hkeys _ h.partOf
    refine Option.ext fun value => ?_
    rw [get?_textsAt_iff h, lastText_iff_mem hapart htags, textAt?_concat_iff hkeys h]

end Tree

namespace Sample

theorem keysApart_annotated (later : String) : (annotated later).KeysApart := by
  simp [annotated, annotationEntries, Tree.KeysApart, Tree.DistinctKeys, hypershiftKey,
    selfManagedKey]

theorem not_hasTaggedKey_annotationEntries (later : String) :
    ¬ Tree.HasTaggedKey (annotationEntries later) selfManagedKey := by
  rintro ⟨tag, u, v, hmem, hu⟩
  obtain ⟨⟨rfl, rfl⟩, rfl⟩ : (tag = "x" ∧ u = .string hypershiftKey) ∧ v = .string later := by
    simpa [annotationEntries] using hmem
  have hkeys : hypershiftKey = selfManagedKey := Tree.string.inj (Tree.wraps_iff.mp hu)
  exact absurd hkeys (by decide)

end Sample

/-- One key comes with a tag as well, the other one does not. -/
theorem textsAt_agrees_with_textAt?_on_sample :
    (Sample.annotated "true").KeysApart ∧
    (Sample.annotated "true").Holds ["metadata", "annotations"]
      (.mapping (Sample.annotationEntries "true")) ∧
    ¬ Tree.HasTaggedKey (Sample.annotationEntries "true") Sample.selfManagedKey ∧
    (Sample.annotated "true").annotations.get? Sample.selfManagedKey = some configOperatorOnly ∧
    (Sample.annotated "true").annotations.get? Sample.hypershiftKey = some "true" ∧
    (Sample.annotated "true").textAt? (["metadata", "annotations"] ++ [Sample.hypershiftKey]) =
      some configOperatorOnly := by
  have hkeys := Sample.keysApart_annotated "true"
  have hholds := Sample.holds_annotated "true"
  have htags := Sample.not_hasTaggedKey_annotationEntries "true"
  obtain ⟨hagree, _⟩ := (Tree.textsAt_agrees_with_textAt? hkeys ["metadata", "annotations"]
    Sample.selfManagedKey).2 _ hholds
  obtain ⟨_, htexts, htext⟩ := (Tree.textsAt_agrees_with_textAt? hkeys ["metadata", "annotations"]
    Sample.hypershiftKey).2 _ hholds
  refine ⟨hkeys, hholds, htags, (hagree htags).trans rfl, (htexts "true").mpr ?_,
    (htext configOperatorOnly).mpr ⟨_, List.mem_cons_self, .bare nofun⟩⟩
  exact ⟨(Sample.annotationEntries "true").take 2, _, _, [], rfl, .tag "x" (.bare nofun),
    .bare nofun, nofun⟩

end FeatureGates
