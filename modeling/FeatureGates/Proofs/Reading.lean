import FeatureGates.Proofs.Document
import FeatureGates.Proofs.Ordered

namespace FeatureGates

/-!
# Reading one file

A file either declares something, if only nothing, or is at fault by itself in exactly one way.
-/

/-- The contents are a document that holds a manifest, and this is what it declares. -/
def Declares (parse : Notation) (contents : Bytes) (entry : Option FeatureSetEntry) : Prop :=
  ∃ t, parse contents = .ok t ∧ t.HoldsManifest ∧ t.entry = .ok entry

theorem Declares.unique {parse : Notation} {contents : Bytes} {e e' : Option FeatureSetEntry}
    (h : Declares parse contents e) (h' : Declares parse contents e') : e = e' := by
  obtain ⟨t, ht, _, he⟩ := h
  obtain ⟨t', ht', _, he'⟩ := h'
  obtain rfl := Except.ok.inj (ht.symm.trans ht')
  exact Except.ok.inj (he.symm.trans he')

deriving instance DecidableEq for FeatureSetEntry

theorem toOption_eq_some_iff {ε α : Type} {x : Except ε α} {a : α} :
    x.toOption = some a ↔ x = .ok a := by
  cases x <;> simp [Except.toOption]

instance (parse : Notation) (contents : Bytes) (entry : Option FeatureSetEntry) :
    Decidable (Declares parse contents entry) :=
  decidable_of_iff
    ((parse contents).toOption.any fun t =>
      t.otherKind?.isNone && decide (t.entry.toOption = some entry)) (by
    simp only [Option.any_eq_true, Bool.and_eq_true, Option.isNone_iff_eq_none,
      Tree.otherKind?_eq_none_iff, decide_eq_true_eq, toOption_eq_some_iff, Declares])

/-- The file at a path can be read, and this is what it declares. -/
def FileDeclares (parse : Notation) (fs : FileSystem) (path : Path)
    (entry : Option FeatureSetEntry) : Prop :=
  ∃ contents, fs.read path = .ok contents ∧ Declares parse contents entry

theorem FileDeclares.unique {parse : Notation} {fs : FileSystem} {path : Path}
    {e e' : Option FeatureSetEntry} (h : FileDeclares parse fs path e)
    (h' : FileDeclares parse fs path e') : e = e' := by
  obtain ⟨contents, hr, hd⟩ := h
  obtain ⟨contents', hr', hd'⟩ := h'
  obtain rfl := Except.ok.inj (hr.symm.trans hr')
  exact hd.unique hd'

/-- The file at a path holds the document, which belongs to the profile and the feature set. -/
structure ClassifiedAs (parse : Notation) (fs : FileSystem) (path : Path)
    (profile : ClusterProfile) (featureSet : String) (t : Tree) : Prop where
  parsed : ∃ contents, fs.read path = .ok contents ∧ parse contents = .ok t
  holdsManifest : t.HoldsManifest
  profile : t.NamesProfile profile
  featureSet : t.HasFeatureSet featureSet

theorem fileDeclares_some_iff {parse : Notation} {fs : FileSystem} {path : Path}
    {e : FeatureSetEntry} :
    FileDeclares parse fs path (some e) ↔
      ∃ t, ClassifiedAs parse fs path e.profile e.featureSet t ∧ e.enabled = t.enabledGates := by
  constructor
  · rintro ⟨contents, hr, t, hp, hm, he⟩
    obtain ⟨hprofile, hset, hgates⟩ := Tree.entry_eq_some_iff.mp he
    exact ⟨t, ⟨⟨contents, hr, hp⟩, hm, hprofile, hset⟩, hgates⟩
  · rintro ⟨t, ⟨⟨contents, hr, hp⟩, hm, hprofile, hset⟩, hgates⟩
    exact ⟨contents, hr, t, hp, hm, Tree.entry_eq_some_iff.mpr ⟨hprofile, hset, hgates⟩⟩

/-- The file at a path declares gates for a profile and a feature set. -/
def DeclaresKey (parse : Notation) (fs : FileSystem) (path : Path)
    (key : ClusterProfile × String) : Prop :=
  ∃ gates, FileDeclares parse fs path (some ⟨key.1, key.2, gates⟩)

/-- What is wrong with a file by itself: the first of four tests that it does not stand. -/
inductive FileFault (parse : Notation) (fs : FileSystem) (path : Path) : ManifestError → Prop
  | unreadable {cause : FileError} (hr : fs.read path = .error cause) :
      FileFault parse fs path (.fileUnreadable path cause)
  | notParsed {contents : Bytes} {cause : String} (hr : fs.read path = .ok contents)
      (hp : parse contents = .error cause) : FileFault parse fs path (.notParsed path cause)
  | notAMapping {contents : Bytes} {t : Tree} {kind : String} (hr : fs.read path = .ok contents)
      (hp : parse contents = .ok t) (hk : t.HasKind kind) :
      FileFault parse fs path (.notAMapping path kind)
  | ambiguous {contents : Bytes} {t : Tree} {c : ProfileConflict}
      (hr : fs.read path = .ok contents) (hp : parse contents = .ok t) (hm : t.HoldsManifest)
      (hc : t.annotations.profile? = .error c) :
      FileFault parse fs path (.ambiguousProfile path c)

namespace Manifest

variable {parse : Notation} {fs : FileSystem} {path : Path}

theorem read_eq_ok_iff {m : Manifest} :
    read parse fs path = .ok m ↔
      m.path = path ∧ fs.read path = .ok m.contents ∧ Declares parse m.contents m.entry := by
  obtain ⟨p, contents, entry⟩ := m
  constructor
  · intro h
    unfold read at h
    split at h
    next => cases h
    next b hr =>
      split at h
      next => cases h
      next t hp =>
        split at h
        next => cases h
        next hk =>
          unfold Tree.entryAt at h
          split at h
          next e he =>
            cases h
            exact ⟨rfl, hr, t, hp, Tree.otherKind?_eq_none_iff.mp hk, he⟩
          next => cases h
  · rintro ⟨rfl, hr, t, hp, hm, he⟩
    simp [read, hr, hp, Tree.otherKind?_eq_none_iff.mpr hm, Tree.entryAt, he, Except.map]

theorem read_eq_error_iff {e : ManifestError} :
    read parse fs path = .error e ↔ FileFault parse fs path e := by
  constructor
  · intro h
    unfold read at h
    split at h
    next cause hr => cases h; exact .unreadable hr
    next b hr =>
      split at h
      next cause hp => cases h; exact .notParsed hr hp
      next t hp =>
        split at h
        next kind hk => cases h; exact .notAMapping hr hp (Tree.otherKind?_eq_some_iff.mp hk)
        next hk =>
          unfold Tree.entryAt at h
          split at h
          next => cases h
          next c hc =>
            cases h
            exact .ambiguous hr hp (Tree.otherKind?_eq_none_iff.mp hk)
              (Tree.entry_eq_error_iff.mp hc)
  · rintro (hr | ⟨hr, hp⟩ | ⟨hr, hp, hk⟩ | ⟨hr, hp, hm, hc⟩)
    · simp [read, hr]
    · simp [read, hr, hp]
    · simp [read, hr, hp, Tree.otherKind?_eq_some_iff.mpr hk]
    · simp [read, hr, hp, Tree.otherKind?_eq_none_iff.mpr hm, Tree.entryAt,
        Tree.entry_eq_error_iff.mpr hc, Except.map]

theorem fileDeclares_iff {entry : Option FeatureSetEntry} :
    FileDeclares parse fs path entry ↔
      ∃ m, read parse fs path = .ok m ∧ m.path = path ∧ m.entry = entry := by
  constructor
  · rintro ⟨contents, hr, hd⟩
    exact ⟨⟨path, contents, entry⟩, read_eq_ok_iff.mpr ⟨rfl, hr, hd⟩, rfl, rfl⟩
  · rintro ⟨m, hm, _, rfl⟩
    obtain ⟨_, hr, hd⟩ := read_eq_ok_iff.mp hm
    exact ⟨m.contents, hr, hd⟩

theorem fileDeclares_of_read {m : Manifest} (h : read parse fs path = .ok m) :
    FileDeclares parse fs path m.entry :=
  fileDeclares_iff.mpr ⟨m, h, (read_eq_ok_iff.mp h).1, rfl⟩

theorem declaresKey_iff {m : Manifest} (h : read parse fs path = .ok m)
    {k : ClusterProfile × String} : DeclaresKey parse fs path k ↔ m.key? = some k := by
  obtain ⟨p, s⟩ := k
  have hm := fileDeclares_of_read h
  constructor
  · rintro ⟨gates, hd⟩
    simp [key?, hm.unique hd]
  · intro hk
    obtain ⟨⟨p', s', gates⟩, he, hkey⟩ := Option.map_eq_some_iff.mp hk
    cases hkey
    exact ⟨gates, he ▸ hm⟩

/-- Reading a file gives no other faults than its own and nothing that it does not declare. -/
theorem not_fileDeclares_of_fileFault {e : ManifestError} {entry : Option FeatureSetEntry}
    (h : FileFault parse fs path e) : ¬ FileDeclares parse fs path entry := by
  intro hd
  obtain ⟨m, hm, _⟩ := fileDeclares_iff.mp hd
  cases hm.symm.trans (read_eq_error_iff.mpr h)

end Manifest

end FeatureGates
