import FeatureGates.Proofs.Enlargement
import FeatureGates.Proofs.Path
import FeatureGates.Yaml
import Mathlib.Data.List.Sort

namespace FeatureGates

/-!
# Loading a directory part by part

The files of a directory are shared out between two parts. Each part is the directory after the
files of the other have been deleted, and loading the parts gives what loading the whole does. Only
a link may be lost with a file that it leads to.
-/

namespace FileSystem

/-- Of the files of a directory those are left that a test picks. Its subdirectories stay. -/
def keepingFiles (fs : FileSystem) (l : Location) (kept : Name → Bool) : FileSystem :=
  fs.discard fun k => (childName? l k).any (fun name => !kept name) && !fs.isDirectoryAt k

theorem find?_filter_not (picked : Location → Bool) (k : Location) (es : List (Location × Node)) :
    find? k (es.filter fun e => !picked e.1) = if picked k then none else find? k es := by
  induction es with
  | nil => simp [find?]
  | cons e es ih =>
      by_cases hk : k = e.1
      · subst hk
        cases hp : picked e.1 with
        | true => simp [hp, ih]
        | false => simp [find?, hp]
      · cases hp : picked e.1 <;> simp [find?, hp, hk, ih]

theorem node?_discard (fs : FileSystem) (picked : Location → Bool) {k : Location} (hk : k ≠ []) :
    (fs.discard picked).node? k = if picked k then none else fs.node? k := by
  simp only [node?, if_neg hk, discard, find?_filter_not]

/-- The entry is a file of the directory that is not left. -/
def IsDeleted (fs : FileSystem) (l : Location) (kept : Name → Bool) (k : Location) : Prop :=
  (∃ name, k = l ++ [name] ∧ kept name = false) ∧ fs.isDirectoryAt k = false

variable {fs : FileSystem} {l : Location} {kept : Name → Bool}

theorem node?_keepingFiles_eq_some_iff {k : Location} {n : Node} :
    (fs.keepingFiles l kept).node? k = some n ↔
      fs.node? k = some n ∧ ¬ fs.IsDeleted l kept k := by
  have hdeleted : ((childName? l k).any (fun name => !kept name) && !fs.isDirectoryAt k) = true ↔
      fs.IsDeleted l kept k := by
    simp only [IsDeleted, Bool.and_eq_true, Option.any_eq_true, childName?_eq_some_iff,
      Bool.not_eq_true']
  by_cases hroot : k = []
  · have hnot : ¬ fs.IsDeleted l kept [] := by
      rintro ⟨_, hd⟩
      cases hd
    subst hroot
    simp [node?, hnot]
  · rw [keepingFiles, node?_discard fs _ hroot, ← hdeleted]
    split
    next h => simp [h]
    next h => simp [h]

theorem keepingFiles_within (fs : FileSystem) (l : Location) (kept : Name → Bool) :
    (fs.keepingFiles l kept).Within fs where
  entry _ _ hn := .inl (node?_keepingFiles_eq_some_iff.mp hn).1
  workingDirectory := rfl
  uninterrupted _ _ hi := hi

/-- A walk that does not end at once starts from a directory. -/
theorem Leads.isDirectoryAt_of_ne {purpose : Purpose} {n m : Nat} {k k' : Location}
    {steps : List Step} (h : Leads fs purpose n k steps (.present k') m) (hne : k' ≠ k) :
    fs.isDirectoryAt k = true := by
  cases h with
  | arrive => exact absurd rfl hne
  | stay hd => exact hd
  | up hd => exact hd
  | enter hd => exact hd
  | follow hd => exact hd

/-- No walk goes through a file, so deleting files that are no links leaves all other walks. -/
theorem Leads.keepingFiles (hlink : ∀ name target, fs.node? (l ++ [name]) ≠ some (.link target))
    {purpose : Purpose} {n m : Nat} {k k' : Location} {steps : List Step}
    (h : Leads fs purpose n k steps (.present k') m) (hk : ¬ fs.IsDeleted l kept k') :
    Leads (fs.keepingFiles l kept) purpose n k steps (.present k') m := by
  have hdir : ∀ {j : Location}, fs.isDirectoryAt j = true →
      (fs.keepingFiles l kept).isDirectoryAt j = true := by
    intro j hj
    rw [isDirectoryAt_iff, node?_keepingFiles_eq_some_iff]
    exact ⟨isDirectoryAt_iff.mp hj, fun hdel => by cases hj.symm.trans hdel.2⟩
  generalize hplace : Place.present k' = place at h
  induction h with
  | arrive => exact .arrive _ _
  | stay hd hs _ ih => exact .stay (hdir hd) hs (ih hplace)
  | up hd _ ih => exact .up (hdir hd) (ih hplace)
  | miss => cases hplace
  | @enter n m j name rest _ node hd hname hnode hno h ih =>
      subst hplace
      have hleft : ¬ fs.IsDeleted l kept (j ++ [name]) := by
        intro hdel
        by_cases hend : k' = j ++ [name]
        · exact hk (hend ▸ hdel)
        · cases (h.isDirectoryAt_of_ne hend).symm.trans hdel.2
      exact .enter (hdir hd) hname (node?_keepingFiles_eq_some_iff.mpr ⟨hnode, hleft⟩) hno (ih rfl)
  | follow hd hname hnode _ ih =>
      refine .follow (hdir hd) hname (node?_keepingFiles_eq_some_iff.mpr ⟨hnode, ?_⟩) (ih hplace)
      rintro ⟨⟨name, hk, _⟩, _⟩
      exact hlink name _ (hk ▸ hnode)

theorem locate_keepingFiles
    (hlink : ∀ name target, fs.node? (l ++ [name]) ≠ some (.link target)) {p : Path}
    {k : Location} (h : fs.locate p = .ok k) (hk : ¬ fs.IsDeleted l kept k) :
    (fs.keepingFiles l kept).locate p = .ok k := by
  obtain ⟨hc, m, hl⟩ := resolve_eq_ok_iff.mp (locate_eq_ok_iff.mp h)
  exact locate_eq_ok_iff.mpr (resolve_eq_ok_iff.mpr ⟨hc, m, hl.keepingFiles hlink hk⟩)

end FileSystem

open FileSystem

/-- The directory can be listed and each of its files be read. -/
def FilesReadable (fs : FileSystem) (directory : Path) : Prop :=
  ∃ entries, fs.list directory = .ok entries ∧
    ∀ name, IsFile entries name → ∃ b, fs.read (directory.join name) = .ok b

variable {parse : Notation} {fs : FileSystem} {directory : Path} {l : Location}
  {kept : Name → Bool}

theorem isFile_keepingFiles_iff {name : Name} :
    IsFile ((fs.keepingFiles l kept).children l) name ↔
      IsFile (fs.children l) name ∧ kept name = true := by
  simp only [isFile_children_iff, node?_keepingFiles_eq_some_iff]
  constructor
  · rintro ⟨n, ⟨hn, hleft⟩, hne⟩
    refine ⟨⟨n, hn, hne⟩, ?_⟩
    by_contra hk
    refine hleft ⟨⟨name, rfl, Bool.eq_false_iff.mpr hk⟩, ?_⟩
    rw [Bool.eq_false_iff, Ne, isDirectoryAt_iff, hn, Option.some.injEq]
    exact hne
  · rintro ⟨⟨n, hn, hne⟩, hk⟩
    refine ⟨n, ⟨hn, ?_⟩, hne⟩
    rintro ⟨⟨name', hname, hk'⟩, _⟩
    obtain rfl : name = name' := by simpa using hname
    cases hk.symm.trans hk'

/-- Without links a file is lost only if it is deleted itself. -/
theorem FilesReadable.keepingFiles (h : FilesReadable fs directory)
    (hl : fs.locate directory = .ok l)
    (hlink : ∀ name target, fs.node? (l ++ [name]) ≠ some (.link target)) (kept : Name → Bool) :
    FilesReadable (fs.keepingFiles l kept) directory := by
  obtain ⟨entries, hlist, hread⟩ := h
  obtain ⟨l', hl', hd, hi, rfl⟩ := list_eq_ok_iff.mp hlist
  cases hl.symm.trans hl'
  have hleft : ¬ fs.IsDeleted l kept l := fun ⟨⟨name, hself, _⟩, _⟩ => by simp at hself
  have hroot : (fs.keepingFiles l kept).locate directory = .ok l :=
    locate_keepingFiles hlink hl hleft
  have hd' : (fs.keepingFiles l kept).isDirectoryAt l = true := by
    rw [isDirectoryAt_iff, node?_keepingFiles_eq_some_iff]
    exact ⟨isDirectoryAt_iff.mp hd, hleft⟩
  refine ⟨_, list_eq_ok_iff.mpr ⟨l, hroot, hd', hi, rfl⟩, fun name hname => ?_⟩
  obtain ⟨hname, hk⟩ := isFile_keepingFiles_iff.mp hname
  obtain ⟨b, hb⟩ := hread name hname
  obtain ⟨k, hloc, hnode⟩ := read_eq_ok_iff.mp hb
  obtain rfl := locate_join hl hloc (hlink name)
  have hkept : ¬ fs.IsDeleted l kept (l ++ [name]) := by
    rintro ⟨⟨name', hself, hk'⟩, _⟩
    obtain rfl : name = name' := by simpa using hself
    cases hk.symm.trans hk'
  refine ⟨b, read_eq_ok_iff.mpr ⟨_, locate_keepingFiles hlink hloc hkept, ?_⟩⟩
  exact hnode.imp (fun hn => node?_keepingFiles_eq_some_iff.mpr ⟨hn, hkept⟩)
    fun ⟨writes?, hn⟩ => ⟨writes?, node?_keepingFiles_eq_some_iff.mpr ⟨hn, hkept⟩⟩

/-! ## One part -/

theorem filesReadable_of_load {ms : List Manifest}
    (h : (load parse fs directory).outcome = .ok ms) : FilesReadable fs directory := by
  obtain ⟨l, hl⟩ := exists_locate_of_load h
  refine ⟨_, list_of_load hl h, fun name hname => ?_⟩
  obtain ⟨m, hr⟩ := (readsFiles_of_load hl h).every name hname
  exact ⟨m.contents, (Manifest.read_eq_ok_iff.mp hr).2.1⟩

theorem list_keepingFiles (hl : fs.locate directory = .ok l) {entries : List (Name × Node)}
    (h : (fs.keepingFiles l kept).list directory = .ok entries) :
    entries = (fs.keepingFiles l kept).children l ∧
      fs.list directory = .ok (fs.children l) := by
  obtain ⟨k, hk, hc, hwhole⟩ := Within.list (keepingFiles_within fs l kept) h
  have hsame := Keeps.locate (keepingFiles_within fs l kept) hk
  cases hl.symm.trans hsame
  exact ⟨hc.symm, hwhole⟩

section Part

variable (hl : fs.locate directory = .ok l)

include hl

theorem locate_part {ms₁ : List Manifest}
    (h₁ : (load parse (fs.keepingFiles l kept) directory).outcome = .ok ms₁) :
    (fs.keepingFiles l kept).locate directory = .ok l := by
  obtain ⟨l', hl'⟩ := exists_locate_of_load h₁
  cases hl.symm.trans ((keepingFiles_within fs l kept).locate hl')
  exact hl'

theorem mem_part_iff {ms₁ : List Manifest}
    (h₁ : (load parse (fs.keepingFiles l kept) directory).outcome = .ok ms₁) {m : Manifest} :
    m ∈ ms₁ ↔ ∃ name, IsFile (fs.children l) name ∧ kept name = true ∧
      Manifest.read parse fs (directory.join name) = .ok m := by
  have hwithin := keepingFiles_within fs l kept
  have hreads := readsFiles_of_load (locate_part hl h₁) h₁
  rw [hreads.mem_iff]
  constructor
  · rintro ⟨name, hname, hr⟩
    obtain ⟨hname, hk⟩ := isFile_keepingFiles_iff.mp hname
    exact ⟨name, hname, hk, Manifest.read_of_within hwithin hr⟩
  · rintro ⟨name, hname, hk, hr⟩
    have hpart := isFile_keepingFiles_iff.mpr ⟨hname, hk⟩
    obtain ⟨n, hrn⟩ := hreads.every name hpart
    cases hr.symm.trans (Manifest.read_of_within hwithin hrn)
    exact ⟨name, hpart, hrn⟩

/-- Of a loadable directory every part loads whose files can still be read. -/
theorem exists_load_part {ms : List Manifest} (h : (load parse fs directory).outcome = .ok ms)
    (hpart : FilesReadable (fs.keepingFiles l kept) directory) :
    ∃ ms₁, (load parse (fs.keepingFiles l kept) directory).outcome = .ok ms₁ := by
  have hwithin := keepingFiles_within fs l kept
  obtain ⟨entries, hlist, hread⟩ := hpart
  obtain ⟨rfl, hwhole⟩ := list_keepingFiles hl hlist
  obtain ⟨hdeclares, hapart⟩ := (exists_load_iff_filesApart hwhole).mp ⟨ms, h⟩
  refine (exists_load_iff_filesApart hlist).mpr ⟨fun name hname => ?_, ?_⟩
  · obtain ⟨b, hb⟩ := hread name hname
    obtain ⟨e, contents, hc, hd⟩ := hdeclares name (hname.of_within hwithin)
    cases hc.symm.trans (hwithin.read hb)
    exact ⟨e, b, hb, hd⟩
  · intro name name' k hname hname' hk hk'
    exact hapart name name' k (hname.of_within hwithin) (hname'.of_within hwithin)
      (hk.of_within hwithin) (hk'.of_within hwithin)

variable {ms ms₁ : List Manifest} (h : (load parse fs directory).outcome = .ok ms)
  (h₁ : (load parse (fs.keepingFiles l kept) directory).outcome = .ok ms₁)

include h h₁

theorem mem_part_iff_mem_whole {m : Manifest} :
    m ∈ ms₁ ↔ m ∈ ms ∧ ∃ name, kept name = true ∧ m.path = directory.join name := by
  rw [mem_part_iff hl h₁, (readsFiles_of_load hl h).mem_iff]
  constructor
  · rintro ⟨name, hname, hk, hr⟩
    exact ⟨⟨name, hname, hr⟩, name, hk, (Manifest.read_eq_ok_iff.mp hr).1⟩
  · rintro ⟨⟨name, hname, hr⟩, name', hk, hpath⟩
    obtain rfl : name = name' :=
      directory.join_injective ((Manifest.read_eq_ok_iff.mp hr).1.symm.trans hpath)
    exact ⟨name, hname, hk, hr⟩

theorem part_sublist : ms₁.Sublist ms := by
  have hreads := readsFiles_of_load hl h
  have hreads₁ := readsFiles_of_load (locate_part hl h₁) h₁
  have hsub : ms₁.Subperm ms :=
    List.subperm_of_subset (Manifest.nodup_of_ascending hreads₁.ascending)
      fun m hm => ((mem_part_iff_mem_whole hl h h₁).mp hm).1
  have hanti : Std.Antisymm fun a b : Manifest => a.path < b.path :=
    ⟨fun a b hab hba => absurd (List.lt_trans hab hba) (List.lt_irrefl a.path)⟩
  exact List.sublist_of_subperm_of_pairwise hsub hreads₁.ascending hreads.ascending

theorem gates?_part_iff {p : ClusterProfile} {s : String} {g : GateSet} :
    (gatesByProfile ms₁).gates? p s = some g ↔
      (gatesByProfile ms).gates? p s = some g ∧ ∃ name, IsFile (fs.children l) name ∧
        kept name = true ∧ FileDeclares parse fs (directory.join name) (some ⟨p, s, g⟩) := by
  rw [gates?_gatesByProfile (nodup_keys_of_load h), gates?_gatesByProfile (nodup_keys_of_load h₁)]
  constructor
  · rintro ⟨m, hm, he⟩
    obtain ⟨name, hname, hk, hr⟩ := (mem_part_iff hl h₁).mp hm
    exact ⟨⟨m, ((mem_part_iff_mem_whole hl h h₁).mp hm).1, he⟩, name, hname, hk,
      he ▸ Manifest.fileDeclares_of_read hr⟩
  · rintro ⟨_, name, hname, hk, hd⟩
    obtain ⟨m, hr, _, he⟩ := Manifest.fileDeclares_iff.mp hd
    exact ⟨m, (mem_part_iff hl h₁).mpr ⟨name, hname, hk, hr⟩, he⟩

end Part

/-! ## Both parts -/

namespace GatesByProfile

/-- No feature set of a profile occurs in both. -/
def Apart (gates₁ gates₂ : GatesByProfile) : Prop :=
  ∀ p s, gates₁.gates? p s = none ∨ gates₂.gates? p s = none

/-- The feature sets of each profile are those of the one and those of the other. -/
structure DisjointUnion (gates gates₁ gates₂ : GatesByProfile) : Prop where
  apart : gates₁.Apart gates₂
  profiles : ∀ p, (gates.get? p).isSome = ((gates₁.get? p).isSome || (gates₂.get? p).isSome)
  gates?_eq : ∀ p s, gates.gates? p s = (gates₁.gates? p s).or (gates₂.gates? p s)

theorem disjointUnion_of_gates?_eq {gates gates₁ gates₂ : GatesByProfile} (h : gates.Populated)
    (h₁ : gates₁.Populated) (h₂ : gates₂.Populated) (hapart : gates₁.Apart gates₂)
    (heq : ∀ p s, gates.gates? p s = (gates₁.gates? p s).or (gates₂.gates? p s)) :
    gates.DisjointUnion gates₁ gates₂ := by
  refine ⟨hapart, fun p => ?_, heq⟩
  rw [Bool.eq_iff_iff, Bool.or_eq_true, h.isSome_get?_iff, h₁.isSome_get?_iff, h₂.isSome_get?_iff]
  simp only [heq, Option.or_eq_some_iff]
  constructor
  · rintro ⟨s, g, hg | ⟨_, hg⟩⟩
    · exact .inl ⟨s, g, hg⟩
    · exact .inr ⟨s, g, hg⟩
  · rintro (⟨s, g, hg⟩ | ⟨s, g, hg⟩)
    · exact ⟨s, g, .inl hg⟩
    · have hnone : gates₁.gates? p s = none := (hapart p s).resolve_right (by simp [hg])
      exact ⟨s, g, .inr ⟨hnone, hg⟩⟩

end GatesByProfile

open GatesByProfile

theorem gates?_ne_none_of_declaresKey (hl : fs.locate directory = .ok l) {ms : List Manifest}
    (h : (load parse fs directory).outcome = .ok ms) {name : Name}
    (hname : IsFile (fs.children l) name) {k : ClusterProfile × String}
    (hk : DeclaresKey parse fs (directory.join name) k) :
    (gatesByProfile ms).gates? k.1 k.2 ≠ none := by
  have hreads := readsFiles_of_load hl h
  obtain ⟨m, hr⟩ := hreads.every name hname
  obtain ⟨g, hd⟩ := hk
  have he : m.entry = some ⟨k.1, k.2, g⟩ := (Manifest.fileDeclares_of_read hr).unique hd
  have hm : m ∈ ms := (hreads.mem_iff m).mpr ⟨name, hname, hr⟩
  rw [(gates?_gatesByProfile (nodup_keys_of_load h)).mpr ⟨m, hm, he⟩]
  exact nofun

section Parts

variable (hl : fs.locate directory = .ok l) {ms₁ ms₂ : List Manifest}
  (h₁ : (load parse (fs.keepingFiles l kept) directory).outcome = .ok ms₁)
  (h₂ : (load parse (fs.keepingFiles l fun name => !kept name) directory).outcome = .ok ms₂)

include hl h₁ h₂

theorem not_mem_other_part {m : Manifest} (hm : m ∈ ms₁) : m ∉ ms₂ := by
  intro hm'
  obtain ⟨name, _, hk, hr⟩ := (mem_part_iff hl h₁).mp hm
  obtain ⟨name', _, hk', hr'⟩ := (mem_part_iff hl h₂).mp hm'
  have hpath : directory.join name = directory.join name' :=
    (Manifest.read_eq_ok_iff.mp hr).1.symm.trans (Manifest.read_eq_ok_iff.mp hr').1
  obtain rfl := directory.join_injective hpath
  simp [hk] at hk'

theorem mem_whole_iff_mem_part {ms : List Manifest}
    (h : (load parse fs directory).outcome = .ok ms) {m : Manifest} :
    m ∈ ms ↔ m ∈ ms₁ ∨ m ∈ ms₂ := by
  rw [(readsFiles_of_load hl h).mem_iff, mem_part_iff hl h₁, mem_part_iff hl h₂]
  constructor
  · rintro ⟨name, hname, hr⟩
    cases hk : kept name with
    | true => exact .inl ⟨name, hname, hk, hr⟩
    | false => exact .inr ⟨name, hname, by simp [hk], hr⟩
  · rintro (⟨name, hname, _, hr⟩ | ⟨name, hname, _, hr⟩)
    · exact ⟨name, hname, hr⟩
    · exact ⟨name, hname, hr⟩

theorem merge_parts {ms : List Manifest} (h : (load parse fs directory).outcome = .ok ms) :
    ms = ms₁.merge ms₂ Manifest.byPath := by
  have hreads₁ := readsFiles_of_load (locate_part hl h₁) h₁
  have hreads₂ := readsFiles_of_load (locate_part hl h₂) h₂
  exact (readsFiles_of_load hl h).eq_merge hreads₁.ascending hreads₂.ascending
    (fun m => mem_whole_iff_mem_part hl h₁ h₂ h) fun m hm => not_mem_other_part hl h₁ h₂ hm

theorem apart_parts {ms : List Manifest} (h : (load parse fs directory).outcome = .ok ms) :
    (gatesByProfile ms₁).Apart (gatesByProfile ms₂) := by
  intro p s
  by_contra hboth
  obtain ⟨hs₁, hs₂⟩ := not_or.mp hboth
  obtain ⟨g₁, hg₁⟩ := Option.ne_none_iff_exists'.mp hs₁
  obtain ⟨g₂, hg₂⟩ := Option.ne_none_iff_exists'.mp hs₂
  obtain ⟨m, hm, hme⟩ := (gates?_gatesByProfile (nodup_keys_of_load h₁)).mp hg₁
  obtain ⟨n, hn, hne⟩ := (gates?_gatesByProfile (nodup_keys_of_load h₂)).mp hg₂
  have hmn : m = n := Manifest.eq_of_key?_eq (nodup_keys_of_load h)
    ((mem_whole_iff_mem_part hl h₁ h₂ h).mpr (.inl hm))
    ((mem_whole_iff_mem_part hl h₁ h₂ h).mpr (.inr hn)) (k := (p, s))
    (by simp [Manifest.key?, hme]) (by simp [Manifest.key?, hne])
  exact not_mem_other_part hl h₁ h₂ hm (hmn ▸ hn)

theorem disjointUnion_parts {ms : List Manifest}
    (h : (load parse fs directory).outcome = .ok ms) :
    (gatesByProfile ms).DisjointUnion (gatesByProfile ms₁) (gatesByProfile ms₂) := by
  have hkeys₁ := nodup_keys_of_load h₁
  have hkeys₂ := nodup_keys_of_load h₂
  have hapart := apart_parts hl h₁ h₂ h
  refine disjointUnion_of_gates?_eq (populated_gatesByProfile ms) (populated_gatesByProfile ms₁)
    (populated_gatesByProfile ms₂) hapart fun p s => Option.ext fun g => ?_
  rw [Option.or_eq_some_iff, gates?_gatesByProfile (nodup_keys_of_load h)]
  simp only [mem_whole_iff_mem_part hl h₁ h₂ h]
  constructor
  · rintro ⟨m, hm | hm, he⟩
    · exact .inl ((gates?_gatesByProfile hkeys₁).mpr ⟨m, hm, he⟩)
    · have hg₂ := (gates?_gatesByProfile hkeys₂).mpr ⟨m, hm, he⟩
      exact .inr ⟨(hapart p s).resolve_right (by simp [hg₂]), hg₂⟩
  · rintro (hg | ⟨_, hg⟩)
    · obtain ⟨m, hm, he⟩ := (gates?_gatesByProfile hkeys₁).mp hg
      exact ⟨m, .inl hm, he⟩
    · obtain ⟨m, hm, he⟩ := (gates?_gatesByProfile hkeys₂).mp hg
      exact ⟨m, .inr hm, he⟩

theorem exists_load_whole (hapart : (gatesByProfile ms₁).Apart (gatesByProfile ms₂)) :
    ∃ ms, (load parse fs directory).outcome = .ok ms := by
  have hwithin := keepingFiles_within fs l kept
  have hwithin' := keepingFiles_within fs l fun name => !kept name
  have hl₁ := locate_part hl h₁
  have hl₂ := locate_part hl h₂
  have hreads₁ := readsFiles_of_load hl₁ h₁
  have hreads₂ := readsFiles_of_load hl₂ h₂
  have hlist₁ := list_of_load hl₁ h₁
  have hlist₂ := list_of_load hl₂ h₂
  obtain ⟨_, hwhole⟩ := list_keepingFiles hl hlist₁
  obtain ⟨_, hapart₁⟩ := (exists_load_iff_filesApart hlist₁).mp ⟨ms₁, h₁⟩
  obtain ⟨_, hapart₂⟩ := (exists_load_iff_filesApart hlist₂).mp ⟨ms₂, h₂⟩
  -- Each file belongs to one part, where it is read as in the whole.
  have hpart : ∀ name, IsFile (fs.children l) name →
      (IsFile ((fs.keepingFiles l kept).children l) name ∧
        ∃ m, Manifest.read parse (fs.keepingFiles l kept) (directory.join name) = .ok m) ∨
      (IsFile ((fs.keepingFiles l fun name => !kept name).children l) name ∧
        ∃ m, Manifest.read parse (fs.keepingFiles l fun name => !kept name)
          (directory.join name) = .ok m) := by
    intro name hname
    cases hk : kept name with
    | true =>
        have hname₁ := isFile_keepingFiles_iff.mpr ⟨hname, hk⟩
        exact .inl ⟨hname₁, hreads₁.every name hname₁⟩
    | false =>
        have hname₂ : IsFile ((fs.keepingFiles l fun name => !kept name).children l) name :=
          isFile_keepingFiles_iff.mpr ⟨hname, by simp [hk]⟩
        exact .inr ⟨hname₂, hreads₂.every name hname₂⟩
  refine (exists_load_iff_filesApart hwhole).mpr ⟨fun name hname => ?_, ?_⟩
  · rcases hpart name hname with ⟨_, m, hr⟩ | ⟨_, m, hr⟩
    · exact ⟨m.entry, Manifest.fileDeclares_of_read (Manifest.read_of_within hwithin hr)⟩
    · exact ⟨m.entry, Manifest.fileDeclares_of_read (Manifest.read_of_within hwithin' hr)⟩
  · intro name name' k hname hname' hk hk'
    rcases hpart name hname with ⟨hf, m, hr⟩ | ⟨hf, m, hr⟩ <;>
      rcases hpart name' hname' with ⟨hf', m', hr'⟩ | ⟨hf', m', hr'⟩
    · exact hapart₁ name name' k hf hf' (hk.within_of_read hwithin hr)
        (hk'.within_of_read hwithin hr')
    · have hg₁ := gates?_ne_none_of_declaresKey hl₁ h₁ hf (hk.within_of_read hwithin hr)
      have hg₂ := gates?_ne_none_of_declaresKey hl₂ h₂ hf' (hk'.within_of_read hwithin' hr')
      exact absurd (hapart k.1 k.2) (not_or.mpr ⟨hg₁, hg₂⟩)
    · have hg₁ := gates?_ne_none_of_declaresKey hl₁ h₁ hf' (hk'.within_of_read hwithin hr')
      have hg₂ := gates?_ne_none_of_declaresKey hl₂ h₂ hf (hk.within_of_read hwithin' hr)
      exact absurd (hapart k.1 k.2) (not_or.mpr ⟨hg₁, hg₂⟩)
    · exact hapart₂ name name' k hf hf' (hk.within_of_read hwithin' hr)
        (hk'.within_of_read hwithin' hr')

end Parts

/-- Loading the parts of a directory gives what loading the whole gives, as far as the files of each
part can be read without those of the other. -/
theorem load_splits_into_readable_parts (parse : Notation) (fs : FileSystem) (directory : Path) :
    (∀ l, fs.locate directory = .ok l → ∀ kept : Name → Bool,
      ((∃ ms, (load parse fs directory).outcome = .ok ms) ∧
          FilesReadable (fs.keepingFiles l kept) directory ∧
          FilesReadable (fs.keepingFiles l fun name => !kept name) directory ↔
        ∃ ms₁ ms₂, (load parse (fs.keepingFiles l kept) directory).outcome = .ok ms₁ ∧
          (load parse (fs.keepingFiles l fun name => !kept name) directory).outcome = .ok ms₂ ∧
          (gatesByProfile ms₁).Apart (gatesByProfile ms₂)) ∧
      (∀ ms ms₁ ms₂, (load parse fs directory).outcome = .ok ms →
        (load parse (fs.keepingFiles l kept) directory).outcome = .ok ms₁ →
        (load parse (fs.keepingFiles l fun name => !kept name) directory).outcome = .ok ms₂ →
        (gatesByProfile ms).DisjointUnion (gatesByProfile ms₁) (gatesByProfile ms₂) ∧
        ms = ms₁.merge ms₂ Manifest.byPath) ∧
      (∀ ms, (load parse fs directory).outcome = .ok ms →
        FilesReadable (fs.keepingFiles l kept) directory →
        ∃ ms₁, (load parse (fs.keepingFiles l kept) directory).outcome = .ok ms₁ ∧
          ms₁.Sublist ms ∧
          (∀ m, m ∈ ms₁ ↔ m ∈ ms ∧ ∃ name, kept name = true ∧ m.path = directory.join name) ∧
          ∀ p s g, (gatesByProfile ms₁).gates? p s = some g ↔
            (gatesByProfile ms).gates? p s = some g ∧
            ∃ name, IsFile (fs.children l) name ∧ kept name = true ∧
              FileDeclares parse fs (directory.join name) (some ⟨p, s, g⟩)) ∧
      (FilesReadable fs directory → (∀ name target, fs.node? (l ++ [name]) ≠ some (.link target)) →
        FilesReadable (fs.keepingFiles l kept) directory)) ∧
    ∀ fs', GainsUnclassified parse fs fs' directory →
      ∀ ms, (load parse fs directory).outcome = .ok ms →
        ∃ ms', (load parse fs' directory).outcome = .ok ms' ∧
          gatesByProfile ms' = gatesByProfile ms ∧
          ∀ rule : SubsetRule,
            rule.check (gatesByProfile ms') = rule.check (gatesByProfile ms) := by
  refine ⟨fun l hl kept => ⟨⟨?_, ?_⟩, ?_, ?_, ?_⟩, ?_⟩
  · rintro ⟨⟨ms, hms⟩, hpart₁, hpart₂⟩
    obtain ⟨ms₁, h₁⟩ := exists_load_part hl hms hpart₁
    obtain ⟨ms₂, h₂⟩ := exists_load_part hl hms hpart₂
    exact ⟨ms₁, ms₂, h₁, h₂, apart_parts hl h₁ h₂ hms⟩
  · rintro ⟨ms₁, ms₂, h₁, h₂, hapart⟩
    exact ⟨exists_load_whole hl h₁ h₂ hapart, filesReadable_of_load h₁, filesReadable_of_load h₂⟩
  · intro ms ms₁ ms₂ hms h₁ h₂
    exact ⟨disjointUnion_parts hl h₁ h₂ hms, merge_parts hl h₁ h₂ hms⟩
  · intro ms hms hpart
    obtain ⟨ms₁, h₁⟩ := exists_load_part hl hms hpart
    exact ⟨ms₁, h₁, part_sublist hl hms h₁, fun m => mem_part_iff_mem_whole hl hms h₁,
      fun p s g => gates?_part_iff hl hms h₁⟩
  · exact fun hreadable hlink => hreadable.keepingFiles hl hlink kept
  · intro fs' hgains ms hms
    obtain ⟨ms', hms'⟩ := hgains.exists_load hms
    have hgates := hgains.gatesByProfile_eq hms hms'
    exact ⟨ms', hms', hgates, fun rule => by rw [hgates]⟩

namespace Sample

def c : Name := ⟨[0x63], by decide⟩

def isB (name : Name) : Bool := name == b

/-- The sample with an empty file more. -/
def enlarged : FileSystem := files.put [d, c] (.file [])

theorem declares_empty : Declares Yaml.read [] none := by
  decide +kernel

theorem gainsUnclassified : GainsUnclassified Yaml.read files enlarged [0x64] where
  within := keeps_put _ rfl
  unclassified entries entries' hl hl' name hname hnew := by
    cases hl
    cases hl'
    obtain ⟨node, hmem, hne⟩ := hname
    replace hmem : (name, node) ∈ files.children [d] ++ [(c, .file [])] := hmem
    rw [List.mem_append, List.mem_singleton] at hmem
    rcases hmem with hmem | hmem
    · exact absurd ⟨node, hmem, hne⟩ hnew
    · cases hmem
      exact ⟨[], rfl, declares_empty⟩

theorem filesReadable : FilesReadable files [0x64] := filesReadable_of_load load_eq_ok

theorem no_links (name : Name) (target : Path) :
    files.node? ([d] ++ [name]) ≠ some (.link target) := by
  rw [Ne, ← mem_children_iff]
  have hchildren : files.children [d] =
      [(b, .file default), (s, .directory), (a, .file okd)] := rfl
  simp [hchildren]

end Sample

theorem load_splits_sample :
    (∃ ms₁ ms₂,
      (load Yaml.read (Sample.files.keepingFiles [Sample.d] Sample.isB) [0x64]).outcome = .ok ms₁ ∧
      (load Yaml.read (Sample.files.keepingFiles [Sample.d] fun name => !Sample.isB name)
        [0x64]).outcome = .ok ms₂ ∧
      Sample.manifests = ms₁.merge ms₂ Manifest.byPath) ∧
    ∃ ms', (load Yaml.read Sample.enlarged [0x64]).outcome = .ok ms' ∧
      gatesByProfile ms' = gatesByProfile Sample.manifests := by
  obtain ⟨hparts, hgains⟩ := load_splits_into_readable_parts Yaml.read Sample.files [0x64]
  obtain ⟨hiff, hunion, _, hpart⟩ := hparts [Sample.d] rfl Sample.isB
  obtain ⟨_, _, _, hpart'⟩ := hparts [Sample.d] rfl fun name => !Sample.isB name
  obtain ⟨ms₁, ms₂, h₁, h₂, _⟩ := hiff.mp ⟨⟨_, Sample.load_eq_ok⟩,
    hpart Sample.filesReadable Sample.no_links,
    hpart' Sample.filesReadable Sample.no_links⟩
  obtain ⟨ms', hms', hgates, _⟩ := hgains _ Sample.gainsUnclassified _ Sample.load_eq_ok
  exact ⟨⟨ms₁, ms₂, h₁, h₂, (hunion _ _ _ Sample.load_eq_ok h₁ h₂).2⟩, ms', hms', hgates⟩

/-- A directory with an empty file and a link to it. -/
def Sample.linked : FileSystem where
  entries := [([Sample.d], .directory), ([Sample.d, Sample.a], .file []),
    ([Sample.d, Sample.b], .link [0x61])]
  distinct := by decide
  workingDirectory := []

/-- The whole loads, but the link is lost when the file is deleted. -/
theorem link_splits_from_its_file :
    ¬ ((∃ ms, (load Yaml.read Sample.linked [0x64]).outcome = .ok ms) ↔
      ∃ ms₁ ms₂,
        (load Yaml.read (Sample.linked.keepingFiles [Sample.d] Sample.isB) [0x64]).outcome =
          .ok ms₁ ∧
        (load Yaml.read (Sample.linked.keepingFiles [Sample.d] fun name => !Sample.isB name)
          [0x64]).outcome = .ok ms₂ ∧
        (gatesByProfile ms₁).Apart (gatesByProfile ms₂)) := by
  intro hiff
  have hread : List.Forall₂ (fun p m => Manifest.read Yaml.read Sample.linked p = .ok m)
      ([Sample.a, Sample.b].map (Path.join [0x64]))
      [⟨[0x64, slash, 0x61], [], none⟩, ⟨[0x64, slash, 0x62], [], none⟩] :=
    .cons (Manifest.read_eq_ok_iff.mpr ⟨rfl, rfl, Sample.declares_empty⟩)
      (.cons (Manifest.read_eq_ok_iff.mpr ⟨rfl, rfl, Sample.declares_empty⟩) .nil)
  have hwhole : ∃ ms, (load Yaml.read Sample.linked [0x64]).outcome = .ok ms :=
    ⟨_, load_eq_ok_iff.mpr
      ⟨_, _, rfl, filesOf_of_ascending (by decide) (by decide), hread, by decide⟩⟩
  obtain ⟨ms₁, _, h₁, _⟩ := hiff.mp hwhole
  obtain ⟨entries, hl, hreadable⟩ := filesReadable_of_load h₁
  cases hl
  obtain ⟨b, hb⟩ := hreadable Sample.b ⟨.link [0x61], by decide, nofun⟩
  cases hb

end FeatureGates
