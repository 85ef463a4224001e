import FeatureGates.Proofs.Growth
import FeatureGates.Proofs.Inventory

namespace FeatureGates

/-!
# Loading a directory that grows

A manifest that can be read is read the same in every file system that has more entries. So a
directory to which only subdirectories and unclassified manifests are added declares what it did.
-/

variable {parse : Notation} {fs fs' : FileSystem} {directory : Path}

theorem Manifest.read_of_within (h : fs.Within fs') {p : Path} {m : Manifest}
    (hr : Manifest.read parse fs p = .ok m) : Manifest.read parse fs' p = .ok m := by
  obtain ⟨hp, hc, hd⟩ := Manifest.read_eq_ok_iff.mp hr
  exact Manifest.read_eq_ok_iff.mpr ⟨hp, h.read hc, hd⟩

theorem FileDeclares.of_within (h : fs.Within fs') {p : Path} {entry : Option FeatureSetEntry}
    (hd : FileDeclares parse fs p entry) : FileDeclares parse fs' p entry := by
  obtain ⟨contents, hc, hd⟩ := hd
  exact ⟨contents, h.read hc, hd⟩

theorem DeclaresKey.of_within (h : fs.Within fs') {p : Path} {k : ClusterProfile × String}
    (hk : DeclaresKey parse fs p k) : DeclaresKey parse fs' p k := by
  obtain ⟨g, hd⟩ := hk
  exact ⟨g, hd.of_within h⟩

/-- A file that has been read declares nothing new in a larger file system. -/
theorem DeclaresKey.within_of_read (h : fs.Within fs') {p : Path} {m : Manifest}
    (hr : Manifest.read parse fs p = .ok m) {k : ClusterProfile × String}
    (hk : DeclaresKey parse fs' p k) : DeclaresKey parse fs p k :=
  have hkey := (Manifest.declaresKey_iff (Manifest.read_of_within h hr)).mp hk
  (Manifest.declaresKey_iff hr).mpr hkey

theorem FileSystem.Within.list (h : fs.Within fs') {entries : List (Name × Node)}
    (hl : fs.list directory = .ok entries) :
    ∃ l, fs.locate directory = .ok l ∧ fs.children l = entries ∧
      fs'.list directory = .ok (fs'.children l) := by
  obtain ⟨l, hloc, hd, hi, hc⟩ := FileSystem.list_eq_ok_iff.mp hl
  exact ⟨l, hloc, hc, FileSystem.list_eq_ok_iff.mpr
    ⟨l, FileSystem.Keeps.locate h hloc, FileSystem.Keeps.isDirectoryAt h hd,
      FileSystem.Keeps.uninterrupted h l (FileSystem.isDirectoryAt_iff.mp hd) hi, rfl⟩⟩

theorem isFile_children_iff {l : Location} {name : Name} :
    IsFile (fs.children l) name ↔ ∃ n, fs.node? (l ++ [name]) = some n ∧ n ≠ .directory := by
  simp only [IsFile, FileSystem.mem_children_iff]

theorem IsFile.of_within (h : fs.Within fs') {l : Location} {name : Name}
    (hf : IsFile (fs.children l) name) : IsFile (fs'.children l) name := by
  obtain ⟨n, hn, hne⟩ := isFile_children_iff.mp hf
  exact isFile_children_iff.mpr ⟨n, h.node? hn, hne⟩

/-! ## The manifests of a directory by their paths -/

/-- The manifests are those of the files, in the order of their paths. Within one directory that is
the order of the file names. -/
structure ReadsFiles (parse : Notation) (fs : FileSystem) (directory : Path)
    (entries : List (Name × Node)) (ms : List Manifest) : Prop where
  every : ∀ name, IsFile entries name → ∃ m, Manifest.read parse fs (directory.join name) = .ok m
  mem_iff : ∀ m, m ∈ ms ↔
    ∃ name, IsFile entries name ∧ Manifest.read parse fs (directory.join name) = .ok m
  ascending : ms.Pairwise fun a b => a.path < b.path

theorem Path.join_lt_join (directory : Path) {a b : Name} (h : a.bytes < b.bytes) :
    directory.join a < directory.join b := by
  unfold Path.join
  split
  next => exact List.append_left_lt h
  next =>
    rw [List.append_cons, List.append_cons directory FeatureGates.slash b.bytes]
    exact List.append_left_lt h

theorem Path.lt_of_join_lt_join (directory : Path) {a b : Name}
    (h : directory.join a < directory.join b) : a.bytes < b.bytes := by
  by_contra hnot
  by_cases hlt : b.bytes < a.bytes
  · exact List.lt_asymm h (directory.join_lt_join hlt)
  · obtain rfl := Name.ext (List.le_antisymm (List.not_lt.mp hlt) (List.not_lt.mp hnot))
    exact List.lt_irrefl _ h

theorem map_path_of_forall₂ {ps : List Path} {ms : List Manifest}
    (h : List.Forall₂ (fun p m => Manifest.read parse fs p = .ok m) ps ms) :
    ms.map Manifest.path = ps := by
  induction h with
  | nil => rfl
  | cons hr _ ih => rw [List.map_cons, ih, (Manifest.read_eq_ok_iff.mp hr).1]

theorem exists_locate_of_load {ms : List Manifest}
    (h : (load parse fs directory).outcome = .ok ms) : ∃ l, fs.locate directory = .ok l := by
  obtain ⟨_, _, hlist, _⟩ := load_eq_ok_iff.mp h
  obtain ⟨l, hl, _⟩ := FileSystem.list_eq_ok_iff.mp hlist
  exact ⟨l, hl⟩

theorem nodup_keys_of_load {ms : List Manifest} (h : (load parse fs directory).outcome = .ok ms) :
    (Manifest.keys ms).Nodup := by
  obtain ⟨_, _, _, _, _, hkeys⟩ := load_eq_ok_iff.mp h
  exact hkeys

section Loaded

variable {l : Location} (hl : fs.locate directory = .ok l) {ms : List Manifest}
  (h : (load parse fs directory).outcome = .ok ms)

include hl h

theorem list_of_load : fs.list directory = .ok (fs.children l) := by
  obtain ⟨_, _, hlist, _⟩ := load_eq_ok_iff.mp h
  obtain ⟨l', hl', _, _, rfl⟩ := FileSystem.list_eq_ok_iff.mp hlist
  cases hl.symm.trans hl'
  exact hlist

theorem readsFiles_of_load : ReadsFiles parse fs directory (fs.children l) ms := by
  obtain ⟨entries, names, hlist, hf, hread, _⟩ := load_eq_ok_iff.mp h
  cases (list_of_load hl h).symm.trans hlist
  refine ⟨fun name hname => ?_, fun m => ⟨fun hm => ?_, ?_⟩, ?_⟩
  · obtain ⟨m, _, hr⟩ :=
      exists_read_of_mem hread (List.mem_map_of_mem ((hf.mem_iff name).mpr hname))
    exact ⟨m, hr⟩
  · obtain ⟨hp, hr⟩ := read_path_of_mem hread hm
    obtain ⟨name, hname, hpath⟩ := List.mem_map.mp hp
    exact ⟨name, (hf.mem_iff name).mp hname, hpath ▸ hr⟩
  · rintro ⟨name, hname, hr⟩
    obtain ⟨n, hn, hrn⟩ :=
      exists_read_of_mem hread (List.mem_map_of_mem ((hf.mem_iff name).mpr hname))
    cases hr.symm.trans hrn
    exact hn
  · have hsorted : (names.map directory.join).Pairwise (· < ·) :=
      List.pairwise_map.mpr (hf.ascending.imp fun hab => directory.join_lt_join hab)
    exact List.pairwise_map.mp (map_path_of_forall₂ hread ▸ hsorted)

end Loaded

/-- Files of different names declare different keys. -/
def FilesApart (parse : Notation) (fs : FileSystem) (directory : Path)
    (entries : List (Name × Node)) : Prop :=
  ∀ name name' k, IsFile entries name → IsFile entries name' →
    DeclaresKey parse fs (directory.join name) k → DeclaresKey parse fs (directory.join name') k →
    name = name'

theorem exists_load_iff_filesApart {entries : List (Name × Node)}
    (hl : fs.list directory = .ok entries) :
    (∃ ms, (load parse fs directory).outcome = .ok ms) ↔
      (∀ name, IsFile entries name → ∃ e, FileDeclares parse fs (directory.join name) e) ∧
      FilesApart parse fs directory entries := by
  rw [exists_load_eq_ok_iff]
  constructor
  · rintro ⟨entries', names, hl', hf, hdeclares, hapart⟩
    cases hl.symm.trans hl'
    refine ⟨fun name hname => hdeclares name ((hf.mem_iff name).mpr hname), ?_⟩
    intro name name' k hname hname' hk hk'
    exact directory.join_injective
      (hapart _ (List.mem_map_of_mem ((hf.mem_iff name).mpr hname)) _
        (List.mem_map_of_mem ((hf.mem_iff name').mpr hname')) k hk hk')
  · rintro ⟨hdeclares, hapart⟩
    obtain ⟨names, hf⟩ := exists_filesOf hl
    refine ⟨entries, names, hl, hf,
      fun name hname => hdeclares name ((hf.mem_iff name).mp hname), ?_⟩
    intro p hp q hq k hpk hqk
    obtain ⟨name, hname, rfl⟩ := List.mem_map.mp hp
    obtain ⟨name', hname', rfl⟩ := List.mem_map.mp hq
    rw [hapart name name' k ((hf.mem_iff name).mp hname) ((hf.mem_iff name').mp hname') hpk hqk]

namespace Manifest

/-- The order of the files that the manifests have been read from. -/
def byPath (a b : Manifest) : Bool := decide (a.path ≤ b.path)

theorem nodup_of_ascending {ms : List Manifest} (h : ms.Pairwise fun a b => a.path < b.path) :
    ms.Nodup := by
  refine h.imp fun {a b} hab => ?_
  rintro rfl
  exact List.lt_irrefl a.path hab

theorem eq_of_ascending {ms ms' : List Manifest} (h : ms.Pairwise fun a b => a.path < b.path)
    (h' : ms'.Pairwise fun a b => a.path < b.path) (hmem : ∀ m, m ∈ ms ↔ m ∈ ms') : ms = ms' := by
  have hperm : ms.Perm ms' :=
    (List.perm_ext_iff_of_nodup (nodup_of_ascending h) (nodup_of_ascending h')).mpr hmem
  exact hperm.eq_of_pairwise
    (fun a b _ _ hab hba => absurd (List.lt_trans hab hba) (List.lt_irrefl a.path)) h h'

/-- A manifest more has a place of its own among the others. -/
theorem exists_append_of_ascending {ms ms' : List Manifest} {new : Manifest}
    (h : ms.Pairwise fun a b => a.path < b.path) (h' : ms'.Pairwise fun a b => a.path < b.path)
    (hnew : new ∉ ms) (hmem : ∀ m, m ∈ ms' ↔ m ∈ ms ∨ m = new) :
    ∃ before after, ms = before ++ after ∧ ms' = before ++ new :: after ∧
      (∀ m ∈ before, m.path < new.path) ∧ ∀ m ∈ after, new.path < m.path := by
  obtain ⟨before, after, rfl⟩ := List.append_of_mem ((hmem new).mpr (.inr rfl))
  rw [List.pairwise_append, List.pairwise_cons] at h'
  obtain ⟨hbefore, ⟨hafter, htail⟩, hacross⟩ := h'
  have hlower : ∀ m ∈ before, m.path < new.path := fun m hm => hacross m hm _ List.mem_cons_self
  refine ⟨before, after, eq_of_ascending h ?_ fun m => ⟨fun hm => ?_, fun hm => ?_⟩, rfl, hlower,
    hafter⟩
  · exact List.pairwise_append.mpr
      ⟨hbefore, htail, fun a ha b hb => hacross a ha b (List.mem_cons_of_mem _ hb)⟩
  · rcases List.mem_append.mp ((hmem m).mpr (.inl hm)) with hb | ha
    · exact List.mem_append_left _ hb
    · rcases List.mem_cons.mp ha with rfl | ha
      · exact absurd hm hnew
      · exact List.mem_append_right _ ha
  · have hm' : m ∈ before ++ new :: after := by
      simp only [List.mem_append, List.mem_cons] at hm ⊢
      exact hm.imp_right .inr
    refine ((hmem m).mp hm').resolve_right ?_
    rintro rfl
    rcases List.mem_append.mp hm with hb | ha
    · exact List.lt_irrefl _ (hlower _ hb)
    · exact List.lt_irrefl _ (hafter _ ha)

theorem byPath_of_ascending {ms : List Manifest} (h : ms.Pairwise fun a b => a.path < b.path) :
    ms.Pairwise fun a b => byPath a b = true :=
  h.imp fun hab => decide_eq_true (List.le_of_lt hab)

end Manifest

namespace ReadsFiles

variable {entries : List (Name × Node)} {ms : List Manifest}

theorem eq_of_path_eq (h : ReadsFiles parse fs directory entries ms) {a b : Manifest}
    (ha : a ∈ ms) (hb : b ∈ ms) (hpath : a.path = b.path) : a = b := by
  obtain ⟨name, _, hra⟩ := (h.mem_iff a).mp ha
  obtain ⟨name', _, hrb⟩ := (h.mem_iff b).mp hb
  rw [← (Manifest.read_eq_ok_iff.mp hra).1] at hra
  rw [← (Manifest.read_eq_ok_iff.mp hrb).1, ← hpath] at hrb
  exact Except.ok.inj (hra.symm.trans hrb)

/-- Two lists that share out the manifests between them give all of them when they are merged. -/
theorem eq_merge (h : ReadsFiles parse fs directory entries ms) {ms₁ ms₂ : List Manifest}
    (h₁ : ms₁.Pairwise fun a b => a.path < b.path) (h₂ : ms₂.Pairwise fun a b => a.path < b.path)
    (hmem : ∀ m, m ∈ ms ↔ m ∈ ms₁ ∨ m ∈ ms₂) (hapart : ∀ m ∈ ms₁, m ∉ ms₂) :
    ms = ms₁.merge ms₂ Manifest.byPath := by
  have hnodup : (ms₁ ++ ms₂).Nodup := List.nodup_append.mpr
    ⟨Manifest.nodup_of_ascending h₁, Manifest.nodup_of_ascending h₂,
      fun a ha b hb hab => hapart a ha (hab ▸ hb)⟩
  have hperm : ms.Perm (ms₁.merge ms₂ Manifest.byPath) := by
    refine List.Perm.trans ?_ (List.merge_perm_append Manifest.byPath).symm
    have hms := Manifest.nodup_of_ascending h.ascending
    refine (List.perm_ext_iff_of_nodup hms hnodup).mpr fun m => ?_
    rw [hmem, List.mem_append]
  have hsorted : (ms₁.merge ms₂ Manifest.byPath).Pairwise
      fun a b => Manifest.byPath a b = true := by
    refine List.pairwise_merge (fun a b c hab hbc => ?_) (fun a b => ?_) ms₁ ms₂
      (Manifest.byPath_of_ascending h₁) (Manifest.byPath_of_ascending h₂)
    · exact decide_eq_true (List.le_trans (of_decide_eq_true hab) (of_decide_eq_true hbc))
    · simpa [Manifest.byPath] using List.le_total a.path b.path
  refine hperm.eq_of_pairwise (fun a b ha hb hab hba => ?_)
    (Manifest.byPath_of_ascending h.ascending) hsorted
  exact h.eq_of_path_eq ha (hperm.mem_iff.mpr hb)
    (List.le_antisymm (of_decide_eq_true hab) (of_decide_eq_true hba))

end ReadsFiles

/-! ## Adding to a directory -/

/-- A directory gains files that are unclassified manifests, and subdirectories that may hold
anything. -/
structure GainsUnclassified (parse : Notation) (fs fs' : FileSystem) (directory : Path) : Prop where
  within : fs.Within fs'
  unclassified : ∀ entries entries', fs.list directory = .ok entries →
    fs'.list directory = .ok entries' → ∀ name, IsFile entries' name → ¬ IsFile entries name →
    FileDeclares parse fs' (directory.join name) none

namespace GainsUnclassified

variable {ms : List Manifest} (h : GainsUnclassified parse fs fs' directory)
  (hms : (load parse fs directory).outcome = .ok ms)

include h hms

/-- A file of the larger directory either has been read before or is an unclassified manifest. -/
theorem old_or_new {l : Location} (hl : fs.locate directory = .ok l)
    (hl' : fs'.list directory = .ok (fs'.children l)) {name : Name}
    (hname : IsFile (fs'.children l) name) :
    (IsFile (fs.children l) name ∧
      ∃ m ∈ ms, Manifest.read parse fs (directory.join name) = .ok m) ∨
    FileDeclares parse fs' (directory.join name) none := by
  have hreads := readsFiles_of_load hl hms
  by_cases hold : IsFile (fs.children l) name
  · obtain ⟨m, hr⟩ := hreads.every name hold
    exact .inl ⟨hold, m, (hreads.mem_iff m).mpr ⟨name, hold, hr⟩, hr⟩
  · exact .inr (h.unclassified _ _ (list_of_load hl hms) hl' name hname hold)

theorem exists_load : ∃ ms', (load parse fs' directory).outcome = .ok ms' := by
  obtain ⟨l, hl⟩ := exists_locate_of_load hms
  have hlist := list_of_load hl hms
  obtain ⟨l', hl₁, _, hlist'⟩ := h.within.list hlist
  cases hl.symm.trans hl₁
  obtain ⟨_, hapart⟩ := (exists_load_iff_filesApart hlist).mp ⟨ms, hms⟩
  refine (exists_load_iff_filesApart hlist').mpr ⟨fun name hname => ?_, ?_⟩
  · rcases h.old_or_new hms hl hlist' hname with ⟨_, m, _, hr⟩ | hnew
    · exact ⟨m.entry, Manifest.fileDeclares_of_read (Manifest.read_of_within h.within hr)⟩
    · exact ⟨none, hnew⟩
  · intro name name' k hname hname' hk hk'
    -- A file that declares a key is none of the new ones, so it declared the key before.
    have hbefore : ∀ {name : Name}, IsFile (fs'.children l) name →
        DeclaresKey parse fs' (directory.join name) k →
        IsFile (fs.children l) name ∧ DeclaresKey parse fs (directory.join name) k := by
      intro name hname hk
      rcases h.old_or_new hms hl hlist' hname with ⟨hold, m, _, hr⟩ | hnew
      · exact ⟨hold, hk.within_of_read h.within hr⟩
      · obtain ⟨g, hd⟩ := hk
        cases hd.unique hnew
    obtain ⟨hold, hk⟩ := hbefore hname hk
    obtain ⟨hold', hk'⟩ := hbefore hname' hk'
    exact hapart name name' k hold hold' hk hk'

variable {ms' : List Manifest} (hms' : (load parse fs' directory).outcome = .ok ms')

include hms'

theorem mem_of_mem {m : Manifest} (hm : m ∈ ms) : m ∈ ms' := by
  obtain ⟨l, hl⟩ := exists_locate_of_load hms
  have hl' : fs'.locate directory = .ok l := h.within.locate hl
  obtain ⟨name, hname, hr⟩ := ((readsFiles_of_load hl hms).mem_iff m).mp hm
  exact ((readsFiles_of_load hl' hms').mem_iff m).mpr
    ⟨name, hname.of_within h.within, Manifest.read_of_within h.within hr⟩

theorem entry_eq_none_of_new {m : Manifest} (hm : m ∈ ms') (hnew : m ∉ ms) : m.entry = none := by
  obtain ⟨l, hl⟩ := exists_locate_of_load hms
  have hl' : fs'.locate directory = .ok l := h.within.locate hl
  obtain ⟨name, hname, hr⟩ := ((readsFiles_of_load hl' hms').mem_iff m).mp hm
  rcases h.old_or_new hms hl (list_of_load hl' hms') hname with ⟨_, n, hn, hrn⟩ | hdeclares
  · cases hr.symm.trans (Manifest.read_of_within h.within hrn)
    exact absurd hn hnew
  · exact (Manifest.fileDeclares_of_read hr).unique hdeclares

theorem gatesByProfile_eq : gatesByProfile ms' = gatesByProfile ms := by
  refine GatesByProfile.ext_gates? (populated_gatesByProfile ms') (populated_gatesByProfile ms)
    fun p s => Option.ext fun g => ?_
  rw [gates?_gatesByProfile (nodup_keys_of_load hms),
    gates?_gatesByProfile (nodup_keys_of_load hms')]
  constructor
  · rintro ⟨m, hm, he⟩
    refine ⟨m, ?_, he⟩
    by_contra hnew
    cases he.symm.trans (h.entry_eq_none_of_new hms hms' hm hnew)
  · rintro ⟨m, hm, he⟩
    exact ⟨m, h.mem_of_mem hms hms' hm, he⟩

end GainsUnclassified

end FeatureGates
