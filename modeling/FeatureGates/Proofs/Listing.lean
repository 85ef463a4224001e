import FeatureGates.Inventory
import FeatureGates.Proofs.FileSystem

namespace FeatureGates

/-!
# The files of a directory

A directory has an entry of each name only once, so the order of the names leaves no choice: the
files and their paths are the same in whatever order the entries are listed.
-/

theorem Path.join_injective (directory : Path) : Function.Injective directory.join := by
  intro a b h
  refine Name.ext ?_
  unfold Path.join at h
  split at h <;> simpa using h

/-- An entry of the name is no directory itself; a link is none, whatever it leads to. -/
def IsFile (entries : List (Name × Node)) (name : Name) : Prop :=
  ∃ node, (name, node) ∈ entries ∧ node ≠ .directory

/-- The names of the files, in the order of their bytes. -/
structure FilesOf (entries : List (Name × Node)) (names : List Name) : Prop where
  ascending : names.Pairwise fun a b => a.bytes < b.bytes
  mem_iff : ∀ name, name ∈ names ↔ IsFile entries name

namespace FilesOf

variable {entries : List (Name × Node)} {names : List Name}

theorem nodup (h : FilesOf entries names) : names.Nodup := by
  refine List.Pairwise.imp (fun {a b} hab => ?_) h.ascending
  rintro rfl
  exact List.lt_irrefl a.bytes hab

theorem unique (h : FilesOf entries names) {names' : List Name} (h' : FilesOf entries names') :
    names = names' := by
  have hperm : names.Perm names' := (List.perm_ext_iff_of_nodup h.nodup h'.nodup).mpr
    fun name => (h.mem_iff name).trans (h'.mem_iff name).symm
  refine hperm.eq_of_pairwise (fun a b _ _ hab hba => ?_) h.ascending h'.ascending
  exact absurd (List.lt_trans hab hba) (List.lt_irrefl a.bytes)

theorem nodup_paths (h : FilesOf entries names) (directory : Path) :
    (names.map directory.join).Nodup :=
  h.nodup.map directory.join_injective

end FilesOf

theorem filesOf_of_ascending {entries : List (Name × Node)} {names : List Name}
    (hp : names.Perm ((entries.filter fun e => e.2 ≠ .directory).map Prod.fst))
    (ha : names.Pairwise fun a b => a.bytes < b.bytes) : FilesOf entries names := by
  refine ⟨ha, fun name => ?_⟩
  rw [hp.mem_iff]
  simp [IsFile]

/-- The names of the files of a listing, sorted. -/
def sortedNames (entries : List (Name × Node)) : List Name :=
  ((entries.filter fun e => e.2 ≠ .directory).map Prod.fst).mergeSort
    fun a b => decide (a.bytes ≤ b.bytes)

theorem filesOf_sortedNames {entries : List (Name × Node)} (h : (entries.map Prod.fst).Nodup) :
    FilesOf entries (sortedNames entries) := by
  have hperm := List.mergeSort_perm ((entries.filter fun e => e.2 ≠ .directory).map Prod.fst)
    fun a b => decide (a.bytes ≤ b.bytes)
  have hnodup : (sortedNames entries).Nodup :=
    hperm.nodup_iff.mpr (h.sublist (List.filter_sublist.map Prod.fst))
  have hsorted : (sortedNames entries).Pairwise fun a b => a.bytes ≤ b.bytes := by
    have hpair := @List.pairwise_mergeSort Name (fun a b => decide (a.bytes ≤ b.bytes))
      (fun a b c hab hbc => by simpa using List.le_trans (by simpa using hab) (by simpa using hbc))
      (fun a b => by simpa using List.le_total a.bytes b.bytes)
      ((entries.filter fun e => e.2 ≠ .directory).map Prod.fst)
    simpa [sortedNames] using hpair
  exact filesOf_of_ascending hperm (hsorted.imp₂
    (fun a b hle hne => Std.lt_of_le_of_ne hle fun heq => hne (Name.ext heq)) hnodup)

theorem manifestPaths_eq (fs : FileSystem) (directory : Path) :
    manifestPaths fs directory =
      match fs.list directory with
      | .error cause => .error (.directoryUnreadable directory cause)
      | .ok entries => .ok ((sortedNames entries).map directory.join) := by
  unfold manifestPaths FileSystem.list
  cases fs.openDirectory directory with
  | error cause => rfl
  | ok reading =>
      simp only [reading.fileNames_eq, bind, Except.bind]
      cases reading.entries <;> rfl

theorem manifestPaths_of_filesOf {fs : FileSystem} {directory : Path}
    {entries : List (Name × Node)} (hl : fs.list directory = .ok entries) {names : List Name}
    (hf : FilesOf entries names) :
    manifestPaths fs directory = .ok (names.map directory.join) := by
  obtain rfl := hf.unique (filesOf_sortedNames (FileSystem.nodup_list hl))
  rw [manifestPaths_eq, hl]

theorem exists_filesOf {fs : FileSystem} {directory : Path} {entries : List (Name × Node)}
    (hl : fs.list directory = .ok entries) : ∃ names, FilesOf entries names :=
  ⟨_, filesOf_sortedNames (FileSystem.nodup_list hl)⟩

theorem load_of_filesOf {fs : FileSystem} {directory : Path} {entries : List (Name × Node)}
    (hl : fs.list directory = .ok entries) {names : List Name} (hf : FilesOf entries names)
    (parse : Notation) :
    load parse fs directory =
      Loading.from (Manifest.read parse fs) [] (names.map directory.join) := by
  simp only [load, manifestPaths_of_filesOf hl hf]

theorem load_of_unlisted {fs : FileSystem} {directory : Path} {cause : FileError}
    (hl : fs.list directory = .error cause) (parse : Notation) :
    load parse fs directory = ⟨[], .error (.directoryUnreadable directory cause)⟩ := by
  simp only [load, manifestPaths_eq, hl]

/-- A directory that loads has been read to its end. -/
theorem exists_list_of_load {parse : Notation} {fs : FileSystem} {directory : Path}
    {ms : List Manifest} (h : (load parse fs directory).outcome = .ok ms) :
    ∃ entries, fs.list directory = .ok entries := by
  cases hl : fs.list directory with
  | ok entries => exact ⟨entries, rfl⟩
  | error cause =>
      rw [load_of_unlisted hl] at h
      cases h

end FeatureGates
