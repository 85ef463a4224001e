import FeatureGates.Diagnostic
import FeatureGates.Proofs.Inventory
import Mathlib.Data.List.Perm.Basic

namespace FeatureGates

/-!
# What loading does not depend on

The order in which a directory is listed makes no difference. The names of its files decide in which
order they are read and which fault comes first, but neither whether there is a fault nor which
gates are declared: both are the same for every order of the contents.
-/

/-- The directory can be listed, and its files can all be read and have these contents. -/
def HoldsFiles (fs : FileSystem) (directory : Path) (contents : List Bytes) : Prop :=
  ∃ entries names, fs.list directory = .ok entries ∧ FilesOf entries names ∧
    List.Forall₂ (fun name b => fs.read (directory.join name) = .ok b) names contents

variable {parse : Notation} {fs fs' : FileSystem} {directory directory' : Path}
  {contents contents' : List Bytes}

/-- The declarations of files that can be read are those of their contents, whatever the names. -/
theorem exists_read_iff_declares {names : List Name}
    (h : List.Forall₂ (fun name b => fs.read (directory.join name) = .ok b) names contents)
    {entries : List (Option FeatureSetEntry)} :
    (∃ ms, List.Forall₂ (fun p m => Manifest.read parse fs p = .ok m)
        (names.map directory.join) ms ∧ ms.map Manifest.entry = entries) ↔
      List.Forall₂ (Declares parse) contents entries := by
  induction h generalizing entries with
  | nil =>
      constructor
      · rintro ⟨_, ⟨⟩, rfl⟩
        exact .nil
      · rintro ⟨⟩
        exact ⟨[], .nil, rfl⟩
  | @cons name b names contents hb _ ih =>
      constructor
      · rintro ⟨_, _ | ⟨hr, hrest⟩, rfl⟩
        obtain ⟨_, hc, hd⟩ := Manifest.read_eq_ok_iff.mp hr
        obtain rfl := Except.ok.inj (hb.symm.trans hc)
        exact .cons hd (ih.mp ⟨_, hrest, rfl⟩)
      · intro hdeclares
        obtain _ | ⟨hd, hrest⟩ := hdeclares
        obtain ⟨ms, hms, rfl⟩ := ih.mpr hrest
        have hr : Manifest.read parse fs (directory.join name) = .ok ⟨_, b, _⟩ :=
          Manifest.read_eq_ok_iff.mpr ⟨rfl, hb, hd⟩
        exact ⟨_ :: ms, .cons hr hms, rfl⟩

theorem HoldsFiles.exists_load_iff (h : HoldsFiles fs directory contents)
    {entries : List (Option FeatureSetEntry)} :
    (∃ ms, (load parse fs directory).outcome = .ok ms ∧ ms.map Manifest.entry = entries) ↔
      List.Forall₂ (Declares parse) contents entries ∧ (declaredKeys entries).Nodup := by
  obtain ⟨listed, names, hl, hf, hcontents⟩ := h
  rw [← exists_read_iff_declares hcontents]
  constructor
  · rintro ⟨ms, hload, rfl⟩
    obtain ⟨listed', names', hl', hf', hread, hkeys⟩ := load_eq_ok_iff.mp hload
    obtain rfl := Except.ok.inj (hl.symm.trans hl')
    obtain rfl := hf.unique hf'
    exact ⟨⟨ms, hread, rfl⟩, Manifest.keys_eq_declaredKeys ms ▸ hkeys⟩
  · rintro ⟨⟨ms, hread, rfl⟩, hkeys⟩
    rw [← Manifest.keys_eq_declaredKeys] at hkeys
    exact ⟨ms, load_eq_ok_iff.mpr ⟨listed, names, hl, hf, hread, hkeys⟩, rfl⟩

/-- A directory with the same contents under other names loads as well, and declares the same. -/
theorem HoldsFiles.exists_load_of_perm (h : HoldsFiles fs directory contents)
    (h' : HoldsFiles fs' directory' contents') (hp : contents.Perm contents') {ms : List Manifest}
    (hms : (load parse fs directory).outcome = .ok ms) :
    ∃ ms', (load parse fs' directory').outcome = .ok ms' ∧
      (ms.map Manifest.entry).Perm (ms'.map Manifest.entry) := by
  obtain ⟨hdeclares, hkeys⟩ := h.exists_load_iff.mp ⟨ms, hms, rfl⟩
  obtain ⟨entries', hdeclares', hentries⟩ := List.perm_comp_forall₂ hp.symm hdeclares
  -- The keys depend on the declarations alone, so they stay apart in any order.
  have hkeys' : (declaredKeys entries').Nodup := (hentries.filterMap _).nodup_iff.mpr hkeys
  obtain ⟨ms', hms', rfl⟩ := h'.exists_load_iff.mpr ⟨hdeclares', hkeys'⟩
  exact ⟨ms', hms', hentries.symm⟩

theorem HoldsFiles.gatesByProfile_eq (h : HoldsFiles fs directory contents)
    (h' : HoldsFiles fs' directory' contents') (hp : contents.Perm contents')
    {ms ms' : List Manifest} (hms : (load parse fs directory).outcome = .ok ms)
    (hms' : (load parse fs' directory').outcome = .ok ms') :
    gatesByProfile ms = gatesByProfile ms' := by
  obtain ⟨ms'', hms'', hentries⟩ := h.exists_load_of_perm h' hp hms
  obtain rfl := Except.ok.inj (hms'.symm.trans hms'')
  obtain ⟨_, _, _, _, _, hkeys⟩ := load_eq_ok_iff.mp hms
  exact gatesByProfile_eq_of_perm hkeys hentries

/-- The sample, listed from its end. -/
def Sample.reversed : FileSystem :=
  { Sample.files with entries := Sample.files.entries.reverse, distinct := by decide }

end FeatureGates
