import FeatureGates.Proofs.Inventory
import FeatureGates.Proofs.Verification

namespace FeatureGates

/-!
# The fault that is reported

A file is at fault by itself, or because one before it declares the same key. Loading reports the
fault of the first such file and never looks behind it.
-/

/-- What is wrong with the file at an index, given the files before it. -/
inductive FaultAt (parse : Notation) (fs : FileSystem) (ps : List Path) (i : Nat) :
    ManifestError → Prop
  | own {p : Path} {e : ManifestError} (hp : ps[i]? = some p) (h : FileFault parse fs p e) :
      FaultAt parse fs ps i e
  | duplicate {j : Nat} {q p : Path} {k : ClusterProfile × String} (hj : j < i)
      (hq : ps[j]? = some q) (hp : ps[i]? = some p) (hqk : DeclaresKey parse fs q k)
      (hpk : DeclaresKey parse fs p k) : FaultAt parse fs ps i (.duplicateEntry k.1 k.2 q p)

structure FirstFault (parse : Notation) (fs : FileSystem) (ps : List Path) (i : Nat)
    (e : ManifestError) : Prop where
  fault : FaultAt parse fs ps i e
  least : ∀ j < i, ∀ e', ¬ FaultAt parse fs ps j e'

variable {parse : Notation} {fs : FileSystem} {ps : List Path} {i : Nat} {e : ManifestError}

theorem FileFault.not_declaresKey {p : Path} (h : FileFault parse fs p e)
    (k : ClusterProfile × String) : ¬ DeclaresKey parse fs p k :=
  fun ⟨_, hd⟩ => Manifest.not_fileDeclares_of_fileFault h hd

theorem FileFault.unique {p : Path} {e' : ManifestError} (h : FileFault parse fs p e)
    (h' : FileFault parse fs p e') : e = e' :=
  Except.error.inj
    ((Manifest.read_eq_error_iff.mpr h).symm.trans (Manifest.read_eq_error_iff.mpr h'))

theorem DeclaresKey.unique {p : Path} {k k' : ClusterProfile × String}
    (h : DeclaresKey parse fs p k) (h' : DeclaresKey parse fs p k') : k = k' := by
  obtain ⟨g, hd⟩ := h
  obtain ⟨g', hd'⟩ := h'
  have he := FeatureSetEntry.mk.inj (Option.some.inj (hd.unique hd'))
  exact Prod.ext he.1 he.2.1

/-- Two earlier files with one key would make the later of them a fault before the first. -/
theorem FirstFault.index_unique {k : ClusterProfile × String}
    (hleast : ∀ j < i, ∀ e', ¬ FaultAt parse fs ps j e') {j j' : Nat} {q q' : Path} (hj : j < i)
    (hj' : j' < i) (hq : ps[j]? = some q) (hq' : ps[j']? = some q')
    (hk : DeclaresKey parse fs q k) (hk' : DeclaresKey parse fs q' k) : j = j' := by
  rcases Nat.lt_trichotomy j j' with hlt | heq | hgt
  · exact absurd (.duplicate hlt hq hq' hk hk') (hleast j' hj' _)
  · exact heq
  · exact absurd (.duplicate hgt hq' hq hk' hk) (hleast j hj _)

theorem FirstFault.unique {i' : Nat} {e' : ManifestError} (h : FirstFault parse fs ps i e)
    (h' : FirstFault parse fs ps i' e') : i = i' ∧ e = e' := by
  have hi : i = i' := by
    rcases Nat.lt_trichotomy i i' with hlt | heq | hgt
    · exact absurd h.fault (h'.least i hlt e)
    · exact heq
    · exact absurd h'.fault (h.least i' hgt e')
  subst hi
  refine ⟨rfl, ?_⟩
  obtain ⟨hp, hf⟩ | ⟨hj, hq, hp, hqk, hpk⟩ := h.fault
  · obtain ⟨hp', hf'⟩ | ⟨_, _, hp', _, hpk'⟩ := h'.fault
    · obtain rfl := Option.some.inj (hp.symm.trans hp')
      exact hf.unique hf'
    · obtain rfl := Option.some.inj (hp.symm.trans hp')
      exact absurd hpk' (hf.not_declaresKey _)
  · obtain ⟨hp', hf'⟩ | ⟨hj', hq', hp', hqk', hpk'⟩ := h'.fault
    · obtain rfl := Option.some.inj (hp.symm.trans hp')
      exact absurd hpk (hf'.not_declaresKey _)
    · obtain rfl := Option.some.inj (hp.symm.trans hp')
      obtain rfl := hpk.unique hpk'
      obtain rfl := FirstFault.index_unique h.least hj hj' hq hq' hqk hqk'
      obtain rfl := Option.some.inj (hq.symm.trans hq')
      rfl

/-! ## Faults of a run -/

theorem Loads.not_faultAt {pre : List Path} {ms : List Manifest}
    (h : Loads (Manifest.read parse fs) [] pre ms) {post : List Path}
    (hps : (pre ++ post).Nodup) {j : Nat} (hj : j < pre.length) (e' : ManifestError) :
    ¬ FaultAt parse fs (pre ++ post) j e' := by
  obtain ⟨hread, hkeys⟩ := (loads_iff (by simp)).mp h
  -- An index names a file only once, so two indices with one key would be one.
  have hpre : pre.Nodup := (List.nodup_append.mp hps).1
  have hapart : KeysApart parse fs pre := (nodup_keys_iff_keysApart hpre hread).mp hkeys
  have hmem : ∀ {l : Nat} {q : Path}, l < pre.length → (pre ++ post)[l]? = some q →
      pre[l]? = some q := fun hl hq => by rwa [List.getElem?_append_left hl] at hq
  rintro (⟨hp, hf⟩ | ⟨hl, hq, hp, hqk, hpk⟩)
  · obtain ⟨m, _, hr⟩ := exists_read_of_mem hread (List.mem_of_getElem? (hmem hj hp))
    cases hr.symm.trans (Manifest.read_eq_error_iff.mpr hf)
  · have hq' := hmem (Nat.lt_trans hl hj) hq
    have hp' := hmem hj hp
    obtain rfl := hapart _ (List.mem_of_getElem? hq') _ (List.mem_of_getElem? hp') _ hqk hpk
    have hindex := (List.getElem?_inj (Nat.lt_trans hl hj) hpre).mp (hq'.trans hp'.symm)
    exact absurd hindex (Nat.ne_of_lt hl)

theorem Stops.faultAt {pre : List Path} {ms : List Manifest} {p : Path} {log : List LogEvent}
    (h : Loads (Manifest.read parse fs) [] pre ms)
    (hs : Stops (Manifest.read parse fs) ms p log e) (post : List Path) :
    FaultAt parse fs (pre ++ p :: post) pre.length e := by
  obtain ⟨hread, hkeys⟩ := (loads_iff (by simp)).mp h
  have hp : (pre ++ p :: post)[pre.length]? = some p := by simp
  cases hs with
  | unread hr => exact .own hp (Manifest.read_eq_error_iff.mp hr)
  | @duplicate m _ hr hd =>
      obtain ⟨k, hk, first, hfirst, hkey, rfl⟩ :=
        (Manifest.duplicateError?_eq_some_iff hkeys).mp hd
      obtain ⟨hq, hrq⟩ := read_path_of_mem hread hfirst
      obtain ⟨j, hj, hqj⟩ := List.getElem_of_mem hq
      obtain rfl := (Manifest.read_eq_ok_iff.mp hr).1
      refine .duplicate hj ?_ hp ((Manifest.declaresKey_iff hrq).mpr hkey)
        ((Manifest.declaresKey_iff hr).mpr hk)
      rw [List.getElem?_append_left hj, List.getElem?_eq_getElem hj, hqj]

theorem Stops.firstFault {pre post : List Path} {ms : List Manifest} {p : Path}
    {log : List LogEvent} (hps : (pre ++ p :: post).Nodup)
    (h : Loads (Manifest.read parse fs) [] pre ms)
    (hs : Stops (Manifest.read parse fs) ms p log e) :
    FirstFault parse fs (pre ++ p :: post) pre.length e :=
  ⟨hs.faultAt h post, fun _ hj e' => h.not_faultAt hps hj e'⟩

section Agreement

variable {fs' : FileSystem} {ps' : List Path}

/-- Two lists of files are alike up to an index, in their paths and in what is read there. -/
def AgreeUpTo (fs fs' : FileSystem) (ps ps' : List Path) (i : Nat) : Prop :=
  ∀ j ≤ i, ps[j]? = ps'[j]? ∧ ∀ p, ps[j]? = some p → fs.read p = fs'.read p

theorem AgreeUpTo.symm (h : AgreeUpTo fs fs' ps ps' i) : AgreeUpTo fs' fs ps' ps i := by
  intro j hj
  obtain ⟨hps, hread⟩ := h j hj
  exact ⟨hps.symm, fun p hp => (hread p (hps.trans hp)).symm⟩

end Agreement

theorem FirstFault.duplicate {profile : ClusterProfile} {s : String} {q p : Path}
    (hps : ps.Nodup) (h : FirstFault parse fs ps i (.duplicateEntry profile s q p)) :
    ps[i]? = some p ∧ DeclaresKey parse fs p (profile, s) ∧ q ≠ p ∧
      ∃ j < i, ps[j]? = some q ∧ DeclaresKey parse fs q (profile, s) ∧
        ∀ j' < i, ∀ r, ps[j']? = some r → DeclaresKey parse fs r (profile, s) → j' = j := by
  obtain ⟨_, hf⟩ | ⟨hj, hq, hp, hqk, hpk⟩ := h.fault
  · cases hf
  · refine ⟨hp, hpk, ?_, _, hj, hq, hqk, fun j' hj' r hr hrk =>
      FirstFault.index_unique h.least hj' hj hr hq hrk hqk⟩
    rintro rfl
    have hlt := (List.getElem?_eq_some_iff.mp hq).1
    exact absurd ((List.getElem?_inj hlt hps).mp (hq.trans hp.symm)) (Nat.ne_of_lt hj)

/-! ## A directory that cannot be read to its end -/

namespace Sample

/-- A directory that can be opened, but of which no entry can be read. -/
def unread : FileSystem where
  entries := [([d], .directory)]
  distinct := by decide
  workingDirectory := []
  interruption? l := if l = [d] then some ⟨0, none, .permissionDenied⟩ else none

end Sample

end FeatureGates
