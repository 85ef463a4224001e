import FeatureGates.Proofs.Gates
import FeatureGates.Proofs.Listing
import FeatureGates.Yaml

namespace FeatureGates

/-!
# What a loaded directory holds

A directory loads if each of its files declares something and no two declare the same key. The
records and the gates are then those of the files, one by one.
-/

variable {parse : Notation} {fs : FileSystem}

theorem exists_read_of_mem {ps : List Path} {ms : List Manifest}
    (h : List.Forall₂ (fun p m => Manifest.read parse fs p = .ok m) ps ms) {p : Path}
    (hp : p ∈ ps) : ∃ m ∈ ms, Manifest.read parse fs p = .ok m := by
  induction h with
  | nil => simp at hp
  | cons hr _ ih =>
      rcases List.mem_cons.mp hp with rfl | hp
      · exact ⟨_, List.mem_cons_self, hr⟩
      · obtain ⟨m, hm, hrm⟩ := ih hp
        exact ⟨m, List.mem_cons_of_mem _ hm, hrm⟩

theorem read_path_of_mem {ps : List Path} {ms : List Manifest}
    (h : List.Forall₂ (fun p m => Manifest.read parse fs p = .ok m) ps ms) {m : Manifest}
    (hm : m ∈ ms) : m.path ∈ ps ∧ Manifest.read parse fs m.path = .ok m := by
  induction h with
  | nil => simp at hm
  | @cons p n ps ms hr _ ih =>
      rcases List.mem_cons.mp hm with rfl | hm
      · obtain rfl := (Manifest.read_eq_ok_iff.mp hr).1
        exact ⟨List.mem_cons_self, hr⟩
      · obtain ⟨hp, hrm⟩ := ih hm
        exact ⟨List.mem_cons_of_mem _ hp, hrm⟩

theorem exists_forall₂ {α β : Type} {R : α → β → Prop} {as : List α}
    (h : ∀ a ∈ as, ∃ b, R a b) : ∃ bs, List.Forall₂ R as bs := by
  induction as with
  | nil => exact ⟨[], .nil⟩
  | cons a as ih =>
      obtain ⟨b, hb⟩ := h a List.mem_cons_self
      obtain ⟨bs, hbs⟩ := ih fun a' ha' => h a' (List.mem_cons_of_mem a ha')
      exact ⟨b :: bs, .cons hb hbs⟩

/-- No key is declared by the files at two of the paths. -/
def KeysApart (parse : Notation) (fs : FileSystem) (ps : List Path) : Prop :=
  ∀ p ∈ ps, ∀ q ∈ ps, ∀ k, DeclaresKey parse fs p k → DeclaresKey parse fs q k → p = q

theorem nodup_keys_iff_keysApart {ps : List Path} {ms : List Manifest} (hps : ps.Nodup)
    (h : List.Forall₂ (fun p m => Manifest.read parse fs p = .ok m) ps ms) :
    (Manifest.keys ms).Nodup ↔ KeysApart parse fs ps := by
  constructor
  · intro hkeys p hp q hq k hpk hqk
    obtain ⟨m, hm, hrm⟩ := exists_read_of_mem h hp
    obtain ⟨n, hn, hrn⟩ := exists_read_of_mem h hq
    have hmn : m = n := Manifest.eq_of_key?_eq hkeys hm hn
      ((Manifest.declaresKey_iff hrm).mp hpk) ((Manifest.declaresKey_iff hrn).mp hqk)
    calc
      p = m.path := (Manifest.read_eq_ok_iff.mp hrm).1.symm
      _ = n.path := by rw [hmn]
      _ = q := (Manifest.read_eq_ok_iff.mp hrn).1
  · intro hapart
    induction h with
    | nil => simp
    | @cons p m ps ms hr hrest ih =>
        obtain ⟨hp, hps⟩ := List.nodup_cons.mp hps
        have hkeys : (Manifest.keys ms).Nodup := ih hps fun q hq q' hq' =>
          hapart q (List.mem_cons_of_mem p hq) q' (List.mem_cons_of_mem p hq')
        cases hk : m.key? with
        | none => rwa [Manifest.keys_cons_of_eq_none hk]
        | some k =>
            have hnew : k ∉ Manifest.keys ms := by
              intro hmem
              obtain ⟨n, hn, hnk⟩ := Manifest.mem_keys.mp hmem
              obtain ⟨hq, hrn⟩ := read_path_of_mem hrest hn
              have hpq : p = n.path := hapart p List.mem_cons_self n.path
                (List.mem_cons_of_mem p hq) k ((Manifest.declaresKey_iff hr).mpr hk)
                ((Manifest.declaresKey_iff hrn).mpr hnk)
              exact hp (hpq ▸ hq)
            rw [Manifest.keys_cons_of_eq_some hk]
            exact List.nodup_cons.mpr ⟨hnew, hkeys⟩

theorem load_eq_ok_iff {directory : Path} {ms : List Manifest} :
    (load parse fs directory).outcome = .ok ms ↔
      ∃ entries names, fs.list directory = .ok entries ∧ FilesOf entries names ∧
        List.Forall₂ (fun p m => Manifest.read parse fs p = .ok m) (names.map directory.join) ms ∧
        (Manifest.keys ms).Nodup := by
  constructor
  · intro h
    cases hl : fs.list directory with
    | error cause => rw [load_of_unlisted hl] at h; cases h
    | ok entries =>
        obtain ⟨names, hf⟩ := exists_filesOf hl
        rw [load_of_filesOf hl hf, Loading.outcome_eq_ok_iff, loads_iff (by simp)] at h
        exact ⟨entries, names, rfl, hf, h⟩
  · rintro ⟨entries, names, hl, hf, h⟩
    rw [load_of_filesOf hl hf, Loading.outcome_eq_ok_iff, loads_iff (by simp)]
    exact h

/-! ## The records and the gates -/

/-- The record that a file leaves: a digest of the bytes that were parsed, and what they declare. -/
inductive RecordOf (parse : Notation) (fs : FileSystem) (path : Path) : ManifestSource → Prop
  | unclassified {contents : Bytes} (hr : fs.read path = .ok contents)
      (hd : Declares parse contents none) :
      RecordOf parse fs path ⟨path.display, sha256Hex contents, none, none, 0⟩
  | classified {contents : Bytes} {e : FeatureSetEntry} (hr : fs.read path = .ok contents)
      (hd : Declares parse contents (some e)) :
      RecordOf parse fs path
        ⟨path.display, sha256Hex contents, some e.profile, some e.featureSet, e.enabled.size⟩

theorem recordOf_source {p : Path} {m : Manifest} (h : Manifest.read parse fs p = .ok m) :
    RecordOf parse fs p m.source := by
  obtain ⟨path, contents, entry⟩ := m
  obtain ⟨rfl, hr, hd⟩ := Manifest.read_eq_ok_iff.mp h
  cases entry with
  | none => exact .unclassified hr hd
  | some e => exact .classified hr hd

theorem RecordOf.fields {path : Path} {source : ManifestSource}
    (h : RecordOf parse fs path source) {e : FeatureSetEntry}
    (hd : FileDeclares parse fs path (some e)) :
    source.path = path.display ∧ source.profile = some e.profile ∧
      source.featureSet = some e.featureSet ∧ source.enabledCount = e.enabled.size := by
  cases h with
  | unclassified hr hnone => cases FileDeclares.unique ⟨_, hr, hnone⟩ hd
  | classified hr hsome =>
      obtain rfl := Option.some.inj (FileDeclares.unique ⟨_, hr, hsome⟩ hd)
      exact ⟨rfl, rfl, rfl, rfl⟩

/-- What is kept of the files with the given names. -/
structure KeepsFiles (parse : Notation) (fs : FileSystem) (directory : Path) (names : List Name)
    (gates : GatesByProfile) (sources : List ManifestSource) : Prop where
  records : List.Forall₂ (fun name s => RecordOf parse fs (directory.join name) s) names sources
  gates_iff : ∀ p s g, gates.gates? p s = some g ↔
    ∃! name, name ∈ names ∧ FileDeclares parse fs (directory.join name) (some ⟨p, s, g⟩)
  record_of_gates : ∀ p s g, gates.gates? p s = some g →
    ∃ (i : Nat) (name : Name) (source : ManifestSource),
    names[i]? = some name ∧ sources[i]? = some source ∧
    FileDeclares parse fs (directory.join name) (some ⟨p, s, g⟩) ∧
    source.path = (directory.join name).display ∧ source.profile = some p ∧
    source.featureSet = some s ∧ source.enabledCount = g.size
  populated : gates.Populated
  classified_count :
    (sources.filter fun s => s.profile.isSome).length = gates.declared.length
  named : ∀ p s g, gates.gates? p s = some g → s ≠ "" ∧ "" ∉ g

theorem fileDeclares_named {p : Path} {e : FeatureSetEntry}
    (h : FileDeclares parse fs p (some e)) : e.featureSet ≠ "" ∧ "" ∉ e.enabled := by
  obtain ⟨_, _, t, _, _, he⟩ := h
  obtain ⟨_, hs, hg⟩ := Tree.entry_eq_some_iff.mp he
  refine ⟨hs.ne_empty, ?_⟩
  rw [hg, Tree.mem_enabledGates]
  exact fun hlist => hlist.1 rfl

section Loaded

variable {directory : Path} {names : List Name} {ms : List Manifest}
  (hnames : names.Nodup)
  (hread : List.Forall₂ (fun p m => Manifest.read parse fs p = .ok m)
    (names.map directory.join) ms)
  (hkeys : (Manifest.keys ms).Nodup)

include hread in
theorem forall₂_recordOf :
    List.Forall₂ (fun name s => RecordOf parse fs (directory.join name) s) names
      (ms.map Manifest.source) := by
  rw [List.forall₂_map_left_iff] at hread
  rw [List.forall₂_map_right_iff]
  exact hread.imp fun _ _ h => recordOf_source h

include hread in
theorem mem_entries_iff_fileDeclares {e : FeatureSetEntry} :
    (∃ m ∈ ms, m.entry = some e) ↔
      ∃ name ∈ names, FileDeclares parse fs (directory.join name) (some e) := by
  constructor
  · rintro ⟨m, hm, he⟩
    obtain ⟨hp, hr⟩ := read_path_of_mem hread hm
    obtain ⟨name, hname, hpath⟩ := List.mem_map.mp hp
    exact ⟨name, hname, by rw [hpath, ← he]; exact Manifest.fileDeclares_of_read hr⟩
  · rintro ⟨name, hname, hd⟩
    obtain ⟨m, hm, hr⟩ := exists_read_of_mem hread (List.mem_map_of_mem hname)
    exact ⟨m, hm, (Manifest.fileDeclares_of_read hr).unique hd⟩

include hnames hread hkeys in
theorem existsUnique_fileDeclares {p : ClusterProfile} {s : String} {g : GateSet} :
    (gatesByProfile ms).gates? p s = some g ↔
      ∃! name, name ∈ names ∧ FileDeclares parse fs (directory.join name) (some ⟨p, s, g⟩) := by
  rw [gates?_gatesByProfile hkeys, mem_entries_iff_fileDeclares hread]
  constructor
  · rintro ⟨name, hname, hd⟩
    refine ⟨name, ⟨hname, hd⟩, fun other ⟨hother, hd'⟩ => directory.join_injective ?_⟩
    have hpaths : (names.map directory.join).Nodup := hnames.map directory.join_injective
    exact (nodup_keys_iff_keysApart hpaths hread).mp hkeys _ (List.mem_map_of_mem hother) _
      (List.mem_map_of_mem hname) (p, s) ⟨g, hd'⟩ ⟨g, hd⟩
  · rintro ⟨name, ⟨hname, hd⟩, _⟩
    exact ⟨name, hname, hd⟩

include hkeys in
theorem length_classified :
    ((ms.map Manifest.source).filter fun s => s.profile.isSome).length =
      (gatesByProfile ms).declared.length := by
  have hfilter : ((ms.map Manifest.source).filter fun s => s.profile.isSome).length =
      (ms.filterMap Manifest.entry).length := by
    clear hkeys
    induction ms with
    | nil => rfl
    | cons m ms ih => cases hm : m.entry <;> simp_all [Manifest.source]
  rw [hfilter, (declared_gatesByProfile_perm hkeys).length_eq]

include hnames hread hkeys in
theorem keepsFiles :
    KeepsFiles parse fs directory names (gatesByProfile ms) (ms.map Manifest.source) where
  records := forall₂_recordOf hread
  gates_iff _ _ _ := existsUnique_fileDeclares hnames hread hkeys
  record_of_gates p s g hg := by
    obtain ⟨name, ⟨hname, hd⟩, _⟩ := (existsUnique_fileDeclares hnames hread hkeys).mp hg
    obtain ⟨i, hi, rfl⟩ := List.getElem_of_mem hname
    have hrecords := forall₂_recordOf hread
    have hi' : i < (ms.map Manifest.source).length := hrecords.length_eq ▸ hi
    have hrecord : RecordOf parse fs (directory.join names[i]) (ms.map Manifest.source)[i] :=
      hrecords.get hi hi'
    exact ⟨i, names[i], _, List.getElem?_eq_getElem hi, List.getElem?_eq_getElem hi', hd,
      hrecord.fields hd⟩
  populated := populated_gatesByProfile ms
  classified_count := length_classified hkeys
  named p s g hg := by
    obtain ⟨name, ⟨_, hd⟩, _⟩ := (existsUnique_fileDeclares hnames hread hkeys).mp hg
    exact fileDeclares_named hd

end Loaded

theorem exists_load_eq_ok_iff {directory : Path} :
    (∃ ms, (load parse fs directory).outcome = .ok ms) ↔
      ∃ entries names, fs.list directory = .ok entries ∧ FilesOf entries names ∧
        (∀ name ∈ names, ∃ e, FileDeclares parse fs (directory.join name) e) ∧
        KeysApart parse fs (names.map directory.join) := by
  constructor
  · rintro ⟨ms, h⟩
    obtain ⟨entries, names, hl, hf, hread, hkeys⟩ := load_eq_ok_iff.mp h
    refine ⟨entries, names, hl, hf, fun name hname => ?_,
      (nodup_keys_iff_keysApart (hf.nodup_paths directory) hread).mp hkeys⟩
    obtain ⟨m, _, hr⟩ := exists_read_of_mem hread (List.mem_map_of_mem hname)
    exact ⟨m.entry, Manifest.fileDeclares_of_read hr⟩
  · rintro ⟨entries, names, hl, hf, hdeclares, hapart⟩
    have hread : ∃ ms, List.Forall₂ (fun p m => Manifest.read parse fs p = .ok m)
        (names.map directory.join) ms := by
      refine exists_forall₂ fun p hp => ?_
      obtain ⟨name, hname, rfl⟩ := List.mem_map.mp hp
      obtain ⟨e, hd⟩ := hdeclares name hname
      obtain ⟨m, hm, _⟩ := Manifest.fileDeclares_iff.mp hd
      exact ⟨m, hm⟩
    obtain ⟨ms, hread⟩ := hread
    exact ⟨ms, load_eq_ok_iff.mpr ⟨entries, names, hl, hf, hread,
      (nodup_keys_iff_keysApart (hf.nodup_paths directory) hread).mpr hapart⟩⟩

/-- Loading succeeds exactly if the files declare different keys, and it neither loses nor invents
anything. -/
theorem load_keeps_every_file (parse : Notation) (fs : FileSystem) (directory : Path) :
    ((∃ ms, (load parse fs directory).outcome = .ok ms) ↔
      ∃ entries, fs.list directory = .ok entries ∧
        (∀ name, IsFile entries name → ∃ e, FileDeclares parse fs (directory.join name) e) ∧
        ∀ name name' k, IsFile entries name → IsFile entries name' →
          DeclaresKey parse fs (directory.join name) k →
          DeclaresKey parse fs (directory.join name') k → name = name') ∧
    ∀ ms, (load parse fs directory).outcome = .ok ms →
      ∃ entries names, fs.list directory = .ok entries ∧ FilesOf entries names ∧
        KeepsFiles parse fs directory names (gatesByProfile ms) (ms.map Manifest.source) := by
  constructor
  · rw [exists_load_eq_ok_iff]
    constructor
    · rintro ⟨entries, names, hl, hf, hdeclares, hapart⟩
      refine ⟨entries, hl, fun name h => hdeclares name ((hf.mem_iff name).mpr h), ?_⟩
      intro name name' k h h' hk hk'
      exact directory.join_injective (hapart _ (List.mem_map_of_mem ((hf.mem_iff name).mpr h)) _
        (List.mem_map_of_mem ((hf.mem_iff name').mpr h')) k hk hk')
    · rintro ⟨entries, hl, hdeclares, hapart⟩
      obtain ⟨names, hf⟩ := exists_filesOf hl
      refine ⟨entries, names, hl, hf, fun name h => hdeclares name ((hf.mem_iff name).mp h), ?_⟩
      intro p hp q hq k hpk hqk
      obtain ⟨name, hname, rfl⟩ := List.mem_map.mp hp
      obtain ⟨name', hname', rfl⟩ := List.mem_map.mp hq
      rw [hapart name name' k ((hf.mem_iff name).mp hname) ((hf.mem_iff name').mp hname') hpk hqk]
  · intro ms h
    obtain ⟨entries, names, hl, hf, hread, hkeys⟩ := load_eq_ok_iff.mp h
    exact ⟨entries, names, hl, hf, keepsFiles hf.nodup hread hkeys⟩

/-! ## Manifests in three directories -/

namespace Sample

def a : Name := ⟨[0x61], by decide⟩

def b : Name := ⟨[0x62], by decide⟩

def d : Name := ⟨[0x64], by decide⟩

def e : Name := ⟨[0x65], by decide⟩

def f : Name := ⟨[0x66], by decide⟩

def s : Name := ⟨[0x73], by decide⟩

def manifest (rest : String) : Bytes :=
  Bytes.ofString ("metadata:\n  annotations:\n    " ++ releaseInclude ++
    ClusterProfile.selfManagedMarker ++ ": " ++ configOperatorOnly ++ "\n" ++ rest)

def default : Bytes := manifest "status:\n  featureGates:\n  - enabled:\n    - name: A\n"

def okd : Bytes := manifest "spec:\n  featureSet: OKD\n"

def defaultEntry : FeatureSetEntry := ⟨.selfManagedHA, defaultFeatureSet, .ofList ["A"]⟩

def okdEntry : FeatureSetEntry := ⟨.selfManagedHA, "OKD", ∅⟩

/-- Two directories with the same manifests under other names, one of them beside a subdirectory,
and a third with one manifest twice. -/
def files : FileSystem where
  entries := [([d], .directory), ([d, b], .file default), ([d, s], .directory),
    ([d, a], .file okd), ([e], .directory), ([e, a], .file default), ([e, b], .file okd),
    ([f], .directory), ([f, a], .file okd), ([f, b], .file okd)]
  distinct := by decide
  workingDirectory := []

theorem declares_default : Declares Yaml.read default (some defaultEntry) := by
  decide +kernel

theorem declares_okd : Declares Yaml.read okd (some okdEntry) := by
  decide +kernel

def manifests : List Manifest :=
  [⟨[0x64, slash, 0x61], okd, some okdEntry⟩, ⟨[0x64, slash, 0x62], default, some defaultEntry⟩]

theorem load_eq_ok : (load Yaml.read files [0x64]).outcome = .ok manifests := by
  have hread : List.Forall₂ (fun p m => Manifest.read Yaml.read files p = .ok m)
      ([a, b].map (Path.join [0x64])) manifests :=
    .cons (Manifest.read_eq_ok_iff.mpr ⟨rfl, rfl, declares_okd⟩)
      (.cons (Manifest.read_eq_ok_iff.mpr ⟨rfl, rfl, declares_default⟩) .nil)
  exact load_eq_ok_iff.mpr
    ⟨_, _, rfl, filesOf_of_ascending (by decide) (by decide), hread, by decide⟩

end Sample

namespace Sample

def okdSource : ManifestSource :=
  ⟨"d/a", "bec2035774abd3821ebf9802b354be86d2163a2ce948e4adacd5b5775d07db0f", some .selfManagedHA,
    some "OKD", 0⟩

def defaultSource : ManifestSource :=
  ⟨"d/b", "8ed5ec7089bb6446d6d2a3a86a3f801d40d18d86093fd89d35a09fba56b3afe4", some .selfManagedHA,
    some "Default", 1⟩

theorem sources_manifests : manifests.map Manifest.source = [okdSource, defaultSource] := by
  decide +kernel

end Sample

theorem load_keeps_sample_files :
    (load Yaml.read Sample.files [0x64]).outcome = .ok Sample.manifests ∧
      ∃ names, KeepsFiles Yaml.read Sample.files [0x64] names (gatesByProfile Sample.manifests)
        [Sample.okdSource, Sample.defaultSource] := by
  obtain ⟨_, names, _, _, hkeeps⟩ :=
    (load_keeps_every_file Yaml.read Sample.files [0x64]).2 _ Sample.load_eq_ok
  exact ⟨Sample.load_eq_ok, names, Sample.sources_manifests ▸ hkeeps⟩

end FeatureGates
