import FeatureGates.Proofs.ByteOrder
import FeatureGates.Proofs.Enlargement
import FeatureGates.Proofs.Report

namespace FeatureGates

/-!
# A report among the manifests

A report that is written into the directory is a file of the directory for every later run. It is
read as a manifest without a profile, so later runs find one source more and else the same.
-/

open FileSystem

theorem VerificationReport.entry_tree (r : VerificationReport) : r.json.tree.entry = .ok none := by
  rfl

theorem VerificationReport.declares {parse : Notation} (r : VerificationReport)
    (h : parse r.json.fileContents = .ok r.json.tree) :
    Declares parse r.json.fileContents none :=
  ⟨r.json.tree, h, .mapping _, r.entry_tree⟩

/-! ## Comparing what is read with a value -/

namespace Json

mutual

/-- Whether a tree is the one that a value denotes. -/
def isTree : Json → Tree → Bool
  | null, .null => true
  | bool a, .bool b => a == b
  | number m, .int n => m == n
  | string s, .string t => s == t
  | array items, .sequence ts => areTrees items ts
  | object members, .mapping es => areEntries members es
  | _, _ => false

def areTrees : List Json → List Tree → Bool
  | [], [] => true
  | j :: js, t :: ts => isTree j t && areTrees js ts
  | _, _ => false

def areEntries : List (String × Json) → List (Tree × Tree) → Bool
  | [], [] => true
  | (name, j) :: ms, (.string s, t) :: es => name == s && isTree j t && areEntries ms es
  | _, _ => false

end

mutual

theorem tree_eq_of_isTree : ∀ {j : Json} {t : Tree}, j.isTree t = true → t = j.tree
  | null, t, h => by cases t <;> simp_all [isTree, tree]
  | bool a, t, h => by cases t <;> simp_all [isTree, tree]
  | number m, t, h => by cases t <;> simp_all [isTree, tree]
  | string s, t, h => by cases t <;> simp_all [isTree, tree]
  | array items, t, h => by
    cases t with
    | sequence ts =>
        rw [isTree] at h
        rw [tree, trees_eq_of_areTrees h]
    | _ => simp [isTree] at h
  | object members, t, h => by
    cases t with
    | mapping es =>
        rw [isTree] at h
        rw [tree, entries_eq_of_areEntries h]
    | _ => simp [isTree] at h

theorem trees_eq_of_areTrees : ∀ {js : List Json} {ts : List Tree},
    areTrees js ts = true → ts = trees js
  | [], ts, h => by cases ts <;> simp_all [areTrees, trees]
  | j :: js, ts, h => by
    cases ts with
    | nil => simp [areTrees] at h
    | cons t ts =>
        rw [areTrees, Bool.and_eq_true] at h
        rw [trees, tree_eq_of_isTree h.1, trees_eq_of_areTrees h.2]

theorem entries_eq_of_areEntries : ∀ {ms : List (String × Json)} {es : List (Tree × Tree)},
    areEntries ms es = true → es = entries ms
  | [], es, h => by cases es <;> simp_all [areEntries, entries]
  | (name, j) :: ms, es, h => by
    rcases es with _ | ⟨⟨k, t⟩, es⟩
    · simp [areEntries] at h
    · cases k with
      | string s =>
          rw [areEntries, Bool.and_eq_true, Bool.and_eq_true, beq_iff_eq] at h
          rw [entries, ← h.1.1, tree_eq_of_isTree h.1.2, entries_eq_of_areEntries h.2]
      | _ => simp [areEntries] at h

end

end Json

/-! ## The file that a run adds -/

/-- A file stands in a directory in which there was none of its name, and only directories have been
added beside it. The file can be written again. -/
structure AddsFile (fs fs' : FileSystem) (path : Path) (l : Location) (name : Name) (c : Bytes) :
    Prop where
  missing : fs.node? (l ++ [name]) = none
  within : fs.Within fs'
  file : fs'.node? (l ++ [name]) = some (.file c)
  added : ∀ k n, fs.node? k = none → fs'.node? k = some n → k = l ++ [name] ∨ n = .directory
  parents : ensureParent fs' path = (.ok (), fs')
  leads : fs'.resolve path .make = .ok (.present (l ++ [name]))

section Directory

variable {fs fs' : FileSystem} {directory : Path} {l : Location} {name : Name}

/-- After directories have been made, a missing name is opened as a new file or not at all: it may
have become the name of a directory. -/
theorem FileSystem.Opens.of_missing {sites : Path → Prop} (hmade : MakesOnly sites fs fs')
    (hl : fs.locate directory = .ok l) (hmissing : fs.node? (l ++ [name]) = none) {out : Output}
    (h : fs'.Opens (directory.join name) out) :
    out = .file (l ++ [name]) ∧ fs'.node? (l ++ [name]) = none ∧
      fs'.resolve (directory.join name) .make = .ok (.absent l name) := by
  have hplace : ∀ place, fs'.resolve (directory.join name) .make = .ok place →
      (place = .absent l name ∧ fs'.node? (l ++ [name]) = none) ∨
        place = .present (l ++ [name]) ∧ fs'.node? (l ++ [name]) = some .directory := by
    intro place hr
    obtain ⟨_, _, hlast⟩ := leads_of_resolve_join (hmade.within.locate hl) hr
    rcases hlast.last with hmissed | ⟨node, hnode, hpresent⟩
    · exact .inl hmissed
    · obtain ⟨rfl, _⟩ := hmade.made _ _ hmissing hnode
      exact .inr ⟨hpresent nofun, hnode⟩
  have hpresent : ∀ k n, fs'.resolve (directory.join name) .make = .ok (.present k) →
      fs'.node? k = some n → n = .directory := by
    intro k n hr hn
    rcases hplace _ hr with ⟨hfalse, _⟩ | ⟨hk, hdir⟩
    · cases hfalse
    · cases hk
      exact Option.some.inj (hn.symm.trans hdir)
  cases h with
  | old hr hn => cases hpresent _ _ hr hn
  | new hr =>
      rcases hplace _ hr with ⟨habsent, hnode⟩ | ⟨hfalse, _⟩
      · cases habsent
        exact ⟨rfl, hnode, hr⟩
      · cases hfalse
  | device hr hn => cases hpresent _ _ hr hn

theorem addsFile_of_writeJson (hl : fs.locate directory = .ok l)
    (hmissing : fs.node? (l ++ [name]) = none) {j : Json}
    (h : writeJson fs (directory.join name) (some j) = (.ok (), fs')) :
    AddsFile fs fs' (directory.join name) l name j.fileContents := by
  obtain ⟨fs₁, hparents, hout⟩ := writeJson_eq_ok_iff.mp h
  have hmade : MakesOnly (Path.Above · (directory.join name)) fs fs₁ := by
    have hmade := makesOnly_ensureParent fs (directory.join name)
    rwa [hparents] at hmade
  rcases hout with ⟨k, hopens, rfl⟩ | ⟨_, hopens, _⟩
  · obtain ⟨hk, hnode, hr⟩ := hopens.of_missing hmade hl hmissing
    cases hk
    have hroot : l ++ [name] ≠ [] := by simp
    have hkeeps : fs₁.Within (fs₁.put (l ++ [name]) (.file j.fileContents)) := keeps_put _ hnode
    have hfile := fs₁.node?_put_self hroot (.file j.fileContents)
    have hfilled : (Place.absent l name).FilledIn (fs₁.put (l ++ [name]) (.file j.fileContents)) :=
      ⟨_, hfile, nofun⟩
    refine ⟨hmissing, hmade.within.trans hkeeps, hfile, fun k n hnone hsome => ?_,
      ensureParent_of_keeps hparents hkeeps, Keeps.resolve hkeeps hr hfilled .make fun _ => rfl⟩
    rw [node?_put hroot] at hsome
    split at hsome
    next hk => exact .inl hk
    next => exact .inr (hmade.made k n hnone hsome).1
  · cases (hopens.of_missing hmade hl hmissing).1

namespace AddsFile

variable {path : Path} {c : Bytes} (h : AddsFile fs fs' path l name c)

include h

theorem writeJson (j : Json) :
    ∃ fs'', FeatureGates.writeJson fs' path (some j) = (.ok (), fs'') ∧
      AddsFile fs fs'' path l name j.fileContents := by
  have hroot : l ++ [name] ≠ [] := by simp
  have hopens : fs'.Opens path (.file (l ++ [name])) := .old h.leads h.file
  refine ⟨_, writeJson_eq_ok_iff.mpr ⟨fs', h.parents, .inl ⟨_, hopens, rfl⟩⟩, ?_⟩
  have hkeeps := keeps_put_file h.file j.fileContents
  refine ⟨h.missing, ⟨fun k n hn => .inl ?_, h.within.workingDirectory, h.within.uninterrupted⟩,
    node?_put_self fs' hroot _, fun k n hnone hsome => ?_,
    ensureParent_of_keeps h.parents hkeeps, hkeeps.resolve h.leads trivial .make fun _ => rfl⟩
  · have hk : k ≠ l ++ [name] := by
      rintro rfl
      cases h.missing.symm.trans hn
    rw [node?_put hroot, if_neg hk]
    exact h.within.node? hn
  · rw [node?_put hroot] at hsome
    split at hsome
    next hk => exact .inl hk
    next => exact h.added k n hnone hsome

theorem read_eq : fs'.read path = .ok c :=
  read_eq_ok_iff.mpr ⟨_, locate_of_resolve h.leads, .inl h.file⟩

theorem isFile_iff {name' : Name} :
    IsFile (fs'.children l) name' ↔ IsFile (fs.children l) name' ∨ name' = name := by
  simp only [isFile_children_iff]
  constructor
  · rintro ⟨n, hn, hne⟩
    cases hold : fs.node? (l ++ [name']) with
    | some n' =>
        cases hn.symm.trans (h.within.node? hold)
        exact .inl ⟨n, rfl, hne⟩
    | none =>
        rcases h.added _ n hold hn with hsame | hdir
        · exact .inr (by simpa using hsame)
        · exact absurd hdir hne
  · rintro (⟨n, hn, hne⟩ | rfl)
    · exact ⟨n, h.within.node? hn, hne⟩
    · exact ⟨_, h.file, nofun⟩

end AddsFile

/-- What the file is read as that has been added. -/
def unclassified (path : Path) (c : Bytes) : Manifest := ⟨path, c, none⟩

namespace AddsFile

variable {parse : Notation} {c : Bytes} (h : AddsFile fs fs' (directory.join name) l name c)
  (hl : fs.locate directory = .ok l) (hdeclares : Declares parse c none)

include h hl hdeclares

theorem gainsUnclassified : GainsUnclassified parse fs fs' directory := by
  refine ⟨h.within, fun entries entries' hlist hlist' name' hname' hnew => ?_⟩
  obtain ⟨k, hk, rfl, hsame⟩ := h.within.list hlist
  cases hl.symm.trans hk
  cases hlist'.symm.trans hsame
  obtain rfl := (h.isFile_iff.mp hname').resolve_left hnew
  exact ⟨c, h.read_eq, hdeclares⟩

variable {ms ms' : List Manifest} (hms : (load parse fs directory).outcome = .ok ms)
  (hms' : (load parse fs' directory).outcome = .ok ms')

include hms hms'

theorem mem_iff (m : Manifest) : m ∈ ms' ↔ m ∈ ms ∨ m = unclassified (directory.join name) c := by
  have hread : Manifest.read parse fs' (directory.join name) =
      .ok (unclassified (directory.join name) c) :=
    Manifest.read_eq_ok_iff.mpr ⟨rfl, h.read_eq, hdeclares⟩
  have hreads := readsFiles_of_load hl hms
  rw [(readsFiles_of_load (h.within.locate hl) hms').mem_iff, hreads.mem_iff]
  constructor
  · rintro ⟨name', hname', hr⟩
    rcases h.isFile_iff.mp hname' with hold | rfl
    · obtain ⟨m', hr'⟩ := hreads.every name' hold
      cases hr.symm.trans (Manifest.read_of_within h.within hr')
      exact .inl ⟨name', hold, hr'⟩
    · exact .inr (Except.ok.inj (hr.symm.trans hread))
  · rintro (⟨name', hold, hr⟩ | rfl)
    · exact ⟨name', h.isFile_iff.mpr (.inl hold), Manifest.read_of_within h.within hr⟩
    · exact ⟨name, h.isFile_iff.mpr (.inr rfl), hread⟩

theorem exists_append : ∃ before after, ms = before ++ after ∧
    ms' = before ++ unclassified (directory.join name) c :: after ∧
    (∀ m ∈ before, ∃ a : Name, a.bytes < name.bytes ∧ m.path = directory.join a) ∧
    ∀ m ∈ after, ∃ a : Name, name.bytes < a.bytes ∧ m.path = directory.join a := by
  have hreads := readsFiles_of_load hl hms
  have hreads' := readsFiles_of_load (h.within.locate hl) hms'
  have hold : ∀ m ∈ ms, ∃ a, m.path = directory.join a ∧ IsFile (fs.children l) a := by
    intro m hm
    obtain ⟨a, ha, hr⟩ := (hreads.mem_iff m).mp hm
    exact ⟨a, (Manifest.read_eq_ok_iff.mp hr).1, ha⟩
  have hnew : unclassified (directory.join name) c ∉ ms := by
    intro hm
    obtain ⟨a, hpath, ha⟩ := hold _ hm
    obtain rfl := directory.join_injective hpath
    obtain ⟨n, hn, _⟩ := isFile_children_iff.mp ha
    cases h.missing.symm.trans hn
  obtain ⟨before, after, rfl, hms', hlower, hupper⟩ := Manifest.exists_append_of_ascending
    hreads.ascending hreads'.ascending hnew (h.mem_iff hl hdeclares hms hms')
  refine ⟨before, after, rfl, hms', fun m hm => ?_, fun m hm => ?_⟩
  · obtain ⟨a, ha, _⟩ := hold m (List.mem_append_left _ hm)
    exact ⟨a, directory.lt_of_join_lt_join (ha ▸ hlower m hm), ha⟩
  · obtain ⟨a, ha, _⟩ := hold m (List.mem_append_right _ hm)
    exact ⟨a, directory.lt_of_join_lt_join (ha ▸ hupper m hm), ha⟩

end AddsFile

end Directory

/-! ## A series of runs -/

def Surroundings.timed (env : Surroundings) (now : String) : Surroundings := { env with now := now }

/-- The file system before each run of a series with the same options. -/
def beforeRun (env : Surroundings) (times : Nat → String) (o : VerifyOptions) (fs : FileSystem) :
    Nat → FileSystem
  | 0 => fs
  | n + 1 => (verify (env.timed (times n)) (beforeRun env times o fs n) o).fileSystem

def runInSeries (env : Surroundings) (times : Nat → String) (o : VerifyOptions) (fs : FileSystem)
    (n : Nat) : VerifyResult :=
  verify (env.timed (times n)) (beforeRun env times o fs n) o

section Series

variable {env : Surroundings} {times : Nat → String} {o : VerifyOptions} {fs : FileSystem}
  {l : Location} {name : Name} {ms : List Manifest}

theorem evaluation_congr {ms' : List Manifest} (h : gatesByProfile ms' = gatesByProfile ms) :
    evaluation o ms' = evaluation o ms := by
  simp only [evaluation, h]

/-- A run of the series reaches its verdict on the same gates as the first one, and its report is
the only file that the directory has gained. -/
structure Repeats (env : Surroundings) (times : Nat → String) (o : VerifyOptions) (fs : FileSystem)
    (l : Location) (name : Name) (ms : List Manifest) (n : Nat) (ms' : List Manifest) : Prop where
  reaches : ReachesVerdict (env.timed (times n)) (beforeRun env times o fs n) o ms'
  gates : gatesByProfile ms' = gatesByProfile ms
  adds : AddsFile fs (beforeRun env times o fs (n + 1)) (o.directory.join name) l name
    (makeReport (times n) o ms' (evaluation o ms')).json.fileContents

variable (hl : fs.locate o.directory = .ok l)
  (hpath : o.reportPath = some (o.directory.join name))

include hl hpath in
theorem repeats_zero (hmissing : fs.node? (l ++ [name]) = none)
    (h : ReachesVerdict (env.timed (times 0)) fs o ms) : Repeats env times o fs l name ms 0 ms :=
  ⟨h, rfl, addsFile_of_writeJson hl hmissing (h.writeJson_eq hpath)⟩

include hl hpath in
theorem Repeats.succ (h₀ : ReachesVerdict (env.timed (times 0)) fs o ms) {n : Nat}
    {ms₁ : List Manifest} (h : Repeats env times o fs l name ms n ms₁) {r : VerificationReport}
    (hr : r = makeReport (times n) o ms₁ (evaluation o ms₁))
    (hparse : env.parse r.json.fileContents = .ok r.json.tree) :
    ∃ before after, ms = before ++ after ∧
      Repeats env times o fs l name ms (n + 1)
        (before ++ unclassified (o.directory.join name) r.json.fileContents :: after) ∧
      (∀ m ∈ before, ∃ a : Name, a.bytes < name.bytes ∧ m.path = o.directory.join a) ∧
      ∀ m ∈ after, ∃ a : Name, name.bytes < a.bytes ∧ m.path = o.directory.join a := by
  have hadds := h.adds
  rw [← hr] at hadds
  have hdeclares := r.declares hparse
  have hgains := hadds.gainsUnclassified hl hdeclares
  obtain ⟨ms₂, hms₂⟩ := hgains.exists_load h₀.loaded
  have hgates := hgains.gatesByProfile_eq h₀.loaded hms₂
  obtain ⟨before, after, hms, rfl, hbefore, hafter⟩ :=
    hadds.exists_append hl hdeclares h₀.loaded hms₂
  refine ⟨before, after, hms, ?_, hbefore, hafter⟩
  obtain ⟨entries, hlist⟩ := h₀.listed
  obtain ⟨_, _, _, hlist'⟩ := hadds.within.list hlist
  have hreaches : ReachesVerdict (env.timed (times (n + 1))) (beforeRun env times o fs (n + 1)) o
      (before ++ unclassified (o.directory.join name) r.json.fileContents :: after) := by
    refine ⟨h₀.directory, ⟨_, hlist'⟩, h₀.distinct, hms₂, fun path hpath' => ?_⟩
    cases hpath.symm.trans hpath'
    obtain ⟨fs', hwrite, _⟩ := hadds.writeJson _
    exact ⟨fs', hwrite⟩
  refine ⟨hreaches, hgates, ?_⟩
  obtain ⟨fs', hwrite, hadds'⟩ := hadds.writeJson _
  cases hwrite.symm.trans (hreaches.writeJson_eq hpath)
  exact hadds'

theorem Repeats.reports (hpath : o.reportPath = some (o.directory.join name)) {n : Nat}
    {ms' : List Manifest} (h : Repeats env times o fs l name ms n ms') :
    Reports (env.timed (times n)) (beforeRun env times o fs n) o (o.directory.join name)
      (makeReport (times n) o ms' (evaluation o ms')) :=
  ⟨hpath, ms', h.reaches, rfl⟩

/-- The outcome and the text depend on the gates alone. -/
theorem Repeats.result_eq {n n' : Nat} {ms₁ ms₂ : List Manifest}
    (h : Repeats env times o fs l name ms n ms₁) (h' : Repeats env times o fs l name ms n' ms₂) :
    (runInSeries env times o fs n).outcome = (runInSeries env times o fs n').outcome ∧
      (runInSeries env times o fs n).diagnostics =
        (runInSeries env times o fs n').diagnostics := by
  have hevaluation := evaluation_congr (o := o) (h.gates.trans h'.gates.symm)
  refine ⟨?_, ?_⟩
  · rw [runInSeries, runInSeries, h.reaches.outcome_eq, h'.reaches.outcome_eq, hevaluation]
    rfl
  · rw [runInSeries, runInSeries, h.reaches.diagnostics_eq, h'.reaches.diagnostics_eq, hevaluation]
    rfl

end Series

/-- A report in the directory of the manifests disturbs no later run. The run ends as the first one
did and finds the same; its report has one more source, which is the report of the run before, in
its place among the files. -/
theorem report_among_manifests_disturbs_no_run (env : Surroundings) (times : Nat → String)
    (o : VerifyOptions) (fs : FileSystem) {name : Name}
    (hpath : o.reportPath = some (o.directory.join name))
    (hfresh : ∀ entries, fs.list o.directory = .ok entries → name ∉ entries.map Prod.fst)
    {r : VerificationReport}
    (hfirst : Reports (env.timed (times 0)) fs o (o.directory.join name) r) (n : Nat)
    (hparse : ∀ k ≤ n, ∀ r', Reports (env.timed (times k)) (beforeRun env times o fs k) o
      (o.directory.join name) r' → env.parse r'.json.fileContents = .ok r'.json.tree) :
    (runInSeries env times o fs (n + 1)).outcome = (runInSeries env times o fs 0).outcome ∧
    (runInSeries env times o fs (n + 1)).diagnostics =
      (runInSeries env times o fs 0).diagnostics ∧
    ∃ previous r',
      Reports (env.timed (times n)) (beforeRun env times o fs n) o (o.directory.join name)
        previous ∧
      Reports (env.timed (times (n + 1))) (beforeRun env times o fs (n + 1)) o
        (o.directory.join name) r' ∧
      r'.checked = r.checked ∧ r'.skipped = r.skipped ∧ r'.diagnostics = r.diagnostics ∧
      ∃ before after, (load env.parse fs o.directory).outcome = .ok (before ++ after) ∧
        r.sources = before.map Manifest.source ++ after.map Manifest.source ∧
        r'.sources = before.map Manifest.source ++
          ⟨(o.directory.join name).display, sha256Hex previous.json.fileContents, none, none, 0⟩ ::
          after.map Manifest.source ∧
        (∀ m ∈ before, ∃ a : Name, a.bytes < name.bytes ∧ m.path = o.directory.join a) ∧
        ∀ m ∈ after, ∃ a : Name, name.bytes < a.bytes ∧ m.path = o.directory.join a := by
  obtain ⟨_, ms, h₀, rfl⟩ := hfirst
  obtain ⟨entries, hlist⟩ := h₀.listed
  obtain ⟨l, hl, _, _, rfl⟩ := list_eq_ok_iff.mp hlist
  have hmissing : fs.node? (l ++ [name]) = none := by
    rw [Option.eq_none_iff_forall_ne_some]
    intro node hnode
    exact hfresh _ hlist (List.mem_map_of_mem (f := Prod.fst) (mem_children_iff.mpr hnode))
  have hzero := repeats_zero hl hpath hmissing h₀
  have hrepeats : ∀ k ≤ n, ∃ ms', Repeats env times o fs l name ms k ms' := by
    intro k
    induction k with
    | zero => exact fun _ => ⟨ms, hzero⟩
    | succ k ih =>
        intro hk
        obtain ⟨ms₁, h₁⟩ := ih (by omega)
        have hread := hparse k (by omega) _ (h₁.reports hpath)
        obtain ⟨_, _, _, h₂, _⟩ := h₁.succ hl hpath h₀ rfl hread
        exact ⟨_, h₂⟩
  obtain ⟨ms₁, h₁⟩ := hrepeats n (Nat.le_refl n)
  obtain ⟨before, after, rfl, h₂, hbefore, hafter⟩ :=
    h₁.succ hl hpath h₀ rfl (hparse n (Nat.le_refl n) _ (h₁.reports hpath))
  have hevaluation := evaluation_congr (o := o) h₂.gates
  obtain ⟨houtcome, hdiagnostics⟩ := h₂.result_eq hzero
  refine ⟨houtcome, hdiagnostics, _, _, h₁.reports hpath, h₂.reports hpath,
    congrArg CheckOutcome.checked hevaluation, congrArg CheckOutcome.skipped hevaluation,
    congrArg CheckOutcome.diagnostics hevaluation, before, after, h₀.loaded, ?_, ?_, hbefore,
    hafter⟩
  · simp only [makeReport, List.map_append]
  · simp only [makeReport, List.map_append, List.map_cons]
    rfl

theorem Reports.unique {env : Surroundings} {fs : FileSystem} {o : VerifyOptions} {path : Path}
    {r r' : VerificationReport} (h : Reports env fs o path r) (h' : Reports env fs o path r') :
    r = r' := by
  obtain ⟨_, ms, hreach, rfl⟩ := h
  obtain ⟨_, ms', hreach', rfl⟩ := h'
  cases hreach.loaded.symm.trans hreach'.loaded
  rfl

theorem Json.fileContents_eq (j : Json) :
    j.fileContents = (write 0 j ++ ['\n']).flatMap String.utf8EncodeChar := by
  rw [← Bytes.ofString_ofList, String.ofList_append]
  rfl

/-- A report is read as its value if the characters of its file are. -/
theorem read_fileContents {j : Json}
    (h : (Yaml.document? (Json.write 0 j ++ ['\n'])).any j.isTree = true) :
    Yaml.read j.fileContents = .ok j.tree := by
  obtain ⟨t, ht, htree⟩ := (Option.any_eq_true ..).mp h
  have hread : Yaml.read? j.fileContents = some t := by
    rw [Json.fileContents, Yaml.read?_ofString, Json.text, String.toList_append,
      String.toList_ofList]
    exact ht
  rw [Yaml.read, hread, Json.tree_eq_of_isTree htree]

/-! ## Three runs -/

namespace Sample

/-- A name between those of the manifests. -/
def aa : Name := ⟨[0x61, 0x61], by decide⟩

/-- The report goes into the directory itself. -/
def recording : VerifyOptions := { options with reportPath := some (Path.join [0x64] aa) }

/-- A report of one of the runs, which differ in their sources. -/
def recorded (sources : List ManifestSource) : VerificationReport where
  version := 1
  generatedAt := "t"
  manifestDirectory := "d"
  baseline := "Default"
  derived := "OKD"
  passed := false
  sources := sources
  checked := [.selfManagedHA]
  skipped := []
  diagnostics := [⟨.selfManagedHA, ["A"], 1⟩]

/-- What a run tells of the report before it. -/
def reportSource (previous : VerificationReport) : ManifestSource :=
  ⟨"d/aa", sha256Hex previous.json.fileContents, none, none, 0⟩

def firstReport : VerificationReport := recorded [okdSource, defaultSource]

def secondReport : VerificationReport :=
  recorded [okdSource, reportSource firstReport, defaultSource]

def runBefore (n : Nat) : FileSystem := beforeRun surroundings (fun _ => "t") recording files n

theorem makeReport_eq_recorded {ms : List Manifest}
    (hchecked : (evaluation recording ms).checked = [.selfManagedHA])
    (hskipped : (evaluation recording ms).skipped = [])
    (hdiagnostics : (evaluation recording ms).diagnostics = [⟨.selfManagedHA, ["A"], 1⟩]) :
    makeReport "t" recording ms (evaluation recording ms) = recorded (ms.map Manifest.source) := by
  have hdirectory : recording.directory.display = "d" := by decide +kernel
  rw [makeReport, CheckOutcome.passed, hchecked, hskipped, hdiagnostics, hdirectory]
  rfl

theorem reports_first : Reports (surroundings.timed "t") files recording (Path.join [0x64] aa)
    firstReport := by
  have hreport : makeReport "t" recording manifests (evaluation recording manifests) =
      firstReport := by
    rw [makeReport_eq_recorded (by decide) (by decide) (by decide), sources_manifests]
    rfl
  refine ⟨rfl, manifests, ⟨by decide, ⟨_, rfl⟩, by decide, load_eq_ok, fun path hpath => ?_⟩,
    hreport.symm⟩
  cases hpath
  have hopens : files.Opens (Path.join [0x64] aa) (.file [d, aa]) := .new (l := [d]) rfl
  exact ⟨_, writeJson_eq_ok_iff.mpr ⟨files, rfl, .inl ⟨_, hopens, rfl⟩⟩⟩

theorem surroundings_parse : surroundings.parse = Yaml.read := rfl

theorem read_first :
    surroundings.parse firstReport.json.fileContents = .ok firstReport.json.tree := by
  rw [surroundings_parse]
  exact read_fileContents (by decide +kernel)

theorem read_second :
    surroundings.parse secondReport.json.fileContents = .ok secondReport.json.tree := by
  have hdigest : reportSource firstReport = ⟨"d/aa",
      "fdda92859cce27362a29a6dceb85f343f567691445bd4fc30df398ec212d5156", none, none, 0⟩ := by
    rw [reportSource, Json.fileContents_eq]
    decide +kernel
  rw [surroundings_parse, secondReport, hdigest]
  exact read_fileContents (by decide +kernel)

/-- Only the report of the run before stands between the manifests. -/
theorem sources_eq {r previous : VerificationReport} {before after : List Manifest}
    (hload : (load surroundings.parse files recording.directory).outcome = .ok (before ++ after))
    (hsources : r.sources = before.map Manifest.source ++
      ⟨(recording.directory.join aa).display, sha256Hex previous.json.fileContents, none, none,
        0⟩ :: after.map Manifest.source)
    (hbefore : ∀ m ∈ before, ∃ a : Name, a.bytes < aa.bytes ∧ m.path = Path.join [0x64] a)
    (hafter : ∀ m ∈ after, ∃ a : Name, aa.bytes < a.bytes ∧ m.path = Path.join [0x64] a) :
    r.sources = [okdSource, reportSource previous, defaultSource] := by
  have h : before ++ after = manifests := Except.ok.inj (hload.symm.trans load_eq_ok)
  have hlower : ∀ m ∈ before, m.path < Path.join [0x64] aa := by
    intro m hm
    obtain ⟨a, ha, hpath⟩ := hbefore m hm
    exact hpath ▸ Path.join_lt_join [0x64] ha
  have hupper : ∀ m ∈ after, Path.join [0x64] aa < m.path := by
    intro m hm
    obtain ⟨a, ha, hpath⟩ := hafter m hm
    exact hpath ▸ Path.join_lt_join [0x64] ha
  have hmanifests := sources_manifests
  rw [← h, List.map_append] at hmanifests
  -- The first manifest is named before the report and the second one behind it.
  rcases before with _ | ⟨m, _ | ⟨m', before⟩⟩
  · obtain rfl : after = manifests := h
    exact absurd (hupper _ List.mem_cons_self) (by decide)
  · obtain ⟨hfirst, hsecond⟩ : m.source = okdSource ∧
        after.map Manifest.source = [defaultSource] := by
      simpa using hmanifests
    rw [hsources, List.map_singleton, hfirst, hsecond]
    rfl
  · simp only [manifests, List.cons_append, List.cons.injEq] at h
    have hlast := hlower m' (by simp)
    rw [h.2.1] at hlast
    exact absurd hlast (by decide)

theorem eq_recorded {n : Nat} {r : VerificationReport}
    (h : Reports (surroundings.timed "t") (runBefore n) recording (Path.join [0x64] aa) r)
    (hchecked : r.checked = [.selfManagedHA]) (hskipped : r.skipped = [])
    (hdiagnostics : r.diagnostics = [⟨.selfManagedHA, ["A"], 1⟩]) : r = recorded r.sources := by
  obtain ⟨_, ms, _, rfl⟩ := h
  exact makeReport_eq_recorded hchecked hskipped hdiagnostics

theorem outcome_first :
    (runInSeries surroundings (fun _ => "t") recording files 0).outcome =
        .error (.failed "OKD") ∧
      (runInSeries surroundings (fun _ => "t") recording files 0).diagnostics =
        Bytes.ofString (diagnostics ++ "\n") := by
  obtain ⟨_, ms, hreach, _⟩ := reports_first
  cases load_eq_ok.symm.trans hreach.loaded
  have hfailed : (evaluation recording manifests).passed = false := by decide
  have htakes : surroundings.sink.Takes (verdictTexts recording manifests) := fun _ _ _ => rfl
  have hverdict := deliverVerdict_of_taken hfailed htakes
  refine ⟨hreach.outcome_eq.trans (congrArg Prod.fst hverdict),
    (hreach.diagnostics_eq.trans (congrArg Prod.snd hverdict)).trans ?_⟩
  decide +kernel

end Sample

theorem report_disturbs_no_sample_run :
    (runInSeries Sample.surroundings (fun _ => "t") Sample.recording Sample.files 0).outcome =
        .error (.failed "OKD") ∧
      (runInSeries Sample.surroundings (fun _ => "t") Sample.recording Sample.files 2).outcome =
        .error (.failed "OKD") ∧
      (runInSeries Sample.surroundings (fun _ => "t") Sample.recording Sample.files 2).diagnostics =
        Bytes.ofString (Sample.diagnostics ++ "\n") ∧
      ∃ r, Reports (Sample.surroundings.timed "t") (Sample.runBefore 2) Sample.recording
          (Path.join [0x64] Sample.aa) r ∧
        r.checked = [.selfManagedHA] ∧ r.skipped = [] ∧
        r.diagnostics = [⟨.selfManagedHA, ["A"], 1⟩] ∧
        r.sources = [Sample.okdSource, Sample.reportSource Sample.secondReport,
          Sample.defaultSource] := by
  have hfresh : ∀ entries, Sample.files.list [0x64] = .ok entries →
      Sample.aa ∉ entries.map Prod.fst := by
    intro entries hlist
    cases (show Sample.files.list [0x64] = .ok _ from rfl).symm.trans hlist
    decide
  have hruns := report_among_manifests_disturbs_no_run Sample.surroundings (fun _ => "t")
    Sample.recording Sample.files rfl hfresh Sample.reports_first
  have hsecond : ∀ r, Reports (Sample.surroundings.timed "t") (Sample.runBefore 1)
      Sample.recording (Path.join [0x64] Sample.aa) r → r = Sample.secondReport := by
    intro r h
    have hread : ∀ k ≤ 0, ∀ r, Reports (Sample.surroundings.timed "t") (Sample.runBefore k)
        Sample.recording (Path.join [0x64] Sample.aa) r →
        Sample.surroundings.parse r.json.fileContents = .ok r.json.tree := by
      intro k hk r h
      obtain rfl : k = 0 := by omega
      rw [h.unique Sample.reports_first]
      exact Sample.read_first
    obtain ⟨_, _, previous, r', hprevious, hr', hchecked, hskipped, hdiagnostics, before, after,
      hload, _, hsources, hbefore, hafter⟩ := hruns 0 hread
    obtain rfl := hprevious.unique Sample.reports_first
    obtain rfl := h.unique hr'
    rw [Sample.eq_recorded h hchecked hskipped hdiagnostics,
      Sample.sources_eq hload hsources hbefore hafter]
    rfl
  obtain ⟨houtcome, hdiagnostics⟩ := Sample.outcome_first
  have hread : ∀ k ≤ 1, ∀ r, Reports (Sample.surroundings.timed "t") (Sample.runBefore k)
      Sample.recording (Path.join [0x64] Sample.aa) r →
      Sample.surroundings.parse r.json.fileContents = .ok r.json.tree := by
    intro k hk r h
    obtain rfl | rfl : k = 0 ∨ k = 1 := by omega
    · rw [h.unique Sample.reports_first]
      exact Sample.read_first
    · rw [hsecond r h]
      exact Sample.read_second
  obtain ⟨houtcome', hdiagnostics', previous, r, hprevious, hr, hchecked, hskipped, hfound, before,
    after, hload, _, hsources, hbefore, hafter⟩ := hruns 1 hread
  obtain rfl := hsecond previous hprevious
  exact ⟨houtcome, houtcome'.trans houtcome, hdiagnostics'.trans hdiagnostics, r, hr, hchecked,
    hskipped, hfound, Sample.sources_eq hload hsources hbefore hafter⟩

end FeatureGates
