import FeatureGates.Proofs.JsonText
import FeatureGates.Proofs.Path
import FeatureGates.Report
import Mathlib.Logic.Relation

namespace FeatureGates

/-!
# What writing changes

Writing to a path makes the directories above it that are missing and then puts a file where the
path leads. An operation either fails and changes nothing or is one such change.
-/

/-- A path is met on the way up from another. -/
def Path.Above (q p : Path) : Prop := Relation.TransGen (fun r s => s.parent? = some r) q p

theorem Path.above_of_mem_ancestors {p q r : Path} (hp : p.parent? = some q)
    (hr : r ∈ q.ancestors) : Above r p := by
  have hgo : ∀ (n : Nat) (q : Path), r ∈ ancestors.go n q →
      Relation.ReflTransGen (fun r s => s.parent? = some r) r q := by
    intro n
    induction n with
    | zero => exact fun q h => by cases h
    | succ n ih =>
        intro q h
        unfold ancestors.go at h
        split at h
        next => cases h
        next q' hq' =>
          rcases List.mem_cons.mp h with rfl | h
          · exact .refl
          · exact (ih q' h).tail hq'
  exact .tail' (hgo _ q hr) hp

namespace FileSystem

variable {fs fs' fs'' : FileSystem}

theorem putEntry_putEntry (l : Location) (n n' : Node) (es : List (Location × Node)) :
    putEntry l n' (putEntry l n es) = putEntry l n' es := by
  induction es with
  | nil => simp [putEntry]
  | cons e es ih => by_cases h : l = e.1 <;> simp [putEntry, h, ih]

/-- What is put later is what stays. -/
theorem put_put (fs : FileSystem) (l : Location) (n n' : Node) :
    (fs.put l n).put l n' = fs.put l n' := by
  simp only [put, putEntry_putEntry]

theorem node?_put_self (fs : FileSystem) {l : Location} (hl : l ≠ []) (n : Node) :
    (fs.put l n).node? l = some n := by
  rw [node?_put hl, if_pos rfl]

theorem ne_nil_of_node? {l : Location} {n : Node} (h : fs.node? l = some n)
    (hn : n ≠ .directory) : l ≠ [] := by
  rintro rfl
  exact hn (Option.some.inj h).symm

theorem keeps_put_file {l : Location} {c : Bytes} (hl : fs.node? l = some (.file c)) (c' : Bytes) :
    Keeps (· = l) fs (fs.put l (.file c')) where
  entry k n hn := by
    have hroot : l ≠ [] := ne_nil_of_node? hl nofun
    rw [node?_put hroot]
    split
    next hk =>
      subst hk
      exact .inr ⟨rfl, c, c', Option.some.inj (hn.symm.trans hl), rfl⟩
    next => exact .inl hn
  workingDirectory := rfl
  uninterrupted _ _ hi := hi

theorem Leads.node?_absent {purpose : Purpose} {n m : Nat} {l k : Location} {steps : List Step}
    {name : Name} (h : Leads fs purpose n l steps (.absent k name) m) :
    fs.node? (k ++ [name]) = none := by
  generalize hplace : Place.absent k name = place at h
  induction h with
  | arrive => cases hplace
  | stay _ _ _ ih => exact ih hplace
  | up _ _ ih => exact ih hplace
  | miss _ _ hnode =>
      cases hplace
      exact hnode
  | enter _ _ _ _ _ ih => exact ih hplace
  | follow _ _ _ _ ih => exact ih hplace

/-! ## Making directories -/

theorem Path.filter_steps (p : Path) : p.steps.filter (· ≠ .directory) = p.moves := by
  have hmove : ∀ s ∈ p.moves, s ≠ .directory := by
    rintro _ hs rfl
    obtain ⟨piece, _, hpiece⟩ := List.mem_filterMap.mp hs
    unfold Path.step? at hpiece
    split at hpiece
    next => cases hpiece
    next =>
      split at hpiece
      next => cases hpiece
      next => split at hpiece <;> cases hpiece
  rw [Path.steps_eq, List.filter_append,
    List.filter_eq_self.mpr fun s hs => by simpa using hmove s hs]
  split <;> simp

theorem entryOf_eq_some_iff {p : Path} {l : Location} {name : Name} :
    fs.entryOf p = .ok (l, some name) ↔
      checked p = .ok p ∧ fs.isDirectoryAt l = true ∧ ∃ steps m, p.moves = steps ++ [.into name] ∧
        Leads fs .use maxLinks (fs.origin p) steps (.present l) m := by
  unfold entryOf
  cases hc : checked p with
  | error cause => simp [bind, Except.bind]
  | ok q =>
      obtain rfl := (checked_eq_ok_iff.mp hc).1
      simp only [bind, Except.bind, Path.filter_steps, true_and, ← walk_eq_ok_iff]
      constructor
      · intro h
        split at h
        next => cases h
        next r hw =>
          obtain ⟨place, m⟩ := r
          cases place with
          | absent => cases h
          | present l' =>
              cases hd : fs.isDirectoryAt l' with
              | false => simp [hd, throw, throwThe, MonadExceptOf.throw] at h
              | true =>
                  simp only [hd, Bool.not_true, Bool.false_eq_true, if_false] at h
                  split at h
                  next name' hlast =>
                    cases h
                    obtain ⟨steps, hsteps⟩ := List.getLast?_eq_some_iff.mp hlast
                    refine ⟨hd, steps, m, hsteps, ?_⟩
                    rwa [hsteps, List.dropLast_concat] at hw
                  next => cases h
      · rintro ⟨hd, steps, m, hsteps, hw⟩
        simp [hsteps, hw, hd, pure, Except.pure]

/-- A directory can only be made at a path that leads nowhere, and then the path leads to it. -/
theorem makeDirectory_cases (fs : FileSystem) (p : Path) :
    (∃ e, fs.makeDirectory p = (.error e, fs)) ∨
      ∃ l, fs.node? l = none ∧ (fs.put l .directory).locate p = .ok l ∧
        fs.makeDirectory p = (.ok (), fs.put l .directory) := by
  unfold makeDirectory
  split
  next e _ => exact .inl ⟨e, rfl⟩
  next => exact .inl ⟨_, rfl⟩
  next l name he =>
    unfold lookUp
    by_cases hlong : maxNameLength < name.bytes.length
    · simp [hlong]
    · simp only [hlong, if_false]
      cases hnode : fs.node? (l ++ [name]) with
      | some n => exact .inl ⟨_, rfl⟩
      | none =>
          refine .inr ⟨l ++ [name], hnode, ?_, rfl⟩
          obtain ⟨hc, hd, steps, m, hmoves, hleads⟩ := entryOf_eq_some_iff.mp he
          have hkeeps : Keeps (fun _ => False) fs (fs.put (l ++ [name]) .directory) :=
            keeps_put _ hnode
          have hmade : (fs.put (l ++ [name]) .directory).node? (l ++ [name]) = some .directory :=
            node?_put_self fs (by simp) _
          -- The path may ask for a directory at its end, which it finds there.
          have hlast : ∀ rest : List Step, rest = [] ∨ rest = [.directory] →
              Leads (fs.put (l ++ [name]) .directory) .use m l (.into name :: rest)
                (.present (l ++ [name])) m := by
            intro rest hrest
            refine .enter (hkeeps.isDirectoryAt hd) ⟨nofun, Nat.not_lt.mp hlong⟩ hmade nofun ?_
            rcases hrest with rfl | rfl
            · exact .arrive _ _
            · exact .stay (isDirectoryAt_iff.mpr hmade) (.inr rfl) (.arrive _ _)
          refine locate_eq_ok_iff.mpr (resolve_eq_ok_iff.mpr ⟨hc, m, ?_⟩)
          have hfirst : Leads (fs.put (l ++ [name]) .directory) .use maxLinks (fs.origin p) steps
              (.present l) m := hleads.of_keeps hkeeps (fun h : Purpose.use = .make => h) trivial
          rw [hkeeps.origin] at hfirst
          rw [Path.steps_eq, hmoves, List.append_assoc]
          refine hfirst.append (hlast _ ?_) nofun
          split
          · exact .inr rfl
          · exact .inl rfl

/-- Directories have been made where paths of some kind lead, and nothing else has changed. -/
structure MakesOnly (sites : Path → Prop) (fs fs' : FileSystem) : Prop where
  within : fs.Within fs'
  made : ∀ l n, fs.node? l = none → fs'.node? l = some n →
    n = .directory ∧ ∃ p, sites p ∧ fs'.locate p = .ok l

namespace MakesOnly

variable {sites : Path → Prop}

theorem refl (fs : FileSystem) : MakesOnly sites fs fs :=
  ⟨.refl fs, fun _ _ hnone hsome => by cases hnone.symm.trans hsome⟩

theorem trans (h : MakesOnly sites fs fs') (h' : MakesOnly sites fs' fs'') :
    MakesOnly sites fs fs'' where
  within := h.within.trans h'.within
  made l n hnone hsome := by
    cases hmiddle : fs'.node? l with
    | none => exact h'.made l n hmiddle hsome
    | some n' =>
        obtain ⟨rfl, p, hp, hl⟩ := h.made l n' hnone hmiddle
        have hsame := h'.within.node? hmiddle
        exact ⟨Option.some.inj (hsome.symm.trans hsame), p, hp, Keeps.locate h'.within hl⟩

theorem mono {sites' : Path → Prop} (h : MakesOnly sites fs fs') (hs : ∀ p, sites p → sites' p) :
    MakesOnly sites' fs fs' where
  within := h.within
  made l n hnone hsome := by
    obtain ⟨hn, p, hp, hl⟩ := h.made l n hnone hsome
    exact ⟨hn, p, hs p hp, hl⟩

end MakesOnly

theorem makesOnly_makeDirectory (fs : FileSystem) (p : Path) :
    MakesOnly (· = p) fs (fs.makeDirectory p).2 := by
  rcases fs.makeDirectory_cases p with ⟨e, he⟩ | ⟨l, hl, hlocate, hmade⟩
  · rw [he]
    exact .refl fs
  · rw [hmade]
    refine ⟨keeps_put _ hl, fun k n hnone hsome => ?_⟩
    rw [node?_put (ne_nil_of_node?_eq_none hl)] at hsome
    split at hsome
    next hk => exact ⟨(Option.some.inj hsome).symm, p, rfl, hk ▸ hlocate⟩
    next => cases hnone.symm.trans hsome

theorem makesOnly_makeAll (ps : List Path) (fs : FileSystem) :
    MakesOnly (· ∈ ps) fs (fs.makeAll ps).2 := by
  induction ps generalizing fs with
  | nil => exact .refl fs
  | cons p ps ih =>
      have hhead : ∀ fs : FileSystem, MakesOnly (· ∈ p :: ps) fs (fs.makeDirectory p).2 :=
        fun fs => (fs.makesOnly_makeDirectory p).mono fun q hq => hq ▸ List.mem_cons_self
      have htail : ∀ fs : FileSystem, MakesOnly (· ∈ p :: ps) fs (fs.makeAll ps).2 :=
        fun fs => (ih fs).mono fun q hq => List.mem_cons_of_mem p hq
      unfold makeAll
      split
      next fs₁ h₁ =>
        have hmade := hhead fs
        rwa [h₁] at hmade
      next fs₁ h₁ =>
        have hfirst := hhead fs
        rw [h₁] at hfirst
        have hrest := htail fs₁
        split
        next e fs₂ h₂ =>
          rw [h₂] at hrest
          exact hfirst.trans hrest
        next fs₂ h₂ =>
          rw [h₂] at hrest
          have hlast := hhead fs₂
          have hall := (hfirst.trans hrest).trans hlast
          split
          next fs₃ h₃ => rwa [h₃] at hall
          next e fs₃ h₃ =>
            rw [h₃] at hall
            split <;> exact hall
      next e fs₁ _ h₁ =>
        have hmade := hhead fs
        rw [h₁] at hmade
        split <;> exact hmade

theorem isDirectory_iff {p : Path} :
    fs.isDirectory p = true ↔ ∃ l, fs.locate p = .ok l ∧ fs.isDirectoryAt l = true := by
  unfold isDirectory
  cases fs.locate p <;> simp

theorem Keeps.isDirectory {changed : Location → Prop} (h : Keeps changed fs fs') {p : Path}
    (hd : fs.isDirectory p = true) : fs'.isDirectory p = true := by
  obtain ⟨l, hl, hd⟩ := isDirectory_iff.mp hd
  exact isDirectory_iff.mpr ⟨l, h.locate hl, h.isDirectoryAt hd⟩

theorem isDirectory_of_makeDirectory {p : Path} (h : fs.makeDirectory p = (.ok (), fs')) :
    fs'.isDirectory p = true := by
  rcases fs.makeDirectory_cases p with ⟨e, he⟩ | ⟨l, hl, hlocate, hmade⟩
  · cases he.symm.trans h
  · cases hmade.symm.trans h
    have hmade := fs.node?_put_self (ne_nil_of_node?_eq_none hl) .directory
    exact isDirectory_iff.mpr ⟨l, hlocate, isDirectoryAt_iff.mpr hmade⟩

theorem isDirectory_of_makeAll {p : Path} {ps : List Path}
    (h : fs.makeAll (p :: ps) = (.ok (), fs')) : fs'.isDirectory p = true := by
  unfold makeAll at h
  split at h
  next h₁ =>
    cases h
    exact isDirectory_of_makeDirectory h₁
  next =>
    split at h
    next => cases h
    next =>
      split at h
      next h₃ =>
        cases h
        exact isDirectory_of_makeDirectory h₃
      next =>
        split at h
        next hd =>
          cases h
          exact hd
        next => cases h
  next =>
    split at h
    next hd =>
      cases h
      exact hd
    next => cases h

theorem entryOf_of_locate {p : Path} {l : Location} (h : fs.locate p = .ok l) :
    fs.entryOf p = .error .notDirectory ∨ ∃ k name?, fs.entryOf p = .ok (k, name?) := by
  obtain ⟨hc, _⟩ := resolve_eq_ok_iff.mp (locate_eq_ok_iff.mp h)
  obtain ⟨m, hleads⟩ := leads_moves h
  have hfirst : ∃ n k, Leads fs .use maxLinks (fs.origin p) p.moves.dropLast (.present k) n := by
    rcases p.moves.eq_nil_or_concat with hmoves | ⟨steps, s, hmoves⟩
    · exact ⟨_, _, by rw [hmoves]; exact .arrive _ _⟩
    · rw [List.concat_eq_append] at hmoves
      rw [hmoves] at hleads
      obtain ⟨n, k, hsteps, _⟩ := hleads.split (by simp)
      exact ⟨n, k, by rwa [hmoves, List.dropLast_concat]⟩
  obtain ⟨n, k, hfirst⟩ := hfirst
  unfold entryOf
  simp only [hc, bind, Except.bind, Path.filter_steps, hfirst.walk_eq]
  cases hd : fs.isDirectoryAt k with
  | false => simp [throw, throwThe, MonadExceptOf.throw]
  | true =>
      simp only [Bool.not_true, Bool.false_eq_true, if_false]
      split
      next name _ => exact .inr ⟨k, some name, rfl⟩
      next => exact .inr ⟨k, none, rfl⟩

/-- Where a directory is already, making one fails, but not because something is missing. -/
theorem makeDirectory_of_isDirectory {p : Path} (h : fs.isDirectory p = true) :
    ∃ e, e ≠ .notFound ∧ fs.makeDirectory p = (.error e, fs) := by
  obtain ⟨l, hl, _⟩ := isDirectory_iff.mp h
  unfold makeDirectory
  rcases entryOf_of_locate hl with he | ⟨k, name?, he⟩
  · exact ⟨.notDirectory, nofun, by rw [he]⟩
  · rw [he]
    cases name? with
    | none => exact ⟨.alreadyExists, nofun, rfl⟩
    | some name =>
        unfold lookUp
        by_cases hlong : maxNameLength < name.bytes.length
        · exact ⟨.nameTooLong, nofun, by simp [hlong]⟩
        · simp only [hlong, if_false]
          cases hnode : fs.node? (k ++ [name]) with
          | some n => exact ⟨.alreadyExists, nofun, rfl⟩
          | none =>
              -- Nothing is at the end of the path, so it leads nowhere.
              obtain ⟨_, _, steps, m, hmoves, hfirst⟩ := entryOf_eq_some_iff.mp he
              obtain ⟨m', hleads⟩ := leads_moves hl
              rw [hmoves] at hleads
              obtain ⟨n, k', hsteps, hlast⟩ := hleads.split (by simp)
              cases (hsteps.unique hfirst).1
              rcases hlast.last with ⟨hplace, _⟩ | ⟨_, hsome, _⟩
              · cases hplace
              · cases hnode.symm.trans hsome

theorem makeAll_of_isDirectory {p : Path} (h : fs.isDirectory p = true) (ps : List Path) :
    fs.makeAll (p :: ps) = (.ok (), fs) := by
  obtain ⟨e, hne, he⟩ := makeDirectory_of_isDirectory h
  unfold makeAll
  split
  next h₁ => cases he.symm.trans h₁
  next h₁ =>
    cases he.symm.trans h₁
    exact absurd rfl hne
  next h₁ =>
    cases he.symm.trans h₁
    simp [h]

/-! ## Opening a file -/

/-- What a path is opened as to be written. -/
inductive Opens (fs : FileSystem) (p : Path) : Output → Prop
  | old {l : Location} {c : Bytes} (h : fs.resolve p .make = .ok (.present l))
      (hn : fs.node? l = some (.file c)) : Opens fs p (.file l)
  | new {l : Location} {name : Name} (h : fs.resolve p .make = .ok (.absent l name)) :
      Opens fs p (.file (l ++ [name]))
  | device {l : Location} {d : Device} (h : fs.resolve p .make = .ok (.present l))
      (hn : fs.node? l = some (.device d)) : Opens fs p (.device d.writes?)

/-- A file that is opened is empty at first. -/
def emptied (fs : FileSystem) : Output → FileSystem
  | .file l => fs.put l (.file [])
  | .device _ => fs

theorem create_eq_ok_iff {p : Path} {out : Output} :
    fs.create p = (.ok out, fs') ↔ Opens fs p out ∧ fs' = fs.emptied out := by
  unfold create
  constructor
  · intro h
    split at h
    next => cases h
    next hr =>
      cases h
      exact ⟨.new hr, rfl⟩
    next hr =>
      split at h
      next hn =>
        cases h
        exact ⟨.old hr hn, rfl⟩
      next hn =>
        cases h
        exact ⟨.device hr hn, rfl⟩
      next => cases h
  · rintro ⟨⟨hr, hn⟩ | hr | ⟨hr, hn⟩, rfl⟩ <;> simp_all [emptied]

theorem create_error {p : Path} {e : FileError} (h : fs.create p = (.error e, fs')) :
    fs' = fs := by
  unfold create at h
  split at h
  next =>
    cases h
    rfl
  next => cases h
  next =>
    split at h
    next => cases h
    next => cases h
    next =>
      cases h
      rfl

namespace Opens

variable {p : Path} {l : Location}

theorem unique {out out' : Output} (h : Opens fs p out) (h' : Opens fs p out') : out = out' := by
  have hc := create_eq_ok_iff.mpr ⟨h, rfl⟩
  rw [create_eq_ok_iff.mpr ⟨h', rfl⟩] at hc
  cases (Prod.mk.inj hc).1
  rfl

/-- A file is put where one was or where there was nothing, and the path leads to it, also when it
is opened to be written. -/
theorem resolve_put (h : Opens fs p (.file l)) (c : Bytes) :
    Keeps (· = l) fs (fs.put l (.file c)) ∧ l ≠ [] ∧
      ∀ purpose, (fs.put l (.file c)).resolve p purpose = .ok (.present l) := by
  generalize hout : Output.file l = out at h
  cases h with
  | old hr hn =>
      cases hout
      have hkeeps := keeps_put_file hn c
      exact ⟨hkeeps, ne_nil_of_node? hn nofun, fun _ => hkeeps.resolve hr trivial _ fun _ => rfl⟩
  | @new k name hr =>
      cases hout
      obtain ⟨_, m, hleads⟩ := resolve_eq_ok_iff.mp hr
      have hkeeps : Keeps (· = k ++ [name]) fs (fs.put (k ++ [name]) (.file c)) :=
        keeps_put _ hleads.node?_absent
      have hroot : k ++ [name] ≠ [] := by simp
      have hfilled : (Place.absent k name).FilledIn (fs.put (k ++ [name]) (.file c)) :=
        ⟨.file c, fs.node?_put_self hroot _, nofun⟩
      exact ⟨hkeeps, hroot, fun _ => hkeeps.resolve hr hfilled _ fun _ => rfl⟩
  | device => cases hout

theorem put (h : Opens fs p (.file l)) (c : Bytes) :
    Keeps (· = l) fs (fs.put l (.file c)) ∧ (fs.put l (.file c)).locate p = .ok l ∧ l ≠ [] := by
  obtain ⟨hkeeps, hroot, hresolve⟩ := h.resolve_put c
  exact ⟨hkeeps, locate_eq_ok_iff.mpr (hresolve .use), hroot⟩

/-- The file that has been put is the one that is opened again. -/
theorem again (h : Opens fs p (.file l)) (c : Bytes) :
    Opens (fs.put l (.file c)) p (.file l) := by
  obtain ⟨_, hroot, hresolve⟩ := h.resolve_put c
  exact .old (hresolve .make) (fs.node?_put_self hroot _)

end Opens

end FileSystem

/-! ## Writing a value to a file -/

open FileSystem

variable {fs fs' : FileSystem} {path : Path}

theorem makesOnly_ensureParent (fs : FileSystem) (path : Path) :
    MakesOnly (Path.Above · path) fs (ensureParent fs path).2 := by
  unfold ensureParent
  split
  next => exact .refl fs
  next parent hp =>
    split
    next => exact .refl fs
    next =>
      have hmade := (fs.makesOnly_makeAll parent.ancestors).mono fun q hq =>
        Path.above_of_mem_ancestors hp hq
      unfold ensureDirectory makeDirectories
      split
      next h =>
        rwa [h] at hmade
      next h =>
        rwa [h] at hmade

/-- Once the parent of a path is there, nothing is left to make, also when entries are added. -/
theorem ensureParent_of_keeps {changed : Location → Prop}
    (h : ensureParent fs path = (.ok (), fs')) {fs'' : FileSystem}
    (hkeeps : Keeps changed fs' fs'') : ensureParent fs'' path = (.ok (), fs'') := by
  unfold ensureParent at h ⊢
  cases hp : path.parent? with
  | none => rfl
  | some parent =>
      simp only [hp] at h ⊢
      split
      next => rfl
      next hne =>
        rw [if_neg hne] at h
        unfold ensureDirectory makeDirectories at h ⊢
        cases hps : parent.ancestors with
        | nil => rfl
        | cons p ps =>
            rw [hps] at h
            split at h
            next hmade =>
              cases h
              rw [makeAll_of_isDirectory (hkeeps.isDirectory (isDirectory_of_makeAll hmade))]
            next => cases h

/-- What a file holds once the value has been written to it. -/
def Json.fileContents (j : Json) : Bytes := Bytes.ofString (j.text ++ "\n")

theorem Json.text_ne_nil (j : Json) : Bytes.ofString j.text ≠ [] := by
  intro h
  obtain ⟨c, cs, hcs, -⟩ := exists_write_eq_cons 0 j
  have htext : j.text = "" := Bytes.ofString_injective (h.trans rfl)
  rw [text, hcs] at htext
  exact absurd (congrArg String.toList htext) (by simp)

theorem contentsAt_put_self (fs : FileSystem) {l : Location} (hl : l ≠ []) (c : Bytes) :
    (fs.put l (.file c)).contentsAt l = c := by
  rw [contentsAt, fs.node?_put_self hl]

theorem write_put_file (fs : FileSystem) {l : Location} (hl : l ≠ []) (c bytes : Bytes) :
    (fs.put l (.file c)).write (.file l) bytes =
      (.ok (.file l), fs.put l (.file (c ++ bytes))) := by
  unfold write
  split
  next h => rw [h, List.append_nil]
  next => simp only [contentsAt_put_self fs hl, put_put]

/-- Both parts of the text reach a file. -/
theorem writeJson_of_opens_file {fs₁ : FileSystem} (hp : ensureParent fs path = (.ok (), fs₁))
    {l : Location} (hopens : Opens fs₁ path (.file l)) (j : Json) :
    writeJson fs path (some j) = (.ok (), fs₁.put l (.file j.fileContents)) := by
  have hroot : l ≠ [] := (hopens.put []).2.2
  simp only [writeJson, hp, create_eq_ok_iff.mpr ⟨hopens, rfl⟩, emptied, write_put_file fs₁ hroot,
    List.nil_append, Json.fileContents, Bytes.ofString_append]

/-- A device may refuse the text, or take it and refuse the line feed. -/
def deviceOutcome (path : Path) : Option Nat → Except JsonFileError Unit
  | some 0 => .error (.contents path .noSpace)
  | some 1 => .error (.ending path .noSpace)
  | _ => .ok ()

theorem writeJson_of_opens_device {fs₁ : FileSystem} (hp : ensureParent fs path = (.ok (), fs₁))
    {writes? : Option Nat} (hopens : Opens fs₁ path (.device writes?)) (j : Json) :
    writeJson fs path (some j) = (deviceOutcome path writes?, fs₁) := by
  have hend : Bytes.ofString "\n" ≠ [] := by decide
  have hcreate : fs₁.create path = (.ok (.device writes?), fs₁) :=
    create_eq_ok_iff.mpr ⟨hopens, rfl⟩
  rcases writes? with _ | _ | _ | n <;>
    simp [writeJson, hp, hcreate, write, j.text_ne_nil, hend, deviceOutcome]

/-- A device may end before it has taken so many writes. -/
def TakesWrites (writes? : Option Nat) (n : Nat) : Prop := ∀ m, writes? = some m → n ≤ m

theorem writeJson_eq_ok_iff {j : Json} :
    writeJson fs path (some j) = (.ok (), fs') ↔
      ∃ fs₁, ensureParent fs path = (.ok (), fs₁) ∧
        ((∃ l, Opens fs₁ path (.file l) ∧ fs' = fs₁.put l (.file j.fileContents)) ∨
          ∃ writes?, Opens fs₁ path (.device writes?) ∧ TakesWrites writes? 2 ∧ fs' = fs₁) := by
  rcases hp : ensureParent fs path with ⟨e | _, fs₁⟩
  · simp [writeJson, hp]
  · simp only [Prod.mk.injEq, true_and, exists_eq_left']
    rcases hc : fs₁.create path with ⟨e | out, fs₂⟩
    · have hnone : ∀ out, ¬ Opens fs₁ path out := fun out hopens => by
        cases hc.symm.trans (create_eq_ok_iff.mpr ⟨hopens, rfl⟩)
      simp [writeJson, hp, hc, hnone]
    · obtain ⟨hopens, rfl⟩ := create_eq_ok_iff.mp hc
      have hout : ∀ out', Opens fs₁ path out' ↔ out = out' :=
        fun out' => ⟨hopens.unique, fun h => h ▸ hopens⟩
      simp only [hout]
      rcases out with l | writes?
      · simp [writeJson_of_opens_file hp hopens, eq_comm]
      · rw [writeJson_of_opens_device hp hopens]
        rcases writes? with _ | _ | _ | n <;> simp [deviceOutcome, TakesWrites, eq_comm]

theorem regular?_eq_some_iff {p : Path} {c : Bytes} :
    fs.regular? p = some c ↔ ∃ l, fs.locate p = .ok l ∧ fs.node? l = some (.file c) := by
  unfold regular?
  cases fs.locate p with
  | error cause => simp
  | ok l => rcases hn : fs.node? l with _ | _ | _ | _ | _ <;> simp [hn]

/-- The path leads to a device that takes both parts of the text, and holds neither. -/
def FileSystem.LeadsToDevice (fs : FileSystem) (path : Path) : Prop :=
  ∃ l d, fs.locate path = .ok l ∧ fs.node? l = some (.device d) ∧ TakesWrites d.writes? 2

/-- What has been written is what the file holds, unless the path leads to a device. -/
theorem holds_of_writeJson {j : Json} (h : writeJson fs path (some j) = (.ok (), fs')) :
    fs'.regular? path = some j.fileContents ∨ fs'.LeadsToDevice path := by
  obtain ⟨fs₁, _, ⟨l, hopens, rfl⟩ | ⟨writes?, hopens, htakes, rfl⟩⟩ := writeJson_eq_ok_iff.mp h
  · obtain ⟨_, hlocate, hroot⟩ := hopens.put j.fileContents
    exact .inl (regular?_eq_some_iff.mpr ⟨l, hlocate, fs₁.node?_put_self hroot _⟩)
  · cases hopens with
    | @device l d hr hn => exact .inr ⟨l, d, locate_of_resolve hr, hn, htakes⟩

/-- Which value is written decides no more than what the file holds. -/
theorem writeJson_cases (fs : FileSystem) (path : Path) :
    (∃ result, ∀ j, writeJson fs path (some j) = (result, (ensureParent fs path).2)) ∨
      ∃ l, Opens (ensureParent fs path).2 path (.file l) ∧ ∀ j,
        writeJson fs path (some j) =
          (.ok (), (ensureParent fs path).2.put l (.file j.fileContents)) := by
  rcases hp : ensureParent fs path with ⟨e | _, fs₁⟩
  · exact .inl ⟨.error e, fun _ => by simp only [writeJson, hp]⟩
  · rcases hc : fs₁.create path with ⟨cause | out, fs₂⟩
    · obtain rfl := create_error hc
      exact .inl ⟨_, fun _ => by simp only [writeJson, hp, hc]; rfl⟩
    · obtain ⟨hopens, rfl⟩ := create_eq_ok_iff.mp hc
      rcases out with l | writes?
      · exact .inr ⟨l, hopens, fun j => writeJson_of_opens_file hp hopens j⟩
      · exact .inl ⟨_, fun j => writeJson_of_opens_device hp hopens j⟩

/-- If a value is not written to a file, no more than the directories above it is made. -/
theorem writeJson_fileSystem (fs : FileSystem) (path : Path) (value : Option Json) :
    (writeJson fs path value).2 = (ensureParent fs path).2 ∨
      ∃ l c, Opens (ensureParent fs path).2 path (.file l) ∧
        (writeJson fs path value).2 = (ensureParent fs path).2.put l (.file c) := by
  cases value with
  | none =>
      unfold writeJson
      rcases ensureParent fs path with ⟨e | _, fs₁⟩
      · exact .inl rfl
      · exact .inl rfl
  | some j =>
      rcases writeJson_cases fs path with ⟨result, hresult⟩ | ⟨l, hopens, hput⟩
      · exact .inl (by rw [hresult])
      · exact .inr ⟨l, j.fileContents, hopens, by rw [hput]⟩

/-- Nothing is removed. Only the file that the path leads to may be new or have other contents, and
only directories above the path may be new beside it. -/
structure WritesOnly (path : Path) (fs fs' : FileSystem) : Prop where
  keeps : Keeps (fun l => fs'.locate path = .ok l) fs fs'
  made : ∀ l n, fs.node? l = none → fs'.node? l = some n →
    (n = .directory ∧ ∃ q, Path.Above q path ∧ fs'.locate q = .ok l) ∨
      (∃ c, n = .file c) ∧ fs'.locate path = .ok l

theorem FileSystem.MakesOnly.writesOnly (h : MakesOnly (Path.Above · path) fs fs') :
    WritesOnly path fs fs' :=
  ⟨h.within.mono fun _ hfalse => hfalse.elim, fun l n hnone hsome => .inl (h.made l n hnone hsome)⟩

theorem writesOnly_writeJson (fs : FileSystem) (path : Path) (value : Option Json) :
    WritesOnly path fs (writeJson fs path value).2 := by
  have hmade := makesOnly_ensureParent fs path
  generalize hfs₁ : (ensureParent fs path).2 = fs₁ at hmade
  rcases writeJson_fileSystem fs path value with h | ⟨l, c, hopens, h⟩
  · rw [h, hfs₁]
    exact hmade.writesOnly
  · rw [h]
    rw [hfs₁] at hopens ⊢
    obtain ⟨hkeeps, hlocate, hroot⟩ := hopens.put c
    refine ⟨?_, fun k n hnone hsome => ?_⟩
    · have hpath : ∀ k, k = l → (fs₁.put l (.file c)).locate path = .ok k :=
        fun k hk => hk ▸ hlocate
      exact (hmade.within.mono fun _ hfalse => hfalse.elim).trans (hkeeps.mono hpath)
    · rw [node?_put hroot] at hsome
      split at hsome
      next hk => exact .inr ⟨⟨c, (Option.some.inj hsome).symm⟩, hk ▸ hlocate⟩
      next =>
        obtain ⟨hn, q, hq, hl⟩ := hmade.made k n hnone hsome
        exact .inl ⟨hn, q, hq, hkeeps.locate hl⟩

end FeatureGates
