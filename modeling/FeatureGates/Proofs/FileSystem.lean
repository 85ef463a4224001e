import FeatureGates.Inventory
import FeatureGates.Proofs.Ordered

namespace FeatureGates

/-!
# What a file system is looked up for

A walk asks what stands at a location and nothing else, so file systems with the same nodes lead
every path to the same place. Only the listing of a directory also shows an order.
-/

namespace Reading

/-- The entries that are read, or the first error. -/
def entries : Reading → Except FileError (List (Name × Node))
  | [] => return []
  | entry :: rest => do
    let entry ← entry
    let node ← entry.node
    return (entry.name, node) :: (← entries rest)

theorem entries_map (es : List (Name × Node)) :
    entries (es.map fun e => .ok ⟨e.1, .ok e.2⟩) = .ok es := by
  induction es with
  | nil => rfl
  | cons e es ih => simp only [List.map_cons, entries, ih]; rfl

theorem entries_of_interrupted (es : List (Name × Node)) (i : Interruption) :
    entries ((es.map fun e => .ok ⟨e.1, .ok e.2⟩).take i.after ++ [i.entry]) = .error i.cause := by
  rw [← List.map_take]
  induction es.take i.after with
  | nil => cases h : i.name? <;> simp only [List.map_nil, List.nil_append, entries,
      Interruption.entry, h] <;> rfl
  | cons e es ih => simp only [List.map_cons, List.cons_append, entries, ih]; rfl

/-- The loop over the files stops where reading all entries does. -/
theorem fileNames_eq (reading : Reading) :
    reading.fileNames = reading.entries.map fun entries =>
      (entries.filter fun e => e.2 ≠ .directory).map Prod.fst := by
  induction reading with
  | nil => rfl
  | cons entry rest ih =>
      rcases entry with cause | ⟨name, cause | node⟩
      · rfl
      · rfl
      · simp only [fileNames, entries, bind, Except.bind, ih]
        by_cases hnode : node = .directory <;> cases entries rest <;>
          simp [Except.map, hnode, pure, Except.pure]

end Reading

namespace FileSystem

theorem find?_eq_find? (l : Location) (es : List (Location × Node)) :
    find? l es = Ordered.find? l es := by
  induction es with
  | nil => rfl
  | cons e es ih => rw [find?, Ordered.find?, ih]

theorem find?_eq_of_perm {es es' : List (Location × Node)} (h : (es.map Prod.fst).Nodup)
    (hp : es.Perm es') (l : Location) : find? l es = find? l es' := by
  have h' : (es'.map Prod.fst).Nodup := (hp.map Prod.fst).nodup_iff.mp h
  refine Option.ext fun n => ?_
  rw [find?_eq_find?, find?_eq_find?, Ordered.find?_eq_some_iff h, Ordered.find?_eq_some_iff h']
  exact hp.mem_iff

theorem nodup_children (fs : FileSystem) (l : Location) :
    ((fs.children l).map Prod.fst).Nodup := by
  have hnames : (fs.children l).map Prod.fst =
      (fs.entries.map Prod.fst).filterMap (childName? l) := by
    rw [children, List.map_filterMap, List.filterMap_map]
    congr 1
    funext e
    cases h : childName? l e.1 <;> simp [h]
  rw [hnames]
  refine fs.distinct.filterMap fun k k' name hk hk' => ?_
  rw [childName?_eq_some_iff.mp hk, childName?_eq_some_iff.mp hk']

/-! ## Reading a directory to its end -/

/-- The entries of a directory that can be opened and read to its end, in the order in which they
are listed. -/
def list (fs : FileSystem) (p : Path) : Except FileError (List (Name × Node)) :=
  fs.openDirectory p >>= Reading.entries

theorem openDirectory_of_locate {fs : FileSystem} {p : Path} {l : Location}
    (h : fs.locate p = .ok l) :
    fs.openDirectory p =
      if fs.isDirectoryAt l then .ok (fs.reading l) else .error .notDirectory := by
  simp only [openDirectory, h, bind, Except.bind, pure, Except.pure, throw, throwThe,
    MonadExceptOf.throw]

theorem openDirectory_of_not_locate {fs : FileSystem} {p : Path} {cause : FileError}
    (h : fs.locate p = .error cause) : fs.openDirectory p = .error cause := by
  simp only [openDirectory, h, bind, Except.bind]

theorem entries_reading (fs : FileSystem) (l : Location) :
    (fs.reading l).entries =
      (fs.interruption? l).elim (.ok (fs.children l)) fun i => .error i.cause := by
  unfold reading
  cases fs.interruption? l with
  | none => exact Reading.entries_map _
  | some i => exact Reading.entries_of_interrupted _ i

theorem list_of_locate {fs : FileSystem} {p : Path} {l : Location} (h : fs.locate p = .ok l) :
    fs.list p = if fs.isDirectoryAt l then
      (fs.interruption? l).elim (.ok (fs.children l)) fun i => .error i.cause
    else .error .notDirectory := by
  rw [list, openDirectory_of_locate h]
  split
  next => exact fs.entries_reading l
  next => rfl

theorem list_eq_ok_iff {fs : FileSystem} {p : Path} {entries : List (Name × Node)} :
    fs.list p = .ok entries ↔
      ∃ l, fs.locate p = .ok l ∧ fs.isDirectoryAt l = true ∧ fs.interruption? l = none ∧
        fs.children l = entries := by
  cases hl : fs.locate p with
  | error cause => simp [list, openDirectory_of_not_locate hl, bind, Except.bind]
  | ok l =>
      rw [list_of_locate hl]
      cases hd : fs.isDirectoryAt l <;> cases hi : fs.interruption? l <;> simp [hd, hi]

theorem exists_openDirectory_of_list {fs : FileSystem} {p : Path} {entries : List (Name × Node)}
    (h : fs.list p = .ok entries) : ∃ reading, fs.openDirectory p = .ok reading := by
  obtain ⟨l, hl, hd, _⟩ := list_eq_ok_iff.mp h
  exact ⟨fs.reading l, by rw [openDirectory_of_locate hl, if_pos hd]⟩

theorem nodup_list {fs : FileSystem} {p : Path} {entries : List (Name × Node)}
    (h : fs.list p = .ok entries) : (entries.map Prod.fst).Nodup := by
  obtain ⟨l, _, _, _, rfl⟩ := list_eq_ok_iff.mp h
  exact fs.nodup_children l

section SameNodes

variable {fs fs' : FileSystem} (hn : ∀ l, fs.node? l = fs'.node? l)

include hn in
theorem walkVia_congr (purpose : Purpose)
    (follow : Location → List Step → Except FileError (Place × Nat)) (linksLeft : Nat)
    (l : Location) (steps : List Step) :
    fs.walkVia purpose follow linksLeft l steps =
      fs'.walkVia purpose follow linksLeft l steps := by
  have hd : ∀ k, fs.isDirectoryAt k = fs'.isDirectoryAt k := fun k => by
    simp only [isDirectoryAt, hn]
  induction steps generalizing l with
  | nil => rfl
  | cons s rest ih => simp only [walkVia, hd, hn, ih]

include hn in
theorem walk_congr (purpose : Purpose) (links : Nat) :
    fs.walk purpose links = fs'.walk purpose links := by
  induction links with
  | zero =>
      funext l steps
      simp only [walk, walkVia_congr hn]
  | succ n ih =>
      funext l steps
      simp only [walk, ih, walkVia_congr hn]

variable (hw : fs.workingDirectory = fs'.workingDirectory)

include hn hw in
theorem resolve_congr (p : Path) (purpose : Purpose) :
    fs.resolve p purpose = fs'.resolve p purpose := by
  simp only [resolve, walk_congr hn, origin, hw]

include hn hw in
theorem locate_congr (p : Path) : fs.locate p = fs'.locate p := by
  simp only [locate, resolve_congr hn hw]

include hn hw in
theorem read_congr (p : Path) : fs.read p = fs'.read p := by
  simp only [read, locate_congr hn hw, hn]

end SameNodes

/-- The same entries, in whatever order they are listed. What ends the listing of a directory early
may come at another place. -/
structure Reordered (fs fs' : FileSystem) : Prop where
  entries : fs.entries.Perm fs'.entries
  workingDirectory : fs.workingDirectory = fs'.workingDirectory
  interruptions : ∀ l, (fs.interruption? l).map Interruption.cause =
    (fs'.interruption? l).map Interruption.cause

namespace Reordered

variable {fs fs' : FileSystem}

theorem node? (h : Reordered fs fs') (l : Location) : fs.node? l = fs'.node? l := by
  simp only [FileSystem.node?, find?_eq_of_perm fs.distinct h.entries]

theorem isDirectoryAt (h : Reordered fs fs') (l : Location) :
    fs.isDirectoryAt l = fs'.isDirectoryAt l := by
  simp only [FileSystem.isDirectoryAt, h.node?]

theorem locate (h : Reordered fs fs') (p : Path) : fs.locate p = fs'.locate p :=
  locate_congr h.node? h.workingDirectory p

theorem read (h : Reordered fs fs') (p : Path) : fs.read p = fs'.read p :=
  read_congr h.node? h.workingDirectory p

theorem children (h : Reordered fs fs') (l : Location) :
    (fs.children l).Perm (fs'.children l) :=
  h.entries.filterMap _

/-- Both listings have the same entries, or end early for the same cause. -/
theorem list (h : Reordered fs fs') (p : Path) :
    (∃ entries entries', fs.list p = .ok entries ∧ fs'.list p = .ok entries' ∧
      entries.Perm entries') ∨
    ∃ cause, fs.list p = .error cause ∧ fs'.list p = .error cause := by
  have hlocate := h.locate p
  cases hl : fs.locate p with
  | error cause =>
      refine .inr ⟨cause, ?_⟩
      rw [hl] at hlocate
      simp only [FileSystem.list, openDirectory_of_not_locate hl,
        openDirectory_of_not_locate hlocate.symm]
      exact ⟨rfl, rfl⟩
  | ok l =>
      rw [hl] at hlocate
      rw [list_of_locate hl, list_of_locate hlocate.symm, ← h.isDirectoryAt]
      have hcause := h.interruptions l
      cases fs.isDirectoryAt l with
      | false => exact .inr ⟨.notDirectory, rfl, rfl⟩
      | true =>
          cases hi : fs.interruption? l with
          | none =>
              rw [hi, eq_comm, Option.map_none, Option.map_eq_none_iff] at hcause
              exact .inl ⟨_, _, rfl, by rw [hcause]; rfl, h.children l⟩
          | some i =>
              rw [hi, eq_comm, Option.map_some, Option.map_eq_some_iff] at hcause
              obtain ⟨i', hi', heq⟩ := hcause
              exact .inr ⟨i.cause, rfl, by rw [hi', ← heq]; rfl⟩

end Reordered

end FileSystem

end FeatureGates
