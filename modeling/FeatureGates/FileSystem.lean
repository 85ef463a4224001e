import FeatureGates.FileSystem.Error
import FeatureGates.FileSystem.Path

namespace FeatureGates

/-!
# The file system

A file system says what stands at each location, in the order in which directories are listed. Links
are followed while a path is walked, at most forty of them.
-/

/-- What a device gives to each reader and how many writes it takes of each writer. Either may have
no end. -/
structure Device where
  contents? : Option Bytes
  writes? : Option Nat
deriving DecidableEq

namespace Device

def null : Device := ⟨some [], none⟩

def full : Device := ⟨none, some 0⟩

end Device

inductive Node
  | directory
  | file (contents : Bytes)
  | link (target : Path)
  | device (d : Device)
deriving DecidableEq

/-- The names from the root down to an entry. -/
abbrev Location := List Name

/-- An entry as it is read from its directory. -/
structure DirectoryEntry where
  name : Name
  node : Except FileError Node

/-- What an open directory gives, one entry after another. -/
abbrev Reading := List (Except FileError DirectoryEntry)

/-- Where reading an open directory ends early: behind so many entries, at one that is not given, or
at one that is given by its name only. -/
structure Interruption where
  after : Nat
  name? : Option Name
  cause : FileError

def Interruption.entry (i : Interruption) : Except FileError DirectoryEntry :=
  match i.name? with
  | none => .error i.cause
  | some name => .ok ⟨name, .error i.cause⟩

structure FileSystem where
  entries : List (Location × Node)
  distinct : (entries.map Prod.fst).Nodup
  /-- Where relative paths start. -/
  workingDirectory : Location
  interruption? : Location → Option Interruption := fun _ => none

namespace FileSystem

def find? (l : Location) : List (Location × Node) → Option Node
  | [] => none
  | e :: es => if l = e.1 then some e.2 else find? l es

/-- What stands at a location; the root is a directory. -/
def node? (fs : FileSystem) (l : Location) : Option Node :=
  if l = [] then some .directory else find? l fs.entries

def isDirectoryAt (fs : FileSystem) (l : Location) : Bool := fs.node? l == some .directory

/-! ## Changing one entry -/

def putEntry (l : Location) (n : Node) : List (Location × Node) → List (Location × Node)
  | [] => [(l, n)]
  | e :: es => if l = e.1 then (l, n) :: es else e :: putEntry l n es

theorem mem_keys_putEntry {l k : Location} {n : Node} {es : List (Location × Node)} :
    k ∈ (putEntry l n es).map Prod.fst ↔ k = l ∨ k ∈ es.map Prod.fst := by
  induction es with
  | nil => simp [putEntry]
  | cons e es ih =>
      unfold putEntry
      split
      next h => simp [h]
      next => simp only [List.map_cons, List.mem_cons, ih]; grind

theorem nodup_putEntry {l : Location} {n : Node} {es : List (Location × Node)}
    (h : (es.map Prod.fst).Nodup) : ((putEntry l n es).map Prod.fst).Nodup := by
  induction es with
  | nil => simp [putEntry]
  | cons e es ih =>
      rw [List.map_cons, List.nodup_cons] at h
      unfold putEntry
      split
      next he => simpa [he] using h
      next he =>
        rw [List.map_cons, List.nodup_cons, mem_keys_putEntry]
        exact ⟨fun hk => hk.elim (Ne.symm he) h.1, ih h.2⟩

def put (fs : FileSystem) (l : Location) (n : Node) : FileSystem :=
  { fs with entries := putEntry l n fs.entries, distinct := nodup_putEntry fs.distinct }

theorem find?_putEntry (l k : Location) (n : Node) (es : List (Location × Node)) :
    find? k (putEntry l n es) = if k = l then some n else find? k es := by
  induction es with
  | nil => simp [putEntry, find?]
  | cons e es ih =>
      unfold putEntry
      split
      next h => by_cases hk : k = l <;> simp [find?, ← h, hk]
      next h =>
        by_cases hk : k = e.1
        · simp [find?, hk, Ne.symm h]
        · simp [find?, hk, ih]

theorem node?_put {l : Location} (hl : l ≠ []) (fs : FileSystem) (n : Node) (k : Location) :
    (fs.put l n).node? k = if k = l then some n else fs.node? k := by
  by_cases hk : k = [] <;> simp [node?, put, find?_putEntry, hk, hl.symm]

/-- Nothing at the locations that a test picks. -/
def discard (fs : FileSystem) (picked : Location → Bool) : FileSystem :=
  { fs with
    entries := fs.entries.filter fun e => !picked e.1
    distinct := fs.distinct.sublist (List.filter_sublist.map _) }

/-! ## Entries of a directory -/

/-- The name of a location directly below another. -/
def childName? : Location → Location → Option Name
  | [], [name] => some name
  | a :: l, b :: k => if a = b then childName? l k else none
  | _, _ => none

theorem childName?_eq_some_iff {l k : Location} {name : Name} :
    childName? l k = some name ↔ k = l ++ [name] := by
  induction l generalizing k with
  | nil =>
      match k with
      | [] => simp [childName?]
      | [b] => simp [childName?]
      | b :: c :: k => simp [childName?]
  | cons a l ih =>
      match k with
      | [] => simp [childName?]
      | b :: k =>
        by_cases h : a = b
        · simp [childName?, h, ih]
        · simp [childName?, h, Ne.symm h]

def children (fs : FileSystem) (l : Location) : List (Name × Node) :=
  fs.entries.filterMap fun e => (childName? l e.1).map fun name => (name, e.2)

def reading (fs : FileSystem) (l : Location) : Reading :=
  let entries := (fs.children l).map fun e => .ok ⟨e.1, .ok e.2⟩
  match fs.interruption? l with
  | none => entries
  | some i => entries.take i.after ++ [i.entry]

/-! ## Walking a path -/

/-- Where a walk ends: at something, or at a name that its directory does not have. -/
inductive Place
  | present (l : Location)
  | absent (directory : Location) (name : Name)

def maxNameLength : Nat := 255

def maxPathLength : Nat := 4095

def maxLinks : Nat := 40

/-- Whether a walk is to make what it leads to, which a slash at the end forbids. -/
inductive Purpose
  | use
  | make
deriving DecidableEq

/-- Takes steps from a location; what a link leads to is left to `follow`. -/
def walkVia (fs : FileSystem) (purpose : Purpose)
    (follow : Location → List Step → Except FileError (Place × Nat)) (linksLeft : Nat)
    (l : Location) : List Step → Except FileError (Place × Nat)
  | [] => .ok (.present l, linksLeft)
  | s :: rest =>
    if !fs.isDirectoryAt l then .error .notDirectory
    else
      match s with
      | .here => walkVia fs purpose follow linksLeft l rest
      | .directory => walkVia fs purpose follow linksLeft l rest
      | .up => walkVia fs purpose follow linksLeft l.dropLast rest
      | .into name =>
        if purpose = .make ∧ rest = [.directory] then .error .isDirectory
        else if maxNameLength < name.bytes.length then .error .nameTooLong
        else
          match fs.node? (l ++ [name]) with
          | none => if rest = [] then .ok (.absent l name, linksLeft) else .error .notFound
          | some (.link target) =>
            follow (if target.isAbsolute then [] else l) (target.steps ++ rest)
          | some _ => walkVia fs purpose follow linksLeft (l ++ [name]) rest

/-- Takes steps from a location through as many links as are left. -/
def walk (fs : FileSystem) (purpose : Purpose) :
    Nat → Location → List Step → Except FileError (Place × Nat)
  | 0, l, steps => fs.walkVia purpose (fun _ _ => .error .tooManyLinks) 0 l steps
  | n + 1, l, steps => fs.walkVia purpose (walk fs purpose n) (n + 1) l steps

/-- A path that can be walked at all. -/
def checked (p : Path) : Except FileError Path :=
  if 0 ∈ p then .error .zeroByte
  else if p = [] then .error .notFound
  else if maxPathLength < p.length then .error .nameTooLong
  else .ok p

def origin (fs : FileSystem) (p : Path) : Location :=
  if p.isAbsolute then [] else fs.workingDirectory

def resolve (fs : FileSystem) (p : Path) (purpose : Purpose) : Except FileError Place := do
  let p ← checked p
  let (place, _) ← fs.walk purpose maxLinks (fs.origin p) p.steps
  return place

def locate (fs : FileSystem) (p : Path) : Except FileError Location := do
  match ← fs.resolve p .use with
  | .present l => return l
  | .absent _ _ => throw .notFound

/-- The directory that a path enters last, and the name there; no name if the path ends with a step
that is none. A link of that name is not followed. -/
def entryOf (fs : FileSystem) (p : Path) : Except FileError (Location × Option Name) := do
  let p ← checked p
  let steps := p.steps.filter (· ≠ .directory)
  let (place, _) ← fs.walk .use maxLinks (fs.origin p) (steps.dropLast)
  match place with
  | .absent _ _ => throw .notFound
  | .present l =>
    if !fs.isDirectoryAt l then throw .notDirectory
    match steps.getLast? with
    | some (.into name) => return (l, some name)
    | _ => return (l, none)

def lookUp (fs : FileSystem) (l : Location) (name : Name) : Except FileError (Option Node) :=
  if maxNameLength < name.bytes.length then .error .nameTooLong else .ok (fs.node? (l ++ [name]))

/-! ## Reading -/

def isDirectory (fs : FileSystem) (p : Path) : Bool :=
  match fs.locate p with
  | .ok l => fs.isDirectoryAt l
  | .error _ => false

/-- A directory can be opened although reading it will end early. -/
def openDirectory (fs : FileSystem) (p : Path) : Except FileError Reading := do
  let l ← fs.locate p
  if fs.isDirectoryAt l then return fs.reading l else throw .notDirectory

/-- Reads to the end; what has none is read until the memory is used up. -/
def read (fs : FileSystem) (p : Path) : Except FileError Bytes := do
  match fs.node? (← fs.locate p) with
  | some (.file contents) => return contents
  | some .directory => throw .isDirectory
  | some (.device ⟨some contents, _⟩) => return contents
  | some (.device ⟨none, _⟩) => throw .outOfMemory
  | _ => throw .notFound

/-- What the file at a location holds. -/
def contentsAt (fs : FileSystem) (l : Location) : Bytes :=
  match fs.node? l with
  | some (.file contents) => contents
  | _ => []

def regular? (fs : FileSystem) (p : Path) : Option Bytes :=
  match fs.locate p with
  | .ok l =>
    match fs.node? l with
    | some (.file contents) => some contents
    | _ => none
  | .error _ => none

/-! ## Writing -/

/-- The outcome of an operation, with the file system that it leaves even when it fails. -/
abbrev Result (α : Type) := Except FileError α × FileSystem

def makeDirectory (fs : FileSystem) (p : Path) : Result Unit :=
  match fs.entryOf p with
  | .error e => (.error e, fs)
  | .ok (_, none) => (.error .alreadyExists, fs)
  | .ok (l, some name) =>
    match fs.lookUp l name with
    | .error e => (.error e, fs)
    | .ok (some _) => (.error .alreadyExists, fs)
    | .ok none => (.ok (), fs.put (l ++ [name]) .directory)

/-- Makes the first directory of a list after those behind it, where they are missing. -/
def makeAll (fs : FileSystem) : List Path → Result Unit
  | [] => (.ok (), fs)
  | p :: ps =>
    match fs.makeDirectory p with
    | (.ok _, fs) => (.ok (), fs)
    | (.error .notFound, fs) =>
      match fs.makeAll ps with
      | (.error e, fs) => (.error e, fs)
      | (.ok _, fs) =>
        match fs.makeDirectory p with
        | (.ok _, fs) => (.ok (), fs)
        | (.error e, fs) => if fs.isDirectory p then (.ok (), fs) else (.error e, fs)
    | (.error e, fs) => if fs.isDirectory p then (.ok (), fs) else (.error e, fs)

def makeDirectories (fs : FileSystem) (p : Path) : Result Unit := fs.makeAll p.ancestors

/-- What takes the bytes that are written: a file, or a device with the writes it still takes. -/
inductive Output
  | file (l : Location)
  | device (writes? : Option Nat)

/-- Opens a file to be written from its start, empty, and makes it if it is missing. -/
def create (fs : FileSystem) (p : Path) : Result Output :=
  match fs.resolve p .make with
  | .error e => (.error e, fs)
  | .ok (.absent l name) => (.ok (.file (l ++ [name])), fs.put (l ++ [name]) (.file []))
  | .ok (.present l) =>
    match fs.node? l with
    | some (.file _) => (.ok (.file l), fs.put l (.file []))
    | some (.device d) => (.ok (.device d.writes?), fs)
    | _ => (.error .isDirectory, fs)

/-- Writes behind what has been written. -/
def write (fs : FileSystem) (out : Output) (bytes : Bytes) : Result Output :=
  if bytes = [] then (.ok out, fs)
  else
    match out with
    | .file l => (.ok out, fs.put l (.file (fs.contentsAt l ++ bytes)))
    | .device none => (.ok out, fs)
    | .device (some 0) => (.error .noSpace, fs)
    | .device (some (n + 1)) => (.ok (.device (some n)), fs)

def makeLink (fs : FileSystem) (p target : Path) : Result Unit :=
  match checked target, fs.entryOf p with
  | _, .error .zeroByte => (.error .zeroByte, fs)
  | .error e, _ => (.error e, fs)
  | _, .error e => (.error e, fs)
  | _, .ok (_, none) => (.error .alreadyExists, fs)
  | .ok target, .ok (l, some name) =>
    match fs.lookUp l name with
    | .error e => (.error e, fs)
    | .ok (some _) => (.error .alreadyExists, fs)
    | .ok none =>
      if p.getLast? = some slash then (.error .notFound, fs)
      else (.ok (), fs.put (l ++ [name]) (.link target))

/-! ## Removing and renaming -/

/-- What a path leads to. A link at its end is an entry of its own, unless a slash follows. -/
def entryAt (fs : FileSystem) (p : Path) : Except FileError (Location × Node) := do
  let (l, name?) ← fs.entryOf p
  match name? with
  | some name =>
    if p.getLast? = some slash then return (← fs.locate p, .directory)
    match ← fs.lookUp l name with
    | some n => return (l ++ [name], n)
    | none => throw .notFound
  | none => return (← fs.locate p, .directory)

/-- Removes an empty directory, which the path must end with the name of. -/
def removeDirectory (fs : FileSystem) (p : Path) : Result Unit :=
  match fs.entryOf p with
  | .error e => (.error e, fs)
  | .ok (l, some name) =>
    match fs.lookUp l name with
    | .error e => (.error e, fs)
    | .ok none => (.error .notFound, fs)
    | .ok (some .directory) =>
      if (fs.children (l ++ [name])).isEmpty then (.ok (), fs.discard (· == l ++ [name]))
      else (.error .notEmpty, fs)
    | .ok (some _) => (.error .notDirectory, fs)
  | .ok (_, none) =>
    match (p.steps.filter (· ≠ .directory)).getLast? with
    | some .here => (.error .invalid, fs)
    | some .up => (.error .notEmpty, fs)
    | _ => (.error .busy, fs)

/-- Removes an entry; of a directory first all that is below it, even if the directory itself
cannot be removed. It may stay if its path leads nowhere then. -/
def remove (fs : FileSystem) (p : Path) : Result Unit :=
  match fs.entryAt p with
  | .error e => (.error e, fs)
  | .ok (l, .directory) =>
    match (fs.discard fun k => decide (l <+: k) && k != l).removeDirectory p with
    | (.error .notFound, fs) => (.ok (), fs)
    | r => r
  | .ok (l, _) => (.ok (), fs.discard (· == l))

def moved (source target k : Location) : Location :=
  if source <+: k then target ++ k.drop source.length else k

theorem moved_inj {source target k k' : Location} (hk : ¬ target <+: k) (hk' : ¬ target <+: k')
    (h : moved source target k = moved source target k') : k = k' := by
  unfold moved at h
  split at h <;> split at h
  next h₁ h₂ =>
    obtain ⟨r, rfl⟩ := h₁
    obtain ⟨r', rfl⟩ := h₂
    simpa using h
  next => exact absurd (h ▸ List.prefix_append _ _) hk'
  next => exact absurd (h.symm ▸ List.prefix_append _ _) hk
  next => exact h

/-- Puts what is at and below one location at another, in place of what was there. -/
def move (fs : FileSystem) (source target : Location) : FileSystem where
  entries := (fs.entries.filter fun e => !decide (target <+: e.1)).map fun e =>
    (moved source target e.1, e.2)
  workingDirectory := fs.workingDirectory
  interruption? := fs.interruption?
  distinct := by
    have h : ((fs.entries.filter fun e => !decide (target <+: e.1)).map Prod.fst).Nodup :=
      fs.distinct.sublist (List.filter_sublist.map _)
    rw [List.map_map, show Prod.fst ∘ (fun e : Location × Node => (moved source target e.1, e.2)) =
      moved source target ∘ Prod.fst from rfl, ← List.map_map]
    refine List.pairwise_map.mpr (List.Pairwise.imp_of_mem (fun {a b} ha hb hab he => hab ?_) h)
    simp only [List.mem_map, List.mem_filter, Bool.not_eq_true', decide_eq_false_iff_not] at ha hb
    obtain ⟨_, ⟨_, ha⟩, rfl⟩ := ha
    obtain ⟨_, ⟨_, hb⟩, rfl⟩ := hb
    exact moved_inj ha hb he

/-- Why one node may not take the place of another. -/
def replaceError? (fs : FileSystem) (target : Location) : Node → Node → Option FileError
  | .directory, .directory => if (fs.children target).isEmpty then none else some .notEmpty
  | .directory, _ => some .notDirectory
  | _, .directory => some .isDirectory
  | _, _ => none

def rename (fs : FileSystem) (source target : Path) : Result Unit :=
  match fs.entryOf source, fs.entryOf target with
  | _, .error .zeroByte => (.error .zeroByte, fs)
  | .error e, _ => (.error e, fs)
  | _, .error e => (.error e, fs)
  | .ok (l, some a), .ok (k, some b) =>
    let s := l ++ [a]
    let t := k ++ [b]
    match fs.lookUp l a, fs.lookUp k b with
    | .error e, _ => (.error e, fs)
    | .ok none, _ => (.error .notFound, fs)
    | _, .error e => (.error e, fs)
    | .ok (some n), .ok replaced =>
      let slashed := source.getLast? = some slash ∨ target.getLast? = some slash
      if n ≠ .directory ∧ slashed then (.error .notDirectory, fs)
      else if s = t then (.ok (), fs)
      else if s <+: t then (.error .invalid, fs)
      else if t <+: s then (.error .notEmpty, fs)
      else
        match replaced.bind (fs.replaceError? t n) with
        | some e => (.error e, fs)
        | none => (.ok (), fs.move s t)
  | _, _ => (.error .busy, fs)

end FileSystem

end FeatureGates
