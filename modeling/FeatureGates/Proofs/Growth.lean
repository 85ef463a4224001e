import FeatureGates.Proofs.FileSystem
import FeatureGates.Proofs.Walk

namespace FeatureGates

/-!
# File systems that grow

A path that leads to something leads there still when entries have been added and files have got
other contents: no walk that succeeds asks for what is missing or looks into a file.
-/

namespace FileSystem

/-- Every entry of the first file system stands in the second, but a file may have other contents
at the locations where that is allowed. -/
structure Keeps (changed : Location → Prop) (fs fs' : FileSystem) : Prop where
  entry : ∀ l n, fs.node? l = some n →
    fs'.node? l = some n ∨ changed l ∧ ∃ c c', n = .file c ∧ fs'.node? l = some (.file c')
  workingDirectory : fs.workingDirectory = fs'.workingDirectory
  /-- A directory that can be read to its end still can. -/
  uninterrupted : ∀ l, fs.node? l = some .directory → fs.interruption? l = none →
    fs'.interruption? l = none

/-- Every entry of the first file system stands in the second, unchanged. -/
def Within (fs fs' : FileSystem) : Prop := Keeps (fun _ => False) fs fs'

namespace Keeps

variable {changed : Location → Prop} {fs fs' fs'' : FileSystem}

theorem refl (fs : FileSystem) : Keeps changed fs fs :=
  ⟨fun _ _ h => .inl h, rfl, fun _ _ h => h⟩

theorem directory (h : Keeps changed fs fs') {l : Location}
    (hn : fs.node? l = some .directory) : fs'.node? l = some .directory := by
  rcases h.entry l _ hn with hn' | ⟨_, _, _, hfile, _⟩
  · exact hn'
  · cases hfile

theorem trans (h : Keeps changed fs fs') (h' : Keeps changed fs' fs'') :
    Keeps changed fs fs'' where
  entry l n hn := by
    rcases h.entry l n hn with hn' | ⟨hl, c, c', rfl, hn'⟩
    · exact h'.entry l n hn'
    · rcases h'.entry l _ hn' with hn'' | ⟨_, _, c'', _, hn''⟩
      · exact .inr ⟨hl, c, c', rfl, hn''⟩
      · exact .inr ⟨hl, c, c'', rfl, hn''⟩
  workingDirectory := h.workingDirectory.trans h'.workingDirectory
  uninterrupted l hn hi := h'.uninterrupted l (h.directory hn) (h.uninterrupted l hn hi)

theorem mono {changed' : Location → Prop} (h : Keeps changed fs fs')
    (hc : ∀ l, changed l → changed' l) : Keeps changed' fs fs' where
  entry l n hn := (h.entry l n hn).imp_right fun ⟨hl, hn'⟩ => ⟨hc l hl, hn'⟩
  workingDirectory := h.workingDirectory
  uninterrupted := h.uninterrupted

theorem link (h : Keeps changed fs fs') {l : Location} {target : Path}
    (hn : fs.node? l = some (.link target)) : fs'.node? l = some (.link target) := by
  rcases h.entry l _ hn with hn' | ⟨_, _, _, hfile, _⟩
  · exact hn'
  · cases hfile

theorem no_link (h : Keeps changed fs fs') {l : Location} {n : Node} (hn : fs.node? l = some n)
    (hlink : ∀ target, n ≠ .link target) :
    ∃ n', fs'.node? l = some n' ∧ ∀ target, n' ≠ .link target := by
  rcases h.entry l n hn with hn' | ⟨_, _, c', _, hn'⟩
  · exact ⟨n, hn', hlink⟩
  · exact ⟨.file c', hn', nofun⟩

theorem isDirectoryAt (h : Keeps changed fs fs') {l : Location}
    (hd : fs.isDirectoryAt l = true) : fs'.isDirectoryAt l = true := by
  simp only [FileSystem.isDirectoryAt, beq_iff_eq] at hd ⊢
  exact h.directory hd

theorem origin (h : Keeps changed fs fs') (p : Path) : fs.origin p = fs'.origin p := by
  simp only [FileSystem.origin, h.workingDirectory]

end Keeps

theorem isDirectoryAt_iff {fs : FileSystem} {l : Location} :
    fs.isDirectoryAt l = true ↔ fs.node? l = some .directory := by
  simp only [isDirectoryAt, beq_iff_eq]

/-- Where a walk ends, whether or not something is there. -/
def Place.location : Place → Location
  | present l => l
  | absent l name => l ++ [name]

/-- A place that was missed has something now, which is no link. -/
def Place.FilledIn (fs : FileSystem) : Place → Prop
  | present _ => True
  | absent l name => ∃ n, fs.node? (l ++ [name]) = some n ∧ ∀ target, n ≠ .link target

section Grown

variable {changed : Location → Prop} {fs fs' : FileSystem}

theorem Leads.of_keeps (h : Keeps changed fs fs') {purpose purpose' : Purpose}
    (hp : purpose' = .make → purpose = .make) {n m : Nat} {l : Location} {steps : List Step}
    {place : Place} (hl : Leads fs purpose n l steps place m) (hfilled : place.FilledIn fs') :
    Leads fs' purpose' n l steps (.present place.location) m := by
  have henter : ∀ {name : Name} {rest : List Step}, Enterable purpose name rest →
      Enterable purpose' name rest :=
    fun ⟨huse, hshort⟩ => ⟨fun hmake => huse ⟨hp hmake.1, hmake.2⟩, hshort⟩
  induction hl with
  | arrive n l => exact .arrive n l
  | stay hd hs _ ih => exact .stay (h.isDirectoryAt hd) hs (ih hfilled)
  | up hd _ ih => exact .up (h.isDirectoryAt hd) (ih hfilled)
  | miss hd hname hnode =>
      obtain ⟨node, hnode', hlink⟩ := hfilled
      exact .enter (h.isDirectoryAt hd) (henter hname) hnode' hlink (.arrive _ _)
  | enter hd hname hnode hlink _ ih =>
      obtain ⟨node', hnode', hlink'⟩ := h.no_link hnode hlink
      exact .enter (h.isDirectoryAt hd) (henter hname) hnode' hlink' (ih hfilled)
  | follow hd hname hnode _ ih =>
      exact .follow (h.isDirectoryAt hd) (henter hname) (h.link hnode) (ih hfilled)

theorem Keeps.resolve (h : Keeps changed fs fs') {p : Path} {purpose : Purpose} {place : Place}
    (hp : fs.resolve p purpose = .ok place) (hfilled : place.FilledIn fs') (purpose' : Purpose)
    (hpurpose : purpose' = .make → purpose = .make) :
    fs'.resolve p purpose' = .ok (.present place.location) := by
  obtain ⟨hc, m, hl⟩ := resolve_eq_ok_iff.mp hp
  rw [h.origin] at hl
  exact resolve_eq_ok_iff.mpr ⟨hc, m, hl.of_keeps h hpurpose hfilled⟩

theorem Keeps.locate (h : Keeps changed fs fs') {p : Path} {l : Location}
    (hl : fs.locate p = .ok l) : fs'.locate p = .ok l :=
  locate_eq_ok_iff.mpr (h.resolve (locate_eq_ok_iff.mp hl) trivial .use nofun)

theorem read_eq_ok_iff {p : Path} {b : Bytes} :
    fs.read p = .ok b ↔ ∃ l, fs.locate p = .ok l ∧
      (fs.node? l = some (.file b) ∨ ∃ writes?, fs.node? l = some (.device ⟨some b, writes?⟩)) := by
  unfold read
  cases fs.locate p with
  | error cause => simp [bind, Except.bind]
  | ok l =>
      simp only [bind, Except.bind, Except.ok.injEq, exists_eq_left']
      rcases fs.node? l with _ | _ | _ | _ | ⟨_ | _, _⟩ <;>
        simp [pure, Except.pure, throw, throwThe, MonadExceptOf.throw]

namespace Within

theorem refl (fs : FileSystem) : fs.Within fs := Keeps.refl fs

theorem node? (h : fs.Within fs') {l : Location} {n : Node} (hn : fs.node? l = some n) :
    fs'.node? l = some n :=
  (Keeps.entry h l n hn).resolve_right fun hfalse => hfalse.1

theorem read (h : fs.Within fs') {p : Path} {b : Bytes} (hr : fs.read p = .ok b) :
    fs'.read p = .ok b := by
  obtain ⟨l, hl, hn⟩ := read_eq_ok_iff.mp hr
  exact read_eq_ok_iff.mpr
    ⟨l, Keeps.locate h hl, hn.imp h.node? fun ⟨writes?, hn⟩ => ⟨writes?, h.node? hn⟩⟩

end Within

end Grown

theorem locate_of_resolve {fs : FileSystem} {p : Path} {purpose : Purpose} {l : Location}
    (h : fs.resolve p purpose = .ok (.present l)) : fs.locate p = .ok l :=
  locate_eq_ok_iff.mpr (Keeps.resolve (Within.refl fs) h trivial .use nofun)

theorem ne_nil_of_node?_eq_none {fs : FileSystem} {l : Location} (h : fs.node? l = none) :
    l ≠ [] := by
  rintro rfl
  cases h

theorem keeps_put {changed : Location → Prop} {fs : FileSystem} {l : Location} (n : Node)
    (hl : fs.node? l = none) : Keeps changed fs (fs.put l n) where
  entry k m hm := by
    have hne : k ≠ l := by
      rintro rfl
      rw [hl] at hm
      cases hm
    exact .inl (by rw [node?_put (ne_nil_of_node?_eq_none hl), if_neg hne, hm])
  workingDirectory := rfl
  uninterrupted _ _ hi := hi

/-! ## Entries of a directory -/

theorem find?_eq_some_iff {l : Location} {n : Node} {es : List (Location × Node)}
    (h : (es.map Prod.fst).Nodup) : find? l es = some n ↔ (l, n) ∈ es := by
  rw [find?_eq_find?, Ordered.find?_eq_some_iff h]

theorem mem_children_iff {fs : FileSystem} {l : Location} {name : Name} {n : Node} :
    (name, n) ∈ fs.children l ↔ fs.node? (l ++ [name]) = some n := by
  have hroot : l ++ [name] ≠ [] := by simp
  rw [FileSystem.node?, if_neg hroot, find?_eq_some_iff fs.distinct]
  simp only [children, List.mem_filterMap, Option.map_eq_some_iff, childName?_eq_some_iff,
    Prod.mk.injEq]
  constructor
  · rintro ⟨⟨k, _⟩, hmem, _, rfl, rfl, rfl⟩
    exact hmem
  · intro hmem
    exact ⟨_, hmem, name, rfl, rfl, rfl⟩

end FileSystem

end FeatureGates
