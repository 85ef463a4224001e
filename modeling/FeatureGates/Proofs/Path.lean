import FeatureGates.Proofs.Growth

namespace FeatureGates

/-!
# Paths of the entries of a directory

A name joined to the path of a directory takes one step more than the path itself, so it leads to
the entry of that name.
-/

namespace Path

/-- The steps without the request for a directory. -/
def moves (p : Path) : List Step := (pieces p).filterMap step?

theorem steps_eq (p : Path) :
    p.steps = p.moves ++ if p.getLast? = some FeatureGates.slash then [.directory] else [] := rfl

theorem pieces_ne_nil (p : Path) : pieces p ≠ [] := by
  cases p with
  | nil => simp [pieces]
  | cons b bs =>
      unfold pieces
      split
      next => simp
      next => split <;> simp

theorem pieces_append_slash (a b : Bytes) :
    pieces (a ++ FeatureGates.slash :: b) = pieces a ++ pieces b := by
  induction a with
  | nil => simp [pieces]
  | cons c a ih =>
      by_cases hc : c = FeatureGates.slash
      · simp [pieces, hc, ih]
      · cases ha : pieces a with
        | nil => exact absurd ha (pieces_ne_nil a)
        | cons p ps => simp [pieces, hc, ih, ha]

theorem pieces_of_not_mem {b : Bytes} (h : FeatureGates.slash ∉ b) : pieces b = [b] := by
  induction b with
  | nil => rfl
  | cons c b ih =>
      rw [List.mem_cons, not_or] at h
      obtain ⟨hc, hb⟩ := h
      simp [pieces, Ne.symm hc, ih hb]

theorem step?_nil : step? [] = none := by decide

theorem moves_append_slash (a b : Bytes) :
    moves (a ++ FeatureGates.slash :: b) = moves a ++ moves b := by
  rw [moves, pieces_append_slash, List.filterMap_append, moves, moves]

theorem moves_name (name : Name) : moves name.bytes = [.into name] := by
  have hstep : step? name.bytes = some (.into name) := dif_pos name.isName
  rw [moves, pieces_of_not_mem name.isName.1, List.filterMap_cons_some hstep, List.filterMap_nil]

theorem moves_join (directory : Path) (name : Name) :
    (directory.join name).moves = directory.moves ++ [.into name] := by
  unfold join
  split
  next hlast =>
    rcases hlast with rfl | hlast
    · exact moves_name name
    · obtain ⟨d, rfl⟩ := List.getLast?_eq_some_iff.mp hlast
      rw [List.append_assoc, List.singleton_append, moves_append_slash, moves_append_slash,
        moves_name]
      simp [moves, pieces, step?_nil]
  next => rw [moves_append_slash, moves_name]

theorem steps_join (directory : Path) (name : Name) :
    (directory.join name).steps = directory.moves ++ [.into name] := by
  obtain ⟨hslash, hne, _⟩ := name.isName
  have hlast : (directory.join name).getLast? ≠ some FeatureGates.slash := by
    have hname : name.bytes.getLast? ≠ some FeatureGates.slash :=
      fun hs => hslash (List.mem_of_getLast? hs)
    unfold join
    split
    next => rwa [List.getLast?_append_of_ne_nil _ hne]
    next =>
      rw [List.getLast?_append_of_ne_nil _ (List.cons_ne_nil _ _),
        List.getLast?_cons_of_ne_nil hne]
      exact hname
  rw [steps_eq, if_neg hlast, List.append_nil, moves_join]

theorem isAbsolute_join {directory : Path} (hd : directory ≠ []) (name : Name) :
    (directory.join name).isAbsolute = directory.isAbsolute := by
  obtain ⟨b, bs, rfl⟩ := List.exists_cons_of_ne_nil hd
  unfold join
  split <;> rfl

end Path

namespace FileSystem

variable {fs : FileSystem} {purpose : Purpose}

theorem Leads.unique {n m m' : Nat} {l : Location} {steps : List Step} {place place' : Place}
    (h : Leads fs purpose n l steps place m) (h' : Leads fs purpose n l steps place' m') :
    place = place' ∧ m = m' := by
  have heq := h.walk_eq.symm.trans h'.walk_eq
  cases heq
  exact ⟨rfl, rfl⟩

theorem origin_join (fs : FileSystem) {directory : Path} (hd : directory ≠ []) (name : Name) :
    fs.origin (directory.join name) = fs.origin directory := by
  simp only [origin, Path.isAbsolute_join hd]

theorem leads_moves {p : Path} {l : Location} (h : fs.locate p = .ok l) :
    ∃ m, Leads fs .use maxLinks (fs.origin p) p.moves (.present l) m := by
  obtain ⟨_, m, hl⟩ := resolve_eq_ok_iff.mp (locate_eq_ok_iff.mp h)
  rw [Path.steps_eq] at hl
  split at hl
  next =>
    obtain ⟨k, l₁, hmoves, hlast⟩ := hl.split (by simp)
    cases hlast with
    | stay _ _ hlast =>
        cases hlast
        exact ⟨_, hmoves⟩
  next => exact ⟨m, by simpa using hl⟩

theorem ne_nil_of_locate {p : Path} {l : Location} (h : fs.locate p = .ok l) : p ≠ [] := by
  rintro rfl
  cases h

section Join

variable {directory : Path} {l : Location} (hl : fs.locate directory = .ok l) {name : Name}

include hl

/-- The last step of the joined path is taken from the directory. -/
theorem leads_of_resolve_join {place : Place}
    (h : fs.resolve (directory.join name) purpose = .ok place) :
    ∃ m k, Leads fs purpose m l [.into name] place k := by
  obtain ⟨m, hmoves⟩ := leads_moves hl
  obtain ⟨_, k, hall⟩ := resolve_eq_ok_iff.mp h
  rw [origin_join fs (ne_nil_of_locate hl), Path.steps_join] at hall
  obtain ⟨_, _, hfirst, hlast⟩ := hall.split (by simp)
  cases (hfirst.unique hmoves).1
  exact ⟨_, k, hlast⟩

theorem locate_join {k : Location} (h : fs.locate (directory.join name) = .ok k)
    (hlink : ∀ target, fs.node? (l ++ [name]) ≠ some (.link target)) : k = l ++ [name] := by
  obtain ⟨_, _, hlast⟩ := leads_of_resolve_join hl (locate_eq_ok_iff.mp h)
  rcases hlast.last with ⟨hplace, _⟩ | ⟨node, hnode, hplace⟩
  · cases hplace
  · have hnot : ∀ target, node ≠ .link target := fun target hn => hlink target (hn ▸ hnode)
    exact Place.present.inj (hplace hnot)

end Join

end FileSystem

end FeatureGates
