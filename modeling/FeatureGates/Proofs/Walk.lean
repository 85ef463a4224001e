import FeatureGates.FileSystem

namespace FeatureGates

/-!
# Where a path leads

A walk that succeeds is a chain of steps, each taken from a directory. The rules of the chain are
given apart from the function, so that what holds of all walks is proved rule by rule.
-/

namespace FileSystem

/-- A name may be entered with the given steps left. -/
structure Enterable (purpose : Purpose) (name : Name) (rest : List Step) : Prop where
  use : ¬ (purpose = .make ∧ rest = [.directory])
  short : name.bytes.length ≤ maxNameLength

/-- The steps lead from a location, with so many links left, to a place with so many left there. -/
inductive Leads (fs : FileSystem) (purpose : Purpose) :
    Nat → Location → List Step → Place → Nat → Prop
  | arrive (n : Nat) (l : Location) : Leads fs purpose n l [] (.present l) n
  | stay {n m : Nat} {l : Location} {s : Step} {rest : List Step} {place : Place}
      (hd : fs.isDirectoryAt l = true) (hs : s = .here ∨ s = .directory)
      (h : Leads fs purpose n l rest place m) : Leads fs purpose n l (s :: rest) place m
  | up {n m : Nat} {l : Location} {rest : List Step} {place : Place}
      (hd : fs.isDirectoryAt l = true) (h : Leads fs purpose n l.dropLast rest place m) :
      Leads fs purpose n l (.up :: rest) place m
  | miss {n : Nat} {l : Location} {name : Name} (hd : fs.isDirectoryAt l = true)
      (hname : Enterable purpose name []) (hnode : fs.node? (l ++ [name]) = none) :
      Leads fs purpose n l [.into name] (.absent l name) n
  | enter {n m : Nat} {l : Location} {name : Name} {rest : List Step} {place : Place} {node : Node}
      (hd : fs.isDirectoryAt l = true) (hname : Enterable purpose name rest)
      (hnode : fs.node? (l ++ [name]) = some node) (hlink : ∀ target, node ≠ .link target)
      (h : Leads fs purpose n (l ++ [name]) rest place m) :
      Leads fs purpose n l (.into name :: rest) place m
  | follow {n m : Nat} {l : Location} {name : Name} {rest : List Step} {place : Place}
      {target : Path} (hd : fs.isDirectoryAt l = true) (hname : Enterable purpose name rest)
      (hnode : fs.node? (l ++ [name]) = some (.link target))
      (h : Leads fs purpose n (if target.isAbsolute then [] else l) (target.steps ++ rest)
        place m) :
      Leads fs purpose (n + 1) l (.into name :: rest) place m

variable {fs : FileSystem} {purpose : Purpose}

theorem walk_nil (n : Nat) (l : Location) : fs.walk purpose n l [] = .ok (.present l, n) := by
  cases n <;> rfl

/-- One step of a walk, with the rest of it as a walk again. -/
theorem walk_cons (n : Nat) (l : Location) (s : Step) (rest : List Step) :
    fs.walk purpose n l (s :: rest) =
      if !fs.isDirectoryAt l then .error .notDirectory
      else
        match s with
        | .here => fs.walk purpose n l rest
        | .directory => fs.walk purpose n l rest
        | .up => fs.walk purpose n l.dropLast rest
        | .into name =>
          if purpose = .make ∧ rest = [.directory] then .error .isDirectory
          else if maxNameLength < name.bytes.length then .error .nameTooLong
          else
            match fs.node? (l ++ [name]) with
            | none => if rest = [] then .ok (.absent l name, n) else .error .notFound
            | some (.link target) =>
              match n with
              | 0 => .error .tooManyLinks
              | k + 1 =>
                fs.walk purpose k (if target.isAbsolute then [] else l) (target.steps ++ rest)
            | some _ => fs.walk purpose n (l ++ [name]) rest := by
  cases n <;> rfl

theorem Leads.walk_eq {n m : Nat} {l : Location} {steps : List Step} {place : Place}
    (h : Leads fs purpose n l steps place m) : fs.walk purpose n l steps = .ok (place, m) := by
  induction h with
  | arrive n l => exact walk_nil n l
  | stay hd hs _ ih =>
      rcases hs with rfl | rfl
      · simpa [walk_cons, hd] using ih
      · simpa [walk_cons, hd] using ih
  | up hd _ ih => simpa [walk_cons, hd] using ih
  | miss hd hname hnode =>
      simp [walk_cons, hd, hnode, Nat.not_lt.mpr hname.short]
  | @enter n m l name rest place node hd hname hnode hlink _ ih =>
      rw [walk_cons]
      simp only [hd, hname.use, Nat.not_lt.mpr hname.short, hnode, Bool.not_true,
        Bool.false_eq_true, if_false]
      cases node with
      | link target => exact absurd rfl (hlink target)
      | _ => exact ih
  | follow hd hname hnode _ ih =>
      rw [walk_cons]
      simp only [hd, hname.use, Nat.not_lt.mpr hname.short, hnode, Bool.not_true,
        Bool.false_eq_true, if_false]
      exact ih

theorem leads_of_walk_eq {n m : Nat} {l : Location} {steps : List Step} {place : Place}
    (h : fs.walk purpose n l steps = .ok (place, m)) : Leads fs purpose n l steps place m := by
  -- The links left bound how often a walk starts anew, the steps how long it goes on till then.
  induction n using Nat.strongRecOn generalizing l steps with
  | ind n ihn =>
      induction steps generalizing l with
      | nil =>
          rw [walk_nil] at h
          cases h
          exact .arrive _ l
      | cons s rest ih =>
          rw [walk_cons] at h
          have hd : fs.isDirectoryAt l = true := by
            cases hd : fs.isDirectoryAt l with
            | false => simp [hd] at h
            | true => rfl
          simp only [hd, Bool.not_true, Bool.false_eq_true, if_false] at h
          cases s with
          | here => exact .stay hd (.inl rfl) (ih h)
          | directory => exact .stay hd (.inr rfl) (ih h)
          | up => exact .up hd (ih h)
          | into name =>
              dsimp only at h
              split at h
              next => cases h
              next huse =>
                split at h
                next => cases h
                next hshort =>
                  have hname : Enterable purpose name rest := ⟨huse, Nat.not_lt.mp hshort⟩
                  split at h
                  next hnode =>
                    split at h
                    next hrest =>
                      subst hrest
                      cases h
                      exact .miss hd hname hnode
                    next => cases h
                  next target hnode =>
                    cases n with
                    | zero => cases h
                    | succ k => exact .follow hd hname hnode (ihn k (Nat.lt_succ_self k) h)
                  next node hlink hnode =>
                    exact .enter hd hname hnode (fun target he => hlink target he) (ih h)

theorem walk_eq_ok_iff {n m : Nat} {l : Location} {steps : List Step} {place : Place} :
    fs.walk purpose n l steps = .ok (place, m) ↔ Leads fs purpose n l steps place m :=
  ⟨leads_of_walk_eq, Leads.walk_eq⟩

theorem checked_eq_ok_iff {p q : Path} :
    checked p = .ok q ↔ p = q ∧ 0 ∉ p ∧ p ≠ [] ∧ p.length ≤ maxPathLength := by
  unfold checked
  split
  next h => simp [h]
  next h0 =>
    split
    next h => simp [h]
    next hne =>
      split
      next hlong => simp [Nat.not_le.mpr hlong]
      next hlong => simp [h0, hne, Nat.not_lt.mp hlong]

theorem resolve_eq_ok_iff {p : Path} {place : Place} :
    fs.resolve p purpose = .ok place ↔
      checked p = .ok p ∧ ∃ m, Leads fs purpose maxLinks (fs.origin p) p.steps place m := by
  unfold resolve
  cases hc : checked p with
  | error cause => simp [bind, Except.bind]
  | ok q =>
      obtain rfl := (checked_eq_ok_iff.mp hc).1
      simp only [bind, Except.bind, ← walk_eq_ok_iff]
      cases hw : fs.walk purpose maxLinks (fs.origin p) p.steps with
      | error cause => simp
      | ok r => simp [pure, Except.pure, Prod.ext_iff]

theorem locate_eq_ok_iff {p : Path} {l : Location} :
    fs.locate p = .ok l ↔ fs.resolve p .use = .ok (.present l) := by
  unfold locate
  cases fs.resolve p .use with
  | error cause => simp [bind, Except.bind]
  | ok place =>
      cases place <;>
        simp [bind, Except.bind, pure, Except.pure, throw, throwThe, MonadExceptOf.throw]

/-! ## Walks after one another -/

namespace Leads

/-- A walk that only looks can be gone on with; one that makes something can as well, unless no step
or only the request for a directory follows. -/
theorem append {n k m : Nat} {l l' : Location} {steps rest : List Step} {place : Place}
    (h : Leads fs .use n l steps (.present l') k) (h' : Leads fs purpose k l' rest place m)
    (hrest : purpose = .make → rest ≠ [] ∧ rest ≠ [.directory]) :
    Leads fs purpose n l (steps ++ rest) place m := by
  have henter : ∀ {name : Name} {r : List Step}, Enterable .use name r →
      Enterable purpose name (r ++ rest) := by
    rintro name r ⟨_, hshort⟩
    refine ⟨fun ⟨hmake, hr⟩ => ?_, hshort⟩
    obtain ⟨hne, hne'⟩ := hrest hmake
    rcases List.append_eq_singleton_iff.mp hr with ⟨_, hr⟩ | ⟨_, hr⟩
    · exact hne' hr
    · exact hne hr
  generalize hplace : Place.present l' = reached at h
  induction h with
  | arrive n l =>
      cases hplace
      exact h'
  | stay hd hs _ ih => exact .stay hd hs (ih h' hplace)
  | up hd _ ih => exact .up hd (ih h' hplace)
  | miss => cases hplace
  | enter hd hname hnode hlink _ ih => exact .enter hd (henter hname) hnode hlink (ih h' hplace)
  | follow hd hname hnode _ ih =>
      have hgo := ih h' hplace
      rw [List.append_assoc] at hgo
      exact .follow hd (henter hname) hnode hgo

theorem split {n m : Nat} {l : Location} {steps rest : List Step} {place : Place}
    (h : Leads fs purpose n l (steps ++ rest) place m) (hrest : rest ≠ []) :
    ∃ k l', Leads fs .use n l steps (.present l') k ∧ Leads fs purpose k l' rest place m := by
  generalize hall : steps ++ rest = all at h
  induction h generalizing steps with
  | arrive => exact absurd (List.append_eq_nil_iff.mp hall).2 hrest
  | stay hd hs h ih =>
      cases steps with
      | nil => exact ⟨_, _, .arrive _ _, by subst hall; exact .stay hd hs h⟩
      | cons s steps =>
          obtain ⟨rfl, rfl⟩ := List.cons_eq_cons.mp hall
          obtain ⟨k, l', h₁, h₂⟩ := ih rfl
          exact ⟨k, l', .stay hd hs h₁, h₂⟩
  | up hd h ih =>
      cases steps with
      | nil => exact ⟨_, _, .arrive _ _, by subst hall; exact .up hd h⟩
      | cons s steps =>
          obtain ⟨rfl, rfl⟩ := List.cons_eq_cons.mp hall
          obtain ⟨k, l', h₁, h₂⟩ := ih rfl
          exact ⟨k, l', .up hd h₁, h₂⟩
  | miss hd hname hnode =>
      cases steps with
      | nil => exact ⟨_, _, .arrive _ _, by subst hall; exact .miss hd hname hnode⟩
      | cons s steps =>
          have htail := (List.cons_eq_cons.mp hall).2
          exact absurd (List.append_eq_nil_iff.mp htail).2 hrest
  | enter hd hname hnode hlink h ih =>
      cases steps with
      | nil => exact ⟨_, _, .arrive _ _, by subst hall; exact .enter hd hname hnode hlink h⟩
      | cons s steps =>
          obtain ⟨rfl, rfl⟩ := List.cons_eq_cons.mp hall
          obtain ⟨k, l', h₁, h₂⟩ := ih rfl
          exact ⟨k, l', .enter hd ⟨nofun, hname.short⟩ hnode hlink h₁, h₂⟩
  | follow hd hname hnode h ih =>
      cases steps with
      | nil => exact ⟨_, _, .arrive _ _, by subst hall; exact .follow hd hname hnode h⟩
      | cons s steps =>
          obtain ⟨rfl, rfl⟩ := List.cons_eq_cons.mp hall
          obtain ⟨k, l', h₁, h₂⟩ := ih (List.append_assoc _ _ _)
          exact ⟨k, l', .follow hd ⟨nofun, hname.short⟩ hnode h₁, h₂⟩

/-- A name that is taken alone is missed, or what it names is reached unless that is a link. -/
theorem last {n m : Nat} {l : Location} {name : Name} {place : Place}
    (h : Leads fs purpose n l [.into name] place m) :
    (place = .absent l name ∧ fs.node? (l ++ [name]) = none) ∨
      ∃ node, fs.node? (l ++ [name]) = some node ∧
        ((∀ target, node ≠ .link target) → place = .present (l ++ [name])) := by
  cases h with
  | stay _ hs _ => simp at hs
  | miss _ _ hnode => exact .inl ⟨rfl, hnode⟩
  | enter _ _ hnode _ hrest =>
      cases hrest
      exact .inr ⟨_, hnode, fun _ => rfl⟩
  | follow _ _ hnode _ => exact .inr ⟨_, hnode, fun hlink => absurd rfl (hlink _)⟩

end Leads

end FileSystem

end FeatureGates
