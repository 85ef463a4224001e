import FeatureGates.Proofs.Assignment

namespace FeatureGates

/-!
# One argument after another

While arguments are read, an option that stands alone waits for its value, and the value waits to be
looked at. Each argument settles what waits, announces a value or is one.
-/

namespace Progress

variable {p p' q : Progress} {n : OptionName} {value argument : Bytes}

/-- The state after a value has been accepted. -/
def after (p : Progress) (a : Assignment) : Progress :=
  { p with given := a.give p.given, met := p.met ++ [a.name], waiting := none }

theorem accept_eq_ok_iff :
    p.accept n value = .ok p' ↔
      p.given.has n = false ∧ ∃ a : Assignment, a.name = n ∧ a.value = value ∧ p.after a = p' := by
  constructor
  · intro h
    obtain ⟨g, hg, rfl⟩ := GivenOptions.map_eq_ok_iff.mp h
    obtain ⟨hnew, a, rfl, rfl, rfl⟩ := GivenOptions.accept_eq_ok_iff.mp hg
    exact ⟨hnew, a, rfl, rfl, rfl⟩
  · intro h
    obtain ⟨hnew, a, rfl, rfl, rfl⟩ := h
    exact GivenOptions.map_eq_ok_iff.mpr
      ⟨_, GivenOptions.accept_eq_ok_iff.mpr ⟨hnew, a, rfl, rfl, rfl⟩, rfl⟩

/-- What one argument does to the state: it ends the options, it announces or gives a value, or it
is the value that has been announced. -/
inductive Takes (p : Progress) : Bytes → Progress → Prop
  | separator : Takes p [hyphen, hyphen] { p with separated := true }
  | flag (n : OptionName) {q : Progress} (hs : p.settle = .ok q) :
      Takes p n.flag { q with waiting := some (n, none) }
  | assign (n : OptionName) (value : Bytes) {q p' : Progress} (hs : p.settle = .ok q)
      (ha : q.accept n value = .ok p') : Takes p (n.assign value) p'
  | value {n : OptionName} {value : Bytes} (hw : p.waiting = some (n, none))
      (hplain : Word.IsPlain value) : Takes p value { p with waiting := some (n, some value) }

theorem takeOption_none_eq_ok_iff :
    p.takeOption n none = .ok p' ↔
      ∃ q, p.settle = .ok q ∧ { q with waiting := some (n, none) } = p' := by
  rw [takeOption]
  cases p.settle <;> simp

theorem takeOption_some_eq_ok_iff :
    p.takeOption n (some value) = .ok p' ↔ ∃ q, p.settle = .ok q ∧ q.accept n value = .ok p' := by
  rw [takeOption]
  cases p.settle with
  | error e => simp
  | ok q => cases h : q.accept n value <;> simp [h]

theorem takeLong_eq_ok_iff {name : Bytes} {value : Option Bytes} :
    p.takeLong name value = .ok p' ↔
      ∃ n, OptionName.ofLong? name = some n ∧ p.takeOption n value = .ok p' := by
  unfold takeLong
  cases OptionName.ofLong? name with
  | some n => simp
  | none => cases Command.verify.flag? name <;> cases value <;> simp

theorem takes_of_take (h : p.take argument = .ok p') : p.Takes argument p' := by
  unfold take at h
  split at h
  next => cases h
  next =>
    have hspelled := Word.spelledBy_ofBytes argument
    split at h
    next hword =>
      rw [hword] at hspelled
      cases hspelled
      cases h
      exact .separator
    next name value hword =>
      rw [hword] at hspelled
      cases hspelled
      obtain ⟨n, hn, hoption⟩ := takeLong_eq_ok_iff.mp h
      obtain rfl := OptionName.ofLong?_eq_some_iff.mp hn
      cases value with
      | none =>
          obtain ⟨q, hs, rfl⟩ := takeOption_none_eq_ok_iff.mp hoption
          rw [Option.elim_none, List.append_nil]
          exact .flag n hs
      | some value =>
          obtain ⟨q, hs, ha⟩ := takeOption_some_eq_ok_iff.mp hoption
          exact .assign n value hs ha
    next => cases h
    next text hword =>
      rw [hword] at hspelled
      cases hspelled with
      | plain hplain =>
          unfold takePlain at h
          split at h
          next n hw =>
            cases h
            exact .value hw hplain
          next => cases h

theorem take_of_takes (hopen : p.separated = false) (h : p.Takes argument p') :
    p.take argument = .ok p' := by
  unfold take
  rw [if_neg (by simp [hopen])]
  cases h with
  | separator => rfl
  | flag n hs =>
      rw [OptionName.ofBytes_flag]
      exact takeLong_eq_ok_iff.mpr
        ⟨n, OptionName.ofLong?_eq_some_iff.mpr rfl, takeOption_none_eq_ok_iff.mpr ⟨_, hs, rfl⟩⟩
  | assign n value hs ha =>
      rw [OptionName.ofBytes_assign]
      exact takeLong_eq_ok_iff.mpr
        ⟨n, OptionName.ofLong?_eq_some_iff.mpr rfl, takeOption_some_eq_ok_iff.mpr ⟨_, hs, ha⟩⟩
  | value hw hplain =>
      rw [Word.ofBytes_of_isPlain hplain]
      simp only [takePlain, hw]

theorem take_separated (h : p.separated = true) : p.take argument ≠ .ok p' := by
  unfold take
  rw [if_pos h]
  nofun

theorem settle_eq_ok_iff :
    p.settle = .ok q ↔ (p.waiting = none ∧ p = q) ∨
      ∃ n value, p.waiting = some (n, some value) ∧ p.accept n value = .ok q := by
  unfold settle
  split
  next h => simp [h]
  next h => simp [h]
  next n value h => simp [h]

theorem settle_of_idle (h : p.waiting = none) : p.settle = .ok p :=
  settle_eq_ok_iff.mpr (.inl ⟨h, rfl⟩)

theorem separated_of_settle (h : p.settle = .ok q) : q.separated = p.separated := by
  rcases settle_eq_ok_iff.mp h with ⟨_, rfl⟩ | ⟨n, value, _, ha⟩
  · rfl
  · obtain ⟨_, a, _, _, rfl⟩ := accept_eq_ok_iff.mp ha
    rfl

theorem settle_ne_ok_of_announced (hw : p.waiting = some (n, none)) : p.settle ≠ .ok q := by
  intro h
  rcases settle_eq_ok_iff.mp h with ⟨hnone, _⟩ | ⟨m, value, hsome, _⟩
  · cases hw.symm.trans hnone
  · cases hw.symm.trans hsome

/-- A separator changes nothing in what waits. -/
theorem settle_separated_eq_ok_iff {q' : Progress} :
    settle { p with separated := true } = .ok q' ↔
      ∃ q, p.settle = .ok q ∧ { q with separated := true } = q' := by
  constructor
  · intro h
    rcases settle_eq_ok_iff.mp h with ⟨hw, rfl⟩ | ⟨n, value, hw, ha⟩
    · exact ⟨p, settle_of_idle hw, rfl⟩
    · obtain ⟨hnew, a, rfl, rfl, rfl⟩ := accept_eq_ok_iff.mp ha
      refine ⟨p.after a, settle_eq_ok_iff.mpr (.inr ⟨_, _, hw, ?_⟩), rfl⟩
      exact accept_eq_ok_iff.mpr ⟨hnew, a, rfl, rfl, rfl⟩
  · intro h
    obtain ⟨q, hs, rfl⟩ := h
    rcases settle_eq_ok_iff.mp hs with ⟨hw, rfl⟩ | ⟨n, value, hw, ha⟩
    · exact settle_of_idle hw
    · obtain ⟨hnew, a, rfl, rfl, rfl⟩ := accept_eq_ok_iff.mp ha
      refine settle_eq_ok_iff.mpr (.inr ⟨_, _, hw, ?_⟩)
      exact accept_eq_ok_iff.mpr ⟨hnew, a, rfl, rfl, rfl⟩

theorem finish_nil_eq_ok_iff {o : VerifyOptions} :
    p.finish [] = .ok o ↔ ∃ q, p.settle = .ok q ∧ q.given.complete = o := by
  rw [finish]
  cases p.settle <;> simp

theorem finish_cons_eq_ok_iff {rest : List Bytes} {o : VerifyOptions} :
    p.finish (argument :: rest) = .ok o ↔
      ∃ p', p.take argument = .ok p' ∧ p'.finish rest = .ok o := by
  rw [finish]
  cases p.take argument <;> simp

/-- The options given are these once what waits is settled, and more may follow. -/
structure Settles (p : Progress) (g : GivenOptions) : Prop where
  isOpen : p.separated = false
  settled : ∃ q, p.settle = .ok q ∧ q.given = g

theorem settles_start : start.Settles ∅ := ⟨rfl, start, rfl, rfl⟩

variable {g : GivenOptions} {a : Assignment}

theorem settles_after (hopen : p.separated = false) : (p.after a).Settles (a.give p.given) :=
  ⟨hopen, p.after a, settle_of_idle rfl, rfl⟩

/-- The state in which a value waits that has been announced. -/
def awaiting (p : Progress) (n : OptionName) (value : Bytes) : Progress :=
  { p with waiting := some (n, some value) }

theorem settle_awaiting_eq_ok_iff :
    (p.awaiting n value).settle = .ok q ↔
      p.given.has n = false ∧ ∃ a : Assignment, a.name = n ∧ a.value = value ∧ p.after a = q := by
  rw [settle_eq_ok_iff]
  constructor
  · intro h
    rcases h with ⟨hnone, _⟩ | ⟨m, w, hsome, ha⟩
    · cases hnone
    · cases hsome
      exact accept_eq_ok_iff.mp ha
  · exact fun h => .inr ⟨n, value, rfl, accept_eq_ok_iff.mpr h⟩

theorem settles_awaiting (hopen : p.separated = false) (hnew : p.given.has a.name = false) :
    (p.awaiting a.name a.value).Settles (a.give p.given) :=
  ⟨hopen, p.after a, settle_awaiting_eq_ok_iff.mpr ⟨hnew, a, rfl, rfl, rfl⟩, rfl⟩

theorem exists_take_assign (h : p.Settles g) (ha : g.has a.name = false) :
    ∃ p', p.take (a.name.assign a.value) = .ok p' ∧ p'.Settles (a.give g) := by
  obtain ⟨hopen, q, hs, rfl⟩ := h
  have haccept : q.accept a.name a.value = .ok (q.after a) :=
    accept_eq_ok_iff.mpr ⟨ha, a, rfl, rfl, rfl⟩
  exact ⟨q.after a, take_of_takes hopen (.assign a.name a.value hs haccept),
    settles_after ((separated_of_settle hs).trans hopen)⟩

theorem exists_take_flag (h : p.Settles g) (ha : g.has a.name = false)
    (hplain : Word.IsPlain a.value) :
    ∃ p₁ p₂, p.take a.name.flag = .ok p₁ ∧ p₁.take a.value = .ok p₂ ∧ p₂.Settles (a.give g) := by
  obtain ⟨hopen, q, hs, rfl⟩ := h
  have hq : q.separated = false := (separated_of_settle hs).trans hopen
  exact ⟨_, q.awaiting a.name a.value, take_of_takes hopen (.flag a.name hs),
    take_of_takes hq (.value rfl hplain), settles_awaiting hq ha⟩

/-! ## What the rest of a call must be -/

variable {arguments : List Bytes} {o : VerifyOptions}

/-- A separator is the last argument. -/
theorem exists_settle_of_finish_separated
    (h : finish { p with separated := true } arguments = .ok o) :
    arguments = [] ∧ ∃ q, p.settle = .ok q ∧ q.given.complete = o := by
  cases arguments with
  | nil =>
      obtain ⟨q', hs, rfl⟩ := finish_nil_eq_ok_iff.mp h
      obtain ⟨q, hq, rfl⟩ := settle_separated_eq_ok_iff.mp hs
      exact ⟨rfl, q, hq, rfl⟩
  | cons argument rest =>
      obtain ⟨p', htake, _⟩ := finish_cons_eq_ok_iff.mp h
      exact absurd htake (take_separated rfl)

/-- An announced value is the next argument. -/
theorem exists_value_of_finish (hw : p.waiting = some (n, none))
    (h : p.finish arguments = .ok o) :
    ∃ value rest, arguments = value :: rest ∧ Word.IsPlain value ∧
      (p.awaiting n value).finish rest = .ok o := by
  cases arguments with
  | nil =>
      obtain ⟨q, hs, _⟩ := finish_nil_eq_ok_iff.mp h
      exact absurd hs (settle_ne_ok_of_announced hw)
  | cons argument rest =>
      obtain ⟨p', htake, hfinish⟩ := finish_cons_eq_ok_iff.mp h
      cases takes_of_take htake with
      | separator =>
          obtain ⟨_, q, hs, _⟩ := exists_settle_of_finish_separated hfinish
          exact absurd hs (settle_ne_ok_of_announced hw)
      | flag m hs => exact absurd hs (settle_ne_ok_of_announced hw)
      | assign m value hs _ => exact absurd hs (settle_ne_ok_of_announced hw)
      | value hw' hplain =>
          cases hw.symm.trans hw'
          exact ⟨argument, rest, rfl, hplain, hfinish⟩

/-- A value that waits is settled in the end. -/
theorem exists_settle_of_finish (h : (p.awaiting n value).finish arguments = .ok o) :
    ∃ q, (p.awaiting n value).settle = .ok q := by
  cases arguments with
  | nil =>
      obtain ⟨q, hs, _⟩ := finish_nil_eq_ok_iff.mp h
      exact ⟨q, hs⟩
  | cons argument rest =>
      obtain ⟨p', htake, hfinish⟩ := finish_cons_eq_ok_iff.mp h
      cases takes_of_take htake with
      | separator =>
          obtain ⟨_, q, hs, _⟩ := exists_settle_of_finish_separated hfinish
          exact ⟨q, hs⟩
      | flag m hs => exact ⟨_, hs⟩
      | assign m value hs _ => exact ⟨_, hs⟩
      | value hw _ => cases hw

end Progress

end FeatureGates
