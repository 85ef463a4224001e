import FeatureGates.Proofs.Progress

namespace FeatureGates

/-!
# Options in any order and spelling

The command that verifies accepts just the lists of arguments that spell options with their values,
no option more than once. The options may come in any order, and each may be spelled as one argument
or as two.
-/

/-- The arguments spell the options, one after another. A value may be an argument of its own if it
does not look like an option. -/
inductive Spells : List Assignment → List Bytes → Prop
  | nil : Spells [] []
  | separator : Spells [] [[hyphen, hyphen]]
  | joined (a : Assignment) {as : List Assignment} {rest : List Bytes} (h : Spells as rest) :
      Spells (a :: as) (a.name.assign a.value :: rest)
  | apart (a : Assignment) (hplain : Word.IsPlain a.value) {as : List Assignment}
      {rest : List Bytes} (h : Spells as rest) :
      Spells (a :: as) (a.name.flag :: a.value :: rest)

namespace Progress

variable {p : Progress} {g : GivenOptions} {as : List Assignment} {arguments : List Bytes}
  {o : VerifyOptions}

theorem finish_of_spells (h : Spells as arguments) (hp : p.Settles g) (hgives : g.Gives as o) :
    p.finish arguments = .ok o := by
  induction h generalizing p g with
  | nil =>
      obtain ⟨_, q, hs, rfl⟩ := hp
      exact finish_nil_eq_ok_iff.mpr ⟨q, hs, hgives.complete⟩
  | separator =>
      obtain ⟨hopen, q, hs, rfl⟩ := hp
      refine finish_cons_eq_ok_iff.mpr ⟨_, take_of_takes hopen .separator, ?_⟩
      exact finish_nil_eq_ok_iff.mpr
        ⟨_, settle_separated_eq_ok_iff.mpr ⟨q, hs, rfl⟩, hgives.complete⟩
  | joined a _ ih =>
      obtain ⟨ha, hrest⟩ := GivenOptions.gives_cons_iff.mp hgives
      obtain ⟨p', htake, hp'⟩ := exists_take_assign hp ha
      exact finish_cons_eq_ok_iff.mpr ⟨p', htake, ih hp' hrest⟩
  | apart a hplain _ ih =>
      obtain ⟨ha, hrest⟩ := GivenOptions.gives_cons_iff.mp hgives
      obtain ⟨p₁, p₂, hflag, hvalue, hp₂⟩ := exists_take_flag hp ha hplain
      refine finish_cons_eq_ok_iff.mpr ⟨p₁, hflag, ?_⟩
      exact finish_cons_eq_ok_iff.mpr ⟨p₂, hvalue, ih hp₂ hrest⟩

/-- What is accepted spells options. An option with its value takes one argument or two, so the
induction is on how many arguments are left. -/
theorem exists_spells_of_finish (hp : p.Settles g) (h : p.finish arguments = .ok o) :
    ∃ as, Spells as arguments ∧ g.Gives as o := by
  induction hlength : arguments.length using Nat.strongRecOn generalizing arguments p g with
  | _ length ih =>
    obtain ⟨hopen, q, hs, rfl⟩ := hp
    have hq : q.separated = false := (separated_of_settle hs).trans hopen
    cases arguments with
    | nil =>
        obtain ⟨q', hs', rfl⟩ := finish_nil_eq_ok_iff.mp h
        cases hs.symm.trans hs'
        exact ⟨[], .nil, GivenOptions.gives_nil _⟩
    | cons argument rest =>
        rw [List.length_cons] at hlength
        obtain ⟨p', htake, hfinish⟩ := finish_cons_eq_ok_iff.mp h
        cases takes_of_take htake with
        | separator =>
            obtain ⟨rfl, q', hs', rfl⟩ := exists_settle_of_finish_separated hfinish
            cases hs.symm.trans hs'
            exact ⟨[], .separator, GivenOptions.gives_nil _⟩
        | assign n value hs' haccept =>
            cases hs.symm.trans hs'
            obtain ⟨hnew, a, rfl, rfl, rfl⟩ := accept_eq_ok_iff.mp haccept
            obtain ⟨as, hspells, hgives⟩ :=
              ih rest.length (by omega) (settles_after hq) hfinish rfl
            exact ⟨a :: as, .joined a hspells, GivenOptions.gives_cons_iff.mpr ⟨hnew, hgives⟩⟩
        | flag n hs' =>
            cases hs.symm.trans hs'
            obtain ⟨value, rest, rfl, hplain, hrest⟩ := exists_value_of_finish rfl hfinish
            rw [List.length_cons] at hlength
            obtain ⟨q', hq'⟩ := exists_settle_of_finish hrest
            obtain ⟨hnew, a, rfl, rfl, _⟩ := settle_awaiting_eq_ok_iff.mp hq'
            obtain ⟨as, hspells, hgives⟩ :=
              ih rest.length (by omega) (settles_awaiting hq hnew) hrest rfl
            exact ⟨a :: as, .apart a hplain hspells,
              GivenOptions.gives_cons_iff.mpr ⟨hnew, hgives⟩⟩
        | value hw _ => exact absurd hs (settle_ne_ok_of_announced hw)

end Progress

theorem Command.ofName?_eq_verify_iff {name : Bytes} :
    Command.ofName? name = some .verify ↔ name = Bytes.ofString Command.verifyName := by
  unfold ofName?
  split
  next h => simp [h]
  next h => split <;> simp [h]

theorem readArguments_eq_ok_iff {arguments : List Bytes} {o : VerifyOptions} :
    readArguments arguments = .ok o ↔
      ∃ rest as, arguments = Bytes.ofString Command.verifyName :: rest ∧ Spells as rest ∧
        (∅ : GivenOptions).Gives as o := by
  constructor
  · intro h
    cases arguments with
    | nil => cases h
    | cons argument rest =>
        have hspelled := Word.spelledBy_ofBytes argument
        rw [readArguments] at h
        split at h
        next => cases h
        next => cases h
        next => cases h
        next text hword =>
          rw [hword] at hspelled
          cases hspelled
          split at h
          next hname =>
            obtain ⟨as, hspells, hgives⟩ :=
              Progress.exists_spells_of_finish Progress.settles_start h
            exact ⟨rest, as, by rw [Command.ofName?_eq_verify_iff.mp hname], hspells, hgives⟩
          next => cases h
          next => cases h
  · intro h
    obtain ⟨rest, as, rfl, hspells, hgives⟩ := h
    have hword : Word.ofBytes (Bytes.ofString Command.verifyName) =
        .plain (Bytes.ofString Command.verifyName) := by
      decide
    rw [readArguments, hword]
    dsimp only
    rw [Command.ofName?_eq_verify_iff.mpr rfl]
    exact Progress.finish_of_spells hspells Progress.settles_start hgives

/-- The options that are spelled are those that the arguments give, in their order. -/
theorem Spells.filterMap_ofArgument? {as : List Assignment} {arguments : List Bytes}
    (h : Spells as arguments) :
    arguments.filterMap OptionName.ofArgument? = as.map Assignment.name := by
  induction h with
  | nil => rfl
  | separator => rfl
  | joined a _ ih =>
      rw [List.filterMap_cons_some (a.name.ofArgument?_assign a.value), ih, List.map_cons]
  | apart a hplain _ ih =>
      rw [List.filterMap_cons_some a.name.ofArgument?_flag,
        List.filterMap_cons_none (OptionName.ofArgument?_of_isPlain hplain), ih, List.map_cons]

theorem Spells.exists_of_assign_mem {as : List Assignment} {arguments : List Bytes}
    (h : Spells as arguments) {n : OptionName} {value : Bytes}
    (hmem : n.assign value ∈ arguments) : ∃ a ∈ as, a.name = n ∧ a.value = value := by
  have hcons : ∀ {a : Assignment} {as : List Assignment},
      (∃ b ∈ as, b.name = n ∧ b.value = value) → ∃ b ∈ a :: as, b.name = n ∧ b.value = value :=
    fun ⟨b, hb, hgiven⟩ => ⟨b, List.mem_cons_of_mem _ hb, hgiven⟩
  induction h with
  | nil => cases hmem
  | separator =>
      have hnone := n.ofArgument?_assign value
      rw [List.mem_singleton.mp hmem] at hnone
      cases hnone
  | joined a _ ih =>
      rcases List.mem_cons.mp hmem with heq | hmem
      · obtain ⟨hname, hvalue⟩ := OptionName.assign_inj heq
        exact ⟨a, List.mem_cons_self, hname.symm, hvalue.symm⟩
      · exact hcons (ih hmem)
  | apart a hplain _ ih =>
      rcases List.mem_cons.mp hmem with heq | hmem
      · exact absurd heq (OptionName.assign_ne_flag n a.name value)
      · rcases List.mem_cons.mp hmem with heq | hmem
        · have hnone := OptionName.ofArgument?_of_isPlain hplain
          rw [← heq, OptionName.ofArgument?_assign] at hnone
          cases hnone
        · exact hcons (ih hmem)

theorem not_twice_of_readArguments {arguments : List Bytes} {o : VerifyOptions}
    (h : readArguments arguments = .ok o) :
    (arguments.filterMap OptionName.ofArgument?).Nodup := by
  obtain ⟨rest, as, rfl, hspells, hgives⟩ := readArguments_eq_ok_iff.mp h
  have hname : OptionName.ofArgument? (Bytes.ofString Command.verifyName) = none := by decide
  rw [List.filterMap_cons_none hname, hspells.filterMap_ofArgument?]
  exact hgives.distinct

/-- The value of an option that takes a path is not empty. -/
theorem Assignment.value_ne_nil {a : Assignment} (h : a.name = .directory ∨ a.name = .report) :
    a.value ≠ [] := by
  cases a with
  | directory p hp => exact hp
  | report p hp => exact hp
  | baseline s => simp [name] at h
  | derived s => simp [name] at h

/-- A call that spells options gives the run their values and the defaults of the options left out.
No other call gives a run, so none in which an option comes twice or a path is assigned empty. -/
theorem calls_survive_any_order_and_spelling :
    (∀ as rest, Spells as rest → (as.map Assignment.name).Nodup →
      ∃ o, readArguments (Bytes.ofString Command.verifyName :: rest) = .ok o ∧
        (∀ a ∈ as, o.value? a.name = some a.value) ∧
        ∀ n, n ∉ as.map Assignment.name → o.value? n = n.default?.map Bytes.ofString) ∧
    (∀ arguments o, readArguments arguments = .ok o → ∃ as rest,
      arguments = Bytes.ofString Command.verifyName :: rest ∧ Spells as rest ∧
        (as.map Assignment.name).Nodup) ∧
    (∀ (n : OptionName) before x between y after, n.GivenBy x → n.GivenBy y → ∀ o,
      readArguments (before ++ x :: (between ++ y :: after)) ≠ .ok o) ∧
    ∀ (n : OptionName) arguments, (n = .directory ∨ n = .report) → n.assign [] ∈ arguments →
      ∀ o, readArguments arguments ≠ .ok o := by
  refine ⟨fun as rest hspells hdistinct => ?_, fun arguments o h => ?_, ?_, ?_⟩
  · have hfresh : ∀ n, (∅ : GivenOptions).has n = false := by
      intro n
      rw [GivenOptions.has_eq_isSome, GivenOptions.value?_empty, Option.isSome_none]
    have hgives : (∅ : GivenOptions).Gives as (Assignment.giveAll ∅ as).complete :=
      ⟨hdistinct, fun a _ => hfresh a.name, rfl⟩
    exact ⟨_, readArguments_eq_ok_iff.mpr ⟨rest, as, rfl, hspells, hgives⟩, hgives.value?⟩
  · obtain ⟨rest, as, hrest, hspells, hgives⟩ := readArguments_eq_ok_iff.mp h
    exact ⟨as, rest, hrest, hspells, hgives.distinct⟩
  · intro n before x between y after hx hy o h
    have hnodup := not_twice_of_readArguments h
    rw [List.filterMap_append, List.filterMap_cons_some hx.ofArgument?_eq, List.filterMap_append,
      List.filterMap_cons_some hy.ofArgument?_eq] at hnodup
    obtain ⟨hnot, _⟩ := List.nodup_cons.mp (List.nodup_append.mp hnodup).2.1
    exact hnot (by simp)
  · intro n arguments hpath hmem o h
    obtain ⟨rest, as, rfl, hspells, _⟩ := readArguments_eq_ok_iff.mp h
    rcases List.mem_cons.mp hmem with heq | hmem
    · have hsome := n.ofArgument?_assign []
      rw [heq] at hsome
      cases hsome
    · obtain ⟨a, _, rfl, hvalue⟩ := hspells.exists_of_assign_mem hmem
      exact Assignment.value_ne_nil hpath hvalue

namespace Sample

/-- Values that look like the end of a name or like a command, and one that is no text. -/
def assignments : List Assignment :=
  [.report (Bytes.ofString "a=b") (by decide), .baseline "help", .directory [0xFF] (by decide)]

def spelling : List Bytes :=
  ["--report-path=a=b", "--baseline-feature-set", "help", "--featureset-manifest-path"].map
    Bytes.ofString ++ [[0xFF]]

theorem spells_assignments : Spells assignments spelling := by
  have hreport : Bytes.ofString "--report-path=a=b" =
      OptionName.report.assign (Bytes.ofString "a=b") := by
    decide
  have hbaseline : Bytes.ofString "--baseline-feature-set" = OptionName.baseline.flag := by decide
  have hdirectory : Bytes.ofString "--featureset-manifest-path" = OptionName.directory.flag := by
    decide
  rw [spelling, List.map_cons, List.map_cons, List.map_cons, List.map_cons, hreport, hbaseline,
    hdirectory]
  exact .joined _ (.apart (.baseline "help") (.inl (by decide)) (.apart _ (.inl (by decide)) .nil))

end Sample

theorem calls_survive_sample_spelling :
    Spells Sample.assignments Sample.spelling ∧
    (Sample.assignments.map Assignment.name).Nodup ∧
    readArguments (Bytes.ofString Command.verifyName :: Sample.spelling) =
      .ok ⟨[0xFF], "help", "OKD", some (Bytes.ofString "a=b")⟩ ∧
    (∀ o, readArguments (Bytes.ofString Command.verifyName :: OptionName.report.flag ::
      Sample.spelling) ≠ .ok o) ∧
    ∀ o, readArguments [Bytes.ofString Command.verifyName, OptionName.report.assign []] ≠
      .ok o := by
  obtain ⟨haccepted, _, htwice, hempty⟩ := calls_survive_any_order_and_spelling
  have hdistinct : (Sample.assignments.map Assignment.name).Nodup := by decide
  obtain ⟨⟨directory, baseline, derived, report⟩, hread, hvalues, hdefaults⟩ :=
    haccepted _ _ Sample.spells_assignments hdistinct
  refine ⟨Sample.spells_assignments, hdistinct, ?_, ?_, ?_⟩
  · have hdirectory : directory = [0xFF] :=
      Option.some.inj (hvalues (.directory [0xFF] (by decide)) (by simp [Sample.assignments]))
    have hbaseline : Bytes.ofString baseline = Bytes.ofString "help" :=
      Option.some.inj (hvalues (.baseline "help") (by simp [Sample.assignments]))
    have hderived : Bytes.ofString derived = Bytes.ofString "OKD" :=
      Option.some.inj (hdefaults .derived (by decide))
    have hreport : report = some (Bytes.ofString "a=b") :=
      hvalues (.report (Bytes.ofString "a=b") (by decide)) (by simp [Sample.assignments])
    rw [hread, hdirectory, Bytes.ofString_injective hbaseline, Bytes.ofString_injective hderived,
      hreport]
  · exact htwice .report [_] _ [] _ _ .flag (.assign (Bytes.ofString "a=b"))
  · exact hempty .report _ (.inr rfl) (by simp)

end FeatureGates
