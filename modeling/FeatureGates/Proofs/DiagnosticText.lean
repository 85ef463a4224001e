import FeatureGates.Diagnostic
import Mathlib.Data.String.Basic

namespace FeatureGates

/-!
# Reading the text of the diagnostics

Names stand in the text as they are and may look like any part of it. The lines are still told apart
by how they begin: a block is a heading, a line with a mark for each gate, an empty line and a
closing one.
-/

/-- There is no line break in the text. -/
def OneLine (s : String) : Prop := '\n' ∉ s.toList

def textLines (text : String) : List String := (text.toList.splitOn '\n').map String.ofList

instance (s : String) : Decidable (OneLine s) := inferInstanceAs (Decidable (¬ '\n' ∈ s.toList))

theorem oneLine_append {s t : String} : OneLine (s ++ t) ↔ OneLine s ∧ OneLine t := by
  simp [OneLine]

/-- The lines of a text, each behind a line break. -/
def broken (lines : List String) : List Char := lines.flatMap fun l => '\n' :: l.toList

@[simp] theorem broken_cons (l : String) (lines : List String) :
    broken (l :: lines) = '\n' :: l.toList ++ broken lines := rfl

@[simp] theorem broken_append (ls ls' : List String) :
    broken (ls ++ ls') = broken ls ++ broken ls' := List.flatMap_append

theorem intercalate_cons {α : Type} (sep x : List α) (xs : List (List α)) :
    sep.intercalate (x :: xs) = x ++ xs.flatMap (sep ++ ·) := by
  induction xs generalizing x with
  | nil => simp
  | cons y ys ih => rw [List.intercalate_cons_cons, ih, List.flatMap_cons, List.append_assoc,
      List.append_assoc]

theorem textLines_of_broken {text : String} {lines : List String} (hne : lines ≠ [])
    (h : '\n' :: text.toList = broken lines) (hone : ∀ l ∈ lines, OneLine l) :
    textLines text = lines := by
  obtain ⟨l, ls, rfl⟩ := List.exists_cons_of_ne_nil hne
  have htext : text.toList = ['\n'].intercalate ((l :: ls).map String.toList) := by
    rw [List.map_cons, intercalate_cons, List.flatMap_map]
    exact (List.cons.inj h).2
  have hsplit : text.toList.splitOn '\n' = (l :: ls).map String.toList := by
    rw [htext]
    refine List.splitOn_intercalate '\n' (fun cs hcs => ?_) (by simp)
    obtain ⟨l', hl', rfl⟩ := List.mem_map.mp hcs
    exact hone l' hl'
  rw [textLines, hsplit, List.map_map]
  simp [Function.comp_def]

/-! ## The lines of the diagnostics -/

def gateMark : String := "  - "

def headingStart : String := "ERROR: ClusterProfile "

/-- The gate that a line lists. -/
def listedGate? (line : String) : Option String :=
  if gateMark.toList <+: line.toList then
    some (String.ofList (line.toList.drop gateMark.toList.length))
  else none

def IsHeading (line : String) : Prop := headingStart.toList <+: line.toList

instance : DecidablePred IsHeading := fun line =>
  inferInstanceAs (Decidable (headingStart.toList <+: line.toList))

def SubsetRule.closing (rule : SubsetRule) : String :=
  "All featuregates enabled in " ++ rule.baseline ++ " must also be enabled in " ++
    rule.derived ++ "."

namespace MissingGates

def heading (rule : SubsetRule) (d : MissingGates) : String :=
  headingStart ++ ("\"" ++ d.profile.name ++ "\": " ++ rule.derived ++
    " featureset is missing " ++ toString d.count ++ " featuregate(s) that are enabled in " ++
    rule.baseline ++ ":")

def lines (rule : SubsetRule) (d : MissingGates) : List String :=
  d.heading rule :: (d.missing.map (gateMark ++ ·) ++ ["", rule.closing])

/-- There are gates to be listed, each of them on a line. -/
structure Listable (d : MissingGates) : Prop where
  missing_ne_nil : d.missing ≠ []
  oneLine : ∀ gate ∈ d.missing, OneLine gate

end MissingGates

/-- The lines of all blocks, each with an empty line in front. -/
def blockLines (rule : SubsetRule) (ds : List MissingGates) : List String :=
  ds.flatMap fun d => "" :: d.lines rule

/-- The first block has nothing in front. Where there are no blocks, one empty line is left. -/
def diagnosticLines (rule : SubsetRule) : List MissingGates → List String
  | [] => [""]
  | d :: ds => d.lines rule ++ blockLines rule ds

theorem blockLines_cons (rule : SubsetRule) (d : MissingGates) (ds : List MissingGates) :
    blockLines rule (d :: ds) = "" :: diagnosticLines rule (d :: ds) := rfl

namespace MissingGates

variable {rule : SubsetRule} {d : MissingGates}

theorem text_eq (rule : SubsetRule) (d : MissingGates) :
    d.text rule = d.heading rule ++ (gateBullet ++ gateBullet.intercalate d.missing) ++
      ("\n\n" ++ rule.closing) := by
  rw [← String.toList_inj]
  -- By their equations the definitions would be opened with all their literals evaluated.
  delta text heading SubsetRule.closing headingStart
  simp

theorem gates_toList {gates : List String} (h : gates ≠ []) :
    (gateBullet ++ gateBullet.intercalate gates).toList = broken (gates.map (gateMark ++ ·)) := by
  obtain ⟨g, gs, rfl⟩ := List.exists_cons_of_ne_nil h
  have hmark : ∀ g : String, gateBullet.toList ++ g.toList = '\n' :: (gateMark ++ g).toList := by
    intro g
    rw [String.toList_append]
    rfl
  rw [String.toList_append, String.toList_intercalate, List.map_cons, intercalate_cons, broken,
    ← List.append_assoc, hmark, List.flatMap_map]
  simp only [hmark, List.flatMap_map, List.map_cons, List.flatMap_cons]

theorem Listable.text_toList (h : d.Listable) (rule : SubsetRule) :
    '\n' :: (d.text rule).toList = broken (d.lines rule) := by
  rw [text_eq, String.toList_append, String.toList_append, gates_toList h.missing_ne_nil]
  simp [lines, broken]

theorem oneLine_heading (hbaseline : OneLine rule.baseline) (hderived : OneLine rule.derived) :
    OneLine (d.heading rule) := by
  have hname : OneLine d.profile.name := by
    cases d.profile <;> decide
  have hcount : OneLine (toString d.count) := by
    rw [OneLine, Nat.toString_eq_ofList_toDigits, String.toList_ofList]
    intro h
    exact absurd (Nat.isDigit_of_mem_toDigits (by decide) (by decide) h) (by decide)
  simp only [heading, oneLine_append, hname, hcount, hbaseline, hderived, and_true]
  decide

theorem Listable.oneLine_lines (h : d.Listable) (hbaseline : OneLine rule.baseline)
    (hderived : OneLine rule.derived) : ∀ l ∈ d.lines rule, OneLine l := by
  intro l hl
  simp only [lines, List.mem_cons, List.mem_append, List.mem_map, List.not_mem_nil, or_false] at hl
  rcases hl with rfl | ⟨gate, hgate, rfl⟩ | rfl | rfl
  · exact oneLine_heading hbaseline hderived
  · exact oneLine_append.mpr ⟨by decide, h.oneLine gate hgate⟩
  · decide
  · delta SubsetRule.closing
    simp only [oneLine_append, hbaseline, hderived, and_true]
    decide

theorem profile_eq_of_name_append {p p' : ClusterProfile} {s s' : String}
    (h : p.name ++ s = p'.name ++ s') : p = p' := by
  cases p <;> cases p' <;> simp [ClusterProfile.name, ← String.toList_inj] at h ⊢

theorem eq_of_toString_eq {m n : Nat} (h : toString m = toString n) : m = n := by
  have hdigits : Nat.toDigits 10 m = Nat.toDigits 10 n := by
    have hchars := congrArg String.toList h
    rwa [Nat.toString_eq_ofList_toDigits, Nat.toString_eq_ofList_toDigits, String.toList_ofList,
      String.toList_ofList] at hchars
  calc
    m = Nat.ofDigitChars 10 (Nat.toDigits 10 m) 0 := Nat.ofDigitChars_ten_toDigits.symm
    _ = Nat.ofDigitChars 10 (Nat.toDigits 10 n) 0 := by rw [hdigits]
    _ = n := Nat.ofDigitChars_ten_toDigits

theorem heading_inj {d' : MissingGates} (h : d.heading rule = d'.heading rule) :
    d.profile = d'.profile ∧ d.count = d'.count := by
  simp only [heading, String.append_assoc, String.append_right_inj] at h
  have hprofile := profile_eq_of_name_append h
  rw [hprofile] at h
  simp only [String.append_right_inj, String.append_left_inj] at h
  exact ⟨hprofile, eq_of_toString_eq h⟩

theorem gateMark_append_ne_empty (gate : String) : gateMark ++ gate ≠ "" := by
  simp [gateMark]

theorem gates_append_inj {gates gates' : List String} {r r' : List String}
    (h : gates.map (gateMark ++ ·) ++ "" :: r = gates'.map (gateMark ++ ·) ++ "" :: r') :
    gates = gates' ∧ r = r' := by
  induction gates generalizing gates' with
  | nil =>
      cases gates' with
      | nil => exact ⟨rfl, (List.cons.inj h).2⟩
      | cons g' gs' => exact absurd (List.cons.inj h).1 (gateMark_append_ne_empty g').symm
  | cons g gs ih =>
      cases gates' with
      | nil => exact absurd (List.cons.inj h).1 (gateMark_append_ne_empty g)
      | cons g' gs' =>
          obtain ⟨hgate, hrest⟩ := List.cons.inj h
          obtain ⟨rfl, hr⟩ := ih hrest
          exact ⟨by rw [(String.append_right_inj _).mp hgate], hr⟩

theorem lines_append_inj {d' : MissingGates} {r r' : List String}
    (h : d.lines rule ++ r = d'.lines rule ++ r') : d = d' ∧ r = r' := by
  simp only [lines, List.cons_append, List.append_assoc, List.nil_append] at h
  obtain ⟨hheading, hlines⟩ := List.cons.inj h
  obtain ⟨hprofile, hcount⟩ := heading_inj hheading
  obtain ⟨hmissing, hrest⟩ := gates_append_inj hlines
  obtain ⟨_, hr⟩ := List.cons.inj hrest
  cases d
  cases d'
  cases hprofile
  cases hmissing
  cases hcount
  exact ⟨rfl, hr⟩

theorem heading_ne_empty (rule : SubsetRule) (d : MissingGates) : d.heading rule ≠ "" := by
  intro h
  exact absurd (String.append_eq_empty_iff.mp h).1 (by decide)

end MissingGates

section Lines

variable {rule : SubsetRule}

theorem blockLines_inj {ds ds' : List MissingGates} (h : blockLines rule ds = blockLines rule ds') :
    ds = ds' := by
  induction ds generalizing ds' with
  | nil =>
      cases ds' with
      | nil => rfl
      | cons d' ds' => cases h
  | cons d ds ih =>
      cases ds' with
      | nil => cases h
      | cons d' ds' =>
          obtain ⟨rfl, hrest⟩ := MissingGates.lines_append_inj (List.cons.inj h).2
          rw [ih hrest]

theorem diagnosticLines_inj {ds ds' : List MissingGates}
    (h : diagnosticLines rule ds = diagnosticLines rule ds') : ds = ds' := by
  cases ds with
  | nil =>
      cases ds' with
      | nil => rfl
      | cons d' ds' => exact absurd (List.cons.inj h).1.symm (d'.heading_ne_empty rule)
  | cons d ds =>
      cases ds' with
      | nil => exact absurd (List.cons.inj h).1 (d.heading_ne_empty rule)
      | cons d' ds' =>
          have hblocks : blockLines rule (d :: ds) = blockLines rule (d' :: ds') := by
            rw [blockLines_cons, blockLines_cons, h]
          exact blockLines_inj hblocks

/-! ## The text as its lines -/

theorem broken_blockLines {ds : List MissingGates} (h : ∀ d ∈ ds, d.Listable) :
    broken (blockLines rule ds) =
      (ds.map fun d => (d.text rule).toList).flatMap (['\n', '\n'] ++ ·) := by
  induction ds with
  | nil => rfl
  | cons d ds ih =>
      obtain ⟨hd, hds⟩ := List.forall_mem_cons.mp h
      rw [blockLines_cons, diagnosticLines, broken_cons, broken_append, ← hd.text_toList, ih hds]
      rfl

theorem diagnosticText_toList {ds : List MissingGates} (h : ∀ d ∈ ds, d.Listable) :
    '\n' :: (diagnosticText ds rule).toList = broken (diagnosticLines rule ds) := by
  cases ds with
  | nil => rfl
  | cons d ds =>
      obtain ⟨hd, hds⟩ := List.forall_mem_cons.mp h
      rw [diagnosticText, String.toList_intercalate, List.map_map, List.map_cons, intercalate_cons,
        diagnosticLines, broken_append, ← hd.text_toList, broken_blockLines hds]
      rfl

theorem oneLine_diagnosticLines (hbaseline : OneLine rule.baseline)
    (hderived : OneLine rule.derived) {ds : List MissingGates} (h : ∀ d ∈ ds, d.Listable) :
    ∀ l ∈ diagnosticLines rule ds, OneLine l := by
  have hblocks : ∀ l ∈ blockLines rule ds, OneLine l := by
    intro l hl
    obtain ⟨d, hd, hl⟩ := List.mem_flatMap.mp hl
    rcases List.mem_cons.mp hl with rfl | hl
    · decide
    · exact (h d hd).oneLine_lines hbaseline hderived l hl
  cases ds with
  | nil => exact List.forall_mem_singleton.mpr (by decide)
  | cons d ds => exact (List.forall_mem_cons.mp hblocks).2

theorem textLines_diagnosticText (hbaseline : OneLine rule.baseline)
    (hderived : OneLine rule.derived) {ds : List MissingGates} (h : ∀ d ∈ ds, d.Listable) :
    textLines (diagnosticText ds rule) = diagnosticLines rule ds := by
  apply textLines_of_broken
  · cases ds <;> exact List.cons_ne_nil _ _
  · exact diagnosticText_toList h
  · exact oneLine_diagnosticLines hbaseline hderived h

/-! ## What the lines tell -/

theorem listedGate?_empty : listedGate? "" = none := by decide

theorem listedGate?_gateMark_append (gate : String) :
    listedGate? (gateMark ++ gate) = some gate := by
  simp [listedGate?]

theorem listedGate?_heading (d : MissingGates) : listedGate? (d.heading rule) = none := by
  simp [listedGate?, MissingGates.heading, headingStart, gateMark]

theorem listedGate?_closing : listedGate? rule.closing = none := by
  delta SubsetRule.closing
  simp [listedGate?, gateMark]

theorem filterMap_listedGate?_lines (d : MissingGates) :
    (d.lines rule).filterMap listedGate? = d.missing := by
  simp [MissingGates.lines, listedGate?_heading, listedGate?_closing, listedGate?_empty,
    listedGate?_gateMark_append, List.filterMap_append, List.filterMap_map]

theorem filterMap_listedGate?_diagnosticLines (rule : SubsetRule) (ds : List MissingGates) :
    (diagnosticLines rule ds).filterMap listedGate? = ds.flatMap MissingGates.missing := by
  have hblocks : (blockLines rule ds).filterMap listedGate? = ds.flatMap MissingGates.missing := by
    rw [blockLines, List.filterMap_flatMap]
    simp only [List.filterMap_cons_none listedGate?_empty, filterMap_listedGate?_lines]
  cases ds with
  | nil => exact List.filterMap_cons_none listedGate?_empty
  | cons d ds => rwa [blockLines_cons, List.filterMap_cons_none listedGate?_empty] at hblocks

theorem isHeading_heading (d : MissingGates) : IsHeading (d.heading rule) := by
  simp [IsHeading, MissingGates.heading]

theorem not_isHeading_gateMark_append (gate : String) : ¬ IsHeading (gateMark ++ gate) := by
  simp [IsHeading, gateMark, headingStart]

theorem not_isHeading_closing : ¬ IsHeading rule.closing := by
  delta SubsetRule.closing
  simp [IsHeading, headingStart]

theorem countP_isHeading_cons_empty (lines : List String) :
    ("" :: lines).countP (fun l => IsHeading l) = lines.countP (fun l => IsHeading l) :=
  List.countP_cons_of_neg (by decide)

theorem countP_isHeading_lines (d : MissingGates) :
    (d.lines rule).countP (fun l => IsHeading l) = 1 := by
  simp [MissingGates.lines, isHeading_heading, not_isHeading_closing, countP_isHeading_cons_empty,
    not_isHeading_gateMark_append, List.countP_append, List.countP_map, Function.comp_def]

theorem countP_isHeading_diagnosticLines (rule : SubsetRule) (ds : List MissingGates) :
    (diagnosticLines rule ds).countP (fun l => IsHeading l) = ds.length := by
  have hblocks : (blockLines rule ds).countP (fun l => IsHeading l) = ds.length := by
    simp only [blockLines, List.countP_flatMap, Function.comp_def, countP_isHeading_cons_empty,
      countP_isHeading_lines, List.map_const', List.sum_replicate_nat, Nat.mul_one]
  cases ds with
  | nil => exact countP_isHeading_cons_empty []
  | cons d ds => rwa [blockLines_cons, countP_isHeading_cons_empty] at hblocks

end Lines

/-- As long as the names hold no line breaks, the text tells what was reported: lines with a mark
tell the gates, headings the number of profiles, and all of the text together the whole list. -/
theorem diagnostic_text_tells_diagnostics {rule : SubsetRule} (hbaseline : OneLine rule.baseline)
    (hderived : OneLine rule.derived) {ds : List MissingGates} (h : ∀ d ∈ ds, d.Listable) :
    (∀ ds' : List MissingGates, (∀ d ∈ ds', d.Listable) →
      diagnosticText ds rule = diagnosticText ds' rule → ds = ds') ∧
    (textLines (diagnosticText ds rule)).filterMap listedGate? =
      ds.flatMap MissingGates.missing ∧
    (textLines (diagnosticText ds rule)).countP (fun l => IsHeading l) = ds.length := by
  rw [textLines_diagnosticText hbaseline hderived h]
  refine ⟨fun ds' h' heq => ?_, filterMap_listedGate?_diagnosticLines rule ds,
    countP_isHeading_diagnosticLines rule ds⟩
  have hlines := congrArg textLines heq
  rw [textLines_diagnosticText hbaseline hderived h,
    textLines_diagnosticText hbaseline hderived h'] at hlines
  exact diagnosticLines_inj hlines

namespace Sample

/-- The names of the gates look like other parts of the text. -/
def oddDiagnostics : List MissingGates :=
  [.of .selfManagedHA ["ERROR: ClusterProfile \"Hypershift\"", "  - A"], .of .hypershift [""]]

def plainDiagnostics : List MissingGates := [.of .selfManagedHA ["A", "B"]]

end Sample

theorem diagnostic_text_tells_odd_diagnostics :
    (∀ d ∈ Sample.oddDiagnostics, d.Listable) ∧ (∀ d ∈ Sample.plainDiagnostics, d.Listable) ∧
    diagnosticText Sample.oddDiagnostics .standard ≠
      diagnosticText Sample.plainDiagnostics .standard ∧
    (textLines (diagnosticText Sample.oddDiagnostics .standard)).filterMap listedGate? =
      ["ERROR: ClusterProfile \"Hypershift\"", "  - A", ""] ∧
    (textLines (diagnosticText Sample.oddDiagnostics .standard)).countP (fun l => IsHeading l) =
      2 := by
  have hodd : ∀ d ∈ Sample.oddDiagnostics, d.Listable := by
    simp only [Sample.oddDiagnostics, List.forall_mem_cons]
    exact ⟨⟨by decide, by decide⟩, ⟨by decide, by decide⟩, nofun⟩
  have hplain : ∀ d ∈ Sample.plainDiagnostics, d.Listable :=
    List.forall_mem_singleton.mpr ⟨by decide, by decide⟩
  obtain ⟨hinj, hgates, hcount⟩ := diagnostic_text_tells_diagnostics
    (show OneLine SubsetRule.standard.baseline by decide)
    (show OneLine SubsetRule.standard.derived by decide) hodd
  refine ⟨hodd, hplain, fun heq => ?_, hgates, hcount⟩
  exact absurd (hinj _ hplain heq) (by decide)

end FeatureGates
