import FeatureGates.Proofs.JsonLayout
import FeatureGates.Proofs.Parts
import FeatureGates.Proofs.Writing

namespace FeatureGates

/-!
# Replacing a file

A value is written in place of whatever a file held, but not before the directories above the file
are there and the value is known to have a text. It has none if a mapping in it has a key that
names no member.
-/

namespace Tree

/-! ## Values without a text -/

/-- Neither a floating-point number nor a tagged value. -/
def IsPlain : Tree → Prop
  | float _ | tagged _ _ => False
  | _ => True

/-- The tree has no floating-point number and no tag in it. -/
def Plain (t : Tree) : Prop := t.Everywhere IsPlain

/-- A key that is no text and cannot be written out as one. -/
inductive NamesNoMember : Tree → Prop
  | null : NamesNoMember null
  | sequence (items : List Tree) : NamesNoMember (sequence items)
  | mapping (entries : List (Tree × Tree)) : NamesNoMember (mapping entries)

/-- Some mapping, at whatever depth, has a key that names no member. -/
def HasUnnamedMember (t : Tree) : Prop :=
  ∃ entries, (mapping entries).PartOf t ∧ ∃ e ∈ entries, e.1.NamesNoMember

theorem hasUnnamedMember_iff {t : Tree} :
    t.HasUnnamedMember ↔
      (∃ entries, t = mapping entries ∧ ∃ e ∈ entries, e.1.NamesNoMember) ∨
        ∃ c ∈ t.children, c.HasUnnamedMember := by
  constructor
  · rintro ⟨entries, hpart, hkey⟩
    rcases partOf_iff.mp hpart with rfl | ⟨c, hc, hpart⟩
    · exact .inl ⟨entries, rfl, hkey⟩
    · exact .inr ⟨c, hc, entries, hpart, hkey⟩
  · rintro (⟨entries, rfl, hkey⟩ | ⟨c, hc, entries, hpart, hkey⟩)
    · exact ⟨entries, .refl, hkey⟩
    · exact ⟨entries, hpart.trans (.of_mem_children hc), hkey⟩

theorem hasUnnamedMember_sequence {items : List Tree} :
    (sequence items).HasUnnamedMember ↔ ∃ u ∈ items, u.HasUnnamedMember := by
  rw [hasUnnamedMember_iff]
  simp [children]

theorem hasUnnamedMember_mapping {entries : List (Tree × Tree)} :
    (mapping entries).HasUnnamedMember ↔ ∃ e ∈ entries,
      (e.1.NamesNoMember ∨ e.1.HasUnnamedMember) ∨ e.2.HasUnnamedMember := by
  rw [hasUnnamedMember_iff]
  simp only [children, mapping.injEq, exists_eq_left', List.mem_append, List.mem_map]
  grind

/-- A key that names a member has nothing in it. -/
theorem memberName?_eq_none_iff {key : Tree} (h : key.IsPlain) :
    key.memberName? = none ↔ key.NamesNoMember ∨ key.HasUnnamedMember := by
  constructor
  · cases key with
    | null => exact fun _ => .inl .null
    | sequence items => exact fun _ => .inl (.sequence items)
    | mapping entries => exact fun _ => .inl (.mapping entries)
    | float _ | tagged _ _ => exact h.elim
    | _ => nofun
  · rw [hasUnnamedMember_iff]
    rintro ((_ | _ | _) | ⟨_, rfl, _⟩ | ⟨c, hc, _⟩)
    iterate 4 rfl
    cases key with
    | sequence _ | mapping _ => rfl
    | tagged _ _ => exact h.elim
    | _ => cases hc

theorem jsonItems?_eq_none_iff {ts : List Tree} :
    jsonItems? ts = none ↔ ∃ u ∈ ts, u.json? = none := by
  induction ts with
  | nil => simp [jsonItems?]
  | cons u ts ih =>
      rw [List.exists_mem_cons_iff, ← ih, jsonItems?]
      cases u.json? <;> cases jsonItems? ts <;> simp

theorem jsonMembers?_eq_none_iff {es : List (Tree × Tree)} :
    jsonMembers? es = none ↔ ∃ e ∈ es, e.1.memberName? = none ∨ e.2.json? = none := by
  induction es with
  | nil => simp [jsonMembers?]
  | cons e es ih =>
      obtain ⟨k, v⟩ := e
      rw [List.exists_mem_cons_iff, ← ih, jsonMembers?]
      cases k.memberName? <;> cases v.json? <;> cases jsonMembers? es <;> simp

/-- A plain value has a text unless some key in it names no member. -/
theorem json?_eq_none_iff {t : Tree} (h : t.Plain) : t.json? = none ↔ t.HasUnnamedMember := by
  induction t using induction_children with
  | h t ih =>
      have hchildren : ∀ c ∈ t.children, (c.json? = none ↔ c.HasUnnamedMember) :=
        fun c hc => ih c hc (h.of_partOf (.of_mem_children hc))
      cases t with
      | sequence items =>
          rw [json?, Option.map_eq_none_iff, jsonItems?_eq_none_iff, hasUnnamedMember_sequence]
          exact exists_congr fun u => and_congr_right fun hu => hchildren u hu
      | mapping entries =>
          rw [json?, Option.map_eq_none_iff, jsonMembers?_eq_none_iff, hasUnnamedMember_mapping]
          refine exists_congr fun e => and_congr_right fun he => ?_
          obtain ⟨hkey, hvalue⟩ := (everywhere_mapping.mp h).2 e he
          have hmem : e.2 ∈ (mapping entries).children :=
            List.mem_append_right _ (List.mem_map.mpr ⟨e, he, rfl⟩)
          rw [memberName?_eq_none_iff (hkey _ .refl), hchildren _ hmem]
      | float _ | tagged _ _ => exact (h _ .refl).elim
      | _ =>
          rw [hasUnnamedMember_iff]
          simp [json?, children]

end Tree

namespace Path

/-! ## The paths above a path -/

theorem dropPiece_suffix (reversed : Bytes) : dropPiece reversed <:+ reversed :=
  (List.tail_suffix _).trans (List.dropWhile_suffix _)

theorem trimEnd_suffix (n : Nat) (reversed : Bytes) : trimEnd n reversed <:+ reversed := by
  induction n generalizing reversed with
  | zero => exact List.suffix_refl _
  | succ n ih =>
      rw [trimEnd]
      split
      · exact (ih _).trans (dropPiece_suffix reversed)
      · exact List.suffix_refl _

theorem prefix_of_parent? {p q : Path} (h : p.parent? = some q) : q <+: p := by
  simp only [parent?] at h
  split at h
  next =>
    obtain rfl := Option.some.inj h
    have hbody := ((trimEnd_suffix p.length _).trans (dropPiece_suffix _)).trans
      (trimEnd_suffix p.length (p.drop p.rootLength).reverse)
    have hrest := List.reverse_prefix.mpr hbody
    rw [List.reverse_reverse] at hrest
    have hwhole := (List.prefix_append_right_inj (p.take p.rootLength)).mpr hrest
    rwa [List.take_append_drop] at hwhole
  next =>
    split at h
    next =>
      obtain rfl := Option.some.inj h
      exact List.nil_prefix
    next => cases h

/-- A path above another is a part of it that it begins with. -/
theorem Above.isPrefix {q p : Path} (h : Above q p) : q <+: p := by
  induction h using Relation.TransGen.head_induction_on with
  | single h => exact prefix_of_parent? h
  | head h _ ih => exact (prefix_of_parent? h).trans ih

theorem ancestors_cases (p : Path) : p.ancestors = [] ∨ ∃ ps, p.ancestors = p :: ps := by
  unfold ancestors
  cases p.length with
  | zero => exact .inl rfl
  | succ n =>
      unfold ancestors.go
      cases p.parent? with
      | none => exact .inl rfl
      | some q => exact .inr ⟨_, rfl⟩

end Path

open FileSystem

variable {fs fs' : FileSystem} {path : Path}

/-! ## One call and the next -/

/-- The directory that the path names a file in is there. -/
def ParentStands (fs : FileSystem) (path : Path) : Prop :=
  ∀ parent, path.parent? = some parent → parent ≠ [] → fs.isDirectory parent = true

theorem ensureParent_of_parentStands (h : ParentStands fs path) :
    ensureParent fs path = (.ok (), fs) := by
  unfold ensureParent
  cases hp : path.parent? with
  | none => rfl
  | some parent =>
      dsimp only
      split
      next => rfl
      next hne =>
        unfold ensureDirectory makeDirectories
        rcases parent.ancestors_cases with hps | ⟨ps, hps⟩
        · rw [hps]
          rfl
        · rw [hps, makeAll_of_isDirectory (h parent hp hne)]

theorem writeJson_again {j : Json} (h : writeJson fs path (some j) = (.ok (), fs')) :
    writeJson fs' path (some j) = (.ok (), fs') := by
  obtain ⟨fs₁, hparent, ⟨l, hopens, rfl⟩ | ⟨writes?, hopens, htakes, rfl⟩⟩ :=
    writeJson_eq_ok_iff.mp h
  · have hkeeps := (hopens.put j.fileContents).1
    have hsame := (fs₁.put_put l (.file j.fileContents) (.file j.fileContents)).symm
    exact writeJson_eq_ok_iff.mpr
      ⟨_, ensureParent_of_keeps hparent hkeeps, .inl ⟨l, hopens.again _, hsame⟩⟩
  · exact writeJson_eq_ok_iff.mpr
      ⟨_, ensureParent_of_keeps hparent (Within.refl _), .inr ⟨writes?, hopens, htakes, rfl⟩⟩

theorem exists_json_of_writeJson {value : Option Json}
    (h : writeJson fs path value = (.ok (), fs')) : ∃ j, value = some j := by
  cases value with
  | some j => exact ⟨j, rfl⟩
  | none =>
      unfold writeJson at h
      split at h <;> cases h

theorem writeJson_eq_value_error_iff {fs₁ : FileSystem}
    (h : ensureParent fs path = (.ok (), fs₁)) {value : Option Json} :
    (writeJson fs path value).1 = .error (.value path) ↔ value = none := by
  cases value with
  | none => simp [writeJson, h]
  | some j =>
      rcases hc : fs₁.create path with ⟨cause | out, fs₂⟩
      · simp [writeJson, h, hc]
      · obtain ⟨hopens, rfl⟩ := create_eq_ok_iff.mp hc
        rcases out with l | writes?
        · simp [writeJson_of_opens_file h hopens]
        · rw [writeJson_of_opens_device h hopens]
          rcases writes? with _ | _ | _ | n <;> simp [deviceOutcome]

theorem writeJson_error {value : Option Json} {e : JsonFileError}
    (h : writeJson fs path value = (.error e, fs')) : fs' = (ensureParent fs path).2 := by
  cases value with
  | none =>
      unfold writeJson at h
      rcases hp : ensureParent fs path with ⟨e | _, fs₁⟩ <;> rw [hp] at h <;> cases h <;> rfl
  | some j =>
      rcases writeJson_cases fs path with ⟨result, hresult⟩ | ⟨l, _, hput⟩
      · cases (hresult j).symm.trans h
        rfl
      · cases (hput j).symm.trans h

/-- The error is found before anything is written. -/
inductive JsonFileError.BeforeWriting : JsonFileError → Prop
  | directory (path : Path) (cause : FileError) : BeforeWriting (directory path cause)
  | value (path : Path) : BeforeWriting (value path)
  | creation (path : Path) (cause : FileError) : BeforeWriting (creation path cause)

/-- A call that succeeds leaves exactly the lines of the value in the file, from which the value is
read back, and the same call once more changes nothing. Once the directories are there, the value is
refused if some mapping in it has a key that names no member, and otherwise written wherever a file
can be opened. Before anything is written, no more than directories that begin the path can have
been made, and in no case does anything else change. -/
theorem writeJson_replaces_whole_or_nothing (fs : FileSystem) (path : Path) {t : Tree}
    (hplain : t.Plain) :
    (∀ fs', writeJson fs path t.json? = (.ok (), fs') →
      (∃ j text, t.WritesAs j ∧ Json.read? text = some j ∧
        text.toList = ['\n'].intercalate j.layout ∧
        (fs'.regular? path = some (Bytes.ofString (text ++ "\n")) ∨ fs'.LeadsToDevice path)) ∧
      writeJson fs' path t.json? = (.ok (), fs')) ∧
    (∀ fs₁, ensureParent fs path = (.ok (), fs₁) →
      ((writeJson fs path t.json?).1 = .error (.value path) ↔ t.HasUnnamedMember) ∧
      (¬ t.HasUnnamedMember → ∀ l, Opens fs₁ path (.file l) →
        (writeJson fs path t.json?).1 = .ok ())) ∧
    (ParentStands fs path → ensureParent fs path = (.ok (), fs)) ∧
    (∀ e fs', writeJson fs path t.json? = (.error e, fs') → e.BeforeWriting →
      MakesOnly (Path.Above · path) fs fs') ∧
    WritesOnly path fs (writeJson fs path t.json?).2 ∧
    ∀ q, Path.Above q path → q <+: path := by
  have hnone := Tree.json?_eq_none_iff hplain
  refine ⟨fun fs' h => ?_, fun fs₁ h => ⟨?_, fun hnamed l hopens => ?_⟩,
    ensureParent_of_parentStands, fun e fs' h _ => ?_, writesOnly_writeJson fs path _,
    fun q => Path.Above.isPrefix⟩
  · obtain ⟨j, hj⟩ := exists_json_of_writeJson h
    rw [hj] at h ⊢
    exact ⟨⟨j, j.text, Tree.writesAs_of_json? hj, j.read?_text, j.text_eq, holds_of_writeJson h⟩,
      writeJson_again h⟩
  · rw [writeJson_eq_value_error_iff h, hnone]
  · obtain ⟨j, hj⟩ := Option.ne_none_iff_exists'.mp (mt hnone.mp hnamed)
    rw [hj, writeJson_eq_ok_iff.mpr ⟨fs₁, h, .inl ⟨l, hopens, rfl⟩⟩]
  · rw [writeJson_error h]
    exact makesOnly_ensureParent fs path

namespace Sample

/-- A directory with a report in it that is longer than the next one. -/
def reported : FileSystem where
  entries := [([⟨[0x6F], by decide⟩], .directory),
    ([⟨[0x6F], by decide⟩, ⟨[0x76], by decide⟩], .file (List.replicate 99 0x20))]
  distinct := by decide
  workingDirectory := []

def reportedPath : Path := [0x6F, slash, 0x76]

/-- A value with one key at some depth. -/
def keyed (key : Tree) : Tree := .sequence [.mapping [(key, .null)]]

theorem plain_null : Tree.null.Plain := Tree.everywhere_iff.mpr ⟨trivial, nofun⟩

theorem plain_keyed {key : Tree} (h : key.Plain) : (keyed key).Plain := by
  refine Tree.everywhere_iff.mpr ⟨trivial, fun c hc => ?_⟩
  obtain rfl := List.mem_singleton.mp hc
  simpa [Tree.IsPlain] using ⟨h, plain_null⟩

/-- A quotation mark, a line feed and a control are among its characters. -/
def oddKey : String := "k\"\n\u0001é"

/-- What the file holds once a value with the text for its key has been written. -/
def keyedText : String := "[\n  \x7b\n    \"k\\\"\\n\\u0001é\": null\n  \x7d\n]"

theorem hasUnnamedMember_keyed : (keyed .null).HasUnnamedMember :=
  ⟨_, .of_mem_children List.mem_cons_self, _, List.mem_cons_self, .null⟩

theorem parentStands_reported : ParentStands reported reportedPath := by
  intro parent hparent _
  cases hparent
  decide

end Sample

theorem writeJson_replaces_sample_report :
    (Sample.keyed (.string Sample.oddKey)).Plain ∧ (Sample.keyed .null).Plain ∧
    (∃ fs', writeJson Sample.reported Sample.reportedPath
        (Sample.keyed (.string Sample.oddKey)).json? = (.ok (), fs') ∧
      fs'.regular? Sample.reportedPath = some (Bytes.ofString (Sample.keyedText ++ "\n")) ∧
      (Sample.keyed (.string Sample.oddKey)).WritesAs (.array [.object [(Sample.oddKey, .null)]]) ∧
      Json.read? Sample.keyedText = some (.array [.object [(Sample.oddKey, .null)]]) ∧
      writeJson fs' Sample.reportedPath (Sample.keyed (.string Sample.oddKey)).json? =
        (.ok (), fs')) ∧
    (writeJson Sample.reported Sample.reportedPath (Sample.keyed .null).json?).1 =
      .error (.value Sample.reportedPath) := by
  have htext : (Sample.keyed (.string Sample.oddKey)).Plain :=
    Sample.plain_keyed (Tree.everywhere_string.mpr trivial)
  have hnull : (Sample.keyed .null).Plain := Sample.plain_keyed Sample.plain_null
  obtain ⟨hsuccess, _⟩ :=
    writeJson_replaces_whole_or_nothing Sample.reported Sample.reportedPath htext
  obtain ⟨_, hvalue, hparent, _⟩ :=
    writeJson_replaces_whole_or_nothing Sample.reported Sample.reportedPath hnull
  refine ⟨htext, hnull, ?_, ?_⟩
  · have hok : (writeJson Sample.reported Sample.reportedPath
        (Sample.keyed (.string Sample.oddKey)).json?).1 = .ok () := rfl
    have hbytes : (writeJson Sample.reported Sample.reportedPath
        (Sample.keyed (.string Sample.oddKey)).json?).2.regular? Sample.reportedPath =
          some (Bytes.ofString (Sample.keyedText ++ "\n")) := by decide +kernel
    obtain ⟨fs', hfs'⟩ : ∃ fs', writeJson Sample.reported Sample.reportedPath
        (Sample.keyed (.string Sample.oddKey)).json? = (.ok (), fs') := ⟨_, Prod.ext hok rfl⟩
    rw [hfs'] at hbytes
    obtain ⟨⟨j, text, hj, hback, -, hfile⟩, hagain⟩ := hsuccess fs' hfs'
    have hread := (Json.array [.object [(Sample.oddKey, .null)]]).read?_text
    rw [show (Json.array [.object [(Sample.oddKey, .null)]]).text = Sample.keyedText by
      decide +kernel] at hread
    refine ⟨fs', hfs', hbytes, ?_, hread, hagain⟩
    rcases hfile with hfile | ⟨l, d, hl, hdevice, -⟩
    · obtain rfl : Sample.keyedText = text := by
        simpa using Bytes.ofString_injective (Option.some.inj (hbytes.symm.trans hfile))
      rwa [Option.some.inj (hback.symm.trans hread)] at hj
    · obtain ⟨l', hl', hnode⟩ := regular?_eq_some_iff.mp hbytes
      cases hl.symm.trans hl'
      cases hdevice.symm.trans hnode
  · have hnone := (hvalue _ (hparent Sample.parentStands_reported)).1
    exact hnone.mpr Sample.hasUnnamedMember_keyed

end FeatureGates
