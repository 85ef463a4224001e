import FeatureGates.Proofs.Reading
import Mathlib.Data.List.Forall2
import Mathlib.Data.List.Nodup
import Mathlib.Data.List.Pairwise

namespace FeatureGates

/-!
# Running through the files

Either every file becomes a manifest with a key of its own, or the run stops at the first one that
does not, which is the last file it looks at.
-/

namespace Manifest

/-- The keys of the manifests that have one. -/
def keys (ms : List Manifest) : List (ClusterProfile × String) := ms.filterMap key?

@[simp] theorem keys_nil : keys [] = [] := rfl

@[simp] theorem keys_append (ms ns : List Manifest) : keys (ms ++ ns) = keys ms ++ keys ns :=
  List.filterMap_append

theorem keys_cons_of_eq_none {m : Manifest} (h : m.key? = none) (ms : List Manifest) :
    keys (m :: ms) = keys ms := List.filterMap_cons_none h

theorem keys_cons_of_eq_some {m : Manifest} {k : ClusterProfile × String} (h : m.key? = some k)
    (ms : List Manifest) : keys (m :: ms) = k :: keys ms := List.filterMap_cons_some h

theorem mem_keys {ms : List Manifest} {k : ClusterProfile × String} :
    k ∈ keys ms ↔ ∃ m ∈ ms, m.key? = some k := List.mem_filterMap

theorem key?_eq_some_iff {m : Manifest} {k : ClusterProfile × String} :
    m.key? = some k ↔ ∃ e, m.entry = some e ∧ (e.profile, e.featureSet) = k :=
  Option.map_eq_some_iff

theorem eq_of_key?_eq {ms : List Manifest} (h : (keys ms).Nodup) {m n : Manifest} (hm : m ∈ ms)
    (hn : n ∈ ms) {k : ClusterProfile × String} (hmk : m.key? = some k)
    (hnk : n.key? = some k) : m = n := by
  have hpair := List.pairwise_filterMap.mp h
  have hsymm : Std.Symm fun a b : Manifest =>
      ∀ j, a.key? = some j → ∀ j', b.key? = some j' → j ≠ j' :=
    ⟨fun a b hab j hj j' hj' => (hab j' hj' j hj).symm⟩
  by_contra hne
  exact hpair.forall hm hn hne k hmk k hnk rfl

theorem rival?_eq_none_iff {earlier : List Manifest} {m : Manifest}
    {k : ClusterProfile × String} (hk : m.key? = some k) :
    rival? earlier m = none ↔ k ∉ keys earlier := by
  simp only [rival?, List.find?_eq_none, mem_keys, not_exists, not_and, hk, Bool.and_eq_true,
    beq_iff_eq, Option.isSome_iff_exists]
  exact ⟨fun h n hn hnk => h n hn ⟨k, hnk⟩ hnk, fun h n hn _ hnk => h n hn hnk⟩

theorem of_rival?_eq_some {earlier : List Manifest} {m n : Manifest}
    (h : rival? earlier m = some n) : n ∈ earlier ∧ n.key? = m.key? := by
  have hp := List.find?_some h
  simp only [Bool.and_eq_true, beq_iff_eq] at hp
  exact ⟨List.mem_of_find?_eq_some h, hp.2⟩

theorem duplicateError?_eq_none_iff {earlier : List Manifest} {m : Manifest} :
    m.duplicateError? earlier = none ↔ ∀ k, m.key? = some k → k ∉ keys earlier := by
  cases hm : m.entry with
  | none => simp [duplicateError?, key?, hm]
  | some e =>
      have hk : m.key? = some (e.profile, e.featureSet) := by simp [key?, hm]
      cases hr : rival? earlier m with
      | none => simpa [duplicateError?, hm, hr, hk] using (rival?_eq_none_iff hk).mp hr
      | some n =>
          have hmem : (e.profile, e.featureSet) ∈ keys earlier := by
            obtain ⟨hn, hnk⟩ := of_rival?_eq_some hr
            exact mem_keys.mpr ⟨n, hn, hnk.trans hk⟩
          simp [duplicateError?, hm, hr, hk, hmem]

/-- The blame goes to the later manifest, and the error names the only earlier one with its key. -/
theorem duplicateError?_eq_some_iff {earlier : List Manifest} (h : (keys earlier).Nodup)
    {m : Manifest} {e : ManifestError} :
    m.duplicateError? earlier = some e ↔
      ∃ k, m.key? = some k ∧ ∃ first ∈ earlier, first.key? = some k ∧
        e = .duplicateEntry k.1 k.2 first.path m.path := by
  constructor
  · intro he
    unfold duplicateError? at he
    split at he
    next entry first hm hr =>
      cases he
      have hk : m.key? = some (entry.profile, entry.featureSet) := by simp [key?, hm]
      obtain ⟨hfirst, hkey⟩ := of_rival?_eq_some hr
      exact ⟨_, hk, first, hfirst, hkey.trans hk, rfl⟩
    next => cases he
  · rintro ⟨k, hk, first, hfirst, hkey, rfl⟩
    obtain ⟨entry, hm, rfl⟩ := key?_eq_some_iff.mp hk
    cases hr : rival? earlier m with
    | none => exact absurd (mem_keys.mpr ⟨first, hfirst, hkey⟩) ((rival?_eq_none_iff hk).mp hr)
    | some n =>
        obtain ⟨hn, hnk⟩ := of_rival?_eq_some hr
        obtain rfl := eq_of_key?_eq h hn hfirst (hnk.trans hk) hkey
        simp [duplicateError?, hm, hr]

theorem nodup_keys_concat_iff {earlier : List Manifest} {m : Manifest}
    (h : (keys earlier).Nodup) :
    (keys (earlier ++ [m])).Nodup ↔ m.duplicateError? earlier = none := by
  rw [duplicateError?_eq_none_iff, keys_append, List.nodup_append]
  cases hk : m.key? with
  | none =>
      simp [keys_cons_of_eq_none hk, h]
  | some k =>
      simp only [keys_cons_of_eq_some hk, keys_nil, h, List.nodup_singleton, List.mem_singleton,
        true_and]
      exact ⟨fun hne j hj hmem => by cases hj; exact hne _ hmem _ rfl rfl,
        fun hne a ha b hb hab => hne k rfl (hb ▸ hab ▸ ha)⟩

end Manifest

variable {read : Path → Except ManifestError Manifest}

/-- The files become manifests one after another, each with a key that none before it has. -/
inductive Loads (read : Path → Except ManifestError Manifest) :
    List Manifest → List Path → List Manifest → Prop
  | nil (earlier : List Manifest) : Loads read earlier [] []
  | cons {earlier : List Manifest} {p : Path} {ps : List Path} {m : Manifest} {ms : List Manifest}
      (hr : read p = .ok m) (hd : m.duplicateError? earlier = none)
      (h : Loads read (earlier ++ [m]) ps ms) : Loads read earlier (p :: ps) (m :: ms)

/-- A file ends the run: what the run still logs, and the fault. -/
inductive Stops (read : Path → Except ManifestError Manifest) (earlier : List Manifest) (p : Path) :
    List LogEvent → ManifestError → Prop
  | unread {e : ManifestError} (hr : read p = .error e) : Stops read earlier p [] e
  | duplicate {m : Manifest} {e : ManifestError} (hr : read p = .ok m)
      (hd : m.duplicateError? earlier = some e) : Stops read earlier p [m.logEvent] e

namespace Loading

theorem from_append {earlier : List Manifest} {ps : List Path} {ms : List Manifest}
    (h : Loads read earlier ps ms) (rest : List Path) :
    Loading.from read earlier (ps ++ rest) =
      ⟨ms.map Manifest.logEvent ++ (Loading.from read (earlier ++ ms) rest).log,
        (Loading.from read (earlier ++ ms) rest).outcome⟩ := by
  induction h with
  | nil earlier => simp
  | cons hr hd _ ih => simp [Loading.from, hr, hd, ih, List.append_assoc]

theorem from_of_loads {earlier : List Manifest} {ps : List Path} {ms : List Manifest}
    (h : Loads read earlier ps ms) :
    Loading.from read earlier ps = ⟨ms.map Manifest.logEvent, .ok (earlier ++ ms)⟩ := by
  simpa [Loading.from] using from_append h []

theorem from_of_stops {earlier : List Manifest} {pre : List Path} {ms : List Manifest} {p : Path}
    {log : List LogEvent} {e : ManifestError} (h : Loads read earlier pre ms)
    (hs : Stops read (earlier ++ ms) p log e) (post : List Path) :
    Loading.from read earlier (pre ++ p :: post) =
      ⟨ms.map Manifest.logEvent ++ log, .error e⟩ := by
  rw [from_append h]
  cases hs with
  | unread hr => simp [Loading.from, hr]
  | duplicate hr hd => simp [Loading.from, hr, hd]

end Loading

theorem loads_or_stops (read : Path → Except ManifestError Manifest) (earlier : List Manifest)
    (ps : List Path) :
    (∃ ms, Loads read earlier ps ms) ∨
      ∃ pre p post ms log e, ps = pre ++ p :: post ∧ Loads read earlier pre ms ∧
        Stops read (earlier ++ ms) p log e := by
  induction ps generalizing earlier with
  | nil => exact .inl ⟨[], .nil earlier⟩
  | cons p ps ih =>
      cases hr : read p with
      | error e =>
          exact .inr ⟨[], p, ps, [], [], e, rfl, .nil earlier, .unread hr⟩
      | ok m =>
          cases hd : m.duplicateError? earlier with
          | some e =>
              exact .inr ⟨[], p, ps, [], [m.logEvent], e, rfl, .nil earlier,
                .duplicate hr (by simpa using hd)⟩
          | none =>
              rcases ih (earlier ++ [m]) with ⟨ms, h⟩ | ⟨pre, q, post, ms, log, e, rfl, h, hs⟩
              · exact .inl ⟨m :: ms, .cons hr hd h⟩
              · exact .inr ⟨p :: pre, q, post, m :: ms, log, e, rfl, .cons hr hd h,
                  by simpa using hs⟩

/-- Loading keeps the keys apart: they are distinct after it if they were before. -/
theorem loads_iff {earlier : List Manifest} (h : (Manifest.keys earlier).Nodup) {ps : List Path}
    {ms : List Manifest} :
    Loads read earlier ps ms ↔
      List.Forall₂ (fun p m => read p = .ok m) ps ms ∧ (Manifest.keys (earlier ++ ms)).Nodup := by
  constructor
  · intro hl
    induction hl with
    | nil earlier => exact ⟨.nil, by simpa using h⟩
    | cons hr hd _ ih =>
        obtain ⟨hread, hkeys⟩ := ih ((Manifest.nodup_keys_concat_iff h).mpr hd)
        exact ⟨.cons hr hread, by simpa [List.append_assoc] using hkeys⟩
  · rintro ⟨hread, hkeys⟩
    induction hread generalizing earlier with
    | nil => exact .nil earlier
    | @cons p m ps ms hr _ ih =>
        have hsplit : earlier ++ m :: ms = earlier ++ [m] ++ ms := by simp
        rw [hsplit] at hkeys
        -- What has been read so far keeps its keys apart, so the head is no duplicate.
        have hm : (Manifest.keys (earlier ++ [m])).Nodup := by
          rw [Manifest.keys_append] at hkeys
          exact (List.nodup_append.mp hkeys).1
        exact .cons hr ((Manifest.nodup_keys_concat_iff h).mp hm) (ih hm hkeys)

namespace Loading

theorem outcome_eq_ok_iff {ps : List Path} {ms : List Manifest} :
    (Loading.from read [] ps).outcome = .ok ms ↔ Loads read [] ps ms := by
  constructor
  · intro h
    rcases loads_or_stops read [] ps with ⟨ns, hl⟩ | ⟨pre, p, post, ns, log, e, rfl, hl, hs⟩
    · rw [from_of_loads hl] at h
      obtain rfl := Except.ok.inj h
      exact hl
    · rw [from_of_stops hl hs] at h
      cases h
  · intro hl
    rw [from_of_loads hl, List.nil_append]

end Loading

end FeatureGates
