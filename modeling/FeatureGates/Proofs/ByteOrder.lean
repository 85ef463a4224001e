import FeatureGates.Text.Utf8
import Mathlib.Data.String.Basic
import Mathlib.Order.Compare

namespace FeatureGates

/-!
# The order of texts

Texts are compared character by character. Their bytes come in the same order, since no character
is spelled by the first bytes of another one and greater characters are spelled by greater bytes.
-/

namespace Bytes

open String (utf8EncodeChar)

theorem ofString_ofList (cs : List Char) :
    ofString (String.ofList cs) = cs.flatMap utf8EncodeChar := by
  simp [ofString, String.toUTF8, List.utf8Encode]

/-- Two characters differ in their bytes before the shorter spelling ends. -/
theorem utf8EncodeChar_append_lt {c d : Char} (h : c < d) (as bs : Bytes) :
    utf8EncodeChar c ++ as < utf8EncodeChar d ++ bs := by
  have hlt : c.val.toNat < d.val.toNat := h
  have hmax : d.val.toNat < 1114112 := by
    rcases d.valid with hd | hd
    · exact hd.trans (by decide)
    · exact hd.2
  -- The bytes are digits to the base 64, so all quotients are taken by that base.
  have hbase : ∀ n, n / 4096 = n / 64 / 64 ∧ n / 262144 = n / 64 / 64 / 64 := by
    intro n
    omega
  rw [String.utf8EncodeChar.eq_1, String.utf8EncodeChar.eq_1]
  split_ifs <;>
    simp only [List.cons_append, List.nil_append, List.cons_lt_cons_iff, UInt8.lt_iff_toNat_lt,
      ← UInt8.toNat_inj, UInt8.toNat_ofNat', (hbase _).1, (hbase _).2] <;> omega

theorem flatMap_utf8EncodeChar_lt {cs ds : List Char} (h : cs < ds) :
    cs.flatMap utf8EncodeChar < ds.flatMap utf8EncodeChar := by
  induction h with
  | @nil d ds =>
      obtain ⟨b, bs, hb⟩ := List.exists_cons_of_ne_nil (String.utf8EncodeChar_ne_nil (c := d))
      rw [List.flatMap_nil, List.flatMap_cons, hb]
      exact .nil
  | rel hlt => exact utf8EncodeChar_append_lt hlt _ _
  | cons _ ih =>
      rw [List.flatMap_cons, List.flatMap_cons]
      exact List.append_left_lt ih

theorem ofString_lt_ofString {s t : String} (h : s < t) : ofString s < ofString t := by
  have hbytes := flatMap_utf8EncodeChar_lt (String.lt_iff_toList_lt.mp h)
  rwa [← ofString_ofList, ← ofString_ofList, String.ofList_toList, String.ofList_toList] at hbytes

theorem ofString_lt_iff {s t : String} : ofString s < ofString t ↔ s < t := by
  refine ⟨fun h => ?_, ofString_lt_ofString⟩
  rcases lt_trichotomy s t with hst | rfl | hts
  · exact hst
  · exact absurd h (List.lt_irrefl _)
  · exact absurd h (List.lt_asymm (ofString_lt_ofString hts))

theorem compare_eq_lt_iff {s t : String} : compare s t = .lt ↔ ofString s < ofString t := by
  rw [ofString_lt_iff]
  exact compare_lt_iff_lt

end Bytes

end FeatureGates
