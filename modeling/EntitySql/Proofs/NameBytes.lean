import EntitySql.Text.Order
import Mathlib.Order.Basic

/-!
# Names and their bytes

Names are compared by the code points of their characters.  That is the order of their bytes in
UTF-8: of two characters the one with the lower code point has the lower byte at the first place
where their bytes differ, and has such a place before it ends.

    c < d → utf8EncodeChar c ++ r < utf8EncodeChar d ++ q   (utf8EncodeChar_append_lt)
    utf8 s < utf8 t ↔ s < t                                 (utf8_lt_utf8_iff)
    names.Nodup → the bytes of (sortNames names) ascend     (pairwise_utf8_sortNames)
-/

namespace EntitySql.Text

/-- The bytes of a name in UTF-8. -/
def utf8 (name : String) : List UInt8 := name.toList.flatMap String.utf8EncodeChar

section

variable {m n : Nat} (hm : m < 256) (hn : n < 256)
include hm hn

theorem ofNat_lt_ofNat_iff : UInt8.ofNat m < UInt8.ofNat n ↔ m < n := by
  rw [UInt8.lt_iff_toNat_lt, UInt8.toNat_ofNat_of_lt' hm, UInt8.toNat_ofNat_of_lt' hn]

theorem ofNat_eq_ofNat_iff : UInt8.ofNat m = UInt8.ofNat n ↔ m = n := by
  rw [← UInt8.toNat_inj, UInt8.toNat_ofNat_of_lt' hm, UInt8.toNat_ofNat_of_lt' hn]

end

/-- The bytes of a lower character come first, whatever follows them. -/
theorem utf8EncodeChar_append_lt {c d : Char} (h : c < d) (r q : List UInt8) :
    String.utf8EncodeChar c ++ r < String.utf8EncodeChar d ++ q := by
  have hlt : c.val.toNat < d.val.toNat := h
  have hlast : d.val.toNat < 0x110000 := by
    rcases d.valid with hd | ⟨_, hd⟩
    · exact Nat.lt_trans hd (by decide)
    · exact hd
  have hdigits : ∀ n : Nat, n / 4096 = n / 64 / 64 ∧ n / 262144 = n / 64 / 64 / 64 := by
    intro n
    simp only [Nat.div_div_eq_div_mul, and_self]
  unfold String.utf8EncodeChar
  dsimp only
  generalize c.val.toNat = m at *
  generalize d.val.toNat = n at *
  -- Sequences of different lengths differ in the first byte, those of one length in some digit.
  split_ifs
  all_goals
    simp (disch := omega) only [List.cons_append, List.nil_append, List.cons_lt_cons_iff,
      ofNat_lt_ofNat_iff, ofNat_eq_ofNat_iff, hdigits]
    omega

theorem flatMap_utf8EncodeChar_lt {s t : List Char} (h : s < t) :
    s.flatMap String.utf8EncodeChar < t.flatMap String.utf8EncodeChar := by
  induction h with
  | nil =>
    rename_i d t
    rw [List.flatMap_nil, List.flatMap_cons]
    cases hd : String.utf8EncodeChar d with
    | nil => exact absurd hd String.utf8EncodeChar_ne_nil
    | cons b bs => exact List.nil_lt_cons b _
  | cons _ ih =>
    rw [List.flatMap_cons, List.flatMap_cons]
    exact List.append_left_lt ih
  | rel hcd =>
    rw [List.flatMap_cons, List.flatMap_cons]
    exact utf8EncodeChar_append_lt hcd _ _

/-- Of two different names one comes before the other. -/
theorem lt_or_lt_of_ne {s t : String} (h : s ≠ t) : s < t ∨ t < s := by
  refine Classical.byContradiction fun hnot => h ?_
  obtain ⟨hst, hts⟩ := not_or.1 hnot
  exact String.le_antisymm (String.not_lt.1 hts) (String.not_lt.1 hst)

/-- One name comes before another just if its bytes do. -/
theorem utf8_lt_utf8_iff {s t : String} : utf8 s < utf8 t ↔ s < t := by
  have hmono : ∀ {s t : String}, s < t → utf8 s < utf8 t := fun h =>
    flatMap_utf8EncodeChar_lt (String.lt_iff.1 h)
  refine ⟨fun h => ?_, hmono⟩
  have hne : s ≠ t := fun heq => List.lt_irrefl (utf8 t) (heq ▸ h)
  rcases lt_or_lt_of_ne hne with hlt | hgt
  · exact hlt
  · exact absurd (hmono hgt) (List.lt_asymm h)

/-- Sorted names ascend by their bytes. -/
theorem pairwise_utf8_sortNames {names : List String} (h : names.Nodup) :
    ((sortNames names).map utf8).Pairwise (· < ·) := by
  rw [List.pairwise_map]
  have hnodup : (sortNames names).Nodup := (sortNames_perm names).nodup_iff.2 h
  refine ((pairwise_sortNames names).and hnodup).imp fun ⟨hle, hne⟩ => ?_
  exact utf8_lt_utf8_iff.2 ((lt_or_lt_of_ne hne).resolve_right (String.not_lt.2 hle))

end EntitySql.Text
