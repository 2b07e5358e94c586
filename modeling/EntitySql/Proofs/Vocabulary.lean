import EntitySql.LikeMode
import EntitySql.Operator
import EntitySql.Proofs.Words

/-!
# Operators and modes in words

The texts that are taken for an operator or a pattern mode.  An operator has one or two spellings; a
text spells it in any case of the letters, with blanks around the words of a spelling and any number
of them between two.  A mode has one or two names, and a text is one of them in any case.  Every
other text is refused.

    isBlank c.toUpper = isBlank c                               (isBlank_toUpper)
    Operator.parse s = .ok o ↔ o.Spells s                       (Operator.parse_eq_ok_iff)
    LikeMode.parse s = .ok m ↔ m.Names s                        (LikeMode.parse_eq_ok_iff)
-/

namespace EntitySql

open EntitySql.Text

/-! ## Letters in upper case -/

namespace Text

/-- No letter is blank, in either case. -/
theorem isBlank_toUpper (c : Char) : isBlank c.toUpper = isBlank c := by
  by_cases h : 'a'.val ≤ c.val ∧ c.val ≤ 'z'.val
  · have hletter : c.toUpper = ⟨c.val + ('A'.val - 'a'.val), _⟩ := dif_pos h
    have hlow : 97 ≤ c.val.toNat := h.1
    have hhigh : c.val.toNat ≤ 122 := h.2
    have hupper : (c.val + ('A'.val - 'a'.val)).toNat = c.val.toNat - 32 := by
      have hshift : ('A'.val - 'a'.val).toNat = 4294967264 := by decide
      rw [UInt32.toNat_add, hshift]
      omega
    simp only [hletter, isBlank, Char.toNat, hupper]
    grind
  · have hother : c.toUpper = c := dif_neg h
    rw [hother]

theorem IsUnbroken.map_toUpper {w : List Char} (h : IsUnbroken w) :
    IsUnbroken (w.map Char.toUpper) := by
  refine ⟨by simpa using h.1, fun c hc => ?_⟩
  obtain ⟨d, hd, rfl⟩ := List.mem_map.1 hc
  rw [isBlank_toUpper, h.2 d hd]

end Text

/-! ## Operators -/

namespace Operator

/-- The spellings of an operator, in upper case. -/
def spellings : Operator → List String
  | .eq => [sql .eq, "=="]
  | .ne => [sql .ne, "<>"]
  | o => [sql o]

/-- A text has the words of a spelling, in any case of the letters. -/
def Spells (o : Operator) (s : String) : Prop :=
  ∃ t ∈ o.spellings, (words s.toList).map (List.map Char.toUpper) = words t.toList

theorem ofSql?_eq_some_iff {s : String} {o : Operator} : ofSql? s = some o ↔ s ∈ o.spellings := by
  constructor
  · intro h
    unfold ofSql? at h
    split at h
    · next hs =>
      cases h
      exact hs ▸ by decide
    · split at h
      · next hs =>
        cases h
        exact hs ▸ by decide
      · have hsql : o.sql = s := by simpa using List.find?_some h
        rw [← hsql]
        cases o <;> decide
  · intro h
    cases o <;> simp only [spellings, List.mem_cons, List.not_mem_nil, or_false] at h
    case eq | ne => rcases h with rfl | rfl <;> decide
    all_goals exact h ▸ by decide

theorem toList_normalized (s : String) :
    (normalized s).toList = oneSpaced ((words s.toList).map (List.map Char.toUpper)) := by
  have hinner : (words s.toList).map (String.toList ∘ String.ofList) = words s.toList :=
    (List.map_congr_left fun w _ => String.toList_ofList).trans (List.map_id _)
  rw [normalized, upperAscii, String.toList_map, String.toList_intercalate, List.map_map, hinner]
  exact map_oneSpaced (by decide) _

/-- The text is brought to the form of a spelling that has its words. -/
theorem normalized_eq_iff {o : Operator} {s t : String} (ht : t ∈ o.spellings) :
    normalized s = t ↔ (words s.toList).map (List.map Char.toUpper) = words t.toList := by
  have hform : t.toList = oneSpaced (words t.toList) := by
    cases o <;> simp only [spellings, List.mem_cons, List.not_mem_nil, or_false] at ht
    case eq | ne => rcases ht with rfl | rfl <;> decide
    all_goals exact ht ▸ by decide
  rw [← String.toList_inj, toList_normalized]
  constructor
  · intro h
    have hwords := congrArg words h
    rwa [words_oneSpaced] at hwords
    intro w hw
    obtain ⟨v, hv, rfl⟩ := List.mem_map.1 hw
    exact ((words_eq_iff.1 rfl).isUnbroken v hv).map_toUpper
  · intro h
    rw [h, ← hform]

/-- A text is read as the operator that it spells. -/
theorem parse_eq_ok_iff {s : String} {o : Operator} : parse s = .ok o ↔ o.Spells s := by
  have hparse : parse s = .ok o ↔ ofSql? (normalized s) = some o := by
    unfold parse
    split <;> simp_all
  rw [hparse, ofSql?_eq_some_iff]
  constructor
  · exact fun h => ⟨_, h, (normalized_eq_iff h).1 rfl⟩
  · rintro ⟨t, ht, hwords⟩
    exact (normalized_eq_iff ht).2 hwords ▸ ht

/-- An operator is spelled as in SQL. -/
theorem spells_sql (o : Operator) : o.Spells o.sql := parse_eq_ok_iff.1 (parse_sql o)

end Operator

/-! ## Modes -/

namespace LikeMode

/-- The first name of a mode. -/
def name : LikeMode → String
  | .raw => "raw"
  | .contains => "contains"
  | .startsWith => "startswith"
  | .endsWith => "endswith"

def names : LikeMode → List String
  | .startsWith => [name .startsWith, "starts_with"]
  | .endsWith => [name .endsWith, "ends_with"]
  | m => [name m]

/-- A text is a name of the mode, in any case of the letters. -/
def Names (m : LikeMode) (s : String) : Prop := lowerAscii s ∈ m.names

theorem ofName?_eq_some_iff {s : String} {m : LikeMode} : ofName? s = some m ↔ s ∈ m.names := by
  constructor
  · intro h
    unfold ofName? at h
    cases m <;> simp only [names, name, List.mem_cons, List.not_mem_nil, or_false] <;> grind
  · intro h
    cases m <;> simp only [names, name, List.mem_cons, List.not_mem_nil, or_false] at h
    case startsWith | endsWith => rcases h with rfl | rfl <;> decide
    all_goals exact h ▸ by decide

/-- A text is read as the mode that it names. -/
theorem parse_eq_ok_iff {s : String} {m : LikeMode} : parse s = .ok m ↔ m.Names s := by
  rw [Names, ← ofName?_eq_some_iff]
  unfold parse
  split <;> simp_all

/-- A mode is named by its first name. -/
theorem names_name (m : LikeMode) : m.Names m.name := by
  unfold Names
  cases m <;> decide +kernel

end LikeMode

end EntitySql
