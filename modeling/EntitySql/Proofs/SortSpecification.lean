import EntitySql.Order
import EntitySql.Proofs.Alike
import EntitySql.Proofs.Words

/-!
# Sort specifications

A specification has terms with commas between them, and a term is a column with a direction behind
it or none, which is then the ascending one.  Blanks may stand around the words of a term, and a
direction may be in any case of its letters.  Whatever is written in this way is read as the terms
that it writes, and nothing else is read: a specification is refused just if a term of it has no
words, has more than two, or has a second one that is no direction.

    ofWords? (words part) = some t ↔ t.Writes part          (ofWords?_eq_some_iff)
    ofWords? (words part) = none ↔ Malformed part           (ofWords?_eq_none_iff)
    parse e spec = .ok terms ↔ Specifies terms spec         (reads_specifications)
-/

namespace EntitySql

open EntitySql.Text
open List (Forall₂)

/-- A word spells a direction, in any case of its letters. -/
def Direction.Spells (d : Direction) (word : List Char) : Prop :=
  word.map Char.toLower = d.sql.toList.map Char.toLower

namespace OrderTerm

/-! ## What terms are written as -/

/-- A name that can stand in a specification: neither empty nor with a blank or a comma in it. -/
def IsSortName (name : String) : Prop := IsUnbroken name.toList ∧ ',' ∉ name.toList

/-- A term is written as its column and its direction, with blanks around and between them; the
ascending direction may be left out. -/
inductive Writes : OrderTerm → List Char → Prop
  | column {column : String} {part : List Char} (h : Spaced [column.toList] part) :
      Writes ⟨column, .ascending⟩ part
  | directed {column : String} {direction : Direction} {word part : List Char}
      (spells : direction.Spells word) (h : Spaced [column.toList, word] part) :
      Writes ⟨column, direction⟩ part

/-- A part of a specification that writes no term. -/
inductive Malformed : List Char → Prop
  | empty {part : List Char} (h : Spaced [] part) : Malformed part
  | direction {column word part : List Char} {others : List (List Char)}
      (h : Spaced (column :: word :: others) part) (none : ∀ d : Direction, ¬ d.Spells word) :
      Malformed part
  | third {column word extra part : List Char} {others : List (List Char)}
      (h : Spaced (column :: word :: extra :: others) part) : Malformed part

/-- A specification writes terms: at least one, all with names that can stand in it, and with commas
between them. -/
structure Specifies (terms : List OrderTerm) (spec : String) : Prop where
  nonempty : terms ≠ []
  names : ∀ t ∈ terms, IsSortName t.column
  writes : ∃ parts, Forall₂ Writes terms parts ∧ spec.toList = [','].intercalate parts

/-- The specification of some terms with one blank in each and none elsewhere. -/
def specification (terms : List OrderTerm) : String :=
  ",".intercalate (terms.map fun t => t.column ++ " " ++ t.direction.sql)

theorem writes_column_direction {t : OrderTerm} (hname : IsUnbroken t.column.toList) :
    t.Writes (t.column ++ " " ++ t.direction.sql).toList := by
  have hdirection : IsUnbroken t.direction.sql.toList := by
    have hplain : t.direction.sql.toList.all (!isBlank ·) = true := by
      cases t.direction <;> decide
    exact ⟨by cases t.direction <;> decide, by simpa using hplain⟩
  have htext : (t.column ++ " " ++ t.direction.sql).toList =
      oneSpaced [t.column.toList, t.direction.sql.toList] := by
    simp [oneSpaced]
  rw [htext]
  exact .directed rfl (spaced_oneSpaced (by simp [hname, hdirection]))

/-- Terms are written by their specification. -/
theorem specifies_specification {terms : List OrderTerm} (hne : terms ≠ [])
    (hnames : ∀ t ∈ terms, IsSortName t.column) : Specifies terms (specification terms) := by
  refine ⟨hne, hnames, terms.map fun t => (t.column ++ " " ++ t.direction.sql).toList, ?_, ?_⟩
  · rw [List.forall₂_map_right_iff, List.forall₂_same]
    exact fun t ht => writes_column_direction (hnames t ht).1
  · rw [specification, String.toList_intercalate, List.map_map]
    rfl

/-! ## Reading one term -/

theorem direction?_eq_some_iff {word : List Char} {d : Direction} :
    direction? word = some d ↔ d.Spells word := by
  have hname : ∀ name : String, lowerAscii (String.ofList word) = name ↔
      word.map Char.toLower = name.toList := by
    intro name
    rw [lowerAscii, ← String.toList_inj, String.toList_map, String.toList_ofList]
  have hdiffer : "asc".toList ≠ "desc".toList := by decide
  simp only [direction?, hname]
  cases d with
  | ascending =>
    have hspells : Direction.ascending.Spells word ↔ word.map Char.toLower = "asc".toList := Iff.rfl
    rw [hspells]
    split <;> simp_all
  | descending =>
    have hspells : Direction.descending.Spells word ↔ word.map Char.toLower = "desc".toList :=
      Iff.rfl
    rw [hspells]
    split <;> simp_all

theorem ofWords?_eq_some_iff {part : List Char} {t : OrderTerm} :
    ofWords? (words part) = some t ↔ t.Writes part := by
  constructor
  · intro h
    have hspaced : Spaced (words part) part := words_eq_iff.1 rfl
    unfold ofWords? at h
    split at h
    · next column hwords =>
      cases h
      rw [hwords, ← String.toList_ofList (l := column)] at hspaced
      exact .column hspaced
    · next column word hwords =>
      obtain ⟨d, hd, rfl⟩ := Option.map_eq_some_iff.1 h
      rw [hwords, ← String.toList_ofList (l := column)] at hspaced
      exact .directed (direction?_eq_some_iff.1 hd) hspaced
    · cases h
  · rintro (h | ⟨hspells, h⟩)
    · rw [h.words_eq, ofWords?, String.ofList_toList]
    · rw [h.words_eq, ofWords?, direction?_eq_some_iff.2 hspells, Option.map_some,
        String.ofList_toList]

/-- A part is read as a term or it is malformed. -/
theorem ofWords?_eq_none_iff {part : List Char} :
    ofWords? (words part) = none ↔ Malformed part := by
  have hnone : ∀ word, direction? word = none ↔ ∀ d : Direction, ¬ d.Spells word := fun word => by
    simp only [Option.eq_none_iff_forall_ne_some, ne_eq, direction?_eq_some_iff]
  constructor
  · intro h
    have hspaced : Spaced (words part) part := words_eq_iff.1 rfl
    match hwords : words part with
    | [] => exact .empty (hwords ▸ hspaced)
    | [column] => rw [hwords] at h; cases h
    | [column, word] =>
      rw [hwords, ofWords?, Option.map_eq_none_iff] at h
      exact .direction (hwords ▸ hspaced) ((hnone word).1 h)
    | column :: word :: extra :: others => exact .third (hwords ▸ hspaced)
  · rintro (h | ⟨h, hword⟩ | h)
    · rw [h.words_eq, ofWords?]
      all_goals simp
    · rename_i others
      rw [h.words_eq]
      cases others with
      | nil => rw [ofWords?, (hnone _).2 hword, Option.map_none]
      | cons extra others => rfl
    · rw [h.words_eq]
      rfl

/-! ## Reading a specification -/

section

variable {t : OrderTerm} {part : List Char}

theorem Writes.isUnbroken (h : t.Writes part) : IsUnbroken t.column.toList := by
  cases h with
  | column h | directed _ h => exact h.isUnbroken _ List.mem_cons_self

/-- A column stands in what is written of its term. -/
theorem Writes.mem_of_column (h : t.Writes part) {c : Char} (hc : c ∈ t.column.toList) :
    c ∈ part := by
  have hblank := h.isUnbroken.2 c hc
  cases h with
  | column h | directed _ h => exact (h.mem_iff hblank).2 ⟨_, List.mem_cons_self, hc⟩

/-- There is a comma in what is written of a term only if it is in the column. -/
theorem Writes.notMem_comma (h : t.Writes part) (hname : ',' ∉ t.column.toList) : ',' ∉ part := by
  have hblank : isBlank ',' = false := by decide
  cases h with
  | column h => simpa [h.mem_iff hblank] using hname
  | directed hspells h =>
    rename_i direction word
    have hword : ',' ∉ word := by
      intro hmem
      have hlower := List.mem_map_of_mem (f := Char.toLower) hmem
      rw [hspells] at hlower
      cases direction <;> exact absurd hlower (by decide)
    simp [h.mem_iff hblank, hname, hword]

end

theorem readAll?_eq_some_iff {spec : String} {terms : List OrderTerm} :
    readAll? spec = some terms ↔ Specifies terms spec := by
  have hread : readAll? spec = some terms ↔ Forall₂ Writes terms (splitAt ',' spec.toList) := by
    rw [readAll?, Outcome.forall₂_mapM?_iff]
    simp only [ofWords?_eq_some_iff]
    exact ⟨.flip, .flip⟩
  rw [hread]
  constructor
  · intro h
    obtain ⟨hne, hplain, hjoined⟩ := splitAt_eq_iff.1 (Eq.refl (splitAt ',' spec.toList))
    refine ⟨fun hnil => ?_, fun t ht => ?_, _, h, hjoined⟩
    · rw [hnil] at h
      exact hne (List.forall₂_nil_left_iff.1 h)
    · obtain ⟨part, hpart, hwrites⟩ := exists_of_forall₂ h ht
      exact ⟨hwrites.isUnbroken, fun hcomma => hplain part hpart (hwrites.mem_of_column hcomma)⟩
  · rintro ⟨hne, hnames, parts, hparts, hjoined⟩
    have hsplit : splitAt ',' spec.toList = parts := by
      refine splitAt_eq_iff.2 ⟨fun hnil => ?_, fun part hpart => ?_, hjoined⟩
      · rw [hnil] at hparts
        exact hne (List.forall₂_nil_right_iff.1 hparts)
      · obtain ⟨t, ht, hwrites⟩ := exists_of_forall₂ (R := flip Writes) hparts.flip hpart
        exact hwrites.notMem_comma (hnames t ht).2
    rwa [hsplit]

theorem readAll?_eq_none_iff {spec : String} :
    readAll? spec = none ↔ ∃ part ∈ splitAt ',' spec.toList, Malformed part := by
  rw [readAll?, Outcome.mapM?_eq_none_iff]
  simp only [ofWords?_eq_none_iff]

/-- A specification of an entity is read as the terms that it writes and no others; terms of any
names that can stand in one have a specification.  It is refused, with the whole of its text, just
if one of its parts writes no term. -/
theorem reads_specifications (e : Entity) (spec : String) :
    (∀ terms, parse e spec = .ok terms ↔ Specifies terms spec) ∧
      (∀ terms : List OrderTerm, terms ≠ [] → (∀ t ∈ terms, IsSortName t.column) →
        parse e (specification terms) = .ok terms) ∧
      (parse e spec = .error (.refused e.table .find (.invalidOrder spec)) ↔
        ∃ parts, Joined ',' parts spec.toList ∧ ∃ part ∈ parts, Malformed part) := by
  have hok : ∀ spec terms, parse e spec = .ok terms ↔ Specifies terms spec := by
    intro spec terms
    rw [← readAll?_eq_some_iff]
    unfold parse
    split <;> simp_all [refuse]
  have hnone : parse e spec = .error (.refused e.table .find (.invalidOrder spec)) ↔
      readAll? spec = none := by
    unfold parse
    split <;> simp_all [refuse]
  refine ⟨hok spec, fun terms hne hnames => ?_, ?_⟩
  · exact (hok _ terms).2 (specifies_specification hne hnames)
  rw [hnone, readAll?_eq_none_iff]
  constructor
  · rintro ⟨part, hpart, h⟩
    exact ⟨_, splitAt_eq_iff.1 rfl, part, hpart, h⟩
  · rintro ⟨parts, hparts, part, hpart, h⟩
    exact ⟨part, splitAt_eq_iff.2 hparts ▸ hpart, h⟩

/-- A column may have the name of a direction. -/
example : readAll? "\tName  dEsC ,asc" = some [⟨"Name", .descending⟩, ⟨"asc", .ascending⟩] := by
  decide +kernel

end OrderTerm

end EntitySql
