import EntitySql.Text.Blank
import Mathlib.Data.List.TakeWhile

/-!
# Words and parts of a text

How a text falls apart.  A text holds words with blanks between any two of them and perhaps around
them, and one list of words only.  Between the occurrences of a separator it holds parts, again one
list only, so that what is joined by a separator is got back by splitting at it.

    words s = ws ↔ Spaced ws s                              (words_eq_iff)
    words (oneSpaced ws) = ws  where no word has a blank    (words_oneSpaced)
    splitAt sep s = parts ↔ Joined sep parts s              (splitAt_eq_iff)
-/

namespace EntitySql.Text

/-! ## Words -/

/-- There is something in the text, and nothing of it is blank. -/
def IsUnbroken (w : List Char) : Prop := w ≠ [] ∧ ∀ c ∈ w, isBlank c = false

/-- The text holds the words in order, any two of them apart by blanks, with blanks around them or
none. -/
inductive Spaced : List (List Char) → List Char → Prop
  | blanks {s : List Char} (blank : ∀ c ∈ s, isBlank c = true) : Spaced [] s
  | word {left w rest : List Char} {ws : List (List Char)} (blank : ∀ c ∈ left, isBlank c = true)
      (unbroken : IsUnbroken w) (others : Spaced ws rest)
      (apart : ∀ c ∈ rest.head?, isBlank c = true) : Spaced (w :: ws) (left ++ w ++ rest)

theorem words_blanks_append {left : List Char} (h : ∀ c ∈ left, isBlank c = true) (s : List Char) :
    words (left ++ s) = words s := by
  induction left with
  | nil => rfl
  | cons c left ih =>
    obtain ⟨hc, hleft⟩ := List.forall_mem_cons.1 h
    rw [List.cons_append, words_blank_cons hc, ih hleft]

/-- What the fold over a text has open is what stands in front of its first blank. -/
theorem foldr_wordStep (s : List Char) :
    s.foldr wordStep ([], []) = (s.takeWhile (!isBlank ·), words (s.dropWhile (!isBlank ·))) := by
  induction s with
  | nil => rfl
  | cons c s ih =>
    by_cases hc : isBlank c = true
    · have hwords := words_blank_cons hc s
      simp only [List.takeWhile_cons, List.dropWhile_cons, hc, Bool.not_true, Bool.false_eq_true,
        if_false, hwords]
      rw [List.foldr_cons, wordStep, if_pos hc]
      rfl
    · simp [wordStep, hc, ih]

/-- A word that stands in front is the first one. -/
theorem words_unbroken_append {w rest : List Char} (hw : IsUnbroken w)
    (hrest : ∀ c ∈ rest.head?, isBlank c = true) : words (w ++ rest) = w :: words rest := by
  obtain ⟨hne, hblank⟩ := hw
  have hopen : ∀ c ∈ w, (!isBlank c) = true := fun c hc => by rw [hblank c hc]; rfl
  have htake : (w ++ rest).takeWhile (!isBlank ·) = w := by
    rw [List.takeWhile_append_of_pos hopen]
    cases rest with
    | nil => simp
    | cons c rest => simp [hrest c rfl]
  have hdrop : (w ++ rest).dropWhile (!isBlank ·) = rest := by
    rw [List.dropWhile_append_of_pos hopen]
    cases rest with
    | nil => rfl
    | cons c rest => simp [hrest c rfl]
  rw [words, foldr_wordStep, htake, hdrop]
  simp [hne]

theorem Spaced.words_eq {ws : List (List Char)} {s : List Char} (h : Spaced ws s) :
    words s = ws := by
  induction h with
  | blanks hblank =>
    have hwords := words_blanks_append hblank []
    rwa [List.append_nil] at hwords
  | word hblank hw _ hapart ih =>
    rw [List.append_assoc, words_blanks_append hblank, words_unbroken_append hw hapart, ih]

/-- A text with a character of some kind in it has others in front, if any, then a run of that kind,
and behind the run either nothing or another one. -/
theorem exists_first_run {p : Char → Bool} {s : List Char} (h : ∃ c ∈ s, p c = true) :
    ∃ gap run rest, s = gap ++ run ++ rest ∧ rest.length < s.length ∧ (∀ c ∈ gap, p c = false) ∧
      (run ≠ [] ∧ ∀ c ∈ run, p c = true) ∧ ∀ c ∈ rest.head?, p c = false := by
  have hsplit := s.takeWhile_append_dropWhile (p := (!p ·))
  have hgap : ∀ c ∈ s.takeWhile (!p ·), p c = false := fun c hc => by
    simpa using List.mem_takeWhile_imp hc
  cases hmid : s.dropWhile (!p ·) with
  | nil =>
    obtain ⟨c, hc, hp⟩ := h
    rw [hmid, List.append_nil] at hsplit
    rw [hgap c (hsplit.symm ▸ hc)] at hp
    cases hp
  | cons c mid =>
    have hc : p c = true := by simpa [hmid] using List.head?_dropWhile_not (!p ·) s
    refine ⟨s.takeWhile (!p ·), c :: mid.takeWhile p, mid.dropWhile p, ?_, ?_, hgap,
      ⟨List.cons_ne_nil _ _, List.forall_mem_cons.2 ⟨hc, fun d hd => List.mem_takeWhile_imp hd⟩⟩,
      fun d hd => ?_⟩
    · rw [List.append_assoc, List.cons_append, List.takeWhile_append_dropWhile, ← hmid, hsplit]
    · have hmid' := (mid.dropWhile_sublist p).length_le
      have hs := congrArg List.length hsplit
      rw [hmid, List.length_append, List.length_cons] at hs
      omega
    · simpa [Option.mem_def.1 hd] using List.head?_dropWhile_not p mid

/-- Every text holds words: blanks, then a word up to the next blank, then the words of the rest. -/
theorem exists_spaced (s : List Char) : ∃ ws, Spaced ws s := by
  by_cases h : ∃ c ∈ s, (!isBlank c) = true
  · obtain ⟨left, w, rest, hs, hshort, hleft, ⟨hne, hw⟩, hrest⟩ := exists_first_run h
    obtain ⟨ws, hws⟩ := exists_spaced rest
    simp only [Bool.not_eq_eq_eq_not, Bool.not_true, Bool.not_false] at hleft hw hrest
    exact ⟨w :: ws, hs ▸ .word hleft ⟨hne, hw⟩ hws hrest⟩
  · exact ⟨[], .blanks (by simpa using h)⟩
termination_by s.length

/-- The words of a text are the only ones that it holds. -/
theorem words_eq_iff {s : List Char} {ws : List (List Char)} : words s = ws ↔ Spaced ws s := by
  constructor
  · rintro rfl
    obtain ⟨ws, h⟩ := exists_spaced s
    exact h.words_eq ▸ h
  · exact Spaced.words_eq

theorem Spaced.isUnbroken {ws : List (List Char)} {s : List Char} (h : Spaced ws s) :
    ∀ w ∈ ws, IsUnbroken w := by
  induction h with
  | blanks => exact fun w hw => absurd hw List.not_mem_nil
  | word _ hw _ _ ih => exact List.forall_mem_cons.2 ⟨hw, ih⟩

/-- A character of the text is one of a word, or blank. -/
theorem Spaced.mem_iff {ws : List (List Char)} {s : List Char} (h : Spaced ws s) {c : Char}
    (hc : isBlank c = false) : c ∈ s ↔ ∃ w ∈ ws, c ∈ w := by
  have hnot : ∀ l : List Char, (∀ d ∈ l, isBlank d = true) → c ∉ l := fun l hl hmem =>
    absurd (hl c hmem) (by rw [hc]; decide)
  induction h with
  | blanks hblank => simp [hnot _ hblank]
  | word hblank _ _ _ ih => simp [hnot _ hblank, ih]

/-! ## Words with one blank between -/

/-- The words with one space between any two of them. -/
def oneSpaced (ws : List (List Char)) : List Char := [' '].intercalate ws

theorem spaced_oneSpaced {ws : List (List Char)} (h : ∀ w ∈ ws, IsUnbroken w) :
    Spaced ws (oneSpaced ws) := by
  have hnone : ∀ c ∈ ([] : List Char), isBlank c = true := fun c hc => absurd hc List.not_mem_nil
  induction ws with
  | nil => exact .blanks hnone
  | cons w ws ih =>
    obtain ⟨hw, hws⟩ := List.forall_mem_cons.1 h
    cases ws with
    | nil => simpa [oneSpaced] using Spaced.word hnone hw (.blanks hnone) (by simp)
    | cons v ws =>
      have hgap : Spaced (v :: ws) (' ' :: oneSpaced (v :: ws)) := by
        rw [← words_eq_iff, words_blank_cons (by decide), words_eq_iff]
        exact ih hws
      have hall := Spaced.word hnone hw hgap fun c hc => by
        rw [← Option.some.inj hc]
        decide
      simpa [oneSpaced] using hall

theorem words_oneSpaced {ws : List (List Char)} (h : ∀ w ∈ ws, IsUnbroken w) :
    words (oneSpaced ws) = ws :=
  (spaced_oneSpaced h).words_eq

theorem map_oneSpaced {f : Char → Char} (hspace : f ' ' = ' ') (ws : List (List Char)) :
    (oneSpaced ws).map f = oneSpaced (ws.map (List.map f)) := by
  induction ws with
  | nil => rfl
  | cons w ws ih =>
    cases ws with
    | nil => simp [oneSpaced]
    | cons v ws => simpa [oneSpaced, hspace] using ih

/-! ## Parts -/

/-- The text is the parts with the separator between any two of them, and there is at least one
part, none with the separator in it. -/
structure Joined (sep : Char) (parts : List (List Char)) (s : List Char) : Prop where
  nonempty : parts ≠ []
  plain : ∀ part ∈ parts, sep ∉ part
  joined : s = [sep].intercalate parts

theorem splitAt_eq_splitOn (sep : Char) (s : List Char) : splitAt sep s = s.splitOn sep := by
  induction s with
  | nil => exact (List.splitOn_nil sep).symm
  | cons c s ih =>
    rw [splitAt, ih, List.splitOn_cons_eq_if_modifyHead]
    by_cases hc : c = sep
    · simp [hc]
    · cases hparts : s.splitOn sep with
      | nil => exact absurd hparts (List.splitOn_ne_nil sep s)
      | cons part parts => simp [hc]

theorem notMem_of_mem_splitAt {sep : Char} {s part : List Char} (h : part ∈ splitAt sep s) :
    sep ∉ part := by
  induction s generalizing part with
  | nil => simp_all [splitAt]
  | cons c s ih =>
    unfold splitAt at h
    split at h
    · rcases List.mem_cons.1 h with rfl | h
      · exact List.not_mem_nil
      · exact ih h
    · next hc =>
      split at h
      · next hnil => exact absurd hnil (splitAt_ne_nil sep s)
      · next first parts hparts =>
        rw [hparts] at ih
        rcases List.mem_cons.1 h with rfl | h
        · have hfirst := ih List.mem_cons_self
          simp [Ne.symm hc, hfirst]
        · exact ih (List.mem_cons_of_mem first h)

/-- A text falls into just the parts of which it is joined. -/
theorem splitAt_eq_iff {sep : Char} {s : List Char} {parts : List (List Char)} :
    splitAt sep s = parts ↔ Joined sep parts s := by
  constructor
  · rintro rfl
    refine ⟨splitAt_ne_nil sep s, fun part hpart => notMem_of_mem_splitAt hpart, ?_⟩
    rw [splitAt_eq_splitOn]
    exact (List.intercalate_splitOn sep).symm
  · rintro ⟨hne, hplain, rfl⟩
    rw [splitAt_eq_splitOn]
    exact List.splitOn_intercalate sep hplain hne

/-- Where no part is empty, separators stand alone, and neither in front nor at the end. -/
theorem Joined.single {sep : Char} {parts : List (List Char)} {s : List Char}
    (h : Joined sep parts s) (hne : ∀ part ∈ parts, part ≠ []) :
    s.head? ≠ some sep ∧ s.getLast? ≠ some sep ∧ ¬ [sep, sep] <:+: s := by
  have hparts : s.splitOn sep = parts := by
    rw [← splitAt_eq_splitOn]
    exact splitAt_eq_iff.2 h
  have hempty : ∀ front back, s = front ++ sep :: back →
      [] ∉ front.splitOn sep ∧ [] ∉ back.splitOn sep := by
    rintro front back rfl
    have hnone : [] ∉ (front ++ sep :: back).splitOn sep := fun hmem => hne [] (hparts ▸ hmem) rfl
    rw [List.splitOn_append_cons_self, List.mem_append, not_or] at hnone
    exact hnone
  have hnil : [] ∈ ([] : List Char).splitOn sep := by simp
  refine ⟨fun hhead => ?_, fun hlast => ?_, ?_⟩
  · obtain ⟨back, rfl⟩ := List.head?_eq_some_iff.1 hhead
    exact (hempty [] back rfl).1 hnil
  · obtain ⟨front, rfl⟩ := List.getLast?_eq_some_iff.1 hlast
    exact (hempty front [] rfl).2 hnil
  · rintro ⟨front, back, rfl⟩
    refine (hempty front (sep :: back) (by simp)).2 ?_
    simp [List.splitOn_cons_eq_if_modifyHead]

end EntitySql.Text
