/-!
# Blank characters and words

`isBlank` is the Unicode property `White_Space`.  `trim` drops blanks at both ends of a
text and `words` lists the maximal runs of other characters, in order.

    trim (left ++ s ++ right) = s  for blanks around what has none     (trim_surrounded)
-/

namespace EntitySql.Text

/-- The 25 characters of the Unicode property `White_Space`. -/
def isBlank (c : Char) : Bool :=
  let n := c.toNat
  (0x09 ≤ n && n ≤ 0x0d) || n == 0x20 || n == 0x85 || n == 0xa0 || n == 0x1680 ||
    (0x2000 ≤ n && n ≤ 0x200a) || n == 0x2028 || n == 0x2029 || n == 0x202f ||
    n == 0x205f || n == 0x3000

/-- A text without the blanks it starts with. -/
def trimLeft (s : List Char) : List Char := s.dropWhile isBlank

def trimRight (s : List Char) : List Char := (s.reverse.dropWhile isBlank).reverse

/-- A text without the blanks at its two ends. -/
def trim (s : List Char) : List Char := trimRight (trimLeft s)

/-- One step of `words`, from the right: the word that is still open, and those closed. -/
def wordStep (c : Char) (open_ : List Char × List (List Char)) : List Char × List (List Char) :=
  if isBlank c then ([], if open_.1.isEmpty then open_.2 else open_.1 :: open_.2)
  else (c :: open_.1, open_.2)

/-- The maximal runs of characters that are not blank, in order. -/
def words (s : List Char) : List (List Char) :=
  let (word, rest) := s.foldr wordStep ([], [])
  if word.isEmpty then rest else word :: rest

/-! ## Laws -/

/-- A blank in front opens no word. -/
theorem words_blank_cons {c : Char} (h : isBlank c = true) (s : List Char) :
    words (c :: s) = words s := by
  simp only [words, List.foldr_cons, wordStep, h, if_true]
  split <;> simp_all

/-- Blanks around a text without any are dropped, and nothing else is. -/
theorem trim_surrounded {left s right : List Char} (hleft : ∀ c ∈ left, isBlank c = true)
    (hs : ∀ c ∈ s, isBlank c = false) (hright : ∀ c ∈ right, isBlank c = true) :
    trim (left ++ s ++ right) = s := by
  have hblank : ∀ l : List Char, (∀ c ∈ l, isBlank c = true) → ∀ r : List Char,
      (l ++ r).dropWhile isBlank = r.dropWhile isBlank := fun l hl r =>
    List.dropWhile_append_of_pos hl
  have hfirst : ∀ l : List Char, (∀ c ∈ l, isBlank c = false) → l ≠ [] → ∀ r : List Char,
      (l ++ r).dropWhile isBlank = l ++ r := by
    intro l hl hne r
    cases l with
    | nil => exact absurd rfl hne
    | cons c l => simp [hl c List.mem_cons_self]
  have hreverse : ∀ c ∈ right.reverse, isBlank c = true := fun c hc =>
    hright c (List.mem_reverse.1 hc)
  rw [trim, trimLeft, trimRight, List.append_assoc, hblank left hleft]
  by_cases hnil : s = []
  · rw [hnil, List.nil_append, ← List.append_nil right, hblank right hright]
    rfl
  · have hlast : ∀ c ∈ s.reverse, isBlank c = false := fun c hc => hs c (List.mem_reverse.1 hc)
    rw [hfirst s hs hnil, List.reverse_append, hblank right.reverse hreverse,
      ← List.append_nil s.reverse, hfirst s.reverse hlast (by simpa using hnil), List.append_nil,
      List.reverse_reverse]

/-- The parts of a text between its occurrences of `sep`; one more than there are of those. -/
def splitAt (sep : Char) : List Char → List (List Char)
  | [] => [[]]
  | c :: rest =>
    if c = sep then [] :: splitAt sep rest
    else match splitAt sep rest with
      | [] => [[c]]
      | part :: parts => (c :: part) :: parts

theorem splitAt_ne_nil (sep : Char) (s : List Char) : splitAt sep s ≠ [] := by
  induction s with
  | nil => simp [splitAt]
  | cons c s ih =>
    unfold splitAt
    split
    · simp
    · split <;> simp

end EntitySql.Text
