/-!
# Bracketed identifiers

A name in SQL text stands between brackets, and a closing bracket inside it is written
twice.  `readIdentifier` takes one bracketed name from the front of a text.

    readIdentifier s = some (n, r) ↔ s is n between brackets and then r,
      and r does not start with a closing bracket           (readIdentifier_eq_some_iff)
-/

namespace EntitySql.Sql

/-- The characters of a name with every closing bracket written twice. -/
def doubleBrackets : List Char → List Char
  | [] => []
  | c :: rest => if c = ']' then ']' :: ']' :: doubleBrackets rest else c :: doubleBrackets rest

/-- A name between brackets. -/
def quoteIdentifier (name : String) : String :=
  String.ofList ('[' :: (doubleBrackets name.toList ++ [']']))

/-- The rest of a bracketed name after its opening bracket, and what follows the name: two
closing brackets stand for one, a single one ends the name. -/
def readBracketed : List Char → Option (List Char × List Char)
  | [] => none
  | ']' :: ']' :: rest => (readBracketed rest).map fun (name, r) => (']' :: name, r)
  | c :: rest =>
    if c = ']' then some ([], rest)
    else (readBracketed rest).map fun (name, r) => (c :: name, r)

/-- Takes a bracketed name from the front of a text. -/
def readIdentifier : List Char → Option (List Char × List Char)
  | '[' :: rest => readBracketed rest
  | _ => none

/-! ## Laws -/

@[simp] theorem toList_quoteIdentifier (name : String) :
    (quoteIdentifier name).toList = '[' :: (doubleBrackets name.toList ++ [']']) := by
  simp [quoteIdentifier]

/-- A closing bracket that no other follows ends the name. -/
theorem readBracketed_close {r : List Char} (h : r.head? ≠ some ']') :
    readBracketed (']' :: r) = some ([], r) := by
  cases r with
  | nil => rfl
  | cons c r =>
    have hc : c ≠ ']' := by simpa using h
    simp [readBracketed, hc]

/-- The doubled brackets of a name leave the reader where it was, whatever follows them. -/
theorem readBracketed_doubleBrackets_append (name s : List Char) :
    readBracketed (doubleBrackets name ++ s) =
      (readBracketed s).map fun (n, r) => (name ++ n, r) := by
  induction name with
  | nil => simp [doubleBrackets]
  | cons c name ih =>
    by_cases hc : c = ']'
    · subst hc
      simp [doubleBrackets, readBracketed, ih, Function.comp_def]
    · simp [doubleBrackets, hc, readBracketed, ih, Function.comp_def]

theorem readBracketed_doubleBrackets (name : List Char) {r : List Char}
    (h : r.head? ≠ some ']') :
    readBracketed (doubleBrackets name ++ ']' :: r) = some (name, r) := by
  simp [readBracketed_doubleBrackets_append, readBracketed_close h]

/-- A quoted name is read back, whatever text follows it but a closing bracket. -/
theorem readIdentifier_quote (name : String) {r : List Char} (h : r.head? ≠ some ']') :
    readIdentifier ((quoteIdentifier name).toList ++ r) = some (name.toList, r) := by
  simp [readIdentifier, readBracketed_doubleBrackets _ h]

/-- What is read up to the end of a name is the name with its brackets doubled, the bracket that
ends it, and something that does not go on with another one. -/
theorem eq_of_readBracketed {s n r : List Char} (h : readBracketed s = some (n, r)) :
    s = doubleBrackets n ++ ']' :: r ∧ r.head? ≠ some ']' := by
  fun_induction readBracketed s generalizing n with
  | case1 => cases h
  | case2 rest ih =>
    obtain ⟨⟨m, q⟩, hread, heq⟩ := Option.map_eq_some_iff.1 h
    cases heq
    obtain ⟨hrest, hr⟩ := ih hread
    exact ⟨by simp [doubleBrackets, hrest], hr⟩
  | case3 rest hnext =>
    cases h
    refine ⟨rfl, fun hhead => ?_⟩
    obtain ⟨s, rfl⟩ := List.head?_eq_some_iff.1 hhead
    exact hnext s rfl rfl
  | case4 c rest hnext hc ih =>
    obtain ⟨⟨m, q⟩, hread, heq⟩ := Option.map_eq_some_iff.1 h
    cases heq
    obtain ⟨hrest, hr⟩ := ih hread
    exact ⟨by simp [doubleBrackets, hc, hrest], hr⟩

/-- A name is taken from the front of a text just if it stands there in quotes and no closing
bracket follows them. -/
theorem readIdentifier_eq_some_iff {s n r : List Char} :
    readIdentifier s = some (n, r) ↔
      s = (quoteIdentifier (String.ofList n)).toList ++ r ∧ r.head? ≠ some ']' := by
  constructor
  · intro h
    unfold readIdentifier at h
    split at h
    · obtain ⟨hrest, hr⟩ := eq_of_readBracketed h
      exact ⟨by simp [hrest], hr⟩
    · cases h
  · rintro ⟨rfl, hr⟩
    have hread := readIdentifier_quote (String.ofList n) hr
    rwa [String.toList_ofList] at hread

end EntitySql.Sql
