import EntitySql.Proofs.Membership
import EntitySql.Text.Digits
import Mathlib.Data.List.Infix

/-!
# What patterns match

A pattern of `LIKE` is a text of characters that stand for themselves, of `%` for any text and `_`
for any character.  The character behind an escape character stands for itself, whatever it is, and
a pattern that ends in an escape character matches nothing.

The pattern of a value matches the texts that contain it, start with it or end with it, as its mode
says, whatever wildcards are in the value.  That holds for every escape character but one: where
`%` is the escape character, the wildcards that the mode adds no longer act as such, but escape
what is behind them.

    escape ≠ '%' → mode is not raw →
      (mode.pattern value escape matches text ↔ text has value where mode says)
                                                            (likeMatches_pattern_iff)
    o.check = .ok () → o.likeEscape = some escape →
      (LikesLiterally o ↔ escape ≠ '%')                      (likesLiterally_iff)
-/

namespace EntitySql

open EntitySql.Sql

/-! ## Patterns -/

namespace Sql

inductive LikePart
  | any
  | one
  | literal (c : Char)
deriving DecidableEq, Repr

/-- What a character stands for where it is not escaped. -/
def LikePart.ofChar (c : Char) : LikePart :=
  if c = '%' then .any else if c = '_' then .one else .literal c

/-- Reads a pattern, unless it ends in an escape character that escapes nothing. -/
def readPattern? (escape : Option Char) : List Char → Option (List LikePart)
  | [] => some []
  | [c] => if escape = some c then none else some [.ofChar c]
  | c :: d :: rest =>
    if escape = some c then (.literal d :: ·) <$> readPattern? escape rest
    else (.ofChar c :: ·) <$> readPattern? escape (d :: rest)

/-- Whether a text is made of what the parts of a pattern stand for. -/
def matchesParts : List LikePart → List Char → Bool
  | [], s => s.isEmpty
  | .any :: parts, s => s.tails.any (matchesParts parts)
  | .one :: parts, s =>
    match s with
    | [] => false
    | _ :: rest => matchesParts parts rest
  | .literal c :: parts, s =>
    match s with
    | [] => false
    | d :: rest => c = d && matchesParts parts rest

def likeMatches (text pattern : String) (escape : Option Char) : Bool :=
  match readPattern? escape pattern.toList with
  | some parts => matchesParts parts text.toList
  | none => false

theorem matchesParts_any_iff {parts : List LikePart} {s : List Char} :
    matchesParts (.any :: parts) s = true ↔ ∃ l r, s = l ++ r ∧ matchesParts parts r = true := by
  rw [matchesParts, List.any_eq_true]
  constructor
  · rintro ⟨r, hr, hparts⟩
    obtain ⟨l, rfl⟩ := (List.mem_tails r s).1 hr
    exact ⟨l, r, rfl, hparts⟩
  · rintro ⟨l, r, rfl, hparts⟩
    exact ⟨r, (List.mem_tails r _).2 (List.suffix_append l r), hparts⟩

/-- Characters that stand for themselves match the start of a text. -/
theorem matchesParts_literals_iff {value : List Char} {parts : List LikePart} {s : List Char} :
    matchesParts (value.map .literal ++ parts) s = true ↔
      ∃ r, s = value ++ r ∧ matchesParts parts r = true := by
  induction value generalizing s with
  | nil => simp
  | cons c value ih =>
    cases s with
    | nil => simp [matchesParts]
    | cons d rest =>
      rw [List.map_cons, List.cons_append, matchesParts, Bool.and_eq_true, decide_eq_true_iff, ih]
      constructor
      · rintro ⟨rfl, r, rfl, hparts⟩
        exact ⟨r, rfl, hparts⟩
      · rintro ⟨r, hr, hparts⟩
        obtain ⟨rfl, rfl⟩ := List.cons.inj hr
        exact ⟨rfl, r, rfl, hparts⟩

theorem matchesParts_any (s : List Char) : matchesParts [.any] s = true :=
  matchesParts_any_iff.2 ⟨s, [], (List.append_nil s).symm, rfl⟩

theorem readPattern?_cons {escape : Option Char} {c : Char} (h : escape ≠ some c)
    (rest : List Char) :
    readPattern? escape (c :: rest) = (.ofChar c :: ·) <$> readPattern? escape rest := by
  cases rest with
  | nil => exact if_neg h
  | cons d rest => exact if_neg h

/-- A character of a value stands for itself in the pattern. -/
theorem readPattern?_escapeChar (escape c : Char) (rest : List Char) :
    readPattern? (some escape) (LikeMode.escapeChar (some escape) c ++ rest) =
      (.literal c :: ·) <$> readPattern? (some escape) rest := by
  unfold LikeMode.escapeChar
  dsimp only
  split
  · exact if_pos rfl
  · next hplain =>
    obtain ⟨hany, hone, hescape⟩ : c ≠ '%' ∧ c ≠ '_' ∧ c ≠ escape := by simpa using hplain
    have hpart : LikePart.ofChar c = .literal c := by simp [LikePart.ofChar, hany, hone]
    rw [List.singleton_append, readPattern?_cons (fun h => hescape (Option.some.inj h).symm), hpart]

theorem readPattern?_escaped (escape : Char) (value rest : List Char) :
    readPattern? (some escape) (value.flatMap (LikeMode.escapeChar (some escape)) ++ rest) =
      (value.map .literal ++ ·) <$> readPattern? (some escape) rest := by
  induction value with
  | nil => exact (id_map _).symm
  | cons c value ih =>
    rw [List.flatMap_cons, List.append_assoc, readPattern?_escapeChar, ih]
    cases readPattern? (some escape) rest <;> rfl

end Sql

/-! ## Patterns of values -/

namespace LikeMode

/-- A text has a value where the mode says; in raw mode it is the value. -/
def Locates : LikeMode → (value text : String) → Prop
  | .raw, value, text => value = text
  | .contains, value, text => value.toList <:+: text.toList
  | .startsWith, value, text => value.toList <+: text.toList
  | .endsWith, value, text => value.toList <:+ text.toList

variable {mode : LikeMode} {escape : Char} {value text : String}

/-- The parts of the pattern of a value: those of the value stand for themselves. -/
theorem readPattern?_pattern (hmode : mode ≠ .raw) (hescape : escape ≠ '%') :
    readPattern? (some escape) (mode.pattern value (some escape)).toList =
      some (mode.before.map .ofChar ++ (value.toList.map .literal ++ mode.behind.map .ofChar)) := by
  have hany : some escape ≠ some '%' := fun h => hescape (Option.some.inj h)
  have hbefore : ∀ rest, readPattern? (some escape) (mode.before ++ rest) =
      (mode.before.map .ofChar ++ ·) <$> readPattern? (some escape) rest := by
    intro rest
    cases mode with
    | raw | startsWith => exact (id_map _).symm
    | contains | endsWith => exact readPattern?_cons hany rest
  have hbehind : readPattern? (some escape) mode.behind = some (mode.behind.map .ofChar) := by
    cases mode with
    | raw | endsWith => rfl
    | contains | startsWith => exact readPattern?_cons hany []
  have hpattern : (mode.pattern value (some escape)).toList =
      mode.before ++ (value.toList.flatMap (escapeChar (some escape)) ++ mode.behind) := by
    cases mode with
    | raw => exact absurd rfl hmode
    | contains | startsWith | endsWith => simp [pattern]
  rw [hpattern, hbefore, readPattern?_escaped, hbehind]
  rfl

/-- The pattern of a value matches just the texts that have the value where the mode says. -/
theorem likeMatches_pattern_iff (hmode : mode ≠ .raw) (hescape : escape ≠ '%') :
    likeMatches text (mode.pattern value (some escape)) (some escape) = true ↔
      mode.Locates value text := by
  rw [likeMatches, readPattern?_pattern hmode hescape]
  cases mode with
  | raw => exact absurd rfl hmode
  | contains =>
    show matchesParts (.any :: (value.toList.map .literal ++ [.any])) text.toList = true ↔ _
    rw [matchesParts_any_iff]
    constructor
    · rintro ⟨l, _, htext, hparts⟩
      obtain ⟨r, rfl, _⟩ := matchesParts_literals_iff.1 hparts
      exact ⟨l, r, by rw [htext, List.append_assoc]⟩
    · rintro ⟨l, r, htext⟩
      refine ⟨l, value.toList ++ r, by rw [← htext, List.append_assoc], ?_⟩
      exact matchesParts_literals_iff.2 ⟨r, rfl, matchesParts_any r⟩
  | startsWith =>
    show matchesParts (value.toList.map .literal ++ [.any]) text.toList = true ↔ _
    rw [matchesParts_literals_iff]
    constructor
    · rintro ⟨r, htext, _⟩
      exact ⟨r, htext.symm⟩
    · rintro ⟨r, htext⟩
      exact ⟨r, htext.symm, matchesParts_any r⟩
  | endsWith =>
    show matchesParts (.any :: (value.toList.map .literal ++ [])) text.toList = true ↔ _
    rw [matchesParts_any_iff]
    constructor
    · rintro ⟨l, _, htext, hparts⟩
      obtain ⟨r, rfl, hend⟩ := matchesParts_literals_iff.1 hparts
      rw [List.isEmpty_iff.1 hend, List.append_nil] at htext
      exact ⟨l, htext.symm⟩
    · rintro ⟨l, htext⟩
      refine ⟨l, value.toList, htext.symm, ?_⟩
      exact matchesParts_literals_iff.2 ⟨[], (List.append_nil _).symm, rfl⟩

end LikeMode

/-! ## Conditions on texts -/

/-- Texts, of which a number is its digits, with the patterns of `LIKE`. -/
def Sql.Collation.texts : Collation String where
  equal s t := decide (s = t)
  less s t := decide (s < t)
  like := likeMatches
  number n := String.ofList (Nat.toDigits 10 n)
  equal_number m n := by
    refine decide_eq_decide.2 ⟨fun h => ?_, fun h => by rw [h]⟩
    rw [← Text.value_toDigits m, ← Text.value_toDigits n, String.ofList_injective h]

/-- Whatever the column, a condition that it is like a value, in a mode that is not raw, accepts a
row just if the column has the value where the mode says.  What else is known of how texts compare
does not matter. -/
def LikesLiterally (o : Options) : Prop :=
  ∀ (e : Entity) (a : Action) (item field : Nat) (column : String) (mode : LikeMode)
    (value : String), e.hasColumn column = true → mode ≠ .raw →
    ∃ p t, Predicate.ofField e o a item field column
        (.query ((FieldQuery.compare .like (.string value)).withMode mode)) = .ok p ∧
      SearchCondition.readFactor? p.text = some t ∧
      ∀ (k : Collation String) (row : String → Option String) (denote : Value → Option String)
        (text : String), k.like = likeMatches → (∀ s, denote (.string s) = some s) →
        row column = some text →
          (t.truth ((FieldPredicate.mk column p).params.context k row denote) = .holds ↔
            mode.Locates value text)

section

variable {o : Options}

/-- The condition for a value asks for a match of its pattern. -/
theorem reads_like (ho : o.check = .ok ()) {e : Entity} {column : String}
    (hcolumn : e.hasColumn column = true) (a : Action) (item field : Nat) (mode : LikeMode)
    (value : String) :
    ∃ p t, Predicate.ofField e o a item field column
        (.query ((FieldQuery.compare .like (.string value)).withMode mode)) = .ok p ∧
      SearchCondition.readFactor? p.text = some t ∧
      ∀ (k : Collation String) (row : String → Option String) (denote : Value → Option String),
        t.truth ((FieldPredicate.mk column p).params.context k row denote) =
          k.matchPattern o.likeEscape (row column)
            (denote (.string (mode.pattern value o.likeEscape))) := by
  have hp : Predicate.ofField e o a item field column
      (.query ((FieldQuery.compare .like (.string value)).withMode mode)) =
        .ok (.like column [⟨Predicate.baseName item field,
          .string (mode.pattern value o.likeEscape)⟩] o.likeEscape) := by
    rw [Predicate.ofField, if_pos hcolumn]
    rfl
  obtain ⟨_, _, hquote⟩ := o.check_eq_ok_iff.1 ho
  obtain ⟨t, hread, htruth⟩ := Predicate.reads_ofField hp fun _ => hquote
  refine ⟨_, t, hp, hread, fun k row denote => ?_⟩
  obtain ⟨hmeans, hslots⟩ := htruth String k row denote
  rw [hmeans, Predicate.truth, List.map_singleton, hslots _ List.mem_cons_self, Truth.any_cons,
    Truth.any_nil, Truth.or_fails]
  rfl

theorem likesLiterally_of_ne_percent (ho : o.check = .ok ()) {escape : Char}
    (hescape : o.likeEscape = some escape) (hne : escape ≠ '%') : LikesLiterally o := by
  intro e a item field column mode value hcolumn hmode
  obtain ⟨p, t, hp, hread, htruth⟩ := reads_like ho hcolumn a item field mode value
  refine ⟨p, t, hp, hread, fun k row denote text hlike hdenote htext => ?_⟩
  rw [htruth, htext, hdenote, hescape, Collation.matchPattern, hlike,
    ← LikeMode.likeMatches_pattern_iff hmode hne]
  cases likeMatches text (mode.pattern value (some escape)) (some escape) <;> decide

/-- Escaped by a percent sign, the wildcards around a value escape it and one another. -/
theorem not_likesLiterally_of_percent (ho : o.check = .ok ()) (hescape : o.likeEscape = some '%') :
    ¬ LikesLiterally o := by
  intro hlikes
  have hcolumn : people.hasColumn "name" = true := by decide
  obtain ⟨p, t, hp, hread, htruth⟩ := hlikes people .find 0 0 "name" .contains "a" hcolumn (by decide)
  obtain ⟨p', t', hp', hread', htruth'⟩ := reads_like ho hcolumn .find 0 0 .contains "a"
  cases hp.symm.trans hp'
  cases hread.symm.trans hread'
  let denote : Value → Option String := fun v => v.toText.toOption
  have hiff := htruth .texts (fun _ => some "a") denote "a" rfl (fun _ => rfl) rfl
  rw [htruth', hescape] at hiff
  have hholds := hiff.2 (List.infix_refl _)
  have hfails : Collation.texts.matchPattern (some '%') (some "a")
      (denote (.string (LikeMode.contains.pattern "a" (some '%')))) = .fails := by
    decide
  cases hholds.symm.trans hfails

/-- With an escape character that the options may have, conditions on values are met by the texts
that have the values as they stand, unless the character is the percent sign. -/
theorem likesLiterally_iff (ho : o.check = .ok ()) {escape : Char}
    (hescape : o.likeEscape = some escape) : LikesLiterally o ↔ escape ≠ '%' := by
  constructor
  · rintro hlikes rfl
    exact not_likesLiterally_of_percent ho hescape hlikes
  · exact likesLiterally_of_ne_percent ho hescape

end

/-- A wildcard may be the escape character. -/
theorem likesLiterally_iff_underscore :
    ({ likeEscape := some '_' } : Options).check = .ok () ∧
      LikeMode.contains.pattern "a_b%" (some '_') = "%a__b_%%" ∧
      (LikesLiterally { likeEscape := some '_' } ↔ '_' ≠ '%') :=
  ⟨by decide, by decide, likesLiterally_iff (by decide) rfl⟩

/-- The percent sign may be the escape character as well, and then `a` does not contain itself. -/
theorem not_likesLiterally_percent :
    ({ likeEscape := some '%' } : Options).check = .ok () ∧
      LikeMode.contains.pattern "a" (some '%') = "%a%" ∧
      likeMatches "a" "%a%" (some '%') = false ∧
      ¬ LikesLiterally { likeEscape := some '%' } :=
  ⟨by decide, by decide, by decide, not_likesLiterally_of_percent (by decide) rfl⟩

end EntitySql
