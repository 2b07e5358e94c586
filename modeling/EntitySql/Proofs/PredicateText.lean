import EntitySql.Proofs.Meaning
import EntitySql.Proofs.Parentheses
import EntitySql.Proofs.Reader
import EntitySql.Proofs.Spelling

/-!
# The text of a predicate

The text of a predicate is read back as one factor of a condition, and the tree that is read
has the truth value of the predicate.  This takes a predicate whose lists are not empty and
whose parameters have words for names.

    Readable p → Spells p.text p.tokens                     (Predicate.Readable.spells)
    Readable p → ReadsFactor p.tokens p.tree                (Predicate.Readable.readsFactor)
    Readable p → Filled p.tokens                            (Predicate.Readable.filled)
    p.tree.truth x = p.truth x                              (Predicate.truth_tree)
-/

namespace EntitySql

open EntitySql.Sql

/-! ## Operators -/

def Operator.tokens : Operator → List Token
  | .like => [.keyword .like]
  | .in_ => [.keyword .in_]
  | .notIn => [.keyword .not, .keyword .in_]
  | .between => [.keyword .between]
  | operator => [.operator operator.sql.toList]

theorem Operator.glue (operator : Operator) :
    Glue (" " ++ operator.sql ++ " ") operator.tokens := by
  refine ⟨?_, fun s => ?_⟩
  · cases operator <;> exact fun _ => rfl
  · rw [String.append_assoc, String.toList_append]
    exact delimited_cons (c := ' ') (by decide) _

theorem Operator.ofSigns?_sql {operator : Operator} (h : operator ∈ comparisons) :
    Comparator.ofSigns? operator.sql.toList = some operator.comparator := by
  revert operator
  decide

theorem Operator.tokens_of_mem {operator : Operator} (h : operator ∈ comparisons) :
    operator.tokens = [.operator operator.sql.toList] := by
  revert operator
  decide

/-! ## Joined parts -/

def joinKeyword (negated : Bool) : Keyword := if negated then .and else .or

/-- The tokens of parts that are joined, in parentheses unless there is only one. -/
def joinedTokens (negated : Bool) : List (List Token) → List Token
  | [part] => part
  | parts =>
    .symbol '(' :: ([.keyword (joinKeyword negated)].intercalate parts ++ [.symbol ')'])

/-- A condition that every row meets, or none. -/
def constantTree (holds : Bool) : SearchCondition :=
  .compare (.atom (.number 1)) .eq (.atom (.number (if holds then 1 else 0)))

def joinedTree (negated : Bool) : List SearchCondition → SearchCondition
  | [] => constantTree negated
  | c :: cs => if negated then .conjoin c cs else .disjoin c cs

theorem glue_joiner (negated : Bool) :
    Glue (Predicate.joiner negated) [.keyword (joinKeyword negated)] := by
  cases negated with
  | false => exact glue_or
  | true => exact glue_and

theorem opens_parenthesis : Opens "(" [.symbol '('] := fun _ => rfl

theorem glue_parenthesis : Glue ")" [.symbol ')'] :=
  Opens.glue (fun _ => rfl) (by decide)

theorem spells_parenthesized {text : String} {ts : List Token} (h : Spells text ts) :
    Spells (parenthesized text) (.symbol '(' :: (ts ++ [.symbol ')'])) := by
  have hclosed := opens_parenthesis.before (h.close glue_parenthesis)
  rw [← String.append_assoc] at hclosed
  exact hclosed

section

variable {β : Type} {l : List β} (negated : Bool)

theorem spells_joined {text : β → String} {ts : β → List Token}
    (h : ∀ b ∈ l, Spells (text b) (ts b)) :
    Spells (Predicate.joined (Predicate.joiner negated) (l.map text))
      (joinedTokens negated (l.map ts)) := by
  have hall := spells_parenthesized (spells_intercalate (glue_joiner negated) h)
  match l with
  | [] => exact hall
  | [b] => exact h b List.mem_cons_self
  | b :: c :: l => exact hall

theorem readsFactor_joined {ts : β → List Token} {tree : β → SearchCondition} (hne : l ≠ [])
    (h : ∀ b ∈ l, ReadsFactor (ts b) (tree b)) :
    ReadsFactor (joinedTokens negated (l.map ts)) (joinedTree negated (l.map tree)) := by
  match l with
  | [] => exact absurd rfl hne
  | [b] => cases negated <;> exact h b List.mem_cons_self
  | b :: c :: l =>
    refine readsFactor_enclosed ?_
    cases negated with
    | false => exact condition_of_conjunctions fun d hd => readsConjunction_of_factor (h d hd)
    | true => exact readsCondition_of_conjunction (conjunction_of_factors h)

end

variable {α : Type} (x : Context α)

theorem truth_constantTree (holds : Bool) : (constantTree holds).truth x = .ofBool holds := by
  rw [constantTree, SearchCondition.truth]
  cases holds with
  | false => exact congrArg Truth.ofBool (x.collation.equal_number 1 0)
  | true => exact congrArg Truth.ofBool (x.collation.equal_number 1 1)

theorem truth_joinedTree (negated : Bool) (trees : List SearchCondition) :
    (joinedTree negated trees).truth x = .joined negated (trees.map (·.truth x)) := by
  cases trees with
  | nil => cases negated <;> exact truth_constantTree x _
  | cons c cs =>
    cases negated with
    | false => exact SearchCondition.truth_disjoin x c cs
    | true => exact SearchCondition.truth_conjoin x c cs

/-! ## Tokens and trees -/

def Slot.operand (s : Slot) : Expression := .atom (.parameter s.name)

def compareTokens (column : String) (operator : Operator) (s : Slot) : List Token :=
  .name column :: (operator.tokens ++ [.marker s.name])

def memberTokens (column : String) (negated : Bool) (chunk : List Slot) : List Token :=
  let operator := if negated then [.keyword .not, .keyword .in_] else [.keyword .in_]
  let markers := [.symbol ','].intercalate (chunk.map fun s => [Token.marker s.name])
  .name column :: (operator ++ .symbol '(' :: (markers ++ [.symbol ')']))

def choiceTokens (a b yes no : String) : List Token :=
  [.symbol '(', .keyword .case, .keyword .when, .marker a, .operator ['<', '='], .marker b,
   .keyword .then_, .marker yes, .keyword .else_, .marker no, .keyword .end_, .symbol ')']

/-- The choice between two parameters by a comparison of two. -/
def choiceTree (a b yes no : String) : Expression :=
  .choice (.compare (.atom (.parameter a)) .lte (.atom (.parameter b)))
    (.atom (.parameter yes)) (.atom (.parameter no))

namespace Predicate

def tokens : Predicate → List Token
  | .always holds =>
    [.word ['1'], .operator ['='], .word [if holds then '1' else '0']]
  | .null column negated =>
    .name column :: (if negated then [.keyword .is, .keyword .not, .keyword .null]
      else [.keyword .is, .keyword .null])
  | .compare column operator slots =>
    joinedTokens operator.negated (slots.map (compareTokens column operator))
  | .like column slots escape =>
    joinedTokens false (slots.map fun s => compareTokens column .like s ++ escapeTokens escape)
  | .between column low high =>
    .name column :: .keyword .between :: (choiceTokens low.name high.name low.name high.name ++
      .keyword .and :: choiceTokens low.name high.name high.name low.name)
  | .member column negated chunks =>
    joinedTokens negated (chunks.map (memberTokens column negated))

def tree : Predicate → SearchCondition
  | .always holds => constantTree holds
  | .null column negated => .null (.atom (.column column)) negated
  | .compare column operator slots =>
    joinedTree operator.negated (slots.map fun s =>
      .compare (.atom (.column column)) operator.comparator s.operand)
  | .like column slots escape =>
    joinedTree false (slots.map fun s => .like (.atom (.column column)) s.operand escape)
  | .between column low high =>
    .between (.atom (.column column)) (choiceTree low.name high.name low.name high.name)
      (choiceTree low.name high.name high.name low.name)
  | .member column negated chunks =>
    joinedTree negated (chunks.map fun chunk =>
      .member (.atom (.column column)) negated (chunk.map (.parameter ·.name)))

inductive Readable : Predicate → Prop
  | always (holds : Bool) : Readable (.always holds)
  | null (column : String) (negated : Bool) : Readable (.null column negated)
  | compare (column : String) {operator : Operator} {slots : List Slot}
      (comparison : operator ∈ Operator.comparisons) (nonempty : slots ≠ [])
      (words : ∀ s ∈ slots, IsWord s.name) : Readable (.compare column operator slots)
  | like (column : String) {slots : List Slot} {escape : Option Char}
      (unquoted : escape ≠ some '\'') (nonempty : slots ≠ [])
      (words : ∀ s ∈ slots, IsWord s.name) : Readable (.like column slots escape)
  | between (column : String) {low high : Slot} (lowWord : IsWord low.name)
      (highWord : IsWord high.name) : Readable (.between column low high)
  | member (column : String) (negated : Bool) {chunks : List (List Slot)}
      (nonempty : chunks ≠ []) (full : ∀ chunk ∈ chunks, chunk ≠ [])
      (words : ∀ chunk ∈ chunks, ∀ s ∈ chunk, IsWord s.name) :
      Readable (.member column negated chunks)

end Predicate

/-! ## Spelling -/

theorem spells_slot {s : Slot} (h : IsWord s.name) : Spells s.marker [.marker s.name] :=
  spells_marker h

theorem spells_compareText (column : String) (operator : Operator) {s : Slot}
    (h : IsWord s.name) :
    Spells (Predicate.compareText column operator s) (compareTokens column operator s) := by
  have hall := (spells_quoteIdentifier column).glue operator.glue (spells_slot h)
  simpa [Predicate.compareText, compareTokens, toString, String.append_assoc] using hall

/-- A pattern may be followed by the clause that names its escape character. -/
theorem spells_likeText (column : String) {escape : Option Char} (hescape : escape ≠ some '\'')
    {s : Slot} (h : IsWord s.name) :
    Spells (Predicate.compareText column .like s ++ Predicate.escapeText escape)
      (compareTokens column .like s ++ escapeTokens escape) := by
  have hpattern := spells_compareText column .like h
  cases escape with
  | none => simpa [Predicate.escapeText, escapeTokens] using hpattern
  | some c =>
    have hc : c ≠ '\'' := fun hc => hescape (congrArg some hc)
    have hglue : Glue " ESCAPE " [.keyword .escape] :=
      Opens.glue (fun _ => rfl) (by decide)
    have hall := hpattern.glue hglue (spells_literal hc)
    have htext : Predicate.escapeText (some c) = " ESCAPE " ++ String.ofList ['\'', c, '\''] := by
      apply String.toList_inj.1
      simp [Predicate.escapeText, toString]
    rw [htext]
    exact hall

theorem spells_memberText (column : String) (negated : Bool) {chunk : List Slot}
    (h : ∀ s ∈ chunk, IsWord s.name) :
    Spells (Predicate.memberText column negated chunk) (memberTokens column negated chunk) := by
  have hlist := spells_parenthesized
    (spells_intercalate glue_comma fun s hs => spells_slot (h s hs))
  have hall := (spells_quoteIdentifier column).glue
    (if negated then Operator.notIn else Operator.in_).glue hlist
  have htext : Predicate.memberText column negated chunk =
      quoteIdentifier column ++ ((" " ++ (if negated then Operator.notIn else .in_).sql ++ " ") ++
        parenthesized (", ".intercalate (chunk.map Slot.marker))) := by
    apply String.toList_inj.1
    simp [Predicate.memberText, parenthesized, toString]
  rw [htext]
  cases negated <;> exact hall

def choiceText (a b yes no : String) : String :=
  "(CASE WHEN " ++ (("@" ++ a) ++ (" <= " ++ (("@" ++ b) ++ (" THEN " ++
    (("@" ++ yes) ++ (" ELSE " ++ (("@" ++ no) ++ " END)")))))))

theorem spells_choice {a b yes no : String} (ha : IsWord a) (hb : IsWord b) (hyes : IsWord yes)
    (hno : IsWord no) :
    Spells (choiceText a b yes no) (choiceTokens a b yes no) := by
  have hcase : Opens "(CASE WHEN " [.symbol '(', .keyword .case, .keyword .when] := fun _ => rfl
  have hlte : Glue " <= " [.operator ['<', '=']] :=
    Opens.glue (fun _ => rfl) (by decide)
  have hthen : Glue " THEN " [.keyword .then_] :=
    Opens.glue (fun _ => rfl) (by decide)
  have helse : Glue " ELSE " [.keyword .else_] :=
    Opens.glue (fun _ => rfl) (by decide)
  have hend : Glue " END)" [.keyword .end_, .symbol ')'] :=
    Opens.glue (fun _ => rfl) (by decide)
  exact hcase.before ((spells_marker ha).glue hlte ((spells_marker hb).glue hthen
    ((spells_marker hyes).glue helse ((spells_marker hno).close hend))))

theorem spells_betweenText (column : String) {low high : Slot} (hlow : IsWord low.name)
    (hhigh : IsWord high.name) :
    Spells (Predicate.betweenText column low.marker high.marker)
      (Predicate.between column low high).tokens := by
  have hbetween : Glue " BETWEEN " [.keyword .between] :=
    Opens.glue (fun _ => rfl) (by decide)
  have hsmaller := spells_choice hlow hhigh hlow hhigh
  have hgreater := spells_choice hlow hhigh hhigh hlow
  have hall := (spells_quoteIdentifier column).glue hbetween (hsmaller.glue glue_and hgreater)
  have htext : Predicate.betweenText column low.marker high.marker =
      quoteIdentifier column ++ (" BETWEEN " ++
        (choiceText low.name high.name low.name high.name ++ (" AND " ++
          choiceText low.name high.name high.name low.name))) := by
    apply String.toList_inj.1
    simp [Predicate.betweenText, choiceText, Slot.marker, toString]
  rw [htext]
  exact hall

theorem spells_always (holds : Bool) :
    Spells (Predicate.always holds).text (Predicate.always holds).tokens := by
  intro s hs
  -- The last digit could go on, so it takes the delimiter behind the text to end it.
  cases holds with
  | false =>
    have hread : tokensFrom .gap ("1=0".toList ++ s) =
        [.word ['1'], .operator ['=']] ++ tokensFrom (.word ['0']) s := rfl
    exact hread.trans (congrArg _ (tokensFrom_of_delimited rfl hs))
  | true =>
    have hread : tokensFrom .gap ("1=1".toList ++ s) =
        [.word ['1'], .operator ['=']] ++ tokensFrom (.word ['1']) s := rfl
    exact hread.trans (congrArg _ (tokensFrom_of_delimited rfl hs))

theorem spells_null (column : String) (negated : Bool) :
    Spells (Predicate.null column negated).text (Predicate.null column negated).tokens := by
  have hnull : Spells "NULL" [.keyword .null] := spells_word (by decide) (by decide)
  cases negated with
  | false =>
    have his : Glue " IS " [.keyword .is] := Opens.glue (fun _ => rfl) (by decide)
    have hall := (spells_quoteIdentifier column).glue his hnull
    simpa [Predicate.text, Predicate.tokens, toString] using hall
  | true =>
    have his : Glue " IS NOT " [.keyword .is, .keyword .not] :=
      Opens.glue (fun _ => rfl) (by decide)
    have hall := (spells_quoteIdentifier column).glue his hnull
    simpa [Predicate.text, Predicate.tokens, toString] using hall

/-- The text of a predicate is read as its tokens. -/
theorem Predicate.Readable.spells {p : Predicate} (h : p.Readable) : Spells p.text p.tokens := by
  cases h with
  | always holds => exact spells_always holds
  | null column negated => exact spells_null column negated
  | compare column comparison nonempty words =>
    exact spells_joined _ fun s hs => spells_compareText column _ (words s hs)
  | like column unquoted nonempty words =>
    exact spells_joined false fun s hs => spells_likeText column unquoted (words s hs)
  | between column lowWord highWord => exact spells_betweenText column lowWord highWord
  | member column negated nonempty full words =>
    exact spells_joined negated fun chunk hc => spells_memberText column negated (words chunk hc)

/-! ## Reading -/

theorem readsFactor_compareTokens (column : String) {operator : Operator}
    (h : operator ∈ Operator.comparisons) (s : Slot) :
    ReadsFactor (compareTokens column operator s)
      (.compare (.atom (.column column)) operator.comparator s.operand) := by
  rw [compareTokens, Operator.tokens_of_mem h]
  exact readsFactor_of_statement rfl
    (readsStatement_compare (Operator.ofSigns?_sql h) (readsExpression_atom rfl))

theorem readsFactor_likeTokens (column : String) (s : Slot) (escape : Option Char) :
    ReadsFactor (compareTokens column .like s ++ escapeTokens escape)
      (.like (.atom (.column column)) s.operand escape) :=
  readsFactor_of_statement rfl (readsStatement_like escape (readsExpression_atom rfl))

theorem readsFactor_memberTokens (column : String) (negated : Bool) {chunk : List Slot}
    (h : chunk ≠ []) :
    ReadsFactor (memberTokens column negated chunk)
      (.member (.atom (.column column)) negated (chunk.map (.parameter ·.name))) :=
  readsFactor_of_statement rfl (readsStatement_member negated (fun _ => rfl) h)

theorem readsExpression_choiceTokens (a b yes no : String) :
    ReadsExpression (choiceTokens a b yes no) (choiceTree a b yes no) := by
  have htest : ReadsCondition [.marker a, .operator ['<', '='], .marker b]
      (.compare (.atom (.parameter a)) .lte (.atom (.parameter b))) :=
    readsCondition_of_conjunction (readsConjunction_of_factor (readsFactor_of_statement rfl
      (readsStatement_compare rfl (readsExpression_atom rfl))))
  exact readsExpression_enclosed
    (readsExpression_choice htest (readsExpression_atom rfl) (readsExpression_atom rfl))

/-- The tokens of a predicate are read as one factor. -/
theorem Predicate.Readable.readsFactor {p : Predicate} (h : p.Readable) :
    ReadsFactor p.tokens p.tree := by
  cases h with
  | always holds =>
    have hnumber : Atom.ofToken? (.word [if holds then '1' else '0']) =
        some (.number (if holds then 1 else 0)) := by
      cases holds <;> decide
    exact readsFactor_of_statement (a := .number 1) (by decide)
      (readsStatement_compare rfl (readsExpression_atom hnumber))
  | null column negated => exact readsFactor_of_statement rfl (readsStatement_null negated)
  | compare column comparison nonempty words =>
    exact readsFactor_joined _ nonempty fun s _ => readsFactor_compareTokens column comparison s
  | like column unquoted nonempty words =>
    exact readsFactor_joined false nonempty fun s _ => readsFactor_likeTokens column s _
  | between column lowWord highWord =>
    exact readsFactor_of_statement rfl (readsStatement_between
      (readsExpression_choiceTokens _ _ _ _) (readsExpression_choiceTokens _ _ _ _))
  | member column negated nonempty full words =>
    exact readsFactor_joined negated nonempty fun chunk hc =>
      readsFactor_memberTokens column negated (full chunk hc)

/-! ## Parentheses -/

theorem filled_joinedTokens (negated : Bool) {parts : List (List Token)} (hne : parts ≠ [])
    (h : ∀ part ∈ parts, Filled part) : Filled (joinedTokens negated parts) := by
  match parts with
  | [] => exact absurd rfl hne
  | [part] => exact h part List.mem_cons_self
  | part :: other :: parts => exact ((Filled.keyword _).intercalate hne h).enclosed

theorem filled_compareTokens (column : String) (operator : Operator) (s : Slot) :
    Filled (compareTokens column operator s) := by
  refine .of_plain (List.cons_ne_nil _ _) ?_
  cases operator <;> simp [compareTokens, Operator.tokens]

theorem filled_likeTokens (column : String) (s : Slot) (escape : Option Char) :
    Filled (compareTokens column .like s ++ escapeTokens escape) := by
  cases escape with
  | none => simpa [escapeTokens] using filled_compareTokens column .like s
  | some c =>
    have hescape : Filled (escapeTokens (some c)) :=
      .of_plain (List.cons_ne_nil _ _) (by simp [escapeTokens])
    exact (filled_compareTokens column .like s).append hescape

theorem filled_memberTokens (column : String) (negated : Bool) {chunk : List Slot}
    (h : chunk ≠ []) : Filled (memberTokens column negated chunk) := by
  have hcomma : Filled [.symbol ','] := .of_plain (List.cons_ne_nil _ _) (by decide)
  have hmarkers : Filled ([.symbol ','].intercalate (chunk.map fun s => [.marker s.name])) :=
    hcomma.intercalate (by simpa using h) (by simp [Filled.of_plain])
  have hoperator : Filled (.name column ::
      (if negated then [.keyword .not, .keyword .in_] else [.keyword .in_])) := by
    refine .of_plain (List.cons_ne_nil _ _) ?_
    cases negated <;> simp
  exact hoperator.append hmarkers.enclosed

theorem filled_choiceTokens (a b yes no : String) : Filled (choiceTokens a b yes no) := by
  have hinner : Filled [.keyword .case, .keyword .when, .marker a, .operator ['<', '='],
      .marker b, .keyword .then_, .marker yes, .keyword .else_, .marker no, .keyword .end_] :=
    .of_plain (List.cons_ne_nil _ _) (by simp)
  exact hinner.enclosed

/-- No parentheses of a predicate are empty. -/
theorem Predicate.Readable.filled {p : Predicate} (h : p.Readable) : Filled p.tokens := by
  cases h with
  | always holds => exact .of_plain (List.cons_ne_nil _ _) (by simp [tokens])
  | null column negated =>
    refine .of_plain (List.cons_ne_nil _ _) ?_
    cases negated <;> simp [tokens]
  | compare column comparison nonempty words =>
    refine filled_joinedTokens _ (by simpa using nonempty) ?_
    simp [filled_compareTokens]
  | like column unquoted nonempty words =>
    refine filled_joinedTokens _ (by simpa using nonempty) ?_
    intro part hpart
    obtain ⟨s, _, rfl⟩ := List.mem_map.1 hpart
    exact filled_likeTokens column s _
  | between column lowWord highWord =>
    have hsubject : Filled [.name column, .keyword .between] :=
      .of_plain (List.cons_ne_nil _ _) (by simp)
    exact hsubject.append ((filled_choiceTokens _ _ _ _).append
      ((Filled.keyword .and).append (filled_choiceTokens _ _ _ _)))
  | member column negated nonempty full words =>
    refine filled_joinedTokens _ (by simpa using nonempty) ?_
    intro part hpart
    obtain ⟨chunk, hchunk, rfl⟩ := List.mem_map.1 hpart
    exact filled_memberTokens column negated (full chunk hchunk)

/-! ## Truth -/

/-- The bounds of a range are found by comparing them, in either order. -/
theorem value_choiceTree (a b yes no : String) :
    (choiceTree a b yes no).value x =
      if x.collation.compare .lte (x.parameter a) (x.parameter b) = .holds
      then x.parameter yes else x.parameter no := rfl

theorem truth_member (column : String) (negated : Bool) (chunk : List Slot) :
    (SearchCondition.member (.atom (.column column)) negated
      (chunk.map (.parameter ·.name))).truth x =
      .joined negated (chunk.map fun s => x.collation.compare (if negated then .ne else .eq)
        (x.row column) (x.parameter s.name)) := by
  rw [Collation.joined_compare, SearchCondition.truth, Context.member, List.map_map]
  rfl

/-- The tree of a predicate has the truth value of the predicate. -/
theorem Predicate.truth_tree (p : Predicate) : p.tree.truth x = p.truth x := by
  cases p with
  | always holds => exact truth_constantTree x holds
  | null column negated => rfl
  | compare column operator slots =>
    rw [tree, truth_joinedTree, List.map_map]
    rfl
  | like column slots escape =>
    rw [tree, truth_joinedTree, List.map_map]
    rfl
  | between column low high =>
    rw [tree, SearchCondition.truth, value_choiceTree, value_choiceTree, truth,
      Collation.sorted]
    split <;> rfl
  | member column negated chunks =>
    rw [tree, truth_joinedTree, List.map_map, truth, List.map_flatten, ← Truth.joined_flatten,
      List.map_map]
    exact congrArg _ (List.map_congr_left fun chunk _ => truth_member x column negated chunk)

end EntitySql
