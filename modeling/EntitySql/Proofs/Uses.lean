import EntitySql.Proofs.Command
import EntitySql.Proofs.ConditionText
import EntitySql.Proofs.Distinct

/-!
# Uses of parameters

Where the parameters of a command stand: beside a column that they are compared with, or in the
place of a column that they are written into.

    the tokens of a condition name the parameters of its uses, in order  (markersOf_tokens)
    its uses, each once, are its parameters with their columns           (distinct_uses)
-/

namespace EntitySql

namespace Sql

/-! ## Uses -/

/-- The parameter that an operand of one token is. -/
def Atom.parameter? : Atom → Option String
  | .parameter p => some p
  | _ => none

/-- The column that an operand is. -/
def Expression.column? : Expression → Option String
  | .atom (.column c) => some c
  | _ => none

mutual

def Expression.parameters : Expression → List String
  | .atom a => a.parameter?.toList
  | .choice test yes no => test.parameters ++ (yes.parameters ++ no.parameters)

def SearchCondition.parameters : SearchCondition → List String
  | .compare left _ right => left.parameters ++ right.parameters
  | .null e _ => e.parameters
  | .like e pattern _ => e.parameters ++ pattern.parameters
  | .member e _ list => e.parameters ++ list.filterMap Atom.parameter?
  | .between e low high => e.parameters ++ (low.parameters ++ high.parameters)
  | .and c d => c.parameters ++ d.parameters
  | .or c d => c.parameters ++ d.parameters

end

/-- Parameters that an operand is compared with, where it is a column. -/
def Expression.against (e : Expression) (parameters : List String) : List (String × String) :=
  match e.column? with
  | some c => parameters.map (·, c)
  | none => []

/-- The parameters of a condition with the columns that they are compared with, in order. -/
def SearchCondition.uses : SearchCondition → List (String × String)
  | .compare left _ right => left.against right.parameters
  | .null _ _ => []
  | .like e pattern _ => e.against pattern.parameters
  | .member e _ list => e.against (list.filterMap Atom.parameter?)
  | .between e low high => e.against (low.parameters ++ high.parameters)
  | .and c d => c.uses ++ d.uses
  | .or c d => c.uses ++ d.uses

/-- The parameters of a command with the columns that they are compared with or written into, in
order. -/
def Command.uses : Command → List (String × String)
  | .select _ condition _ _ | .delete _ condition => condition.toList.flatMap SearchCondition.uses
  | .insert _ columns rows | .merge _ rows columns _ _ => rows.flatMap fun row => row.zip columns

/-! ## Laws -/

theorem uses_conjoin (c : SearchCondition) (cs : List SearchCondition) :
    (SearchCondition.conjoin c cs).uses = (c :: cs).flatMap SearchCondition.uses := by
  induction cs generalizing c with
  | nil => simp [SearchCondition.conjoin]
  | cons d ds ih =>
    rw [SearchCondition.conjoin, SearchCondition.uses, ih]
    rfl

theorem uses_disjoin (c : SearchCondition) (cs : List SearchCondition) :
    (SearchCondition.disjoin c cs).uses = (c :: cs).flatMap SearchCondition.uses := by
  induction cs generalizing c with
  | nil => simp [SearchCondition.disjoin]
  | cons d ds ih =>
    rw [SearchCondition.disjoin, SearchCondition.uses, ih]
    rfl

@[simp] theorem markersOf_nil : markersOf [] = [] := rfl

@[simp] theorem markersOf_cons (t : Token) (ts : List Token) :
    markersOf (t :: ts) = t.marker?.toList ++ markersOf ts := by
  cases ht : t.marker? <;> simp [markersOf, ht]

@[simp] theorem markersOf_append (ts us : List Token) :
    markersOf (ts ++ us) = markersOf ts ++ markersOf us :=
  List.filterMap_append

theorem markersOf_flatMap {β : Type} (l : List β) (ts : β → List Token) :
    markersOf (l.flatMap ts) = l.flatMap fun b => markersOf (ts b) :=
  List.filterMap_flatMap

/-- What stands between parts names no parameter. -/
theorem markersOf_intercalate {sep : List Token} (hsep : markersOf sep = [])
    (parts : List (List Token)) :
    markersOf (sep.intercalate parts) = parts.flatMap markersOf := by
  induction parts with
  | nil => rfl
  | cons part parts ih =>
    cases parts with
    | nil => simp
    | cons other parts =>
      rw [List.intercalate_cons_cons, markersOf_append, markersOf_append, hsep, ih]
      simp

theorem markersOf_commas (parts : List (List Token)) :
    markersOf ([.symbol ','].intercalate parts) = parts.flatMap markersOf :=
  markersOf_intercalate rfl parts

theorem markersOf_enclosed (ts : List Token) :
    markersOf (.symbol '(' :: (ts ++ [.symbol ')'])) = markersOf ts := by
  simp [Token.marker?]

end Sql

open EntitySql.Sql

/-! ## Uses in predicates -/

abbrev slotUses (column : String) (slots : List Slot) : List (String × String) :=
  slots.map fun s => (s.name, column)

theorem markersOf_joinedTokens (negated : Bool) (parts : List (List Token)) :
    markersOf (joinedTokens negated parts) = parts.flatMap markersOf := by
  have hjoin : markersOf [.keyword (joinKeyword negated)] = [] := rfl
  match parts with
  | [part] => simp [joinedTokens]
  | [] => rfl
  | part :: other :: parts =>
    rw [joinedTokens, markersOf_enclosed, markersOf_intercalate hjoin]
    simp

theorem uses_joinedTree (negated : Bool) (trees : List SearchCondition) :
    (joinedTree negated trees).uses = trees.flatMap SearchCondition.uses := by
  cases trees with
  | nil => rfl
  | cons c cs =>
    cases negated with
    | false => exact uses_disjoin c cs
    | true => exact uses_conjoin c cs

theorem markersOf_operator (operator : Operator) : markersOf operator.tokens = [] := by
  cases operator <;> rfl

theorem markersOf_escapeTokens (escape : Option Char) : markersOf (escapeTokens escape) = [] := by
  cases escape <;> rfl

theorem markersOf_memberTokens (column : String) (negated : Bool) (chunk : List Slot) :
    markersOf (memberTokens column negated chunk) = slotNames chunk := by
  have hoperator : markersOf (if negated then [.keyword .not, .keyword .in_]
      else [.keyword .in_]) = [] := by
    cases negated <;> rfl
  rw [memberTokens, markersOf_cons, markersOf_append, hoperator, markersOf_enclosed,
    markersOf_commas, List.flatMap_map]
  simp [Token.marker?, ← List.map_eq_flatMap]

theorem parameters_chunk (chunk : List Slot) :
    (chunk.map fun s => Atom.parameter s.name).filterMap Atom.parameter? = slotNames chunk := by
  rw [List.filterMap_map]
  exact congrFun (List.filterMap_eq_map (f := Slot.name)) chunk

namespace Predicate

/-- The uses of the slots of a predicate, in order: a range names each of its bounds four
times. -/
def uses : Predicate → List (String × String)
  | .always _ | .null _ _ => []
  | .compare column _ slots | .like column slots _ => slotUses column slots
  | .between column low high => slotUses column [low, high, low, high, low, high, high, low]
  | .member column _ chunks => slotUses column chunks.flatten

theorem uses_tree (p : Predicate) : p.tree.uses = p.uses := by
  cases p with
  | always holds => rfl
  | null column negated => rfl
  | compare column operator slots =>
    rw [tree, uses_joinedTree, List.flatMap_map]
    exact List.map_eq_flatMap.symm
  | like column slots escape =>
    rw [tree, uses_joinedTree, List.flatMap_map]
    exact List.map_eq_flatMap.symm
  | between column low high => rfl
  | member column negated chunks =>
    rw [tree, uses_joinedTree, List.flatMap_map, uses, slotUses, List.map_flatten,
      ← List.flatMap_def]
    refine congrArg (List.flatMap · chunks) (funext fun chunk => ?_)
    rw [SearchCondition.uses, parameters_chunk]
    simp [Expression.against, Expression.column?]

theorem markersOf_tokens (p : Predicate) : markersOf p.tokens = p.uses.map Prod.fst := by
  cases p with
  | always holds => rfl
  | null column negated => cases negated <;> rfl
  | compare column operator slots =>
    rw [tokens, markersOf_joinedTokens, uses, slotUses, List.flatMap_map, List.map_map,
      List.map_eq_flatMap]
    refine congrArg (List.flatMap · slots) (funext fun s => ?_)
    simp [compareTokens, markersOf_operator, Token.marker?]
  | like column slots escape =>
    rw [tokens, markersOf_joinedTokens, uses, slotUses, List.flatMap_map, List.map_map,
      List.map_eq_flatMap]
    refine congrArg (List.flatMap · slots) (funext fun s => ?_)
    simp [compareTokens, markersOf_operator, markersOf_escapeTokens, Token.marker?]
  | between column low high => rfl
  | member column negated chunks =>
    rw [tokens, markersOf_joinedTokens, uses, slotUses, List.flatMap_map, List.map_map,
      List.map_flatten, ← List.flatMap_def]
    exact congrArg (List.flatMap · chunks) (funext fun chunk => markersOf_memberTokens _ _ _)

/-- The uses of a predicate, each once, are its slots beside its column. -/
theorem distinct_uses {o : Options} {base column : String} {operator : Operator} {p : Predicate}
    (h : FieldForm o base column operator p) (hnames : (slotNames p.slots).Nodup) :
    distinctBy id p.uses = slotUses column p.slots := by
  have hnodup : (slotUses column p.slots).Nodup := by
    refine List.Nodup.of_map Prod.fst ?_
    simpa [slotUses, Function.comp_def] using hnames
  cases h with
  | always operator holds => rfl
  | null operator negated => rfl
  | compare comparison nonempty => exact distinctBy_of_nodup hnodup
  | like nonempty => exact distinctBy_of_nodup hnodup
  | between low high =>
    have hne : (base ++ "_0", column) ≠ (base ++ "_1", column) := by simp
    simp [uses, slots, slotUses, distinctBy, distinctFrom, hne, Ne.symm hne]
  | member negated nonempty => exact distinctBy_of_nodup hnodup

end Predicate

/-! ## Uses in conditions -/

theorem uses_groupTree (g : List FieldPredicate) :
    (groupTree g).uses = g.flatMap (·.predicate.uses) := by
  cases g with
  | nil => rfl
  | cons p ps =>
    rw [groupTree, uses_conjoin]
    show ((p :: ps).map (·.predicate.tree)).flatMap SearchCondition.uses = _
    rw [List.flatMap_map]
    exact congrArg (List.flatMap · (p :: ps)) (funext fun q => q.predicate.uses_tree)

theorem markersOf_groupTokens (g : List FieldPredicate) :
    markersOf (groupTokens g) = (g.flatMap (·.predicate.uses)).map Prod.fst := by
  have hand : markersOf [.keyword .and] = [] := rfl
  cases g with
  | nil => rfl
  | cons p ps =>
    rw [groupTokens, if_neg (List.cons_ne_nil p ps), markersOf_intercalate hand, List.flatMap_map,
      List.map_flatMap]
    exact congrArg (List.flatMap · (p :: ps)) (funext fun q => q.predicate.markersOf_tokens)

namespace Condition

variable {g : List FieldPredicate} {gs : Condition}

def uses (c : Condition) : List (String × String) :=
  c.flatMap fun g => g.flatMap (·.predicate.uses)

theorem uses_tree : (tree g gs).uses = uses (g :: gs) := by
  rw [tree, uses_disjoin]
  show ((g :: gs).map groupTree).flatMap SearchCondition.uses = _
  rw [List.flatMap_map]
  exact congrArg (List.flatMap · (g :: gs)) (funext uses_groupTree)

theorem markersOf_tokens (c : Condition) : markersOf c.tokens = c.uses.map Prod.fst := by
  have hor : markersOf [.keyword .or] = [] := rfl
  have hgroups : ∀ c : Condition, markersOf ([.keyword .or].intercalate
      (c.map fun g => .symbol '(' :: (groupTokens g ++ [.symbol ')']))) = c.uses.map Prod.fst := by
    intro c
    rw [markersOf_intercalate hor, List.flatMap_map, uses, List.map_flatMap]
    refine congrArg (List.flatMap · c) (funext fun g => ?_)
    rw [markersOf_enclosed, markersOf_groupTokens]
  match c with
  | [] => rfl
  | [g] => simpa [tokens, uses] using markersOf_groupTokens g
  | g :: h :: gs => exact hgroups (g :: h :: gs)

/-- The uses of a condition, each once, are its parameters with their columns. -/
theorem distinct_uses {e : Entity} {o : Options} {a : Action} {items : List Item} {c : Condition}
    (h : ofItems e o a items = .ok c) :
    distinctBy id c.uses = c.params.map fun p => (p.name, p.column) := by
  have huses : c.uses = c.flatten.flatMap (·.predicate.uses) := by
    rw [uses, List.flatten_eq_flatMap, List.flatMap_assoc]
    rfl
  have hparams : c.params = c.flatten.flatMap FieldPredicate.params := by
    rw [params, List.flatten_eq_flatMap, List.flatMap_assoc]
    rfl
  have hnames := (namedUnder_ofItems h).nodup
  rw [hparams] at hnames
  rw [huses, hparams, List.map_flatMap]
  refine distinctBy_flatMap (fun p hp => ?_) ?_
  · obtain ⟨g, hg, hp⟩ := List.mem_flatten.1 hp
    obtain ⟨_, _, item, field, f, _, hfield⟩ := exists_ofField h hg hp
    rw [Predicate.distinct_uses (Predicate.fieldForm_ofField hfield)
      (Predicate.namedUnder_ofField hfield).nodup]
    simp [FieldPredicate.params]
  · rw [← List.map_flatMap]
    refine List.Nodup.of_map Prod.fst ?_
    rw [List.map_map]
    exact hnames

end Condition

end EntitySql
