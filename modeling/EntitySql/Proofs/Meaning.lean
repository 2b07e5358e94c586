import EntitySql.Condition
import EntitySql.Proofs.SearchCondition

/-!
# What predicates mean

The truth value of a predicate for a row, told from the predicate alone and not from its text.
Over several values a negated comparison asks for all of them and any other for some; a range
lies between its bounds in whichever order they come.

    Condition.ofItems e o a items = .ok c →
      c.truth x = any over items, all over their fields, of the fields' truth   (truth_ofItems)
-/

namespace EntitySql

open EntitySql.Sql

variable {α : Type}

/-! ## Predicates -/

/-- The operators that compare with one value at a time. -/
def Operator.comparisons : List Operator := [.eq, .ne, .lt, .lte, .gt, .gte]

/-- The comparison with one value that an operator makes.  A pattern or a range is no
comparison, and predicates have forms of their own for them. -/
def Operator.comparator : Operator → Comparator
  | .eq | .in_ | .like | .between => .eq
  | .ne | .notIn => .ne
  | .lt => .lt
  | .lte => .lte
  | .gt => .gt
  | .gte => .gte

/-- Two values with the smaller one in front; they trade places where they do not compare. -/
def Sql.Collation.sorted (k : Collation α) (y z : Option α) : Option α × Option α :=
  if k.compare .lte y z = .holds then (y, z) else (z, y)

namespace Predicate

def truth (x : Context α) : Predicate → Truth
  | .always holds => .ofBool holds
  | .null column negated => nullTruth negated (x.row column)
  | .compare column operator slots =>
    .joined operator.negated (slots.map fun s =>
      x.collation.compare operator.comparator (x.row column) (x.parameter s.name))
  | .like column slots escape =>
    .any (slots.map fun s =>
      x.collation.matchPattern escape (x.row column) (x.parameter s.name))
  | .between column low high =>
    let bounds := x.collation.sorted (x.parameter low.name) (x.parameter high.name)
    (x.collation.compare .gte (x.row column) bounds.1).and
      (x.collation.compare .lte (x.row column) bounds.2)
  | .member column negated chunks =>
    .joined negated (chunks.flatten.map fun s =>
      x.collation.compare (if negated then .ne else .eq) (x.row column) (x.parameter s.name))

end Predicate

/-! ## Conditions -/

/-- The truth value of what a field asks for; a field that is refused has none. -/
def fieldTruth (x : Context α) (e : Entity) (o : Options) (a : Action) (item field : Nat)
    (column : String) (f : FieldValue) : Truth :=
  match Predicate.ofField e o a item field column f with
  | .ok p => p.truth x
  | .error _ => .unknown

/-- The truth value of what an item asks for: all of its fields hold. -/
def Item.truth (x : Context α) (e : Entity) (o : Options) (a : Action) (i : Item) (item : Nat) :
    Truth :=
  .all (i.entries.zipIdx.map fun ((column, f), field) => fieldTruth x e o a item field column f)

/-- The truth value of what some items ask for: one of them holds. -/
def itemsTruth (x : Context α) (e : Entity) (o : Options) (a : Action) (items : List Item) :
    Truth :=
  .any (items.zipIdx.map fun (i, item) => i.truth x e o a item)

/-- The truth value of a condition: all predicates of some group hold. -/
def Condition.truth (x : Context α) (c : Condition) : Truth :=
  .any (c.map fun g => .all (g.map fun p => p.predicate.truth x))

/-! ## Laws -/

section

variable (x : Context α) {e : Entity} {o : Options} {a : Action}

theorem Condition.truth_ofItem {i : Item} {item : Nat} {g : List FieldPredicate}
    (h : ofItem e o a i item = .ok g) :
    Truth.all (g.map fun p => p.predicate.truth x) = i.truth x e o a item := by
  refine congrArg Truth.all (Outcome.map_of_mapM h ?_)
  rintro ⟨⟨column, f⟩, field⟩ _ p hp
  obtain ⟨q, hq, rfl⟩ := Outcome.map_eq_ok_iff.1 hp
  show q.truth x = fieldTruth x e o a item field column f
  rw [fieldTruth, hq]

/-- A condition means what its items ask for. -/
theorem Condition.truth_ofItems {items : List Item} {c : Condition}
    (h : ofItems e o a items = .ok c) : c.truth x = itemsTruth x e o a items := by
  refine congrArg Truth.any (Outcome.map_of_mapM h ?_)
  rintro ⟨i, item⟩ _ g hg
  exact truth_ofItem x hg

end

end EntitySql
