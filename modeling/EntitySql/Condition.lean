import EntitySql.Predicate.OfField
import EntitySql.Query

/-!
# Conditions

What a list of items asks of a row: the row meets some item, that is every field of it.  A
condition holds the predicate of each field with its column; its text and its parameters
are both read off from there.
-/

namespace EntitySql

/-- A predicate with the column of its field. -/
structure FieldPredicate where
  column : String
  predicate : Predicate
deriving DecidableEq

def FieldPredicate.params (p : FieldPredicate) : Params :=
  p.predicate.slots.map fun s => ⟨s.name, s.value, p.column⟩

/-- One group of predicates for each item. -/
abbrev Condition := List (List FieldPredicate)

namespace Condition

/-- The predicates of the fields of an item, the one at place `item`. -/
def ofItem (e : Entity) (o : Options) (a : Action) (i : Item) (item : Nat) :
    Except Error (List FieldPredicate) :=
  i.entries.zipIdx.mapM fun ((column, f), field) =>
    (⟨column, ·⟩) <$> Predicate.ofField e o a item field column f

/-- The condition that a row meets some of the items. -/
def ofItems (e : Entity) (o : Options) (a : Action) (items : List Item) : Except Error Condition :=
  items.zipIdx.mapM fun (i, item) => ofItem e o a i item

/-- The text of each predicate, by item. -/
def texts (c : Condition) : List (List String) := c.map fun g => g.map (·.predicate.text)

def text? (c : Condition) : Option String := Sql.alternatives c.texts

def params (c : Condition) : Params := c.flatMap fun g => g.flatMap FieldPredicate.params

end Condition

end EntitySql
