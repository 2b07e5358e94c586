import EntitySql.Entity
import EntitySql.Error
import EntitySql.Item

/-!
# Calls and their validation

A call does something with the rows of an entity, named by a key column.  Before anything is
compiled, the items of a call are validated: fields that are bare nulls are dropped and then
items without fields; an update or a delete needs the key in every item; and every declared
column has to accept the values it is given.  All fields that fail are reported at once,
each for its first value that fails.
-/

namespace EntitySql

/-- What is done with which entity, and by which key column. -/
structure Call where
  entity : Entity
  action : Action
  key : String

/-- The items without bare nulls, and without those that have no other fields. -/
def presentItems (items : List Item) : List Item :=
  (items.map fun i => i.filter fun _ f => !f.isRawNull).filter (!·.isEmpty)

namespace Call

def needsKey (c : Call) : Bool :=
  match c.action with
  | .update | .delete => true
  | .find | .insert => false

/-- Whether the call writes values, so that a null among them is checked. -/
def writes (c : Call) : Bool :=
  match c.action with
  | .insert | .update => true
  | .find | .delete => false

/-- Why a column refuses a value, if it does.  Patterns are not of the type of the column. -/
def valueFault? (c : Call) (column : Column) (operator : Operator) (v : Value) :
    Option ColumnFault :=
  if v.isNull && !c.writes then none
  else
    match column.validate v (operator ≠ .like) with
    | .ok () => none
    | .error fault => some fault

/-- Why a column refuses a field: the fault of the first value that has one. -/
def fieldFault? (c : Call) (column : Column) (f : FieldValue) : Option ColumnFault :=
  f.values.findSome? (c.valueFault? column f.operator)

def violations (c : Call) (i : Item) (place : Nat) : List Violation :=
  i.entries.filterMap fun (name, f) =>
    ((c.entity.column? name).bind fun column => c.fieldFault? column f).map
      fun fault => ⟨place, name, fault⟩

/-- The items that take part in a call, if all of them may. -/
def validate (c : Call) (items : List Item) : Except Error (List Item) :=
  let present := presentItems items
  if c.needsKey && present.any (!·.contains c.key) then
    refuse c.entity.table c.action (.missingColumn c.key)
  else
    match present.zipIdx.flatMap fun (i, place) => c.violations i place with
    | [] => .ok present
    | violations => refuse c.entity.table c.action (.validationFailed violations)

end Call

end EntitySql
