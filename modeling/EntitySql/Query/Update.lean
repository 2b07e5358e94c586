import EntitySql.Key
import EntitySql.Options
import EntitySql.Values

/-!
# Updating rows

The batch that updates the rows which items name by a key column.  An item with several key
values becomes one row for each of them; rows of one shape are merged into the table by one
statement, which changes rows that exist and does nothing else.  Rows that have only the key
have nothing to change.
-/

namespace EntitySql

/-- The rows of an item, one for each row that its key names. -/
def Item.keyed (e : Entity) (key : String) (i : Item) : Except Error (List Item) :=
  match i.get? key with
  | none => refuse e.table .update (.missingColumn key)
  | some f =>
    match f.keys? with
    | none => refuse e.table .update (.unsupportedValue key)
    | some keys => .ok ((distinctBy (keyIdentity e key) keys).map fun v => i.set key (.value v))

def ShapeGroup.changed (key : String) (g : ShapeGroup) : List String :=
  g.columns.filter (· ≠ key)

def assignmentText (column : String) : String :=
  let quoted := Sql.quoteIdentifier column
  s!"target.{quoted} = source.{quoted}"

def updateText (e : Entity) (key : String) (v : Values) : String :=
  let assignments := (v.columns.filter (· ≠ key)).map assignmentText
  "MERGE INTO " ++ Sql.quoteIdentifier e.table ++ " AS target USING " ++
    Sql.parenthesized v.rowsText ++ " AS source " ++ v.columnsText ++ " ON " ++
    assignmentText key ++ " WHEN MATCHED THEN UPDATE SET " ++ ", ".intercalate assignments

/-- The query that updates the rows named by a key; it is empty if there is nothing to
change. -/
def Query.update (e : Entity) (o : Options) (items : List Item) (key : String) :
    Except Error Query := do
  if o.columnMode ≠ .off ∧ !e.hasColumn key then
    refuse e.table .update (.unknownColumn key)
  let rows ← items.mapM (Item.keyed e key)
  let groups := (ShapeGroup.ofItems rows.flatten).filter fun g => !(g.changed key).isEmpty
  .ofValues .update (updateText e key) <$> Values.ofGroups e.table .update 0 groups

end EntitySql
