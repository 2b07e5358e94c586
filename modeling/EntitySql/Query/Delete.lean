import EntitySql.Condition
import EntitySql.Key

/-!
# Deleting rows

The query that deletes the rows which items name by the identifier.  Nothing but the
identifier of an item counts, and nulls name no row.  The keys of all items are put together,
each once; a delete without keys is refused, since its condition would be empty.
-/

namespace EntitySql

/-- The key values by which an item names rows. -/
def Item.deleted (e : Entity) (i : Item) : Except Error (List Value) :=
  match i.get? e.identifier with
  | none => .ok []
  | some f =>
    match f.keys? with
    | none => refuse e.table .delete (.unsupportedValue e.identifier)
    | some keys => .ok (keys.filter (!·.isNull))

/-- The key values of all items, each once. -/
def deletedKeys (e : Entity) (items : List Item) : Except Error (List Value) :=
  (fun keys => distinctBy (keyIdentity e e.identifier) keys.flatten) <$>
    items.mapM (Item.deleted e)

/-- The query that deletes the rows named by some items. -/
def Query.delete (e : Entity) (o : Options) (items : List Item) : Except Error Query := do
  let keys ← deletedKeys e items
  if keys.isEmpty then
    refuse e.table .delete (.missingColumn e.identifier)
  let condition ← Condition.ofItems e o .delete [Item.empty.set e.identifier (.array keys)]
  let text := "DELETE FROM " ++ Sql.quoteIdentifier e.table ++ " WHERE " ++
    condition.text?.getD "1=0"
  return ⟨.delete, Sql.batch [text], condition.params⟩

end EntitySql
