import EntitySql.Chunk
import EntitySql.Entity
import EntitySql.Options
import EntitySql.Values

/-!
# Inserting rows

The batch that inserts items.  The database assigns identifiers, so the identifier column is
left out unless the options keep it, and so are items without columns.  Items of one shape
share a statement, up to the limit on its rows.
-/

namespace EntitySql

/-- The items that are inserted, with the columns that are written. -/
def insertedItems (e : Entity) (o : Options) (items : List Item) : List Item :=
  (if o.insertIdentifier then items else items.map (·.erase e.identifier)).filter (!·.isEmpty)

/-- A group in pieces of bounded size. -/
def ShapeGroup.split (size : Nat) (g : ShapeGroup) : List ShapeGroup :=
  (chunks size g.items).map fun items => { g with items }

def insertText (e : Entity) (v : Values) : String :=
  "INSERT INTO " ++ Sql.quoteIdentifier e.table ++ " " ++ v.columnsText ++ " " ++ v.rowsText

/-- The query that inserts some items; it is empty if there is nothing to insert. -/
def Query.insert (e : Entity) (o : Options) (items : List Item) : Except Error Query :=
  let groups := (ShapeGroup.ofItems (insertedItems e o items)).flatMap (·.split o.maxInsertRows)
  .ofValues .insert (insertText e) <$> Values.ofGroups e.table .insert 0 groups

end EntitySql
