import EntitySql.Item

/-!
# Shapes

The shape of an item is the set of its columns.  Items of one shape are written by one
statement, so items are grouped by shape: groups in the order in which their shapes first
occur, items within a group in the order given.
-/

namespace EntitySql

/-- The shape of an item: its columns in ascending order, with commas between them. -/
def Item.shapeKey (i : Item) : String := ",".intercalate i.sortedColumns

/-- Items of one shape, with the columns of the first. -/
structure ShapeGroup where
  columns : List String
  items : List Item
deriving DecidableEq

namespace ShapeGroup

/-- Adds an item of some shape to the group of that shape, or behind all groups as a new
one. -/
def insert (shape : String) (i : Item) : List (String × ShapeGroup) → List (String × ShapeGroup)
  | [] => [(shape, ⟨i.sortedColumns, [i]⟩)]
  | (key, group) :: rest =>
    if key = shape then (key, { group with items := group.items ++ [i] }) :: rest
    else (key, group) :: insert shape i rest

def ofItems (items : List Item) : List ShapeGroup :=
  (items.foldl (fun groups i => insert i.shapeKey i groups) []).map (·.2)

end ShapeGroup

end EntitySql
