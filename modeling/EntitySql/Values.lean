import EntitySql.Query
import EntitySql.Shape
import EntitySql.Sql.Batch
import EntitySql.Sql.Identifier

/-!
# Written rows

The rows behind `VALUES` in an insert or an update.  Every cell of a row is a parameter,
named after the number of the row in the whole batch and the place of its column.
-/

namespace EntitySql

/-! ## One row -/

/-- The value that an item writes into a column, a null where it has none; a list or a query
is no single value. -/
def Item.cell? (i : Item) (column : String) : Option Value :=
  match i.get? column with
  | none => some .untypedNull
  | some (.value v) => some v
  | some (.array _) | some (.query _) => none

def cellName (row place : Nat) : String := s!"v{row}_{place}"

/-- The cells of an item for some columns, counted from `place`: all of them, or those in
front of the first column that has no single value, with that column. -/
def cellsFrom (row : Nat) (i : Item) : Nat → List String → Params × Option String
  | _, [] => ([], none)
  | place, column :: rest =>
    match i.cell? column with
    | none => ([], some column)
    | some v =>
      let (cells, refused) := cellsFrom row i (place + 1) rest
      (⟨cellName row place, v, column⟩ :: cells, refused)

def cells (table : String) (action : Action) (row : Nat) (columns : List String) (i : Item) :
    Except Error Params :=
  match cellsFrom row i 0 columns with
  | (params, none) => .ok params
  | (_, some column) => refuse table action (.unsupportedValue column)

/-! ## The rows of a statement -/

/-- The rows that one statement writes into some columns. -/
structure Values where
  columns : List String
  rows : List Params
deriving DecidableEq

namespace Values

/-- The rows of each group of items, counted from `row` through all groups. -/
def ofGroups (table : String) (action : Action) :
    Nat → List ShapeGroup → Except Error (List Values)
  | _, [] => .ok []
  | row, g :: rest => do
    let rows ← (g.items.zipIdx row).mapM fun (i, n) => cells table action n g.columns i
    let others ← ofGroups table action (row + g.items.length) rest
    return ⟨g.columns, rows⟩ :: others

def params (v : Values) : Params := v.rows.flatten

def rowText (row : Params) : String :=
  Sql.parenthesized (", ".intercalate (row.map Param.marker))

def rowsText (v : Values) : String := "VALUES " ++ ", ".intercalate (v.rows.map rowText)

def columnsText (v : Values) : String :=
  Sql.parenthesized (", ".intercalate (v.columns.map Sql.quoteIdentifier))

end Values

/-- The batch of one statement for each block of rows. -/
def Query.ofValues (action : Action) (text : Values → String) (blocks : List Values) : Query :=
  ⟨action, Sql.batch (blocks.map text), blocks.flatMap Values.params⟩

end EntitySql
