import EntitySql.Datum

/-!
# Rows

A row that a query returns: its fields in the order of the selection.
-/

namespace EntitySql

/-- A column of a row with its datum. -/
structure Field where
  name : String
  datum : Datum
deriving DecidableEq

/-- A row, with the index that the backend gives it. -/
structure Row where
  index : String
  fields : List Field
deriving DecidableEq

/-- The datum of the first field of a name. -/
def Row.get? (r : Row) (name : String) : Option Datum :=
  (r.fields.find? (·.name = name)).map (·.datum)

end EntitySql
