import EntitySql.Json
import EntitySql.Row
import EntitySql.Text.Base64

/-!
# Rows as JSON

A row becomes an object of its fields.  Binary data become text in base 64, dates and times
keep their text, and a number that JSON cannot write becomes null.
-/

namespace EntitySql

/-- A number, or null where there is no finite one. -/
def Json.ofDouble (x : Binary64) : Json := if x.isFinite then .float x else .null

def Datum.toJson : Datum → Json
  | .null _ => .null
  | .boolean b => .bool b
  | .int32 n => .integer n.toInt
  | .int64 n => .integer n.toInt
  | .uint32 n => .integer n.toNat
  | .uint64 n => .integer n.toNat
  | .float x => .ofDouble x.toDouble
  | .double x => .ofDouble x
  | .str s | .date s | .time s | .timestamp s => .string s
  | .binary b => .string (String.ofList (Text.base64 b))

/-- A row, the last field of every name. -/
def Row.toJson (r : Row) : Json := .ofFields (r.fields.map fun f => (f.name, f.datum.toJson))

def Json.ofRows (rows : List Row) : Json := .array (rows.map Row.toJson)

end EntitySql
