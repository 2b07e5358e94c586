import EntitySql.Row.Json
import EntitySql.SqlType

/-!
# Rows in exchange documents

The form in which rows are exchanged between programs, where nothing is lost: a datum is an
object of one field, named for its kind, and a row lists its fields in order.  A structure
may also come as the array of its parts, and fields of an object that are not known are
passed over.
-/

namespace EntitySql

/-! ## Names -/

def DatumKind.tag : DatumKind → String
  | .boolean => "Boolean"
  | .int32 => "Int32"
  | .int64 => "Int64"
  | .uint32 => "Uint32"
  | .uint64 => "Uint64"
  | .float => "Float"
  | .double => "Double"
  | .str => "Str"
  | .binary => "Binary"
  | .date => "Date"
  | .time => "Time"
  | .timestamp => "Timestamp"

def DatumKind.all : List DatumKind :=
  [.boolean, .int32, .int64, .uint32, .uint64, .float, .double, .str, .binary, .date, .time,
   .timestamp]

def DatumKind.ofTag? (tag : String) : Option DatumKind := all.find? (·.tag = tag)

def SqlType.tag : SqlType → String
  | .bit => "Bit"
  | .tinyInt => "TinyInt"
  | .smallInt => "SmallInt"
  | .int => "Int"
  | .bigInt => "BigInt"
  | .real => "Real"
  | .float => "Float"
  | .decimal => "Decimal"
  | .char => "Char"
  | .nChar => "NChar"
  | .varChar => "VarChar"
  | .nVarChar => "NVarChar"
  | .text => "Text"
  | .uniqueIdentifier => "UniqueIdentifier"
  | .date => "Date"
  | .time => "Time"
  | .dateTime => "DateTime"
  | .dateTime2 => "DateTime2"
  | .dateTimeOffset => "DateTimeOffset"
  | .binary => "Binary"
  | .varBinary => "VarBinary"

def SqlType.ofTag? (tag : String) : Option SqlType := all.find? (·.tag = tag)

/-! ## Writing -/

/-- The content of a datum; binary data are listed byte by byte. -/
def Datum.content : Datum → Json
  | .binary b => .array (b.map fun n => .integer n.toNat)
  | d => d.toJson

def Datum.toDocument (d : Datum) : Json := .object [(d.kind.tag, d.content)]

def SqlType.toDocument (t : SqlType) : Json := .string t.tag

def Field.toDocument (f : Field) : Json :=
  .object [("name", .string f.name), ("value", f.datum.toDocument)]

def Row.toDocument (r : Row) : Json :=
  .object [("fields", .array (r.fields.map Field.toDocument)), ("index", .string r.index)]

/-! ## Reading -/

/-- An integer between two bounds. -/
def Json.integerIn? (low high : Int) : Json → Option Int
  | .integer n => if low ≤ n ∧ n ≤ high then some n else none
  | _ => none

/-- A number in single precision, of an integer the nearest one. -/
def Json.single? : Json → Option Binary32
  | .integer n => some (.ofInt n)
  | .float x => some x.toSingle
  | _ => none

/-- A number in double precision, of an integer the nearest one. -/
def Json.double? : Json → Option Binary64
  | .integer n => some (.ofInt n)
  | .float x => some x
  | _ => none

/-- Bytes, listed as integers. -/
def Json.bytes? : Json → Option (List UInt8)
  | .array items => items.mapM fun i => (i.integerIn? 0 255).map fun n => UInt8.ofNat n.toNat
  | _ => none

/-- A datum of a kind that is not null. -/
def Datum.ofContent? (kind : DatumKind) (content : Json) : Option Datum :=
  match kind with
  | .boolean =>
    match content with
    | .bool b => some (.boolean b)
    | _ => none
  | .int32 =>
    (content.integerIn? Int32.minValue.toInt Int32.maxValue.toInt).map (.int32 <| Int32.ofInt ·)
  | .int64 =>
    (content.integerIn? Int64.minValue.toInt Int64.maxValue.toInt).map (.int64 <| Int64.ofInt ·)
  | .uint32 => (content.integerIn? 0 (UInt32.size - 1)).map (.uint32 <| UInt32.ofNat ·.toNat)
  | .uint64 => (content.integerIn? 0 (UInt64.size - 1)).map (.uint64 <| UInt64.ofNat ·.toNat)
  | .float => content.single?.map .float
  | .double => content.double?.map .double
  | .str => content.string?.map .str
  | .binary => content.bytes?.map .binary
  | .date => content.string?.map .date
  | .time => content.string?.map .time
  | .timestamp => content.string?.map .timestamp

def Datum.ofDocument? : Json → Option Datum
  | .object [(tag, content)] =>
    (DatumKind.ofTag? tag).bind fun kind =>
      match content with
      | .null => some (.null kind)
      | content => ofContent? kind content
  | _ => none

/-- The storage type of a document: its name, or an object with nothing under that name. -/
def SqlType.ofDocument? : Json → Option SqlType
  | .string tag => ofTag? tag
  | .object [(tag, .null)] => ofTag? tag
  | _ => none

/-- The two parts of a structure: the fields of an object, or the items of an array. -/
def Json.parts? (first second : String) (json : Json) : Option (Json × Json) :=
  match json with
  | .array [a, b] => some (a, b)
  | json =>
    match json.field? first, json.field? second with
    | some a, some b => some (a, b)
    | _, _ => none

def Json.items? : Json → Option (List Json)
  | .array items => some items
  | _ => none

def Field.ofDocument? (json : Json) : Option Field := do
  let (name, value) ← json.parts? "name" "value"
  return ⟨← name.string?, ← Datum.ofDocument? value⟩

def Row.ofDocument? (json : Json) : Option Row := do
  let (index, fields) ← json.parts? "index" "fields"
  return ⟨← index.string?, ← (← fields.items?).mapM Field.ofDocument?⟩

end EntitySql
