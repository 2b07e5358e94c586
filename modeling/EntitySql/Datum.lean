import EntitySql.Value

/-!
# Data

What is exchanged with the database: the parameters it is sent and the fields it returns.
Dates, times and timestamps travel as text.
-/

namespace EntitySql

inductive DatumKind
  | boolean
  | int32
  | int64
  | uint32
  | uint64
  | float
  | double
  | str
  | binary
  | date
  | time
  | timestamp
deriving DecidableEq, Repr

/-- A datum, where a null has a kind of its own. -/
inductive Datum
  | null (kind : DatumKind)
  | boolean (b : Bool)
  | int32 (n : Int32)
  | int64 (n : Int64)
  | uint32 (n : UInt32)
  | uint64 (n : UInt64)
  | float (x : Binary32)
  | double (x : Binary64)
  | str (s : String)
  | binary (b : List UInt8)
  | date (s : String)
  | time (s : String)
  | timestamp (s : String)
deriving DecidableEq

def Datum.kind : Datum → DatumKind
  | .null kind => kind
  | .boolean _ => .boolean
  | .int32 _ => .int32
  | .int64 _ => .int64
  | .uint32 _ => .uint32
  | .uint64 _ => .uint64
  | .float _ => .float
  | .double _ => .double
  | .str _ => .str
  | .binary _ => .binary
  | .date _ => .date
  | .time _ => .time
  | .timestamp _ => .timestamp

namespace Datum

def isNull : Datum → Bool
  | .null _ => true
  | _ => false

/-- The same datum with one form for all floating-point values that are no number. -/
def canonical : Datum → Datum
  | .float x => .float x.canonical
  | .double x => .double x.canonical
  | d => d

end Datum

def DatumKind.valueKind : DatumKind → Kind
  | .boolean => .bool
  | .int32 => .int
  | .int64 => .bigInt
  | .uint32 => .unsigned
  | .uint64 => .bigUnsigned
  | .float => .float
  | .double => .double
  | .str | .date | .time | .timestamp => .string
  | .binary => .bytes

/-- The engine value of a datum that was read; dates and times stay text. -/
def Value.ofDatum : Datum → Value
  | .null kind => .null kind.valueKind
  | .boolean b => .bool b
  | .int32 n => .int n
  | .int64 n => .bigInt n
  | .uint32 n => .unsigned n
  | .uint64 n => .bigUnsigned n
  | .float x => .float x
  | .double x => .double x
  | .str s | .date s | .time s | .timestamp s => .string s
  | .binary b => .bytes b

end EntitySql
