import EntitySql.Text.Blank
import EntitySql.Text.Lowercase
import EntitySql.Unrecognized

/-!
# Storage types

The types that the database declares for columns.  Each has one name; `parse` also takes
other spellings and skips a length or precision in parentheses.
-/

namespace EntitySql

open EntitySql.Text

inductive SqlType
  | bit
  | tinyInt
  | smallInt
  | int
  | bigInt
  | real
  | float
  | decimal
  | char
  | nChar
  | varChar
  | nVarChar
  | text
  | uniqueIdentifier
  | date
  | time
  | dateTime
  | dateTime2
  | dateTimeOffset
  | binary
  | varBinary
deriving DecidableEq, Repr

namespace SqlType

/-- All storage types, from `bit` to `varbinary`. -/
def all : List SqlType :=
  [.bit, .tinyInt, .smallInt, .int, .bigInt, .real, .float, .decimal, .char, .nChar,
   .varChar, .nVarChar, .text, .uniqueIdentifier, .date, .time, .dateTime, .dateTime2,
   .dateTimeOffset, .binary, .varBinary]

/-- The spelling of the dialect. -/
def name : SqlType → String
  | .bit => "bit"
  | .tinyInt => "tinyint"
  | .smallInt => "smallint"
  | .int => "int"
  | .bigInt => "bigint"
  | .real => "real"
  | .float => "float"
  | .decimal => "decimal"
  | .char => "char"
  | .nChar => "nchar"
  | .varChar => "varchar"
  | .nVarChar => "nvarchar"
  | .text => "text"
  | .uniqueIdentifier => "uniqueidentifier"
  | .date => "date"
  | .time => "time"
  | .dateTime => "datetime"
  | .dateTime2 => "datetime2"
  | .dateTimeOffset => "datetimeoffset"
  | .binary => "binary"
  | .varBinary => "varbinary"

/-- Whether values of the type are character data. -/
def isText : SqlType → Bool
  | .char | .nChar | .varChar | .nVarChar | .text | .uniqueIdentifier => true
  | _ => false

def aliases : List (String × SqlType) :=
  [("integer", .int), ("numeric", .decimal), ("money", .decimal), ("ntext", .text),
   ("smalldatetime", .dateTime), ("image", .varBinary)]

/-- The type of a spelling in lower case. -/
def ofName? (s : String) : Option SqlType :=
  (all.find? (·.name = s)).or ((aliases.find? (·.1 = s)).map (·.2))

/-- The type that a declaration names: what stands before the first parenthesis, without
blanks around it and in any case. -/
def parse (s : String) : Except Unrecognized SqlType :=
  let base := String.ofList (trim (s.toList.takeWhile (· ≠ '(')))
  match ofName? (lowerAscii base) with
  | some t => .ok t
  | none => .error (.sqlType s)

end SqlType

end EntitySql
