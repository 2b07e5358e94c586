import EntitySql.Calendar.Rfc3339
import EntitySql.Datum
import EntitySql.Number.Text
import EntitySql.SqlType

/-!
# Binding

`SqlType.bind` turns an engine value into the datum that a column of a storage type is
sent, or says why the value cannot be of that type.  A null becomes a null of the column's
kind; integers keep their value whatever width carried them; texts are read as the type
demands.
-/

namespace EntitySql

open EntitySql.Text

/-- Why a value cannot be of a type. -/
inductive BindError
  | notBoolean
  | notBooleanText (text : String)
  | outOfRange (n : Int)
  | notInteger
  | notIntegerText (text : String)
  | notNumber
  | notNumberText (text : String)
  | notText
  | notDate
  | notDateText (text : String)
  | notTime
  | notTimeText (text : String)
  | notTimestamp
  | notTimestampText (text : String)
  | notBinary
deriving DecidableEq, Repr

def BindError.message : BindError → String
  | .notBoolean => "expected a boolean"
  | .notBooleanText text => s!"expected a boolean, got `{text}`"
  | .outOfRange n => s!"{n} is out of range"
  | .notInteger => "expected an integer"
  | .notIntegerText text => s!"expected an integer, got `{text}`"
  | .notNumber => "expected a number"
  | .notNumberText text => s!"expected a number, got `{text}`"
  | .notText => "expected text"
  | .notDate => "expected a date"
  | .notDateText text => s!"unsupported date: {text}; expected \"%Y-%m-%d\" format"
  | .notTime => "expected a time"
  | .notTimeText text => s!"unsupported time: {text}; expected \"%H:%M:%S%.f\" format"
  | .notTimestamp => "expected a timestamp"
  | .notTimestampText text =>
    s!"unsupported timestamp: {text}; expected RFC3339 or \"%Y-%m-%d %H:%M:%S%.f\" format"
  | .notBinary => "expected binary data"

namespace Value

/-! ## Reading a value as one of a type -/

def IsInt64 (n : Int) : Prop := Int64.minValue.toInt ≤ n ∧ n ≤ Int64.maxValue.toInt

instance (n : Int) : Decidable (IsInt64 n) := inferInstanceAs (Decidable (_ ∧ _))

def IsInt32 (n : Int) : Prop := Int32.minValue.toInt ≤ n ∧ n ≤ Int32.maxValue.toInt

instance (n : Int) : Decidable (IsInt32 n) := inferInstanceAs (Decidable (_ ∧ _))

/-- The value as an integer of 64 bits: an integer, or a text that writes one. -/
def toInteger (v : Value) : Except BindError Int :=
  match v with
  | .string s =>
    match readInt? (trim s.toList) with
    | some n => if IsInt64 n then .ok n else .error (.notIntegerText s)
    | none => .error (.notIntegerText s)
  | v =>
    match v.integer? with
    | some n => if IsInt64 n then .ok n else .error (.outOfRange n)
    | none => .error .notInteger

/-- The value as a truth value: one itself, zero or one, or a text in any case. -/
def toBoolean (v : Value) : Except BindError Bool :=
  match v with
  | .bool b => .ok b
  | .string s =>
    let t := lowerAscii s
    if t = "true" ∨ t = "1" then .ok true
    else if t = "false" ∨ t = "0" then .ok false
    else .error (.notBooleanText s)
  | v =>
    match v.toInteger with
    | .ok 0 => .ok false
    | .ok 1 => .ok true
    | _ => .error .notBoolean

def toNumber (v : Value) : Except BindError Binary64 :=
  match v with
  | .float x => .ok x.toDouble
  | .double x => .ok x
  | .string s =>
    match Binary64.read? (trim s.toList) with
    | some x => .ok x
    | none => .error (.notNumberText s)
  | v =>
    match v.toInteger with
    | .ok n => .ok (.ofInt n)
    | .error _ => .error .notNumber

def toText (v : Value) : Except BindError String :=
  match v with
  | .string s => .ok s
  | .char c => .ok (String.ofList [c])
  | .bool b => .ok (if b then "true" else "false")
  | .float x => .ok (x.text .plain)
  | .double x => .ok (x.text .plain)
  | .date d => .ok (String.ofList d.text)
  | .time t => .ok (String.ofList t.text)
  | .dateTime x => .ok (String.ofList x.text)
  | .dateTimeUtc x => .ok (String.ofList x.utcOffsetText)
  | v =>
    match v.toInteger with
    | .ok n => .ok (toString n)
    | .error _ => .error .notText

/-- The date-time, in universal time where the text names an offset, that a text writes. -/
def readDateTime? (s : String) : Option DateTime :=
  (DateTime.readRfc3339? s.toList).or (DateTime.read? s.toList)

/-- The value as a date-time without an offset. -/
def toDateTime (v : Value) : Except BindError DateTime :=
  match v with
  | .dateTime x => .ok x
  | .dateTimeUtc x => .ok x
  | .date d => .ok (.atMidnight d)
  | .string s =>
    match readDateTime? s with
    | some x => .ok x
    | none => .error (.notTimestampText s)
  | _ => .error .notTimestamp

/-- The value as a moment in universal time. -/
def toMoment (v : Value) : Except BindError DateTime :=
  match v with
  | .dateTimeUtc x => .ok x
  | .dateTimeZoned x => .ok x.utc
  | v => v.toDateTime

/-- The value as a date; of a text that writes a date-time, its date. -/
def toDate (v : Value) : Except BindError Date :=
  match v with
  | .date d => .ok d
  | .dateTime x => .ok x.date
  | .dateTimeUtc x => .ok x.date
  | .string s =>
    match (Date.read? s.toList).or ((readDateTime? s).map (·.date)) with
    | some d => .ok d
    | none => .error (.notDateText s)
  | _ => .error .notDate

def toTime (v : Value) : Except BindError Time :=
  match v with
  | .time t => .ok t
  | .string s =>
    match Time.read? s.toList with
    | some t => .ok t
    | none => .error (.notTimeText s)
  | _ => .error .notTime

/-- The value as bytes, those of UTF-8 for a text. -/
def toBytes (v : Value) : Except BindError (List UInt8) :=
  match v with
  | .bytes b => .ok b
  | .string s => .ok (s.toList.flatMap String.utf8EncodeChar)
  | _ => .error .notBinary

end Value

namespace SqlType

/-! ## Binding a value to a type -/

/-- The kind of the data that columns of a type are sent. -/
def datumKind : SqlType → DatumKind
  | .bit => .boolean
  | .tinyInt | .smallInt | .int => .int32
  | .bigInt => .int64
  | .real => .float
  | .float | .decimal => .double
  | .char | .nChar | .varChar | .nVarChar | .text | .uniqueIdentifier => .str
  | .date => .date
  | .time => .time
  | .dateTime | .dateTime2 | .dateTimeOffset => .timestamp
  | .binary | .varBinary => .binary

/-- The datum of a value that is not null. -/
def bindPresent (t : SqlType) (v : Value) : Except BindError Datum :=
  match t with
  | .bit => .boolean <$> v.toBoolean
  | .tinyInt | .smallInt | .int => do
    let n ← v.toInteger
    if Value.IsInt32 n then .ok (.int32 (Int32.ofInt n)) else .error (.outOfRange n)
  | .bigInt => (fun n => .int64 (Int64.ofInt n)) <$> v.toInteger
  | .real => (fun x => .float x.toSingle) <$> v.toNumber
  | .float | .decimal => .double <$> v.toNumber
  | .char | .nChar | .varChar | .nVarChar | .text | .uniqueIdentifier => .str <$> v.toText
  | .date => (fun d => .date (String.ofList d.text)) <$> v.toDate
  | .time => (fun x => .time (String.ofList x.text)) <$> v.toTime
  | .dateTime | .dateTime2 => (fun x => .timestamp (String.ofList x.text)) <$> v.toDateTime
  | .dateTimeOffset => (fun x => .timestamp (String.ofList x.utcText)) <$> v.toMoment
  | .binary | .varBinary => .binary <$> v.toBytes

/-- The datum that a column of the type is sent for a value. -/
def bind (t : SqlType) (v : Value) : Except BindError Datum :=
  if v.isNull then .ok (.null t.datumKind) else t.bindPresent v

/-! ## Laws -/

/-- A null is bound to a null of the column's kind. -/
theorem bind_null (t : SqlType) (k : Kind) : t.bind (.null k) = .ok (.null t.datumKind) := rfl

end SqlType

end EntitySql
