import EntitySql.Binding
import EntitySql.Text.Escaped

/-!
# Columns

The declared schema of a column, and the check of a value against it: a null needs a column
that takes nulls; any other value has to be of the column's type, no longer than allowed,
and to pass the column's own check.
-/

namespace EntitySql

/-- Why a column refuses a value. -/
inductive ColumnFault
  | missing
  | unbindable (reason : BindError)
  | tooLong (limit : Nat)
  | rejected (message : String)
deriving DecidableEq, Repr

def ColumnFault.message : ColumnFault → String
  | .missing => "must not be null"
  | .unbindable reason => reason.message
  | .tooLong limit => s!"must be at most {limit} characters"
  | .rejected message => message

/-- A column.  Without a storage type it cannot be bound; `check` refuses a value with a
message of its own. -/
structure Column where
  name : String
  sqlType : Option SqlType
  nullable : Bool := false
  maxLength : Option Nat := none
  check : Option (Value → Except String Unit) := none

namespace Column

/-- A column of a storage type that takes no nulls. -/
def typed (name : String) (sqlType : SqlType) : Column := { name, sqlType := some sqlType }

/-- A column of no storage type, which takes nulls. -/
def untyped (name : String) : Column := { name, sqlType := none, nullable := true }

def checkType (c : Column) (v : Value) : Except ColumnFault Unit :=
  match c.sqlType with
  | none => .ok ()
  | some t =>
    match t.bind v with
    | .ok _ => .ok ()
    | .error reason => .error (.unbindable reason)

/-- Whether a text is no longer than the column allows, in characters. -/
def checkLength (c : Column) (v : Value) : Except ColumnFault Unit :=
  match c.maxLength, v with
  | some limit, .string s => if limit < s.length then .error (.tooLong limit) else .ok ()
  | _, _ => .ok ()

def checkOwn (c : Column) (v : Value) : Except ColumnFault Unit :=
  match c.check with
  | none => .ok ()
  | some check =>
    match check v with
    | .ok () => .ok ()
    | .error message => .error (.rejected message)

/-- Whether the column accepts a value.  Only where `typed` holds are its type and its
length looked at. -/
def validate (c : Column) (v : Value) (typed : Bool) : Except ColumnFault Unit :=
  if v.isNull then if c.nullable then .ok () else .error .missing
  else do
    if typed then
      c.checkType v
      c.checkLength v
    c.checkOwn v

end Column

end EntitySql
