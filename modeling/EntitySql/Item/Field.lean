import EntitySql.LikeMode
import EntitySql.Operator
import EntitySql.Value

/-!
# Field values

What an item says of one column: a value, a list of values, or a query with an operator of
its own.  A bare value is compared by `=`, a bare list by `IN`.
-/

namespace EntitySql

/-- What an operator compares with. -/
inductive Operand
  | scalar (value : Value)
  | array (values : List Value)
deriving DecidableEq

/-- The values of an operand, one for a scalar. -/
def Operand.values : Operand → List Value
  | .scalar value => [value]
  | .array values => values

def Operand.agrees : Operand → Operand → Bool
  | .scalar v, .scalar w => v.agrees w
  | .array vs, .array ws => vs.isEqv ws Value.agrees
  | _, _ => false

/-- An operator with its operand.  `like` sets how the values of a `LIKE` become patterns,
in place of the mode of the options. -/
structure FieldQuery where
  operator : Operator
  operand : Operand
  like : Option LikeMode := none
deriving DecidableEq

/-- What an item says of a column. -/
inductive FieldValue
  | value (v : Value)
  | array (vs : List Value)
  | query (q : FieldQuery)
deriving DecidableEq

namespace FieldQuery

def compare (operator : Operator) (value : Value) : FieldQuery := ⟨operator, .scalar value, none⟩

def compareAny (operator : Operator) (values : List Value) : FieldQuery :=
  ⟨operator, .array values, none⟩

/-- Between two bounds, in either order. -/
def between (low high : Value) : FieldQuery := compareAny .between [low, high]

def withMode (q : FieldQuery) (mode : LikeMode) : FieldQuery := { q with like := some mode }

end FieldQuery

namespace FieldValue

/-- The operator in effect. -/
def operator : FieldValue → Operator
  | .value _ => .eq
  | .array _ => .in_
  | .query q => q.operator

/-- The operand in effect. -/
def operand : FieldValue → Operand
  | .value v => .scalar v
  | .array vs => .array vs
  | .query q => q.operand

def values (f : FieldValue) : List Value := f.operand.values

def likeMode? : FieldValue → Option LikeMode
  | .query q => q.like
  | _ => none

def agrees : FieldValue → FieldValue → Bool
  | .value v, .value w => v.agrees w
  | .array vs, .array ws => vs.isEqv ws Value.agrees
  | .query p, .query q =>
    p.operator = q.operator && p.operand.agrees q.operand && p.like = q.like
  | _, _ => false

def isRawNull : FieldValue → Bool
  | .value v => v.isNull
  | _ => false

/-- The one value of a field that carries no list. -/
def scalar? (f : FieldValue) : Option Value :=
  match f.operand with
  | .scalar v => some v
  | .array _ => none

end FieldValue

end EntitySql
