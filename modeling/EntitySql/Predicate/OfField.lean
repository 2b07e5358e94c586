import EntitySql.Chunk
import EntitySql.Entity
import EntitySql.Error
import EntitySql.Item
import EntitySql.Options
import EntitySql.Predicate

/-!
# The predicate of a field

What a field value asks of its column.  A column that the entity does not declare is
treated as the column mode says.  `BETWEEN` takes a list of two values and nothing else;
otherwise a scalar null asks for nulls, and an empty list, whatever the operator, is met by
no row, or by every row where the operator is negated.
-/

namespace EntitySql

namespace Predicate

/-- The value of a `LIKE`: a text becomes a pattern, anything else stays as it is. -/
def patternOf (mode : LikeMode) (escape : Option Char) : Value → Value
  | .string s => .string (mode.pattern s escape)
  | v => v

/-- Slots for a list of values, numbered behind a base name. -/
def numbered (base : String) (values : List Value) : List Slot :=
  values.zipIdx.map fun (v, i) => ⟨s!"{base}_{i}", v⟩

/-- Slots for an operand: the base name itself for a scalar, numbered names for a list. -/
def slotsOf (base : String) : Operand → List Slot
  | .scalar v => [⟨base, v⟩]
  | .array vs => numbered base vs

/-- Slots for the values of a membership, in chunks: the name counts the chunk and the place
in it. -/
def chunkSlots (base : String) (size : Nat) (values : List Value) : List (List Slot) :=
  (chunks size values).zipIdx.map fun (chunk, c) => numbered s!"{base}_{c}" chunk

/-- The two values of a range. -/
def bounds? : Operand → Option (Value × Value)
  | .array [low, high] => some (low, high)
  | _ => none

/-- An operand with its texts made patterns. -/
def patternOperand (mode : LikeMode) (escape : Option Char) : Operand → Operand
  | .scalar v => .scalar (patternOf mode escape v)
  | .array vs => .array (vs.map (patternOf mode escape))

/-- The predicate of an operator, other than `BETWEEN`, on an operand that has values and
is no scalar null. -/
def ofValues (o : Options) (base column : String) (mode : LikeMode) (operator : Operator)
    (operand : Operand) : Predicate :=
  match operator with
  | .in_ => .member column false (chunkSlots base o.chunkSize operand.values)
  | .notIn => .member column true (chunkSlots base o.chunkSize operand.values)
  | .like => .like column (slotsOf base (patternOperand mode o.likeEscape operand)) o.likeEscape
  | operator => .compare column operator (slotsOf base operand)

/-- The predicate of an operator other than `BETWEEN` on an operand. -/
def ofOperand (o : Options) (base column : String) (mode : LikeMode) (operator : Operator) :
    Operand → Predicate
  | .scalar (.null _) => .null column operator.negated
  | .array [] => .always operator.negated
  | operand => ofValues o base column mode operator operand

/-- The predicate of a field value on a column that may be used. -/
def ofUsable (e : Entity) (o : Options) (a : Action) (base column : String) (f : FieldValue) :
    Except Error Predicate :=
  match f.operator with
  | .between =>
    match bounds? f.operand with
    | some (low, high) => .ok (.between column ⟨base ++ "_0", low⟩ ⟨base ++ "_1", high⟩)
    | none => refuse e.table a (.invalidBetween column f.values.length)
  | operator =>
    .ok (ofOperand o base column (f.likeMode?.getD o.likeMode) operator f.operand)

/-- The base of the parameter names of a field: its item and its place in the item. -/
def baseName (item field : Nat) : String := s!"w{item}_{field}"

/-- The predicate of a field value, the one at place `field` of the item at place `item`. -/
def ofField (e : Entity) (o : Options) (a : Action) (item field : Nat) (column : String)
    (f : FieldValue) : Except Error Predicate :=
  if e.hasColumn column then ofUsable e o a (baseName item field) column f
  else
    match o.columnMode with
    | .ignore => .ok (.always true)
    | .reject => refuse e.table a (.unknownColumn column)
    | .off => ofUsable e o a (baseName item field) column f

end Predicate

end EntitySql
