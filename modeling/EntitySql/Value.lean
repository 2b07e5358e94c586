import EntitySql.Number.Binary
import EntitySql.Calendar.DateTime

/-!
# Engine values

What callers write into columns and match columns with.  A null remembers its kind; of the
kinds, eight hold integers of fixed width, and `integer?` is their common view.

    v.isNull = true ↔ ∃ k, v = .null k                      (isNull_iff)
-/

namespace EntitySql

inductive Kind
  | bool
  | tinyInt
  | smallInt
  | int
  | bigInt
  | tinyUnsigned
  | smallUnsigned
  | unsigned
  | bigUnsigned
  | float
  | double
  | string
  | char
  | bytes
  | date
  | time
  | dateTime
  | dateTimeUtc
  | dateTimeLocal
  | dateTimeZoned
deriving DecidableEq, Repr

/-- An engine value.  The moments of `dateTimeUtc` and `dateTimeLocal` are in universal
time. -/
inductive Value
  | null (kind : Kind)
  | bool (b : Bool)
  | tinyInt (n : Int8)
  | smallInt (n : Int16)
  | int (n : Int32)
  | bigInt (n : Int64)
  | tinyUnsigned (n : UInt8)
  | smallUnsigned (n : UInt16)
  | unsigned (n : UInt32)
  | bigUnsigned (n : UInt64)
  | float (x : Binary32)
  | double (x : Binary64)
  | string (s : String)
  | char (c : Char)
  | bytes (b : List UInt8)
  | date (d : Date)
  | time (t : Time)
  | dateTime (x : DateTime)
  | dateTimeUtc (x : DateTime)
  | dateTimeLocal (x : DateTime)
  | dateTimeZoned (x : ZonedDateTime)
deriving DecidableEq

namespace Value

/-- A null of no particular kind. -/
def untypedNull : Value := .null .string

def isNull : Value → Bool
  | .null _ => true
  | _ => false

/-- The integer that a value of an integer kind holds. -/
def integer? : Value → Option Int
  | .tinyInt n => some n.toInt
  | .smallInt n => some n.toInt
  | .int n => some n.toInt
  | .bigInt n => some n.toInt
  | .tinyUnsigned n => some n.toNat
  | .smallUnsigned n => some n.toNat
  | .unsigned n => some n.toNat
  | .bigUnsigned n => some n.toNat
  | _ => none

def kind : Value → Kind
  | .null kind => kind
  | .bool _ => .bool
  | .tinyInt _ => .tinyInt
  | .smallInt _ => .smallInt
  | .int _ => .int
  | .bigInt _ => .bigInt
  | .tinyUnsigned _ => .tinyUnsigned
  | .smallUnsigned _ => .smallUnsigned
  | .unsigned _ => .unsigned
  | .bigUnsigned _ => .bigUnsigned
  | .float _ => .float
  | .double _ => .double
  | .string _ => .string
  | .char _ => .char
  | .bytes _ => .bytes
  | .date _ => .date
  | .time _ => .time
  | .dateTime _ => .dateTime
  | .dateTimeUtc _ => .dateTimeUtc
  | .dateTimeLocal _ => .dateTimeLocal
  | .dateTimeZoned _ => .dateTimeZoned

/-- The value of an integer kind that holds an integer, which has to be in its range. -/
def ofInteger? : Kind → Int → Option Value
  | .tinyInt, n =>
    if Int8.minValue.toInt ≤ n ∧ n ≤ Int8.maxValue.toInt then some (.tinyInt (Int8.ofInt n))
    else none
  | .smallInt, n =>
    if Int16.minValue.toInt ≤ n ∧ n ≤ Int16.maxValue.toInt then some (.smallInt (Int16.ofInt n))
    else none
  | .int, n =>
    if Int32.minValue.toInt ≤ n ∧ n ≤ Int32.maxValue.toInt then some (.int (Int32.ofInt n))
    else none
  | .bigInt, n =>
    if Int64.minValue.toInt ≤ n ∧ n ≤ Int64.maxValue.toInt then some (.bigInt (Int64.ofInt n))
    else none
  | .tinyUnsigned, n =>
    if 0 ≤ n ∧ n < UInt8.size then some (.tinyUnsigned (UInt8.ofNat n.toNat)) else none
  | .smallUnsigned, n =>
    if 0 ≤ n ∧ n < UInt16.size then some (.smallUnsigned (UInt16.ofNat n.toNat)) else none
  | .unsigned, n =>
    if 0 ≤ n ∧ n < UInt32.size then some (.unsigned (UInt32.ofNat n.toNat)) else none
  | .bigUnsigned, n =>
    if 0 ≤ n ∧ n < UInt64.size then some (.bigUnsigned (UInt64.ofNat n.toNat)) else none
  | _, _ => none

/-- The same value with one form for all that is shown alike: for the floating-point values
that are no number, and for the moments that a clock shows alike. -/
def canonical : Value → Value
  | .float x => .float x.canonical
  | .double x => .double x.canonical
  | .dateTimeZoned x => .dateTimeZoned x.canonical
  | v => v

/-- Whether two values of one kind are equal: floating-point values as numbers, and moments
whatever the offset at which they were given. -/
def agrees : Value → Value → Bool
  | .float x, .float y => x.kind.agrees y.kind
  | .double x, .double y => x.kind.agrees y.kind
  | .dateTimeZoned x, .dateTimeZoned y => x.utc = y.utc
  | v, w => v = w

/-! ## Laws -/

theorem isNull_iff {v : Value} : v.isNull = true ↔ ∃ k, v = .null k := by
  cases v <;> simp [isNull]

/-- An integer is held as it is, whatever the kind. -/
theorem integer?_of_ofInteger? {k : Kind} {n : Int} {v : Value} (h : ofInteger? k n = some v) :
    v.integer? = some n := by
  cases k <;> simp only [ofInteger?, Option.ite_none_right_eq_some, Option.some.injEq,
    reduceCtorEq] at h
  all_goals obtain ⟨⟨hlow, hhigh⟩, rfl⟩ := h
  case tinyInt =>
    exact congrArg some (Int8.toInt_ofInt_of_le hlow (Int.lt_of_le_sub_one hhigh))
  case smallInt =>
    exact congrArg some (Int16.toInt_ofInt_of_le hlow (Int.lt_of_le_sub_one hhigh))
  case int =>
    exact congrArg some (Int32.toInt_ofInt_of_le hlow (Int.lt_of_le_sub_one hhigh))
  case bigInt =>
    exact congrArg some (Int64.toInt_ofInt_of_le hlow (Int.lt_of_le_sub_one hhigh))
  all_goals have hnat : (n.toNat : Int) = n := Int.toNat_of_nonneg hlow
  case tinyUnsigned =>
    have hword := UInt8.toNat_ofNat_of_lt' (n := n.toNat) (by omega)
    exact congrArg some (by rw [hword, hnat])
  case smallUnsigned =>
    have hword := UInt16.toNat_ofNat_of_lt' (n := n.toNat) (by omega)
    exact congrArg some (by rw [hword, hnat])
  case unsigned =>
    have hword := UInt32.toNat_ofNat_of_lt' (n := n.toNat) (by omega)
    exact congrArg some (by rw [hword, hnat])
  case bigUnsigned =>
    have hword := UInt64.toNat_ofNat_of_lt' (n := n.toNat) (by omega)
    exact congrArg some (by rw [hword, hnat])

end Value

end EntitySql
