import EntitySql.Text.Blank
import EntitySql.Text.Lowercase
import EntitySql.Unrecognized

/-!
# Comparison operators

The ten operators of a field query, their spelling in SQL and the reader of that spelling,
which takes any case and any blanks.

    parse o.sql = .ok o                                     (parse_sql)
-/

namespace EntitySql

open EntitySql.Text

inductive Operator
  | eq
  | ne
  | lt
  | lte
  | gt
  | gte
  | like
  | in_
  | notIn
  | between
deriving DecidableEq, Repr

namespace Operator

def all : List Operator := [.eq, .ne, .lt, .lte, .gt, .gte, .like, .in_, .notIn, .between]

def sql : Operator → String
  | .eq => "="
  | .ne => "!="
  | .lt => "<"
  | .lte => "<="
  | .gt => ">"
  | .gte => ">="
  | .like => "LIKE"
  | .in_ => "IN"
  | .notIn => "NOT IN"
  | .between => "BETWEEN"

/-- Whether the operator states that values differ.  Of an empty list it is true, of a null
it means `IS NOT NULL`, and over several values its comparisons are joined by `AND`. -/
def negated : Operator → Bool
  | .ne | .notIn => true
  | _ => false

/-- The operator of a spelling without needless blanks. -/
def ofSql? (s : String) : Option Operator :=
  if s = "==" then some .eq
  else if s = "<>" then some .ne
  else all.find? (·.sql = s)

/-- The words of a text with one space between any two, in upper case. -/
def normalized (s : String) : String :=
  upperAscii (" ".intercalate ((words s.toList).map String.ofList))

def parse (s : String) : Except Unrecognized Operator :=
  match ofSql? (normalized s) with
  | some o => .ok o
  | none => .error (.operator s)

/-! ## Laws -/

theorem parse_sql (o : Operator) : parse o.sql = .ok o := by
  cases o <;> decide +kernel

end Operator

end EntitySql
