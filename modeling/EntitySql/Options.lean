import EntitySql.LikeMode

/-!
# Options

The settings that shape statements, and the ranges they have to keep.
-/

namespace EntitySql

open EntitySql.Text

/-- What becomes of a condition on a column that the entity does not declare: it is taken
as true, the call is refused, or the column is used all the same. -/
inductive ColumnMode
  | ignore
  | reject
  | off
deriving DecidableEq, Repr

def ColumnMode.parse (s : String) : Except Unrecognized ColumnMode :=
  let name := lowerAscii s
  if name = "ignore" then .ok .ignore
  else if name = "throw" then .ok .reject
  else if name = "off" then .ok .off
  else .error (.columnMode s)

/-- The settings of statements.  `chunkSize` bounds the values of one `IN` list and
`maxInsertRows` the rows of one `INSERT`; `pageSize` is the limit of a page that sets none,
and `defaultOrder` the column by which a page without an order is sorted. -/
structure Options where
  chunkSize : Nat := 800
  pageSize : Nat := 100
  columnMode : ColumnMode := .reject
  likeMode : LikeMode := .raw
  likeEscape : Option Char := none
  defaultOrder : String := "created_at"
  insertIdentifier : Bool := false
  maxInsertRows : Nat := 1000
deriving DecidableEq, Repr

inductive OptionsFault
  | zeroChunkSize
  | zeroInsertRows
  | quoteEscape
deriving DecidableEq, Repr

def OptionsFault.message : OptionsFault → String
  | .zeroChunkSize => "chunk size must be at least 1"
  | .zeroInsertRows => "max insert rows must be at least 1"
  | .quoteEscape => "LIKE escape character cannot be a single quote"

/-- Checks the ranges of the options. -/
def Options.check (o : Options) : Except OptionsFault Unit :=
  if o.chunkSize = 0 then .error .zeroChunkSize
  else if o.maxInsertRows = 0 then .error .zeroInsertRows
  else if o.likeEscape = some '\'' then .error .quoteEscape
  else .ok ()

/-! ## Laws -/

theorem Options.check_eq_ok_iff (o : Options) :
    o.check = .ok () ↔
      o.chunkSize ≠ 0 ∧ o.maxInsertRows ≠ 0 ∧ o.likeEscape ≠ some '\'' := by
  unfold Options.check
  split
  · simp_all
  · split
    · simp_all
    · split <;> simp_all

end EntitySql
