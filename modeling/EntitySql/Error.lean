import EntitySql.Action
import EntitySql.Entity.Column

/-!
# Errors

What can go wrong with a call.  All but a failure of the backend are found before anything
is sent, and all but that and an unknown entity belong to a table and an action.
-/

namespace EntitySql

/-- A field that failed its check. -/
structure Violation where
  item : Nat
  field : String
  fault : ColumnFault
deriving DecidableEq, Repr

def Violation.message (v : Violation) : String :=
  s!"[{v.item}].{v.field}: {v.fault.message}"

/-- Why a call on a table is refused. -/
inductive Refusal
  | unknownColumn (column : String)
  | invalidBetween (column : String) (count : Nat)
  | invalidOrder (spec : String)
  | invalidOrderColumn (column : String)
  | missingColumn (column : String)
  | validationFailed (violations : List Violation)
  | untypedColumn (column : String)
  | invalidBinding (column : String) (reason : BindError)
  | unsupportedValue (column : String)
deriving DecidableEq, Repr

def Refusal.message : Refusal → String
  | .unknownColumn column => s!"unknown column `{column}`"
  | .invalidBetween column count =>
    s!"invalid BETWEEN on `{column}`, expected 2 values but got {count}"
  | .invalidOrder spec => s!"invalid ORDER BY `{spec}`"
  | .invalidOrderColumn column => s!"invalid ORDER BY column `{column}`"
  | .missingColumn column => s!"missing required column `{column}`"
  | .validationFailed violations =>
    "validation failed: " ++ "; ".intercalate (violations.map Violation.message)
  | .untypedColumn column => s!"no backend type for column `{column}`"
  | .invalidBinding column reason => s!"cannot bind `{column}`: {reason.message}"
  | .unsupportedValue column => s!"column `{column}` requires a single value"

/-- A failure of the backend, in its own words. -/
structure BackendFailure where
  message : String
deriving DecidableEq, Repr

inductive Error
  | refused (table : String) (action : Action) (refusal : Refusal)
  | unknownEntity (name : String)
  | backend (failure : BackendFailure)
deriving DecidableEq, Repr

def Error.message : Error → String
  | .refused table action refusal => s!"{table}.{action.name}: {refusal.message}"
  | .unknownEntity name => s!"no entity registered as `{name}`"
  | .backend failure => failure.message

/-- The outcome of a call that is refused. -/
def refuse {α : Type} (table : String) (action : Action) (refusal : Refusal) : Except Error α :=
  .error (.refused table action refusal)

end EntitySql
