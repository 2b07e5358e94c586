import EntitySql.Backend

/-!
# Transactions

A computation on one connection, committed when it succeeds and rolled back when it fails.
Nothing is tried twice, and the error of a computation stays its error even if the rollback
fails as well, of which there is only a warning.
-/

namespace EntitySql

/-- Why a transaction fails: a call inside it, or anything else, in its own words. -/
inductive TransactionError
  | call (error : Error)
  | other (message : String)
deriving DecidableEq

namespace TransactionError

/-- A failure of the backend to begin or to commit. -/
def ofFailure (failure : BackendFailure) : TransactionError := .other failure.message

def message : TransactionError → String
  | .call error => error.message
  | .other message => message

end TransactionError

/-- Rolls a transaction back; a failure to do so is a warning. -/
def Backend.abandon {ε : Type} (b : Backend) (c : Connection) : Access ε Unit := do
  match ← (b.rollBack c).attempt with
  | .ok () => return ()
  | .error failure => .emit (.warn ("rollback failed: " ++ failure.message) none)

/-- Commits what succeeded and abandons what failed. -/
def Backend.conclude {α : Type} (b : Backend) (c : Connection) :
    Except TransactionError α → Access TransactionError α
  | .ok a => do
    (b.commitTransaction c).mapError .ofFailure
    return a
  | .error error => do
    b.abandon c
    .ofExcept (.error error)

def Backend.transaction {α : Type} (b : Backend)
    (body : Connection → Access TransactionError α) : Access TransactionError α := do
  let c ← b.beginTransaction.mapError .ofFailure
  let outcome ← (body c).attempt
  b.conclude c outcome

end EntitySql
