import EntitySql.Backend
import EntitySql.Entries
import EntitySql.Text.Search

/-!
# Scripted backends

A backend for rehearsals, which answers from a script: fixed rows for the table that a query
reads first, a fixed number of affected rows, and the requests that fail.
-/

namespace EntitySql

inductive Request
  | acquire
  | begin
  | commit
  | rollback
  | query
  | exec
deriving DecidableEq, Repr

/-- A request that fails, if its text contains what is given.  Only statements have a text. -/
structure ScriptedFailure where
  request : Request
  contained : String
  message : String
deriving DecidableEq, Repr

/-- What a scripted backend answers. -/
structure Script where
  rows : List (String × List Row)
  affected : Nat
  failures : List ScriptedFailure
  transactions : Bool

namespace Script

/-- The answer to a request, unless some failure is meant for it; the first one counts. -/
def answer {α : Type} (s : Script) (request : Request) (text : String) (a : α) :
    Except BackendFailure α :=
  match s.failures.find? fun f => f.request = request && Text.contains f.contained text with
  | some f => .error ⟨f.message⟩
  | none => .ok a

/-- The table that a statement reads first: what stands between `FROM [` and the next closing
bracket. -/
def tableOf (sql : String) : String :=
  match Text.after? "FROM [".toList sql.toList with
  | some rest => String.ofList (rest.takeWhile (· ≠ ']'))
  | none => ""

def rowsOf (s : Script) (sql : String) : List Row :=
  (Entries.get? (tableOf sql) s.rows).getD []

/-- The backend that keeps to the script; it numbers connections by the events before. -/
def backend (s : Script) : Backend where
  acquire past := s.answer .acquire "" ⟨past.length⟩
  begin? := if s.transactions then some fun past => s.answer .begin "" ⟨past.length⟩ else none
  query _ statement _ := s.answer .query statement.sql (s.rowsOf statement.sql)
  exec _ statement _ := s.answer .exec statement.sql s.affected
  commit _ _ := s.answer .commit "" ()
  rollback _ _ := s.answer .rollback "" ()

end Script

end EntitySql
