import EntitySql.Call
import EntitySql.Row

/-!
# Hooks

What callers add to the calls on an entity.  Before a call is compiled, a hook may take the
place of the validation, or work on what the validation lets pass; after it is done, a hook
sees what came of it and may still make the call fail.
-/

namespace EntitySql

inductive CallResult
  | rows (rows : List Row)
  | affected (count : Nat)
deriving DecidableEq

/-- When a hook on items runs: instead of the validation, or behind it. -/
inductive Stage
  | replacing
  | validated
deriving DecidableEq, Repr

structure BeforeHook where
  stage : Stage
  run : Call → List Item → Except Error (List Item)

abbrev AfterHook := Call → CallResult → Except Error Unit

/-- At most one hook of each sort for an action. -/
structure Hooks where
  before : Action → Option BeforeHook
  after : Action → Option AfterHook

namespace Hooks

def empty : Hooks := ⟨fun _ => none, fun _ => none⟩

/-- Sets the hook on the items of an action. -/
def setBefore (h : Hooks) (action : Action) (hook : BeforeHook) : Hooks :=
  { h with before := fun a => if a = action then some hook else h.before a }

def setAfter (h : Hooks) (action : Action) (hook : AfterHook) : Hooks :=
  { h with after := fun a => if a = action then some hook else h.after a }

end Hooks

end EntitySql
