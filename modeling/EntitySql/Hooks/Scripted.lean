import EntitySql.Hooks
import EntitySql.Text.Search

/-!
# Scripted hooks and checks

Hooks and column checks for rehearsals, which do what a script says: fail, or change every
item in the same way.
-/

namespace EntitySql

/-- What a hook on items does, in this order: it fails, finds a column missing, sets a column
of every item, removes one, drops all items, and adds one. -/
structure ScriptedHook where
  failure : Option BackendFailure := none
  missing : Option String := none
  set : Option (String × FieldValue) := none
  remove : Option String := none
  clear : Bool := false
  append : Option Item := none

namespace ScriptedHook

/-- An item with a column set, if one is. -/
def setIn (h : ScriptedHook) (i : Item) : Item :=
  match h.set with
  | some (column, f) => i.set column f
  | none => i

/-- An item with a column removed, if one is. -/
def removeFrom (h : ScriptedHook) (i : Item) : Item :=
  match h.remove with
  | some column => i.erase column
  | none => i

/-- The items that the script makes of some. -/
def change (h : ScriptedHook) (items : List Item) : List Item :=
  (if h.clear then [] else items.map fun i => h.removeFrom (h.setIn i)) ++ h.append.toList

def run (h : ScriptedHook) (c : Call) (items : List Item) : Except Error (List Item) :=
  match h.failure, h.missing with
  | some failure, _ => .error (.backend failure)
  | none, some column => refuse c.entity.table c.action (.missingColumn column)
  | none, none => .ok (h.change items)

end ScriptedHook

/-- The hook on results that fails, if a failure is given. -/
def scriptedAfter (failure : Option BackendFailure) : AfterHook := fun _ _ =>
  match failure with
  | some failure => .error (.backend failure)
  | none => .ok ()

/-- The check that accepts texts which contain a part, or nothing if no part is given. -/
def scriptedCheck (part : Option String) (message : String) (v : Value) : Except String Unit :=
  match part, v with
  | some part, .string s => if Text.contains part s then .ok () else .error message
  | _, _ => .error message

end EntitySql
