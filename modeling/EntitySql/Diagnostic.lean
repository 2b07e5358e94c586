import EntitySql.Hooks
import EntitySql.Row.Document
import EntitySql.Text.Escaped

/-!
# Diagnostics

How columns and hooks are shown to developers.  Of a check or a hook only its presence
shows.
-/

namespace EntitySql

def optionText (o : Option String) : String :=
  match o with
  | none => "None"
  | some text => "Some(" ++ text ++ ")"

def flagText (b : Bool) : String := if b then "true" else "false"

def structureText (name : String) (parts : List (String × String)) : String :=
  let texts := parts.map fun (part, text) => part ++ ": " ++ text
  name ++ " \x7b " ++ ", ".intercalate texts ++ " \x7d"

def Column.diagnostic (c : Column) : String :=
  structureText "ColumnDef"
    [("name", Text.escaped c.name), ("sql_type", optionText (c.sqlType.map SqlType.tag)),
     ("nullable", flagText c.nullable), ("max_length", optionText (c.maxLength.map toString)),
     ("check", flagText c.check.isSome)]

/-- The name of an action in diagnostics. -/
def Action.tag : Action → String
  | .find => "Find"
  | .insert => "Insert"
  | .update => "Update"
  | .delete => "Delete"

def actionsText (actions : List Action) : String :=
  "[" ++ ", ".intercalate (actions.map Action.tag) ++ "]"

/-- The text of hooks: the actions that have some. -/
def Hooks.diagnostic (h : Hooks) : String :=
  structureText "Hooks"
    [("before", actionsText (Action.all.filter fun a => (h.before a).isSome)),
     ("after", actionsText (Action.all.filter fun a => (h.after a).isSome))]

end EntitySql
