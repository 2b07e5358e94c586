/-!
# Actions

The four things that can be done with the rows of an entity.
-/

namespace EntitySql

inductive Action
  | find
  | insert
  | update
  | delete
deriving DecidableEq, Repr

namespace Action

def all : List Action := [.find, .insert, .update, .delete]

def name : Action → String
  | .find => "find"
  | .insert => "insert"
  | .update => "update"
  | .delete => "delete"

end Action

end EntitySql
