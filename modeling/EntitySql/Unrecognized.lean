import EntitySql.Outcome

/-!
# Words that are none

The failure to read the name of an operator, a mode or a type, with the text as it was
given.
-/

namespace EntitySql

/-- A text that names nothing of its vocabulary. -/
inductive Unrecognized
  | operator (text : String)
  | likeMode (text : String)
  | columnMode (text : String)
  | sqlType (text : String)
deriving DecidableEq, Repr

def Unrecognized.message : Unrecognized → String
  | .operator text => s!"unknown operator `{text}`"
  | .likeMode text => s!"unknown like mode `{text}`"
  | .columnMode text => s!"unknown column mode `{text}`"
  | .sqlType text => s!"unknown sql type `{text}`"

end EntitySql
