/-!
# Batches and alternatives

How statements and conditions are put together as text.  A batch separates its statements
by a semicolon and a line feed and ends in a semicolon; conditions of one group are joined
by `AND`, the groups by `OR`.

    batch statements = "" ↔ statements = []                 (batch_eq_empty_iff)
-/

namespace EntitySql.Sql

/-- The text of a batch; nothing for no statements. -/
def batch (statements : List String) : String :=
  if statements.isEmpty then "" else ";\n".intercalate statements ++ ";"

/-- The conjunction of a group of conditions, true for an empty group. -/
def conjunction (conditions : List String) : String :=
  if conditions.isEmpty then "1=1" else " AND ".intercalate conditions

def parenthesized (text : String) : String := "(" ++ text ++ ")"

/-- The alternatives of some groups of conditions, in parentheses unless there is only one
group; of no groups there is no condition. -/
def alternatives (groups : List (List String)) : Option String :=
  match groups.map conjunction with
  | [] => none
  | [text] => some text
  | texts => some (" OR ".intercalate (texts.map parenthesized))

/-! ## Laws -/

/-- Only the batch of no statements has no text. -/
theorem batch_eq_empty_iff {statements : List String} :
    batch statements = "" ↔ statements = [] := by
  cases statements with
  | nil => simp [batch]
  | cons s rest => simp [batch, String.append_eq_empty_iff]

end EntitySql.Sql
