import EntitySql.Text.Alphanumeric
import EntitySql.Text.Blank
import EntitySql.Text.Lowercase

/-!
# Storage names

The name under which an entity is stored where it declares none: its description in lower
case, with one low line for every run of characters that are neither letters nor numbers,
and none at the ends.
-/

namespace EntitySql

open EntitySql.Text

/-- The reversed name after one more character: a letter or number is lowered, anything
else separates, unless nothing stands before it or a low line does. -/
def storageStep (reversed : List Char) (c : Char) : List Char :=
  if isAlphanumeric c then (lower c).reverse ++ reversed
  else
    match reversed with
    | [] => []
    | last :: _ => if last = '_' then reversed else '_' :: reversed

def storageName (description : String) : String :=
  let reversed := (trim description.toList).foldl storageStep []
  String.ofList (reversed.dropWhile (· = '_')).reverse

end EntitySql
