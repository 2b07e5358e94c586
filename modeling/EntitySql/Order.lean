import EntitySql.Entity
import EntitySql.Error
import EntitySql.Sql.Identifier
import EntitySql.Text.Blank
import EntitySql.Text.Lowercase

/-!
# Orders

By which columns rows are sorted.  A sort specification lists terms with commas between
them, each a column and, if it is wanted, a direction.
-/

namespace EntitySql

open EntitySql.Text

inductive Direction
  | ascending
  | descending
deriving DecidableEq, Repr

def Direction.sql : Direction → String
  | .ascending => "ASC"
  | .descending => "DESC"

structure OrderTerm where
  column : String
  direction : Direction
deriving DecidableEq, Repr

namespace OrderTerm

def text (t : OrderTerm) : String := s!"{Sql.quoteIdentifier t.column} {t.direction.sql}"

/-- The direction that a word names, in any case. -/
def direction? (word : List Char) : Option Direction :=
  let name := lowerAscii (String.ofList word)
  if name = "asc" then some .ascending
  else if name = "desc" then some .descending
  else none

/-- The term of some words: a column alone, or a column and a direction. -/
def ofWords? : List (List Char) → Option OrderTerm
  | [column] => some ⟨String.ofList column, .ascending⟩
  | [column, word] => (direction? word).map fun d => ⟨String.ofList column, d⟩
  | _ => none

def readAll? (spec : String) : Option (List OrderTerm) :=
  (splitAt ',' spec.toList).mapM fun part => ofWords? (words part)

def parse (e : Entity) (spec : String) : Except Error (List OrderTerm) :=
  match readAll? spec with
  | some terms => .ok terms
  | none => refuse e.table .find (.invalidOrder spec)

end OrderTerm

end EntitySql
