import EntitySql.Text.Lowercase
import EntitySql.Unrecognized

/-!
# Patterns of `LIKE`

How a value becomes a pattern.  Outside raw mode the wildcards of the value, and the escape
character itself, are escaped where an escape character is set, so that the value matches
as it stands; the mode then adds wildcards of its own.
-/

namespace EntitySql

open EntitySql.Text

/-- How a value becomes a pattern. -/
inductive LikeMode
  | raw
  | contains
  | startsWith
  | endsWith
deriving DecidableEq, Repr

namespace LikeMode

/-- The mode that a text names, in any case. -/
def ofName? (s : String) : Option LikeMode :=
  if s = "raw" then some .raw
  else if s = "contains" then some .contains
  else if s = "startswith" ∨ s = "starts_with" then some .startsWith
  else if s = "endswith" ∨ s = "ends_with" then some .endsWith
  else none

def parse (s : String) : Except Unrecognized LikeMode :=
  match ofName? (lowerAscii s) with
  | some m => .ok m
  | none => .error (.likeMode s)

/-- A character of a value, escaped where it would act as more than itself. -/
def escapeChar (escape : Option Char) (c : Char) : List Char :=
  match escape with
  | none => [c]
  | some e => if c = '%' ∨ c = '_' ∨ c = e then [e, c] else [c]

/-- The wildcards in front of the value. -/
def before : LikeMode → List Char
  | .contains | .endsWith => ['%']
  | .raw | .startsWith => []

def behind : LikeMode → List Char
  | .contains | .startsWith => ['%']
  | .raw | .endsWith => []

def pattern (mode : LikeMode) (value : String) (escape : Option Char) : String :=
  match mode with
  | .raw => value
  | mode =>
    String.ofList (mode.before ++ value.toList.flatMap (escapeChar escape) ++ mode.behind)

end LikeMode

end EntitySql
