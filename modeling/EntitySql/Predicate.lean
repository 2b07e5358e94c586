import EntitySql.Operator
import EntitySql.Sql.Batch
import EntitySql.Sql.Identifier
import EntitySql.Value

/-!
# Predicates

The condition that one field of an item puts on a row.  Values stand in slots: `text` shows
a slot by its marker only, and `slots` lists the values in the order of their markers.
-/

namespace EntitySql

open EntitySql.Sql

/-- A value under the name of the parameter that carries it. -/
structure Slot where
  name : String
  value : Value
deriving DecidableEq

/-- The place of a slot in a statement. -/
def Slot.marker (s : Slot) : String := "@" ++ s.name

/-- A condition on a row. -/
inductive Predicate
  /-- True of every row, or of none. -/
  | always (holds : Bool)
  /-- The column is null, or is not. -/
  | null (column : String) (negated : Bool)
  /-- The column compares with some value or, where the operator is negated, with each. -/
  | compare (column : String) (operator : Operator) (slots : List Slot)
  /-- The column is like some pattern. -/
  | like (column : String) (slots : List Slot) (escape : Option Char)
  /-- The column lies between two bounds, whichever of them is the smaller. -/
  | between (column : String) (low high : Slot)
  /-- The column is one of the values or, where negated, none of them. -/
  | member (column : String) (negated : Bool) (chunks : List (List Slot))
deriving DecidableEq

namespace Predicate

/-- Parts joined by an operator, in parentheses unless there is only one. -/
def joined (operator : String) : List String → String
  | [part] => part
  | parts => parenthesized (operator.intercalate parts)

/-- The operator between parts: all of them hold where they are negated, and some of them
otherwise. -/
def joiner (negated : Bool) : String := if negated then " AND " else " OR "

def compareText (column : String) (operator : Operator) (s : Slot) : String :=
  s!"{quoteIdentifier column} {operator.sql} {s.marker}"

def escapeText : Option Char → String
  | none => ""
  | some c => s!" ESCAPE '{c}'"

def memberText (column : String) (negated : Bool) (chunk : List Slot) : String :=
  let operator := if negated then Operator.notIn else Operator.in_
  let markers := ", ".intercalate (chunk.map Slot.marker)
  s!"{quoteIdentifier column} {operator.sql} ({markers})"

/-- The text of the range between two markers, given in either order. -/
def betweenText (column a b : String) : String :=
  let smaller := s!"(CASE WHEN {a} <= {b} THEN {a} ELSE {b} END)"
  let greater := s!"(CASE WHEN {a} <= {b} THEN {b} ELSE {a} END)"
  s!"{quoteIdentifier column} BETWEEN {smaller} AND {greater}"

def text : Predicate → String
  | .always true => "1=1"
  | .always false => "1=0"
  | .null column false => s!"{quoteIdentifier column} IS NULL"
  | .null column true => s!"{quoteIdentifier column} IS NOT NULL"
  | .compare column operator slots =>
    joined (joiner operator.negated) (slots.map (compareText column operator))
  | .like column slots escape =>
    joined (joiner false) (slots.map fun s => compareText column .like s ++ escapeText escape)
  | .between column low high => betweenText column low.marker high.marker
  | .member column negated chunks =>
    joined (joiner negated) (chunks.map (memberText column negated))

/-- The slots of a predicate, in the order of their first markers. -/
def slots : Predicate → List Slot
  | .always _ | .null _ _ => []
  | .compare _ _ slots | .like _ slots _ => slots
  | .between _ low high => [low, high]
  | .member _ _ chunks => chunks.flatten

end Predicate

end EntitySql
