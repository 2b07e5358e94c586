import EntitySql.Calendar.Pattern

/-!
# Timestamps of RFC 3339

A timestamp has fields of fixed width and ends in `Z` or an offset of hours and minutes
from universal time.  It is read as the moment in universal time.
-/

namespace EntitySql

open EntitySql.Text

/-- Reads exactly `width` digits. -/
def readFixed? (width : Nat) (s : List Char) : Option (Nat × List Char) :=
  let (ds, rest) := takeDigits width s
  if ds.length = width then some (value ds, rest) else none

def readChar? (c : Char) : List Char → Option (List Char)
  | [] => none
  | x :: r => if x = c then some r else none

/-- Reads the letter or space between date and time. -/
def readSeparator? : List Char → Option (List Char)
  | [] => none
  | x :: r => if x = 'T' ∨ x = 't' ∨ x = ' ' then some r else none

/-- The distance from universal time: minutes to the east or to the west. -/
inductive Offset
  | east (minutes : Nat)
  | west (minutes : Nat)
deriving DecidableEq, Repr

/-- Reads hours and minutes of an offset, of less than a day together. -/
def readOffsetMinutes? (s : List Char) : Option (Nat × List Char) := do
  let (hours, s) ← readFixed? 2 s
  let s ← readChar? ':' s
  let (minutes, s) ← readFixed? 2 s
  if hours < 24 ∧ minutes < 60 then some (hours * 60 + minutes, s) else none

/-- Reads an offset; the minus sign may be a hyphen or U+2212. -/
def readOffset? : List Char → Option (Offset × List Char)
  | [] => none
  | x :: r =>
    if x = 'Z' ∨ x = 'z' then some (.east 0, r)
    else if x = '+' then (readOffsetMinutes? r).map fun (n, r) => (.east n, r)
    else if x = '-' ∨ x = '\u2212' then (readOffsetMinutes? r).map fun (n, r) => (.west n, r)
    else none

/-- The moment in universal time that shows `local` at an offset. -/
def Offset.toUtc? (o : Offset) (local_ : DateTime) : Option DateTime :=
  match o with
  | .east n => local_.earlier? n
  | .west n => local_.later? n

/-- Reads date and time at fixed widths. -/
def readTimestampFields? (s : List Char) : Option (ClockFields × List Char) := do
  let (year, s) ← readFixed? 4 s
  let s ← readChar? '-' s
  let (month, s) ← readFixed? 2 s
  let s ← readChar? '-' s
  let (day, s) ← readFixed? 2 s
  let s ← readSeparator? s
  let (hour, s) ← readFixed? 2 s
  let s ← readChar? ':' s
  let (minute, s) ← readFixed? 2 s
  let s ← readChar? ':' s
  let (second, s) ← readFixed? 2 s
  let (nano, s) ← readFraction? s
  some ({ year, month, day, hour, minute, second, nano }, s)

/-- The moment, in universal time, that a timestamp of RFC 3339 names. -/
def DateTime.readRfc3339? (s : List Char) : Option DateTime := do
  let (fields, s) ← readTimestampFields? s
  let (offset, s) ← readOffset? s
  if s.isEmpty then
    let x ← fields.dateTime?
    offset.toUtc? x
  else none

end EntitySql
