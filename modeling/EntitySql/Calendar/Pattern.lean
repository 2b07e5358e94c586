import EntitySql.Calendar.DateTime
import EntitySql.Text.Blank

/-!
# Date and time patterns

A pattern is a list of fields and characters.  A numeric field skips blanks and reads one
or two digits, the year up to four or, after a sign, any number of them; a fraction reads a
point and digits where a point stands, of which nine count; a blank in the pattern matches
any number of blanks, and every other character matches itself.
-/

namespace EntitySql

open EntitySql.Text

inductive PatternPart
  | year
  | month
  | day
  | hour
  | minute
  | second
  | fraction
  | blanks
  | literal (c : Char)
deriving DecidableEq, Repr

/-- The numbers read for the fields of a pattern. -/
structure ClockFields where
  year : Int := 0
  month : Nat := 0
  day : Nat := 0
  hour : Nat := 0
  minute : Nat := 0
  second : Nat := 0
  nano : Nat := 0
deriving DecidableEq, Repr

namespace ClockFields

def date? (f : ClockFields) : Option Date := Date.ofParts? f.year f.month f.day

/-- The time that the fields name, where second 60 is a leap second. -/
def time? (f : ClockFields) : Option Time := Time.ofClock? f.hour f.minute f.second f.nano

def dateTime? (f : ClockFields) : Option DateTime :=
  f.date?.bind fun d => f.time?.map fun t => ⟨d, t⟩

end ClockFields

/-- Reads between one and `limit` digits. -/
def readNumber? (limit : Nat) (s : List Char) : Option (Nat × List Char) :=
  let (ds, rest) := takeDigits limit s
  if ds.isEmpty then none else some (value ds, rest)

/-- The nanoseconds that the digits after a point write; those after the ninth are dropped. -/
def nanoseconds (ds : List Char) : Nat :=
  let taken := ds.take 9
  value taken * Nat.pow 10 (9 - taken.length)

/-- Reads a fraction: nothing, or a point and at least one digit. -/
def readFraction? : List Char → Option (Nat × List Char)
  | '.' :: s =>
    let ds := s.takeWhile Char.isDigit
    if ds.isEmpty then none else some (nanoseconds ds, s.dropWhile Char.isDigit)
  | s => some (0, s)

def readYear? : List Char → Option (Int × List Char)
  | '-' :: s => (readNumber? s.length s).map fun (n, r) => (-(n : Int), r)
  | '+' :: s => (readNumber? s.length s).map fun (n, r) => ((n : Int), r)
  | s => (readNumber? 4 s).map fun (n, r) => ((n : Int), r)

def PatternPart.read? (part : PatternPart) (f : ClockFields) (s : List Char) :
    Option (ClockFields × List Char) :=
  match part with
  | .year => (readYear? (trimLeft s)).map fun (n, r) => ({ f with year := n }, r)
  | .month => (readNumber? 2 (trimLeft s)).map fun (n, r) => ({ f with month := n }, r)
  | .day => (readNumber? 2 (trimLeft s)).map fun (n, r) => ({ f with day := n }, r)
  | .hour => (readNumber? 2 (trimLeft s)).map fun (n, r) => ({ f with hour := n }, r)
  | .minute => (readNumber? 2 (trimLeft s)).map fun (n, r) => ({ f with minute := n }, r)
  | .second => (readNumber? 2 (trimLeft s)).map fun (n, r) => ({ f with second := n }, r)
  | .fraction => (readFraction? s).map fun (n, r) => ({ f with nano := n }, r)
  | .blanks => some (f, trimLeft s)
  | .literal c =>
    match s with
    | [] => none
    | x :: r => if x = c then some (f, r) else none

abbrev Pattern : Type := List PatternPart

namespace Pattern

/-- Reads the parts of a pattern in order. -/
def readFrom? : Pattern → ClockFields → List Char → Option (ClockFields × List Char)
  | [], f, s => some (f, s)
  | part :: parts, f, s => (part.read? f s).bind fun (f, r) => readFrom? parts f r

/-- Reads a text that matches the whole pattern. -/
def read? (p : Pattern) (s : List Char) : Option ClockFields :=
  (p.readFrom? {} s).bind fun (f, rest) => if rest.isEmpty then some f else none

/-- A date, `%Y-%m-%d`. -/
def date : Pattern := [.year, .literal '-', .month, .literal '-', .day]

/-- A time of day, `%H:%M:%S%.f`. -/
def time : Pattern := [.hour, .literal ':', .minute, .literal ':', .second, .fraction]

/-- A date and a time apart by blanks, `%Y-%m-%d %H:%M:%S%.f`. -/
def dateTime : Pattern := date ++ .blanks :: time

/-- A date and a time apart by a `T`, `%Y-%m-%dT%H:%M:%S%.f`. -/
def dateTimeT : Pattern := date ++ .literal 'T' :: time

end Pattern

/-- The date of a text `%Y-%m-%d`. -/
def Date.read? (s : List Char) : Option Date := (Pattern.date.read? s).bind (·.date?)

/-- The time of a text `%H:%M:%S%.f`. -/
def Time.read? (s : List Char) : Option Time := (Pattern.time.read? s).bind (·.time?)

/-- The date-time of a text whose date and time stand apart by blanks or by a `T`. -/
def DateTime.read? (s : List Char) : Option DateTime :=
  ((Pattern.dateTime.read? s).bind (·.dateTime?)).or
    ((Pattern.dateTimeT.read? s).bind (·.dateTime?))

end EntitySql
