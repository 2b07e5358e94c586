import EntitySql.Calendar.Date
import EntitySql.Calendar.Time

/-!
# Date-times

A date with a time of day, its texts, and its shift by whole minutes, by which an offset
from universal time is taken off.  A shift keeps the second and the nanosecond, a leap
second included.
-/

namespace EntitySql

structure DateTime where
  date : Date
  time : Time
deriving DecidableEq, Repr

/-- A moment in universal time with the offset, in seconds east, at which it was given. -/
structure ZonedDateTime where
  utc : DateTime
  offset : Int
deriving DecidableEq, Repr

namespace DateTime

def atMidnight (d : Date) : DateTime := ⟨d, .midnight⟩

/-- The same second at another minute of the day. -/
def withMinuteOfDay? (d : Date) (t : Time) (minute : Nat) : Option DateTime :=
  (Time.ofParts? (minute / 60) (minute % 60) t.second t.nano).map fun t => ⟨d, t⟩

/-- The date-time so many minutes later, fewer than a day. -/
def later? (x : DateTime) (minutes : Nat) : Option DateTime :=
  let minute := x.time.hour * 60 + x.time.minute + minutes
  if minute < 1440 then withMinuteOfDay? x.date x.time minute
  else x.date.next?.bind fun d => withMinuteOfDay? d x.time (minute - 1440)

/-- The date-time so many minutes earlier, fewer than a day. -/
def earlier? (x : DateTime) (minutes : Nat) : Option DateTime :=
  let minute := x.time.hour * 60 + x.time.minute
  if minutes ≤ minute then withMinuteOfDay? x.date x.time (minute - minutes)
  else x.date.previous?.bind fun d => withMinuteOfDay? d x.time (minute + 1440 - minutes)

/-- Where the date-time lies in a leap second, the same part of the second after it, with
which the next minute begins. -/
def afterLeapSecond? (x : DateTime) : Option DateTime :=
  if x.time.clockSecond = 60 then (x.later? 1).bind fun y =>
    (Time.ofParts? y.time.hour y.time.minute 0 x.time.clockNano).map fun t => ⟨y.date, t⟩
  else none

def textWith (separator : Char) (x : DateTime) : List Char :=
  x.date.text ++ separator :: x.time.text

/-- Date and time with a space between them. -/
def text (x : DateTime) : List Char := x.textWith ' '

/-- The form of RFC 3339 in universal time, ending in `Z`. -/
def utcText (x : DateTime) : List Char := x.textWith 'T' ++ ['Z']

/-- The form of RFC 3339 in universal time, ending in the offset `+00:00`. -/
def utcOffsetText (x : DateTime) : List Char := x.textWith 'T' ++ "+00:00".toList

end DateTime

/-- One form for all moments that a clock at the offset shows alike.  It shows a leap second
as second 60 where the offset is of whole minutes; where it is not, the leap second falls
inside a minute and is shown as the second after it. -/
def ZonedDateTime.canonical (x : ZonedDateTime) : ZonedDateTime :=
  if x.offset % 60 = 0 then x else { x with utc := x.utc.afterLeapSecond?.getD x.utc }

end EntitySql
