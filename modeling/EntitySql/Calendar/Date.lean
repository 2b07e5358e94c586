import EntitySql.Text.Digits

/-!
# Dates

Dates of the proleptic Gregorian calendar, from the year -262143 to the year 262142.  A
`Date` names a day that exists; `next?` and `previous?` step by one day.
-/

namespace EntitySql

open EntitySql.Text

/-- A leap year has 366 days. -/
def isLeapYear (year : Int) : Bool :=
  year % 4 == 0 && (year % 100 != 0 || year % 400 == 0)

/-- The length of a month, zero for a number that names none. -/
def daysInMonth (year : Int) (month : Nat) : Nat :=
  if month = 2 then if isLeapYear year then 29 else 28
  else if month = 4 ∨ month = 6 ∨ month = 9 ∨ month = 11 then 30
  else if 1 ≤ month ∧ month ≤ 12 then 31
  else 0

/-- Year, month and day name a day of the calendar. -/
def IsDate (year : Int) (month day : Nat) : Prop :=
  -262143 ≤ year ∧ year ≤ 262142 ∧ 1 ≤ day ∧ day ≤ daysInMonth year month

instance (year : Int) (month day : Nat) : Decidable (IsDate year month day) :=
  inferInstanceAs (Decidable (_ ∧ _ ∧ _ ∧ _))

structure Date where
  year : Int
  month : Nat
  day : Nat
  exists_ : IsDate year month day
deriving DecidableEq, Repr

namespace Date

/-- The day of the given year, month and day, if there is one. -/
def ofParts? (year : Int) (month day : Nat) : Option Date :=
  if h : IsDate year month day then some ⟨year, month, day, h⟩ else none

/-- The day after, unless the calendar ends. -/
def next? (d : Date) : Option Date :=
  if d.day < daysInMonth d.year d.month then ofParts? d.year d.month (d.day + 1)
  else if d.month < 12 then ofParts? d.year (d.month + 1) 1
  else ofParts? (d.year + 1) 1 1

/-- The day before, unless the calendar begins. -/
def previous? (d : Date) : Option Date :=
  if 1 < d.day then ofParts? d.year d.month (d.day - 1)
  else if 1 < d.month then ofParts? d.year (d.month - 1) (daysInMonth d.year (d.month - 1))
  else ofParts? (d.year - 1) 12 31

/-- The text of a year: four digits from 0 to 9999, elsewhere a sign and at least four. -/
def yearText (year : Int) : List Char :=
  if 0 ≤ year ∧ year ≤ 9999 then fixed 4 year.toNat
  else
    let sign := if year < 0 then '-' else '+'
    let n := year.natAbs
    sign :: (if n < 10000 then fixed 4 n else Nat.toDigits 10 n)

/-- Year, month and day, between hyphens. -/
def text (d : Date) : List Char :=
  yearText d.year ++ '-' :: (fixed 2 d.month ++ '-' :: fixed 2 d.day)

/-! ## Laws -/

theorem month_bounds (d : Date) : 1 ≤ d.month ∧ d.month ≤ 12 := by
  obtain ⟨y, m, n, h⟩ := d
  obtain ⟨_, _, h1, h2⟩ := h
  have hpos : 0 < daysInMonth y m := by omega
  show 1 ≤ m ∧ m ≤ 12
  unfold daysInMonth at hpos
  repeat' split at hpos
  all_goals omega

theorem ofParts?_self (d : Date) : ofParts? d.year d.month d.day = some d := by
  simp [ofParts?, d.exists_]

theorem eq_of_ofParts? {y : Int} {m n : Nat} {d : Date} (h : ofParts? y m n = some d) :
    d.year = y ∧ d.month = m ∧ d.day = n := by
  unfold ofParts? at h
  split at h
  · cases h; exact ⟨rfl, rfl, rfl⟩
  · cases h

/-- Every month has at least 28 days and at most 31. -/
theorem daysInMonth_bounds (y : Int) {m : Nat} (h1 : 1 ≤ m) (h2 : m ≤ 12) :
    28 ≤ daysInMonth y m ∧ daysInMonth y m ≤ 31 := by
  unfold daysInMonth
  repeat' split
  all_goals omega

end Date

end EntitySql
