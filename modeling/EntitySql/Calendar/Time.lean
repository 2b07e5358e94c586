import EntitySql.Text.Digits

/-!
# Times of day

A time of day to the nanosecond.  In the last second of a minute the nanosecond may run on
past a whole second: that is a leap second, and it is written as second 60.
-/

namespace EntitySql

open EntitySql.Text

/-- Hour, minute, second and nanosecond name a time of day; only second 59 may be
prolonged by a leap second. -/
def IsTime (hour minute second nano : Nat) : Prop :=
  hour < 24 ∧ minute < 60 ∧ second < 60 ∧ nano < 2000000000 ∧ (nano < 1000000000 ∨ second = 59)

instance (hour minute second nano : Nat) : Decidable (IsTime hour minute second nano) :=
  inferInstanceAs (Decidable (_ ∧ _ ∧ _ ∧ _ ∧ _))

structure Time where
  hour : Nat
  minute : Nat
  second : Nat
  nano : Nat
  exists_ : IsTime hour minute second nano
deriving DecidableEq, Repr

namespace Time

def ofParts? (hour minute second nano : Nat) : Option Time :=
  if h : IsTime hour minute second nano then some ⟨hour, minute, second, nano, h⟩ else none

/-- The time that a clock shows, where second 60 is a leap second. -/
def ofClock? (hour minute second nano : Nat) : Option Time :=
  if second = 60 then ofParts? hour minute 59 (nano + 1000000000)
  else ofParts? hour minute second nano

def midnight : Time := ⟨0, 0, 0, 0, by decide⟩

/-- The second that a clock shows, 60 in a leap second. -/
def clockSecond (t : Time) : Nat := if 1000000000 ≤ t.nano then 60 else t.second

/-- The nanosecond within the second that a clock shows. -/
def clockNano (t : Time) : Nat := t.nano % 1000000000

/-- A fraction of a second: nothing for zero, else three, six or nine digits, as few as
hold it exactly. -/
def fractionText (nano : Nat) : List Char :=
  if nano = 0 then []
  else if nano % 1000000 = 0 then '.' :: fixed 3 (nano / 1000000)
  else if nano % 1000 = 0 then '.' :: fixed 6 (nano / 1000)
  else '.' :: fixed 9 nano

/-- Hour, minute and second, between colons, and the fraction. -/
def text (t : Time) : List Char :=
  fixed 2 t.hour ++ ':' :: (fixed 2 t.minute ++ ':' ::
    (fixed 2 t.clockSecond ++ fractionText t.clockNano))

/-! ## Laws -/

theorem ofParts?_self (t : Time) : ofParts? t.hour t.minute t.second t.nano = some t := by
  simp [ofParts?, t.exists_]

/-- What a clock shows names the time. -/
theorem ofClock?_clock (t : Time) :
    ofClock? t.hour t.minute t.clockSecond t.clockNano = some t := by
  have h := t.exists_
  unfold IsTime at h
  have hself := ofParts?_self t
  by_cases hleap : 1000000000 ≤ t.nano
  · have hs : t.second = 59 := by omega
    have hn : t.nano % 1000000000 + 1000000000 = t.nano := by omega
    simp only [clockSecond, clockNano, hleap, if_true, ofClock?, hn]
    rw [← hs]; exact hself
  · have hn : t.nano % 1000000000 = t.nano := by omega
    simp only [clockSecond, clockNano, hleap, if_false, ofClock?, hn]
    rw [if_neg (by omega)]; exact hself

end Time

end EntitySql
