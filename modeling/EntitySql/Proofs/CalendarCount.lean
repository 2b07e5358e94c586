import EntitySql.Calendar.Rfc3339

/-!
# Days and minutes in one count

The days of the calendar are numbered through all years, by the lengths of the years and months in
front of them, and so are the minutes.  A day has a number of its own, the steps from day to day go
up and down by one, and a shift by minutes goes as far in the count of minutes.  So what is shown at
an offset from universal time is brought back to the moment at which it is shown, across the ends of
days, months and years.

    d.next? = some e → e.dayNumber = d.dayNumber + 1                (dayNumber_of_next?)
    d.dayNumber = e.dayNumber → d = e                               (eq_of_dayNumber_eq)
    x.later? n = some y → y.Shows x n                               (shows_of_later?)
    local.Shows x o.minutes → o.toUtc? local = some x               (toUtc?_of_shows)
-/

namespace EntitySql

/-! ## Days -/

/-- The days of the years in front of a year, from the year 1 on. -/
def daysBeforeYear (year : Int) : Int :=
  365 * (year - 1) + (year - 1) / 4 - (year - 1) / 100 + (year - 1) / 400

/-- The days of a year in front of a month. -/
def daysBeforeMonth (year : Int) : (month : Nat) → Nat
  | 0 => 0
  | month + 1 => daysBeforeMonth year month + daysInMonth year month

theorem daysBeforeMonth_succ (year : Int) (month : Nat) :
    daysBeforeMonth year (month + 1) = daysBeforeMonth year month + daysInMonth year month := rfl

theorem daysBeforeMonth_mono (year : Int) {m n : Nat} (h : m ≤ n) :
    daysBeforeMonth year m ≤ daysBeforeMonth year n := by
  induction h with
  | refl => exact Nat.le_refl _
  | step _ ih =>
    rw [Nat.succ_eq_add_one, daysBeforeMonth_succ]
    exact Nat.le_add_right_of_le ih

/-- A leap year has a day more than the others. -/
theorem daysBeforeMonth_thirteen (year : Int) :
    daysBeforeMonth year 13 = if isLeapYear year then 366 else 365 := by
  cases hleap : isLeapYear year <;> simp [daysBeforeMonth, daysInMonth, hleap]

/-- The years in front of the next one are those in front of this one, and this one. -/
theorem daysBeforeYear_succ (year : Int) :
    daysBeforeYear (year + 1) = daysBeforeYear year + daysBeforeMonth year 13 := by
  have hleap : isLeapYear year = true ↔ year % 4 = 0 ∧ (year % 100 ≠ 0 ∨ year % 400 = 0) := by
    simp [isLeapYear]
  rw [daysBeforeMonth_thirteen, daysBeforeYear, daysBeforeYear, Int.add_sub_cancel]
  split
  · next h =>
    have h := hleap.1 h
    omega
  · next h =>
    have h := mt hleap.2 h
    omega

theorem daysBeforeYear_mono {y z : Int} (h : y ≤ z) : daysBeforeYear y ≤ daysBeforeYear z := by
  unfold daysBeforeYear
  omega

namespace Date

/-- The number of a day; the first day of the year 1 has the number one. -/
def dayNumber (d : Date) : Int := daysBeforeYear d.year + daysBeforeMonth d.year d.month + d.day

theorem day_bounds (d : Date) : 1 ≤ d.day ∧ d.day ≤ daysInMonth d.year d.month := d.exists_.2.2

/-- A day lies behind the days in front of its month, and not behind the month. -/
theorem dayNumber_month (d : Date) :
    daysBeforeYear d.year + daysBeforeMonth d.year d.month < d.dayNumber ∧
      d.dayNumber ≤ daysBeforeYear d.year + daysBeforeMonth d.year (d.month + 1) := by
  have hday := d.day_bounds
  rw [dayNumber, daysBeforeMonth_succ]
  omega

/-- A day lies behind the days in front of its year, and not behind the year. -/
theorem dayNumber_year (d : Date) :
    daysBeforeYear d.year < d.dayNumber ∧ d.dayNumber ≤ daysBeforeYear (d.year + 1) := by
  obtain ⟨hlow, hhigh⟩ := d.dayNumber_month
  have hlast : daysBeforeMonth d.year (d.month + 1) ≤ daysBeforeMonth d.year 13 :=
    daysBeforeMonth_mono _ (by have := d.month_bounds; omega)
  rw [daysBeforeYear_succ]
  omega

theorem year_le_of_dayNumber_le {d e : Date} (h : d.dayNumber ≤ e.dayNumber) : d.year ≤ e.year := by
  refine Int.not_lt.1 fun hlt => ?_
  have hyears := daysBeforeYear_mono (Int.add_one_le_of_lt hlt)
  have hd := d.dayNumber_year
  have he := e.dayNumber_year
  omega

theorem month_le_of_dayNumber_le {d e : Date} (hyear : d.year = e.year)
    (h : d.dayNumber ≤ e.dayNumber) : d.month ≤ e.month := by
  refine Nat.not_lt.1 fun hlt => ?_
  have hmonths : daysBeforeMonth e.year (e.month + 1) ≤ daysBeforeMonth e.year d.month :=
    daysBeforeMonth_mono e.year hlt
  have hd := d.dayNumber_month
  have he := e.dayNumber_month
  rw [hyear] at hd
  omega

/-- No two days have one number. -/
theorem eq_of_dayNumber_eq {d e : Date} (h : d.dayNumber = e.dayNumber) : d = e := by
  have hyear : d.year = e.year := Int.le_antisymm (year_le_of_dayNumber_le (Int.le_of_eq h))
    (year_le_of_dayNumber_le (Int.le_of_eq h.symm))
  have hmonth : d.month = e.month :=
    Nat.le_antisymm (month_le_of_dayNumber_le hyear (Int.le_of_eq h))
      (month_le_of_dayNumber_le hyear.symm (Int.le_of_eq h.symm))
  have hday : d.day = e.day := by
    rw [dayNumber, dayNumber, hyear, hmonth] at h
    omega
  cases d
  cases e
  cases hyear
  cases hmonth
  cases hday
  rfl

theorem dayNumber_of_next? {d e : Date} (h : d.next? = some e) :
    e.dayNumber = d.dayNumber + 1 := by
  obtain ⟨hfirst, hlast⟩ := d.day_bounds
  have hmonth := d.month_bounds
  unfold next? at h
  split at h
  · obtain ⟨hy, hm, hn⟩ := eq_of_ofParts? h
    rw [dayNumber, dayNumber, hy, hm, hn]
    omega
  · have hday : d.day = daysInMonth d.year d.month := by omega
    split at h
    · obtain ⟨hy, hm, hn⟩ := eq_of_ofParts? h
      rw [dayNumber, dayNumber, hy, hm, hn, daysBeforeMonth_succ, hday]
      omega
    · obtain ⟨hy, hm, hn⟩ := eq_of_ofParts? h
      -- The step out of a year: all its months lie behind it, and none of the next one.
      have hdecember : d.month = 12 := by omega
      have hyear : daysBeforeMonth d.year 13 =
          daysBeforeMonth d.year 12 + daysInMonth d.year 12 := daysBeforeMonth_succ d.year 12
      have hjanuary : daysBeforeMonth (d.year + 1) 1 = 0 := rfl
      rw [dayNumber, dayNumber, hy, hm, hn, daysBeforeYear_succ, hyear, hjanuary, hday, hdecember]
      omega

theorem dayNumber_of_previous? {d e : Date} (h : d.previous? = some e) :
    e.dayNumber = d.dayNumber - 1 := by
  have hday := d.day_bounds
  have hmonth := d.month_bounds
  unfold previous? at h
  split at h
  · obtain ⟨hy, hm, hn⟩ := eq_of_ofParts? h
    rw [dayNumber, dayNumber, hy, hm, hn]
    omega
  · split at h
    · obtain ⟨hy, hm, hn⟩ := eq_of_ofParts? h
      have hstep := daysBeforeMonth_succ d.year (d.month - 1)
      rw [Nat.sub_add_cancel hmonth.1] at hstep
      rw [dayNumber, dayNumber, hy, hm, hn, hstep]
      omega
    · obtain ⟨hy, hm, hn⟩ := eq_of_ofParts? h
      have hfirst : d.month = 1 := by omega
      have hyear := daysBeforeYear_succ (d.year - 1)
      have hdecember : daysBeforeMonth (d.year - 1) 13 = daysBeforeMonth (d.year - 1) 12 + 31 :=
        daysBeforeMonth_succ (d.year - 1) 12
      have hjanuary : daysBeforeMonth d.year 1 = 0 := rfl
      rw [Int.sub_add_cancel, hdecember] at hyear
      rw [dayNumber, dayNumber, hy, hm, hn, hfirst, hyear, hjanuary]
      omega

theorem exists_ofParts? {y : Int} {m n : Nat} (h : IsDate y m n) : ∃ d, ofParts? y m n = some d :=
  ⟨⟨y, m, n, h⟩, dif_pos h⟩

/-- There is a day after every one but the last. -/
theorem exists_next? {d : Date} (h : d.year < 262142) : ∃ e, d.next? = some e := by
  obtain ⟨hlow, hhigh, hday⟩ := d.exists_
  obtain ⟨h1, h12⟩ := d.month_bounds
  unfold next?
  split
  · exact exists_ofParts? ⟨hlow, hhigh, by omega, by omega⟩
  · split
    · have hlength := daysInMonth_bounds d.year (Nat.le_add_left 1 d.month) (by omega)
      exact exists_ofParts? ⟨hlow, hhigh, by omega, by omega⟩
    · have hlength := daysInMonth_bounds (d.year + 1) (m := 1) (by decide) (by decide)
      exact exists_ofParts? ⟨by omega, by omega, by omega, by omega⟩

/-- There is a day before every one but the first. -/
theorem exists_previous? {d : Date} (h : -262143 < d.year) : ∃ e, d.previous? = some e := by
  obtain ⟨hlow, hhigh, hday⟩ := d.exists_
  obtain ⟨h1, h12⟩ := d.month_bounds
  unfold previous?
  split
  · exact exists_ofParts? ⟨hlow, hhigh, by omega, by omega⟩
  · split
    · have hlength := daysInMonth_bounds d.year (m := d.month - 1) (by omega) (by omega)
      exact exists_ofParts? ⟨hlow, hhigh, by omega, by omega⟩
    · exact exists_ofParts? ⟨by omega, by omega, by decide, Nat.le_refl 31⟩

end Date

/-! ## Minutes -/

namespace DateTime

/-- The number of the minute in which a date-time lies. -/
def minuteNumber (x : DateTime) : Int :=
  x.date.dayNumber * 1440 + (x.time.hour * 60 + x.time.minute : Nat)

/-- A clock that is so many minutes ahead shows the date-time at a moment. -/
structure Shows (x moment : DateTime) (ahead : Int) : Prop where
  minute : x.minuteNumber = moment.minuteNumber + ahead
  second : x.time.second = moment.time.second
  nano : x.time.nano = moment.time.nano

theorem Shows.symm {x moment : DateTime} {ahead : Int} (h : x.Shows moment ahead) :
    moment.Shows x (-ahead) :=
  ⟨by have := h.minute; omega, h.second.symm, h.nano.symm⟩

/-- A clock shows one date-time at a moment. -/
theorem Shows.unique {x y moment : DateTime} {ahead : Int} (hx : x.Shows moment ahead)
    (hy : y.Shows moment ahead) : x = y := by
  obtain ⟨hhour, hminute, _⟩ := x.time.exists_
  obtain ⟨hhour', hminute', _⟩ := y.time.exists_
  have hnumber := hx.minute.trans hy.minute.symm
  have hsecond := hx.second.trans hy.second.symm
  have hnano := hx.nano.trans hy.nano.symm
  have hdate : x.date = y.date := Date.eq_of_dayNumber_eq (by
    unfold minuteNumber at hnumber
    omega)
  have htime : x.time.hour = y.time.hour ∧ x.time.minute = y.time.minute := by
    rw [minuteNumber, minuteNumber, hdate] at hnumber
    omega
  obtain ⟨d, t⟩ := x
  obtain ⟨e, u⟩ := y
  cases t
  cases u
  simp_all

theorem withMinuteOfDay?_eq_some {d : Date} {t : Time} {minute : Nat} {y : DateTime}
    (h : withMinuteOfDay? d t minute = some y) :
    y.date = d ∧ y.time.hour * 60 + y.time.minute = minute ∧ y.time.second = t.second ∧
      y.time.nano = t.nano := by
  unfold withMinuteOfDay? Time.ofParts? at h
  split at h
  · cases h
    exact ⟨rfl, Nat.div_add_mod' minute 60, rfl, rfl⟩
  · cases h

theorem exists_withMinuteOfDay? (d : Date) (t : Time) {minute : Nat} (h : minute < 1440) :
    ∃ y, withMinuteOfDay? d t minute = some y := by
  obtain ⟨_, _, hclock⟩ := t.exists_
  have htime : IsTime (minute / 60) (minute % 60) t.second t.nano :=
    ⟨by omega, Nat.mod_lt _ (by decide), hclock⟩
  rw [withMinuteOfDay?, Time.ofParts?, dif_pos htime]
  exact ⟨_, rfl⟩

theorem shows_of_later? {x y : DateTime} {n : Nat} (h : x.later? n = some y) : y.Shows x n := by
  simp only [later?] at h
  split at h
  · obtain ⟨hdate, hminute, hsecond, hnano⟩ := withMinuteOfDay?_eq_some h
    refine ⟨?_, hsecond, hnano⟩
    rw [minuteNumber, minuteNumber, hdate, hminute]
    omega
  · obtain ⟨d, hd, h⟩ := Option.bind_eq_some_iff.1 h
    obtain ⟨hdate, hminute, hsecond, hnano⟩ := withMinuteOfDay?_eq_some h
    have hnumber := Date.dayNumber_of_next? hd
    refine ⟨?_, hsecond, hnano⟩
    rw [minuteNumber, minuteNumber, hdate, hminute, hnumber]
    omega

theorem shows_of_earlier? {x y : DateTime} {n : Nat} (hn : n < 1440)
    (h : x.earlier? n = some y) : y.Shows x (-n) := by
  simp only [earlier?] at h
  split at h
  · obtain ⟨hdate, hminute, hsecond, hnano⟩ := withMinuteOfDay?_eq_some h
    refine ⟨?_, hsecond, hnano⟩
    rw [minuteNumber, minuteNumber, hdate, hminute]
    omega
  · obtain ⟨d, hd, h⟩ := Option.bind_eq_some_iff.1 h
    obtain ⟨hdate, hminute, hsecond, hnano⟩ := withMinuteOfDay?_eq_some h
    have hnumber := Date.dayNumber_of_previous? hd
    refine ⟨?_, hsecond, hnano⟩
    rw [minuteNumber, minuteNumber, hdate, hminute, hnumber]
    omega

theorem exists_later? {x : DateTime} {n : Nat} (hn : n < 1440) (hyear : x.date.year < 262142) :
    ∃ y, x.later? n = some y := by
  obtain ⟨hhour, hminute, _⟩ := x.time.exists_
  simp only [later?]
  split
  · next hday => exact exists_withMinuteOfDay? _ _ hday
  · obtain ⟨d, hd⟩ := Date.exists_next? hyear
    rw [hd]
    exact exists_withMinuteOfDay? d _ (by omega)

theorem exists_earlier? {x : DateTime} {n : Nat} (hyear : -262143 < x.date.year) :
    ∃ y, x.earlier? n = some y := by
  obtain ⟨hhour, hminute, _⟩ := x.time.exists_
  simp only [earlier?]
  split
  · exact exists_withMinuteOfDay? _ _ (by omega)
  · obtain ⟨d, hd⟩ := Date.exists_previous? hyear
    rw [hd]
    exact exists_withMinuteOfDay? d _ (by omega)

/-- At every offset of less than a day there is something to show, away from the ends of the
calendar. -/
theorem exists_shows {moment : DateTime} {ahead : Int} (hahead : -1440 < ahead ∧ ahead < 1440)
    (hyear : -262143 < moment.date.year ∧ moment.date.year < 262142) :
    ∃ x : DateTime, x.Shows moment ahead := by
  rcases Int.eq_nat_or_neg ahead with ⟨n, rfl | rfl⟩
  · obtain ⟨x, hx⟩ := exists_later? (x := moment) (n := n) (by omega) hyear.2
    exact ⟨x, shows_of_later? hx⟩
  · obtain ⟨x, hx⟩ := exists_earlier? (x := moment) (n := n) hyear.1
    exact ⟨x, shows_of_earlier? (by omega) hx⟩

end DateTime

/-! ## Offsets -/

/-- How many minutes a clock at an offset is ahead of universal time. -/
def Offset.ahead : Offset → Int
  | .east n => n
  | .west n => -n

/-- What a clock at an offset shows is brought back to the moment at which it shows it. -/
theorem Offset.toUtc?_of_shows {o : Offset} {local_ moment : DateTime}
    (ho : -1440 < o.ahead ∧ o.ahead < 1440)
    (hyear : -262143 < local_.date.year ∧ local_.date.year < 262142)
    (h : local_.Shows moment o.ahead) : o.toUtc? local_ = some moment := by
  have hback := h.symm
  cases o with
  | east n =>
    obtain ⟨y, hy⟩ := DateTime.exists_earlier? (n := n) hyear.1
    have hshows := DateTime.shows_of_earlier? (Int.ofNat_lt.1 ho.2) hy
    exact hy.trans (congrArg some (hshows.unique hback))
  | west n =>
    have hn : n < 1440 := Int.ofNat_lt.1 (Int.neg_lt_neg_iff.1 ho.1)
    obtain ⟨y, hy⟩ := DateTime.exists_later? hn hyear.2
    have hshows := DateTime.shows_of_later? hy
    rw [ahead, Int.neg_neg] at hback
    exact hy.trans (congrArg some (hshows.unique hback))

end EntitySql
