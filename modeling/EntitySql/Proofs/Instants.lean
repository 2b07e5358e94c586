import EntitySql.Binding
import EntitySql.Proofs.CalendarCount
import EntitySql.Proofs.CalendarText

/-!
# One moment in several forms

A moment comes as a value in universal time, as a value with an offset, as a timestamp of RFC 3339
at an offset, or as a date-time in universal time that is written without one.  A column is sent the
same for all forms that its type takes, whatever the offset and however the fraction of the second
is written, in a leap second as in any other.

    WritesZone ahead zone → zone is read as an offset so far ahead      (exists_readOffset?)
    local.Shows moment ahead → local.WritesAt ahead zoned →
      readDateTime? zoned = some moment                                 (readDateTime?_of_writesAt)
    the forms of one moment are bound to one datum                      (bind_moment)
-/

namespace EntitySql

open EntitySql.Text

/-! ## Offsets in texts -/

/-- A text writes how many minutes a clock is ahead of universal time: a letter for none, or a sign,
hours and minutes. -/
inductive WritesZone : Int → List Char → Prop
  | letter {c : Char} (h : c = 'Z' ∨ c = 'z') : WritesZone 0 [c]
  | east {hours minutes : Nat} (hours_lt : hours < 24) (minutes_lt : minutes < 60) :
      WritesZone (hours * 60 + minutes : Nat) ('+' :: (fixed 2 hours ++ ':' :: fixed 2 minutes))
  | west {hours minutes : Nat} {c : Char} (sign : c = '-' ∨ c = '\u2212') (hours_lt : hours < 24)
      (minutes_lt : minutes < 60) :
      WritesZone (-(hours * 60 + minutes : Nat)) (c :: (fixed 2 hours ++ ':' :: fixed 2 minutes))

/-- Every offset of less than a day is written by some text. -/
theorem exists_writesZone {ahead : Int} (h : -1440 < ahead ∧ ahead < 1440) :
    ∃ zone, WritesZone ahead zone := by
  rcases Int.eq_nat_or_neg ahead with ⟨n, rfl | rfl⟩
  · have hhours : n / 60 < 24 := by omega
    have hzone := WritesZone.east hhours (Nat.mod_lt n (by decide))
    rw [Nat.div_add_mod'] at hzone
    exact ⟨_, hzone⟩
  · have hhours : n / 60 < 24 := by omega
    have hzone := WritesZone.west (.inl rfl) hhours (Nat.mod_lt n (by decide))
    rw [Nat.div_add_mod'] at hzone
    exact ⟨_, hzone⟩

theorem WritesZone.ahead_bounds {ahead : Int} {zone : List Char} (h : WritesZone ahead zone) :
    -1440 < ahead ∧ ahead < 1440 := by
  cases h <;> omega

theorem WritesZone.endsNumber {ahead : Int} {zone : List Char} (h : WritesZone ahead zone) :
    EndsNumber zone := by
  cases h with
  | letter h => rcases h with rfl | rfl <;> exact endsNumber_cons (by decide) _
  | east => exact endsNumber_cons (by decide) _
  | west sign => rcases sign with rfl | rfl <;> exact endsNumber_cons (by decide) _

theorem readOffsetMinutes?_fixed {hours minutes : Nat} (hhours : hours < 24)
    (hminutes : minutes < 60) :
    readOffsetMinutes? (fixed 2 hours ++ ':' :: fixed 2 minutes) =
      some (hours * 60 + minutes, []) := by
  have hpow : Nat.pow 10 2 = 100 := by decide
  have hread := readFixed?_fixed (w := 2) (n := minutes) (by omega) []
  rw [List.append_nil] at hread
  simp [readOffsetMinutes?, readFixed?_fixed (w := 2) (n := hours) (by omega), readChar?, hread,
    hhours, hminutes]

theorem WritesZone.exists_readOffset? {ahead : Int} {zone : List Char} (h : WritesZone ahead zone) :
    ∃ o, readOffset? zone = some (o, []) ∧ o.ahead = ahead := by
  cases h with
  | letter h => rcases h with rfl | rfl <;> exact ⟨.east 0, rfl, rfl⟩
  | @east hours minutes hhours hminutes =>
    refine ⟨.east (hours * 60 + minutes), ?_, rfl⟩
    simp [readOffset?, readOffsetMinutes?_fixed hhours hminutes]
  | @west hours minutes c sign hhours hminutes =>
    refine ⟨.west (hours * 60 + minutes), ?_, rfl⟩
    rcases sign with rfl | rfl <;> simp [readOffset?, readOffsetMinutes?_fixed hhours hminutes]

/-! ## Moments in texts -/

namespace DateTime

/-- A text of RFC 3339 writes what a clock shows that is so many minutes ahead of universal time. -/
def WritesAt (ahead : Int) (x : DateTime) (text : List Char) : Prop :=
  ∃ separator s zone, (separator = 'T' ∨ separator = 't' ∨ separator = ' ') ∧
    x.Writes separator s ∧ WritesZone ahead zone ∧ text = s ++ zone

def WritesPlain (x : DateTime) (text : List Char) : Prop :=
  ∃ separator, (separator = ' ' ∨ separator = 'T') ∧ x.Writes separator text

/-- Whatever its year, a moment can be given at every offset of less than a day: a clock shows
something there, and there are texts for it. -/
theorem exists_forms {moment : DateTime} {ahead : Int} (hahead : -1440 < ahead ∧ ahead < 1440)
    (hyear : -262143 < moment.date.year ∧ moment.date.year < 262142) :
    ∃ local_ : DateTime, local_.Shows moment ahead ∧ (∃ zoned, local_.WritesAt ahead zoned) ∧
      ∃ plain, moment.WritesPlain plain := by
  obtain ⟨local_, hshows⟩ := exists_shows hahead hyear
  obtain ⟨zone, hzone⟩ := exists_writesZone hahead
  exact ⟨local_, hshows, ⟨_, 'T', _, zone, .inl rfl, local_.writes_textWith 'T', hzone, rfl⟩,
    _, ' ', .inl rfl, moment.writes_textWith ' '⟩

end DateTime

namespace Value

/-- A timestamp is read as the moment at which its offset shows what is written. -/
theorem readDateTime?_of_writesAt {moment local_ : DateTime} {ahead : Int}
    (hlocal : local_.Shows moment ahead)
    (hyear : 0 ≤ local_.date.year ∧ local_.date.year ≤ 9999) {zoned : List Char}
    (h : local_.WritesAt ahead zoned) : readDateTime? (String.ofList zoned) = some moment := by
  obtain ⟨separator, s, zone, hseparator, hs, hzone, rfl⟩ := h
  obtain ⟨o, ho, rfl⟩ := hzone.exists_readOffset?
  have hread := DateTime.readRfc3339?_append hyear hseparator hs hzone.endsNumber ho
  have hmoment := Offset.toUtc?_of_shows hzone.ahead_bounds (by omega) hlocal
  rw [readDateTime?, String.toList_ofList, hread, hmoment]
  rfl

/-- What is written without an offset is no timestamp, and is read as it stands. -/
theorem readDateTime?_of_writesPlain {moment : DateTime} {plain : List Char}
    (h : moment.WritesPlain plain) : readDateTime? (String.ofList plain) = some moment := by
  obtain ⟨separator, hseparator, h⟩ := h
  rw [readDateTime?, String.toList_ofList, DateTime.readRfc3339?_of_writes hseparator h,
    DateTime.read?_of_writes hseparator h]
  rfl

theorem toDateTime_of_readDateTime? {s : String} {x : DateTime} (h : readDateTime? s = some x) :
    (string s).toDateTime = .ok x := by
  simp [toDateTime, h]

end Value

/-! ## Moments that are sent -/

namespace SqlType

/-- A moment is sent to a column with an offset in one text, and to one without in another, whether
it comes in universal time, at an offset, or as a text at the offset or without one. -/
theorem bind_moment {moment local_ : DateTime} {ahead : Int} (hlocal : local_.Shows moment ahead)
    (hyear : 0 ≤ local_.date.year ∧ local_.date.year ≤ 9999) {zoned plain : List Char}
    (hzoned : local_.WritesAt ahead zoned) (hplain : moment.WritesPlain plain) :
    (∀ v ∈ [Value.dateTimeUtc moment, .dateTimeZoned ⟨moment, 60 * ahead⟩,
        .string (String.ofList zoned), .string (String.ofList plain)],
      dateTimeOffset.bind v = .ok (.timestamp (String.ofList moment.utcText))) ∧
    ∀ t ∈ [dateTime, dateTime2],
      ∀ v ∈ [Value.dateTimeUtc moment, .string (String.ofList zoned),
          .string (String.ofList plain)],
        t.bind v = .ok (.timestamp (String.ofList moment.text)) := by
  have hzoned := Value.toDateTime_of_readDateTime?
    (Value.readDateTime?_of_writesAt hlocal hyear hzoned)
  have hplain := Value.toDateTime_of_readDateTime? (Value.readDateTime?_of_writesPlain hplain)
  have hoffset : ∀ v : Value, v.isNull = false → v.toMoment = .ok moment →
      dateTimeOffset.bind v = .ok (.timestamp (String.ofList moment.utcText)) := by
    intro v hnull hv
    rw [bind, hnull, if_neg (by decide), bindPresent, hv]
    rfl
  have hplainly : ∀ t ∈ [dateTime, dateTime2], ∀ v : Value, v.isNull = false →
      v.toDateTime = .ok moment → t.bind v = .ok (.timestamp (String.ofList moment.text)) := by
    intro t ht v hnull hv
    simp only [List.mem_cons, List.not_mem_nil, or_false] at ht
    rcases ht with rfl | rfl <;> rw [bind, hnull, if_neg (by decide), bindPresent, hv] <;> rfl
  constructor
  · simp only [List.forall_mem_cons]
    exact ⟨hoffset _ rfl rfl, hoffset _ rfl rfl, hoffset _ rfl hzoned, hoffset _ rfl hplain,
      by simp⟩
  · intro t ht
    simp only [List.forall_mem_cons]
    exact ⟨hplainly t ht _ rfl rfl, hplainly t ht _ rfl hzoned, hplainly t ht _ rfl hplain, by simp⟩

/-- Half a second into the leap second at the end of 2016. -/
def leapMoment : DateTime :=
  ⟨⟨2016, 12, 31, by decide⟩, ⟨23, 59, 59, 1500000000, by decide⟩⟩

/-- What a clock shows then that is five and a half hours ahead. -/
def leapMomentAhead : DateTime :=
  ⟨⟨2017, 1, 1, by decide⟩, ⟨5, 29, 59, 1500000000, by decide⟩⟩

theorem bind_moment_leapMoment :
    leapMomentAhead.Shows leapMoment 330 ∧
      (0 ≤ leapMomentAhead.date.year ∧ leapMomentAhead.date.year ≤ 9999) ∧
      leapMomentAhead.WritesAt 330 "2017-01-01t05:29:60.50000000000+05:30".toList ∧
      leapMoment.WritesPlain "2016-12-31 23:59:60.5".toList ∧
      (∀ v ∈ [Value.dateTimeUtc leapMoment, .dateTimeZoned ⟨leapMoment, 60 * 330⟩,
          .string "2017-01-01t05:29:60.50000000000+05:30", .string "2016-12-31 23:59:60.5"],
        dateTimeOffset.bind v = .ok (.timestamp "2016-12-31T23:59:60.500Z")) ∧
      ∀ t ∈ [dateTime, dateTime2],
        ∀ v ∈ [Value.dateTimeUtc leapMoment, .string "2017-01-01t05:29:60.50000000000+05:30",
            .string "2016-12-31 23:59:60.5"],
          t.bind v = .ok (.timestamp "2016-12-31 23:59:60.500") := by
  have hlocal : leapMomentAhead.Shows leapMoment 330 := ⟨by decide, rfl, rfl⟩
  have hlong : WritesFraction leapMomentAhead.time.clockNano ('.' :: "50000000000".toList) :=
    .digits (by decide) (List.all_eq_true.1 (by decide)) (by decide)
  have hshort : WritesFraction leapMoment.time.clockNano ('.' :: "5".toList) :=
    .digits (by decide) (List.all_eq_true.1 (by decide)) (by decide)
  have hzone : WritesZone (5 * 60 + 30 : Nat) ('+' :: (fixed 2 5 ++ ':' :: fixed 2 30)) :=
    .east (by decide) (by decide)
  have hzoned : leapMomentAhead.WritesAt 330 "2017-01-01t05:29:60.50000000000+05:30".toList := by
    refine ⟨'t', "2017-01-01t05:29:60.50000000000".toList, "+05:30".toList, by decide, ?_, ?_, ?_⟩
    · exact ⟨_, ⟨_, hlong, rfl⟩, by decide⟩
    · exact hzone
    · decide
  have hplain : leapMoment.WritesPlain "2016-12-31 23:59:60.5".toList :=
    ⟨' ', .inl rfl, _, ⟨_, hshort, rfl⟩, by decide⟩
  exact ⟨hlocal, by decide, hzoned, hplain, bind_moment hlocal (by decide) hzoned hplain⟩

end SqlType

end EntitySql
