import EntitySql.Binding
import EntitySql.Outcome
import EntitySql.Proofs.CalendarText

/-!
# Binding what was read back

A value that comes back from the database is bound to the datum that it came from, so that a row can
be found again by what it holds.  Numbers keep their value, and dates, times and timestamps, which
come back as text, are read as they were written.  Single precision aside, this holds of every type;
a moment with its offset takes a year of four digits, since RFC 3339 has no other.

    t.bind v = .ok d → d.kind = t.datumKind                 (kind_of_bind)
    t.bind v = .ok d → t.bind (.ofDatum d) = .ok d          (bind_ofDatum)
-/

namespace EntitySql

namespace Value

/-! ## Integers -/

/-- What is taken for an integer has 64 bits. -/
theorem isInt64_of_toInteger {v : Value} {n : Int} (h : v.toInteger = .ok n) : IsInt64 n := by
  unfold toInteger at h
  split at h
  · split at h
    · split at h
      · next hrange =>
        cases h
        exact hrange
      · cases h
    · cases h
  · split at h
    · split at h
      · next hrange =>
        cases h
        exact hrange
      · cases h
    · cases h

theorem toInteger_of_integer? {v : Value} {n : Int} (hv : ∀ s, v ≠ .string s)
    (h : v.integer? = some n) (hn : IsInt64 n) : v.toInteger = .ok n := by
  unfold toInteger
  split
  · next s => exact absurd rfl (hv s)
  · rw [h]
    exact if_pos hn

theorem isInt32_iff {n : Int} : IsInt32 n ↔ -2147483648 ≤ n ∧ n ≤ 2147483647 := by
  have hbounds : Int32.minValue.toInt = -2147483648 ∧ Int32.maxValue.toInt = 2147483647 := by
    decide
  rw [IsInt32, hbounds.1, hbounds.2]

theorem isInt64_iff {n : Int} :
    IsInt64 n ↔ -9223372036854775808 ≤ n ∧ n ≤ 9223372036854775807 := by
  have hbounds : Int64.minValue.toInt = -9223372036854775808 ∧
      Int64.maxValue.toInt = 9223372036854775807 := by
    decide
  rw [IsInt64, hbounds.1, hbounds.2]

theorem isInt64_of_isInt32 {n : Int} (h : IsInt32 n) : IsInt64 n := by
  rw [isInt32_iff] at h
  rw [isInt64_iff]
  omega

theorem toInteger_int {n : Int} (h : IsInt32 n) : (int (Int32.ofInt n)).toInteger = .ok n := by
  have hword := Int32.toInt_ofInt_of_le h.1 (Int.lt_of_le_sub_one h.2)
  exact toInteger_of_integer? (fun s => by simp) (congrArg some hword) (isInt64_of_isInt32 h)

theorem toInteger_bigInt {n : Int} (h : IsInt64 n) : (bigInt (Int64.ofInt n)).toInteger = .ok n := by
  have hword := Int64.toInt_ofInt_of_le h.1 (Int.lt_of_le_sub_one h.2)
  exact toInteger_of_integer? (fun s => by simp) (congrArg some hword) h

/-! ## Dates and times that come back as text -/

theorem toDate_text (d : Date) : (string (String.ofList d.text)).toDate = .ok d := by
  simp [toDate, Date.read?_text]

theorem toTime_text (t : Time) : (string (String.ofList t.text)).toTime = .ok t := by
  simp [toTime, Time.read?_text]

/-- The text of a date-time is not taken for a timestamp with an offset, which is tried first. -/
theorem toDateTime_text (x : DateTime) : (string (String.ofList x.text)).toDateTime = .ok x := by
  simp [toDateTime, readDateTime?, DateTime.readRfc3339?_text, DateTime.read?_text]

theorem toMoment_utcText {x : DateTime} (h : 0 ≤ x.date.year ∧ x.date.year ≤ 9999) :
    (string (String.ofList x.utcText)).toMoment = .ok x := by
  simp [toMoment, toDateTime, readDateTime?, DateTime.readRfc3339?_utcText h]

end Value

namespace SqlType

/-! ## Binding again -/

/-- The types of at most 32 bits take the integers of 32 bits. -/
theorem bindPresent_int32_iff {t : SqlType} (ht : t.datumKind = .int32) {v : Value} {d : Datum} :
    t.bindPresent v = .ok d ↔
      ∃ n, v.toInteger = .ok n ∧ Value.IsInt32 n ∧ d = .int32 (Int32.ofInt n) := by
  have hbind : t.bindPresent v = v.toInteger >>= fun n =>
      if Value.IsInt32 n then .ok (.int32 (Int32.ofInt n)) else .error (.outOfRange n) := by
    cases t <;> first | rfl | cases ht
  rw [hbind, Outcome.bind_eq_ok_iff]
  refine exists_congr fun n => and_congr_right fun _ => ?_
  split
  · next hn => simp [hn, eq_comm]
  · next hn => simp [hn]

theorem bindPresent_ofDatum_int32 {t : SqlType} (ht : t.datumKind = .int32) {v : Value} {d : Datum}
    (h : t.bindPresent v = .ok d) : t.bind (.ofDatum d) = .ok d := by
  obtain ⟨n, _, hn, rfl⟩ := (bindPresent_int32_iff ht).1 h
  exact (bindPresent_int32_iff ht).2 ⟨n, Value.toInteger_int hn, hn, rfl⟩

/-- What a type is sent is a datum of the type's kind. -/
theorem kind_of_bind {t : SqlType} {v : Value} {d : Datum} (h : t.bind v = .ok d) :
    d.kind = t.datumKind := by
  unfold bind at h
  split at h
  · cases h
    rfl
  cases t with
  | tinyInt | smallInt | int =>
    obtain ⟨n, _, _, rfl⟩ := (bindPresent_int32_iff rfl).1 h
    rfl
  | _ =>
    obtain ⟨x, _, rfl⟩ := Outcome.map_eq_ok_iff.1 h
    rfl

/-- The datum that a type is sent for a value is what the type is sent for the value that the datum
comes back as. -/
theorem bind_ofDatum {t : SqlType} {v : Value} {d : Datum} (hreal : t ≠ .real)
    (hyear : t = .dateTimeOffset →
      ∀ x, v.toMoment = .ok x → 0 ≤ x.date.year ∧ x.date.year ≤ 9999)
    (h : t.bind v = .ok d) : t.bind (.ofDatum d) = .ok d := by
  unfold bind at h
  split at h
  · cases h
    rfl
  cases t with
  | bit =>
    obtain ⟨b, _, rfl⟩ := Outcome.map_eq_ok_iff.1 h
    rfl
  | tinyInt | smallInt | int => exact bindPresent_ofDatum_int32 rfl h
  | bigInt =>
    obtain ⟨n, hn, rfl⟩ := Outcome.map_eq_ok_iff.1 h
    exact Outcome.map_eq_ok_iff.2 ⟨n, Value.toInteger_bigInt (Value.isInt64_of_toInteger hn), rfl⟩
  | real => exact absurd rfl hreal
  | float | decimal =>
    obtain ⟨x, _, rfl⟩ := Outcome.map_eq_ok_iff.1 h
    rfl
  | char | nChar | varChar | nVarChar | text | uniqueIdentifier =>
    obtain ⟨s, _, rfl⟩ := Outcome.map_eq_ok_iff.1 h
    rfl
  | date =>
    obtain ⟨x, _, rfl⟩ := Outcome.map_eq_ok_iff.1 h
    exact Outcome.map_eq_ok_iff.2 ⟨x, Value.toDate_text x, rfl⟩
  | time =>
    obtain ⟨x, _, rfl⟩ := Outcome.map_eq_ok_iff.1 h
    exact Outcome.map_eq_ok_iff.2 ⟨x, Value.toTime_text x, rfl⟩
  | dateTime | dateTime2 =>
    obtain ⟨x, _, rfl⟩ := Outcome.map_eq_ok_iff.1 h
    exact Outcome.map_eq_ok_iff.2 ⟨x, Value.toDateTime_text x, rfl⟩
  | dateTimeOffset =>
    obtain ⟨x, hx, rfl⟩ := Outcome.map_eq_ok_iff.1 h
    exact Outcome.map_eq_ok_iff.2 ⟨x, Value.toMoment_utcText (hyear rfl x hx), rfl⟩
  | binary | varBinary =>
    obtain ⟨b, _, rfl⟩ := Outcome.map_eq_ok_iff.1 h
    rfl

/-- A moment in a leap second, given to the west, comes back in universal time. -/
theorem bind_ofDatum_leapSecond :
    dateTimeOffset.bind (.string "2016-12-31T18:59:60.500-05:00") =
        .ok (.timestamp "2016-12-31T23:59:60.500Z") ∧
      dateTimeOffset.bind (.ofDatum (.timestamp "2016-12-31T23:59:60.500Z")) =
        .ok (.timestamp "2016-12-31T23:59:60.500Z") := by
  have h : dateTimeOffset.bind (.string "2016-12-31T18:59:60.500-05:00") =
      .ok (.timestamp "2016-12-31T23:59:60.500Z") := by decide +kernel
  have hyear : (fun x : DateTime => x.date.year) <$>
      (Value.string "2016-12-31T18:59:60.500-05:00").toMoment = .ok 2016 := by decide +kernel
  refine ⟨h, bind_ofDatum (fun ht => by cases ht) (fun _ x hx => ?_) h⟩
  rw [hx] at hyear
  have heq : x.date.year = 2016 := Except.ok.inj hyear
  rw [heq]
  decide

end SqlType

end EntitySql
