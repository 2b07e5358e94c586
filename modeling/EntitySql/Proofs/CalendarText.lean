import EntitySql.Calendar.Rfc3339

/-!
# Reading back the calendar

What is written of a date, a time or a date-time is read back as it was: a year with a sign where it
takes one, a fraction of however many digits, and second 60 of a leap second.  A date-time that ends
without an offset is no timestamp of RFC 3339, and with an offset it is the date-time that the
offset brings it back to.

    p ++ q is read as p and then q                          (Pattern.readFrom?_append)
    Date.read? d.text = some d                              (Date.read?_text)
    Time.read? t.text = some t                              (Time.read?_text)
    x.Writes ' ' s → DateTime.read? s = some x              (DateTime.read?_of_writes)
    x.Writes ' ' s → DateTime.readRfc3339? s = none         (DateTime.readRfc3339?_of_writes)
    x.Writes 'T' s → zone is read as o → DateTime.readRfc3339? (s ++ zone) = o.toUtc? x
                                                            (DateTime.readRfc3339?_append)
    DateTime.readRfc3339? x.utcText = some x  for a year of four digits
                                                            (DateTime.readRfc3339?_utcText)
-/

namespace EntitySql

open EntitySql.Text

/-! ## Digits in front -/

/-- The text goes on neither with a digit nor with a point. -/
def EndsNumber (r : List Char) : Prop := ∀ c ∈ r.head?, c.isDigit = false ∧ c ≠ '.'

theorem endsNumber_nil : EndsNumber [] := by
  intro c hc
  simp at hc

theorem endsNumber_cons {c : Char} (h : c.isDigit = false ∧ c ≠ '.') (r : List Char) :
    EndsNumber (c :: r) := by
  intro d hd
  rw [List.head?_cons, Option.mem_some_iff] at hd
  exact hd ▸ h

theorem isBlank_of_isDigit {c : Char} (h : c.isDigit = true) : isBlank c = false := by
  have hbounds := toNat_bounds_of_isDigit h
  simp only [isBlank, Bool.or_eq_false_iff, Bool.and_eq_false_iff, decide_eq_false_iff_not,
    beq_eq_false_iff_ne]
  omega

section

variable {ds r : List Char} (hds : ∀ c ∈ ds, c.isDigit = true)
include hds

/-- A run of digits is taken whole where there is room for it and it ends. -/
theorem takeDigits_run (hr : EndsNumber r) {limit : Nat} (hlimit : ds.length ≤ limit) :
    takeDigits limit (ds ++ r) = (ds, r) := by
  induction ds generalizing limit with
  | nil =>
    cases limit with
    | zero => rfl
    | succ limit =>
      cases r with
      | nil => rfl
      | cons c r => simp [takeDigits, (hr c rfl).1]
  | cons c ds ih =>
    cases limit with
    | zero => simp at hlimit
    | succ limit =>
      have hc := hds c List.mem_cons_self
      have hrest := ih (fun d hd => hds d (List.mem_cons_of_mem c hd)) (Nat.le_of_succ_le_succ hlimit)
      simp [takeDigits, hc, hrest]

theorem takeWhile_run (hr : EndsNumber r) : (ds ++ r).takeWhile Char.isDigit = ds := by
  rw [List.takeWhile_append_of_pos hds]
  cases r with
  | nil => simp
  | cons c r => simp [(hr c rfl).1]

theorem dropWhile_run (hr : EndsNumber r) : (ds ++ r).dropWhile Char.isDigit = r := by
  rw [List.dropWhile_append_of_pos hds]
  cases r with
  | nil => rfl
  | cons c r => simp [(hr c rfl).1]

theorem readNumber?_run (hne : ds ≠ []) (hr : EndsNumber r) {limit : Nat}
    (hlimit : ds.length ≤ limit) : readNumber? limit (ds ++ r) = some (value ds, r) := by
  simp [readNumber?, takeDigits_run hds hr hlimit, hne]

end

/-! ## Fields of fixed width -/

section

variable {w n : Nat}

theorem value_fixed_of_lt (hn : n < Nat.pow 10 w) : value (fixed w n) = n :=
  (value_fixed w n).trans (Nat.mod_eq_of_lt hn)

theorem fixed_ne_nil (hw : w ≠ 0) (n : Nat) : fixed w n ≠ [] := by
  intro hnil
  have hlength := length_fixed w n
  rw [hnil] at hlength
  exact hw hlength.symm

theorem takeDigits_fixed (w n : Nat) (r : List Char) :
    takeDigits w (fixed w n ++ r) = (fixed w n, r) := by
  have htake := takeDigits_append (fun c hc => isDigit_of_mem_fixed (n := n) (w := w) hc) r
  rwa [length_fixed] at htake

theorem readFixed?_fixed (hn : n < Nat.pow 10 w) (r : List Char) :
    readFixed? w (fixed w n ++ r) = some (n, r) := by
  simp [readFixed?, takeDigits_fixed, value_fixed_of_lt hn]

theorem readNumber?_fixed (hw : w ≠ 0) (hn : n < Nat.pow 10 w) (r : List Char) :
    readNumber? w (fixed w n ++ r) = some (n, r) := by
  simp [readNumber?, takeDigits_fixed, fixed_ne_nil hw, value_fixed_of_lt hn]

end

/-- A field begins with a digit. -/
theorem fixed_eq_cons (w n : Nat) : ∃ c ds, fixed (w + 1) n = c :: ds ∧ c.isDigit = true := by
  obtain ⟨c, ds, hcons⟩ := List.exists_cons_of_length_eq_add_one (length_fixed (w + 1) n)
  exact ⟨c, ds, hcons, isDigit_of_mem_fixed (w := w + 1) (n := n) (hcons ▸ List.mem_cons_self)⟩

theorem trimLeft_fixed (w n : Nat) (r : List Char) :
    trimLeft (fixed (w + 1) n ++ r) = fixed (w + 1) n ++ r := by
  obtain ⟨c, ds, hcons, hc⟩ := fixed_eq_cons w n
  simp [hcons, trimLeft, isBlank_of_isDigit hc]

/-! ## Years and fractions -/

/-- The digits of a year behind a sign. -/
def signedYearDigits (n : Nat) : List Char := if n < 10000 then fixed 4 n else Nat.toDigits 10 n

theorem readNumber?_signedYearDigits (n : Nat) {r : List Char} (hr : EndsNumber r) :
    readNumber? (signedYearDigits n ++ r).length (signedYearDigits n ++ r) = some (n, r) := by
  have hrun : (∀ c ∈ signedYearDigits n, c.isDigit = true) ∧ signedYearDigits n ≠ [] ∧
      value (signedYearDigits n) = n := by
    unfold signedYearDigits
    split
    · next hn =>
      exact ⟨fun c hc => isDigit_of_mem_fixed hc, fixed_ne_nil (by decide) n,
        value_fixed_of_lt hn⟩
    · exact ⟨fun c hc => Nat.isDigit_of_mem_toDigits (by decide) (by decide) hc,
        Nat.toDigits_ne_nil, value_toDigits n⟩
  obtain ⟨hdigits, hne, hvalue⟩ := hrun
  rw [readNumber?_run hdigits hne hr (by simp), hvalue]

/-- A year of four digits has no sign. -/
theorem yearText_of_fourDigits {y : Int} (h : 0 ≤ y ∧ y ≤ 9999) :
    Date.yearText y = fixed 4 y.toNat := if_pos h

theorem yearText_of_not_fourDigits {y : Int} (h : ¬ (0 ≤ y ∧ y ≤ 9999)) :
    Date.yearText y = (if y < 0 then '-' else '+') :: signedYearDigits y.natAbs := if_neg h

theorem toNat_lt_of_fourDigits {y : Int} (h : 0 ≤ y ∧ y ≤ 9999) : y.toNat < Nat.pow 10 4 := by
  have hpow : Nat.pow 10 4 = 10000 := by decide
  omega

theorem readYear?_of_isDigit {c : Char} (hc : c.isDigit = true) (s : List Char) :
    readYear? (c :: s) = (readNumber? 4 (c :: s)).map fun (n, r) => ((n : Int), r) := by
  unfold readYear?
  split
  · next heq =>
    obtain ⟨rfl, -⟩ := List.cons.inj heq
    exact absurd hc (by decide)
  · next heq =>
    obtain ⟨rfl, -⟩ := List.cons.inj heq
    exact absurd hc (by decide)
  · rfl

/-- A year is read back from its text, with a sign or without one. -/
theorem readYear?_yearText (y : Int) {r : List Char} (hr : EndsNumber r) :
    readYear? (trimLeft (Date.yearText y ++ r)) = some (y, r) := by
  by_cases hfour : 0 ≤ y ∧ y ≤ 9999
  · have hy : (y.toNat : Int) = y := Int.toNat_of_nonneg hfour.1
    have hread := readNumber?_fixed (by decide) (toNat_lt_of_fourDigits hfour) r
    rw [yearText_of_fourDigits hfour, trimLeft_fixed]
    obtain ⟨c, ds, hcons, hc⟩ := fixed_eq_cons 3 y.toNat
    rw [hcons, List.cons_append] at hread ⊢
    rw [readYear?_of_isDigit hc, hread]
    exact congrArg (fun n => some (n, r)) hy
  · have hread := readNumber?_signedYearDigits y.natAbs hr
    rw [yearText_of_not_fourDigits hfour]
    by_cases hneg : y < 0
    · have hy : -(y.natAbs : Int) = y := by omega
      rw [if_pos hneg]
      show (readNumber? (signedYearDigits y.natAbs ++ r).length
        (signedYearDigits y.natAbs ++ r)).map _ = some (y, r)
      rw [hread]
      exact congrArg (fun n => some (n, r)) hy
    · have hy : (y.natAbs : Int) = y := by omega
      rw [if_neg hneg]
      show (readNumber? (signedYearDigits y.natAbs ++ r).length
        (signedYearDigits y.natAbs ++ r)).map _ = some (y, r)
      rw [hread]
      exact congrArg (fun n => some (n, r)) hy

/-- A fraction of a second writes its nanoseconds: it is left out for none, or it has a point and
digits behind it, as many as there may be, that are worth so much and no more. -/
inductive WritesFraction : Nat → List Char → Prop
  | none : WritesFraction 0 []
  | digits {n : Nat} {ds : List Char} (nonempty : ds ≠ []) (digits : ∀ c ∈ ds, c.isDigit = true)
      (exact : value ds * Nat.pow 10 9 = n * Nat.pow 10 ds.length) : WritesFraction n ('.' :: ds)

/-- Of a fraction that is worth so many nanoseconds, the digits behind the ninth are zeros. -/
theorem nanoseconds_eq {n : Nat} {ds : List Char} (hds : ∀ c ∈ ds, c.isDigit = true)
    (h : value ds * Nat.pow 10 9 = n * Nat.pow 10 ds.length) : nanoseconds ds = n := by
  have hpos : ∀ k, 0 < Nat.pow 10 k := fun k => Nat.pow_pos (by decide)
  rw [nanoseconds, List.length_take]
  rcases Nat.le_total ds.length 9 with hshort | hlong
  · have hpow : Nat.pow 10 9 = Nat.pow 10 (9 - ds.length) * Nat.pow 10 ds.length := by
      have hadd := Nat.pow_add 10 (9 - ds.length) ds.length
      rwa [Nat.sub_add_cancel hshort] at hadd
    rw [hpow, ← Nat.mul_assoc] at h
    rw [List.take_of_length_le hshort, Nat.min_eq_right hshort]
    exact Nat.eq_of_mul_eq_mul_right (hpos _) h
  · have hpow : Nat.pow 10 ds.length = Nat.pow 10 (ds.length - 9) * Nat.pow 10 9 := by
      have hadd := Nat.pow_add 10 (ds.length - 9) 9
      rwa [Nat.sub_add_cancel hlong] at hadd
    have hsplit := value_append (ds.take 9) (ds.drop 9)
    have hrest : value (ds.drop 9) < Nat.pow 10 (ds.drop 9).length :=
      value_lt fun c hc => hds c (List.mem_of_mem_drop hc)
    rw [List.take_append_drop, List.length_drop] at hsplit
    rw [List.length_drop] at hrest
    rw [hpow, ← Nat.mul_assoc] at h
    have hvalue : value ds = n * Nat.pow 10 (ds.length - 9) :=
      Nat.eq_of_mul_eq_mul_right (hpos 9) h
    -- The digits behind the ninth are worth less than one of the ninth place.
    have htaken : value (ds.take 9) = n := by
      have hdiv := congrArg (· / Nat.pow 10 (ds.length - 9)) (hsplit.symm.trans hvalue)
      simp only [Nat.mul_comm _ (Nat.pow 10 (ds.length - 9)), Nat.mul_add_div (hpos _),
        Nat.div_eq_of_lt hrest, Nat.mul_div_cancel_left _ (hpos _), Nat.add_zero] at hdiv
      exact hdiv
    rw [htaken, Nat.min_eq_left hlong, Nat.sub_self]
    exact Nat.mul_one n

theorem readFraction?_none {r : List Char} (hr : EndsNumber r) : readFraction? r = some (0, r) := by
  unfold readFraction?
  split
  · exact absurd rfl (hr '.' rfl).2
  · rfl

/-- A fraction is read as the nanoseconds that it writes. -/
theorem WritesFraction.readFraction?_append {n : Nat} {f : List Char} (h : WritesFraction n f)
    {r : List Char} (hr : EndsNumber r) : readFraction? (f ++ r) = some (n, r) := by
  cases h with
  | none => exact readFraction?_none hr
  | digits hne hds hexact =>
    simp [readFraction?, takeWhile_run hds hr, dropWhile_run hds hr, hne, nanoseconds_eq hds hexact]

/-- The text of a fraction, of three, six or nine digits, writes it. -/
theorem writesFraction_fractionText {n : Nat} (hn : n < 1000000000) :
    WritesFraction n (Time.fractionText n) := by
  have hpow : Nat.pow 10 3 = 1000 ∧ Nat.pow 10 6 = 1000000 ∧ Nat.pow 10 9 = 1000000000 := by decide
  have hfixed : ∀ {w m : Nat}, w ≠ 0 → m < Nat.pow 10 w → m * Nat.pow 10 9 = n * Nat.pow 10 w →
      WritesFraction n ('.' :: fixed w m) := by
    intro w m hw hm hexact
    refine .digits (fixed_ne_nil hw m) (fun c hc => isDigit_of_mem_fixed hc) ?_
    rw [value_fixed_of_lt hm, length_fixed, hexact]
  unfold Time.fractionText
  split
  · next hzero => exact hzero ▸ .none
  · split
    · exact hfixed (by decide) (by omega) (by rw [hpow.1, hpow.2.2]; omega)
    · split
      · exact hfixed (by decide) (by omega) (by rw [hpow.2.1, hpow.2.2]; omega)
      · exact hfixed (by decide) (by omega) rfl

/-! ## Dates and times by pattern -/

theorem Pattern.readFrom?_append (p q : Pattern) (f : ClockFields) (s : List Char) :
    Pattern.readFrom? (p ++ q) f s = (p.readFrom? f s).bind fun (f, r) => q.readFrom? f r := by
  induction p generalizing f s with
  | nil => rfl
  | cons part p ih =>
    rw [List.cons_append, Pattern.readFrom?, Pattern.readFrom?, Option.bind_assoc]
    exact congrArg _ (funext fun (f, r) => ih f r)

theorem Date.month_lt (d : Date) : d.month < Nat.pow 10 2 := by
  have hpow : Nat.pow 10 2 = 100 := by decide
  have hmonth := d.month_bounds
  omega

theorem Date.day_lt (d : Date) : d.day < Nat.pow 10 2 := by
  have hpow : Nat.pow 10 2 = 100 := by decide
  obtain ⟨h1, h12⟩ := d.month_bounds
  have hlast := (daysInMonth_bounds d.year h1 h12).2
  have hday := d.exists_.2.2.2
  omega

theorem Time.clock_lt (t : Time) :
    t.hour < Nat.pow 10 2 ∧ t.minute < Nat.pow 10 2 ∧ t.clockSecond < Nat.pow 10 2 ∧
      t.clockNano < 1000000000 := by
  have hpow : Nat.pow 10 2 = 100 := by decide
  obtain ⟨hhour, hminute, hsecond, _, _⟩ := t.exists_
  refine ⟨by omega, by omega, ?_, Nat.mod_lt _ (by decide)⟩
  unfold Time.clockSecond
  split <;> omega

/-- What stands behind the year is no part of it. -/
theorem endsNumber_hyphen (r : List Char) : EndsNumber ('-' :: r) :=
  endsNumber_cons (by decide) r

theorem Pattern.readFrom?_date (d : Date) (f : ClockFields) (r : List Char) :
    Pattern.date.readFrom? f (d.text ++ r) =
      some ({ f with year := d.year, month := d.month, day := d.day }, r) := by
  have hyear := readYear?_yearText d.year
    (endsNumber_hyphen (fixed 2 d.month ++ '-' :: (fixed 2 d.day ++ r)))
  have hmonth := readNumber?_fixed (by decide) d.month_lt ('-' :: (fixed 2 d.day ++ r))
  have hday := readNumber?_fixed (by decide) d.day_lt r
  simp [Pattern.date, Pattern.readFrom?, PatternPart.read?, Date.text, hyear, trimLeft_fixed, hmonth,
    hday]

/-- A text writes a time: hour, minute and second, between colons, and the fraction. -/
def Time.Writes (t : Time) (s : List Char) : Prop :=
  ∃ f, WritesFraction t.clockNano f ∧
    s = fixed 2 t.hour ++ ':' :: (fixed 2 t.minute ++ ':' :: (fixed 2 t.clockSecond ++ f))

theorem Time.writes_text (t : Time) : t.Writes t.text :=
  ⟨_, writesFraction_fractionText t.clock_lt.2.2.2, rfl⟩

theorem Pattern.readFrom?_time {t : Time} {s : List Char} (h : t.Writes s) (f : ClockFields)
    {r : List Char} (hr : EndsNumber r) :
    Pattern.time.readFrom? f (s ++ r) =
      some ({ f with
        hour := t.hour, minute := t.minute, second := t.clockSecond, nano := t.clockNano }, r) := by
  obtain ⟨fraction, hfraction, rfl⟩ := h
  obtain ⟨hhour, hminute, hsecond, _⟩ := t.clock_lt
  have hhour := readNumber?_fixed (by decide) hhour (':' :: (fixed 2 t.minute ++ ':' ::
    (fixed 2 t.clockSecond ++ (fraction ++ r))))
  have hminute := readNumber?_fixed (by decide) hminute
    (':' :: (fixed 2 t.clockSecond ++ (fraction ++ r)))
  have hsecond := readNumber?_fixed (by decide) hsecond (fraction ++ r)
  have hfraction := hfraction.readFraction?_append hr
  simp [Pattern.time, Pattern.readFrom?, PatternPart.read?, trimLeft_fixed, hhour, hminute, hsecond,
    hfraction]

/-- The text of a time begins with a digit, so no blanks are skipped in front of it. -/
theorem Time.Writes.trimLeft_eq {t : Time} {s : List Char} (h : t.Writes s) : trimLeft s = s := by
  obtain ⟨f, _, rfl⟩ := h
  exact trimLeft_fixed 1 t.hour _

/-- What a calendar and a clock show of a date-time. -/
def DateTime.fields (x : DateTime) : ClockFields :=
  { year := x.date.year, month := x.date.month, day := x.date.day, hour := x.time.hour
    minute := x.time.minute, second := x.time.clockSecond, nano := x.time.clockNano }

theorem DateTime.dateTime?_fields (x : DateTime) : x.fields.dateTime? = some x := by
  simp [fields, ClockFields.dateTime?, ClockFields.date?, ClockFields.time?, Date.ofParts?_self,
    Time.ofClock?_clock]

/-- A text writes a date-time: the date, a separator and the time. -/
def DateTime.Writes (separator : Char) (x : DateTime) (s : List Char) : Prop :=
  ∃ clock, x.time.Writes clock ∧ s = x.date.text ++ separator :: clock

theorem DateTime.writes_textWith (separator : Char) (x : DateTime) :
    x.Writes separator (x.textWith separator) :=
  ⟨_, x.time.writes_text, rfl⟩

theorem Pattern.readFrom?_dateTime {x : DateTime} {s : List Char} (h : x.Writes ' ' s) :
    Pattern.dateTime.readFrom? {} s = some (x.fields, []) := by
  obtain ⟨clock, hclock, rfl⟩ := h
  have htime := Pattern.readFrom?_time hclock
    { year := x.date.year, month := x.date.month, day := x.date.day } endsNumber_nil
  have hblank : trimLeft (' ' :: clock) = clock := by
    rw [trimLeft, List.dropWhile_cons_of_pos (by decide)]
    exact hclock.trimLeft_eq
  rw [List.append_nil] at htime
  rw [Pattern.dateTime, Pattern.readFrom?_append, Pattern.readFrom?_date]
  show (Pattern.readFrom? (.blanks :: Pattern.time) _ (' ' :: clock)) = _
  rw [Pattern.readFrom?, PatternPart.read?, hblank]
  exact htime

/-- What stands apart by a `T` is read by the pattern that has it, and not by the other. -/
theorem Pattern.readFrom?_dateTimeT {x : DateTime} {s : List Char} (h : x.Writes 'T' s) :
    Pattern.dateTime.readFrom? {} s = none ∧
      Pattern.dateTimeT.readFrom? {} s = some (x.fields, []) := by
  obtain ⟨clock, hclock, rfl⟩ := h
  have htime := Pattern.readFrom?_time hclock
    { year := x.date.year, month := x.date.month, day := x.date.day } endsNumber_nil
  rw [List.append_nil] at htime
  rw [Pattern.dateTime, Pattern.dateTimeT, Pattern.readFrom?_append, Pattern.readFrom?_append,
    Pattern.readFrom?_date]
  exact ⟨rfl, htime⟩

/-- A date is read back from its text, whatever its year. -/
theorem Date.read?_text (d : Date) : Date.read? d.text = some d := by
  have hread := Pattern.readFrom?_date d {} []
  rw [List.append_nil] at hread
  rw [Date.read?, Pattern.read?, hread]
  exact d.ofParts?_self

/-- A time is read back from its text, a leap second included. -/
theorem Time.read?_text (t : Time) : Time.read? t.text = some t := by
  have hread := Pattern.readFrom?_time t.writes_text {} endsNumber_nil
  rw [List.append_nil] at hread
  rw [Time.read?, Pattern.read?, hread]
  exact t.ofClock?_clock

/-- A date-time is read from what writes it, with a space or with a `T`. -/
theorem DateTime.read?_of_writes {x : DateTime} {separator : Char} {s : List Char}
    (hseparator : separator = ' ' ∨ separator = 'T') (h : x.Writes separator s) :
    DateTime.read? s = some x := by
  rcases hseparator with rfl | rfl
  · rw [DateTime.read?, Pattern.read?, Pattern.readFrom?_dateTime h]
    show ((ClockFields.dateTime? _).or _) = some x
    rw [x.dateTime?_fields]
    rfl
  · obtain ⟨hspace, hletter⟩ := Pattern.readFrom?_dateTimeT h
    rw [DateTime.read?, Pattern.read?, Pattern.read?, hspace, hletter]
    exact x.dateTime?_fields

theorem DateTime.read?_text (x : DateTime) : DateTime.read? x.text = some x :=
  DateTime.read?_of_writes (.inl rfl) (x.writes_textWith ' ')

/-! ## Timestamps of RFC 3339 -/

/-- Date and time at fixed widths, whichever separator stands between them. -/
theorem readTimestampFields?_of_writes {x : DateTime}
    (hyear : 0 ≤ x.date.year ∧ x.date.year ≤ 9999) {separator : Char}
    (hseparator : separator = 'T' ∨ separator = 't' ∨ separator = ' ') {s : List Char}
    (h : x.Writes separator s) {r : List Char} (hr : EndsNumber r) :
    readTimestampFields? (s ++ r) = some (x.fields, r) := by
  obtain ⟨clock, ⟨fraction, hfraction, rfl⟩, rfl⟩ := h
  have hy : (x.date.year.toNat : Int) = x.date.year := Int.toNat_of_nonneg hyear.1
  obtain ⟨hhour, hminute, hsecond, _⟩ := x.time.clock_lt
  simp [readTimestampFields?, Date.text, DateTime.fields, yearText_of_fourDigits hyear,
    readFixed?_fixed (toNat_lt_of_fourDigits hyear), readFixed?_fixed x.date.month_lt,
    readFixed?_fixed x.date.day_lt, readFixed?_fixed hhour, readFixed?_fixed hminute,
    readFixed?_fixed hsecond, readChar?, readSeparator?, hseparator,
    hfraction.readFraction?_append hr, hy]

/-- A year with a sign does not stand in a timestamp. -/
theorem readTimestampFields?_signed {x : DateTime}
    (hyear : ¬ (0 ≤ x.date.year ∧ x.date.year ≤ 9999)) {separator : Char} {s : List Char}
    (h : x.Writes separator s) : readTimestampFields? s = none := by
  obtain ⟨clock, _, rfl⟩ := h
  have hsign : ∀ s, readFixed? 4 ((if x.date.year < 0 then '-' else '+') :: s) = none := by
    intro s
    split <;> rfl
  simp [readTimestampFields?, Date.text, yearText_of_not_fourDigits hyear, hsign]

/-- What ends without an offset is no timestamp. -/
theorem DateTime.readRfc3339?_of_writes {x : DateTime} {separator : Char}
    (hseparator : separator = ' ' ∨ separator = 'T') {s : List Char} (h : x.Writes separator s) :
    DateTime.readRfc3339? s = none := by
  by_cases hyear : 0 ≤ x.date.year ∧ x.date.year ≤ 9999
  · have hletter : separator = 'T' ∨ separator = 't' ∨ separator = ' ' := by
      rcases hseparator with rfl | rfl <;> simp
    have hfields := readTimestampFields?_of_writes hyear hletter h endsNumber_nil
    rw [List.append_nil] at hfields
    rw [DateTime.readRfc3339?, hfields]
    rfl
  · rw [DateTime.readRfc3339?, readTimestampFields?_signed hyear h]
    rfl

theorem DateTime.readRfc3339?_text (x : DateTime) : DateTime.readRfc3339? x.text = none :=
  DateTime.readRfc3339?_of_writes (.inl rfl) (x.writes_textWith ' ')

/-- A timestamp is what is written of a date-time at its offset, brought back by the offset. -/
theorem DateTime.readRfc3339?_append {x : DateTime}
    (hyear : 0 ≤ x.date.year ∧ x.date.year ≤ 9999) {separator : Char}
    (hseparator : separator = 'T' ∨ separator = 't' ∨ separator = ' ') {s : List Char}
    (h : x.Writes separator s) {zone : List Char} (hzone : EndsNumber zone) {o : Offset}
    (ho : readOffset? zone = some (o, [])) :
    DateTime.readRfc3339? (s ++ zone) = o.toUtc? x := by
  have hfields := readTimestampFields?_of_writes hyear hseparator h hzone
  rw [DateTime.readRfc3339?, hfields]
  show (readOffset? zone).bind _ = _
  rw [ho]
  show (ClockFields.dateTime? _).bind o.toUtc? = _
  rw [x.dateTime?_fields]
  rfl

/-- An offset of nothing takes nothing off. -/
theorem DateTime.earlier?_zero (x : DateTime) : x.earlier? 0 = some x := by
  obtain ⟨_, hminute, _, _, _⟩ := x.time.exists_
  have hhour : (x.time.hour * 60 + x.time.minute) / 60 = x.time.hour := by omega
  have hrest : (x.time.hour * 60 + x.time.minute) % 60 = x.time.minute := by omega
  simp [DateTime.earlier?, DateTime.withMinuteOfDay?, hhour, hrest, Time.ofParts?_self]

theorem DateTime.readRfc3339?_utcText {x : DateTime}
    (hyear : 0 ≤ x.date.year ∧ x.date.year ≤ 9999) : DateTime.readRfc3339? x.utcText = some x := by
  have hread := DateTime.readRfc3339?_append hyear (.inl rfl) (x.writes_textWith 'T')
    (endsNumber_cons (c := 'Z') (by decide) []) (o := .east 0) rfl
  exact hread.trans x.earlier?_zero

end EntitySql
