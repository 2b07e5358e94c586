import EntitySql.Proofs.Rebinding

/-!
# Integers that are sent

An integer comes in a value of one of eight kinds, or written in a text.  What a column is sent for
it depends on the integer and on the type of the column, and not on what it came in; and what is
sent is that integer, never one that is wrapped around.  Whether it is sent at all is decided by the
width of the data, which the types of at most 32 bits share: the two narrower ones are also sent
integers that they cannot hold.

    v.Carries n → (v.toInteger = .ok m ↔ IsInt64 n ∧ m = n)       (toInteger_of_carries)
    v.Carries n → (t.bind v = .ok d ↔ t.integerDatum? n = some d)  (bind_of_carries)
    BindsExactly t n ↔ t.Holds n ∨ ¬ IsInt32 n                     (bindsExactly_iff)
-/

namespace EntitySql

open EntitySql.Text

/-! ## Integers in texts -/

namespace Text

/-- A text of digits, with a sign in front of them or none, and the integer that it writes. -/
inductive Numeral : List Char → Int → Prop
  | unsigned {ds : List Char} (nonempty : ds ≠ []) (digits : ∀ c ∈ ds, c.isDigit = true) :
      Numeral ds (value ds)
  | plus {ds : List Char} (nonempty : ds ≠ []) (digits : ∀ c ∈ ds, c.isDigit = true) :
      Numeral ('+' :: ds) (value ds)
  | minus {ds : List Char} (nonempty : ds ≠ []) (digits : ∀ c ∈ ds, c.isDigit = true) :
      Numeral ('-' :: ds) (-(value ds : Int))

theorem readNat?_digits {ds : List Char} (hne : ds ≠ []) (hds : ∀ c ∈ ds, c.isDigit = true) :
    readNat? ds = some (value ds) := by
  simp [readNat?, hne, List.all_eq_true.2 hds]

/-- A numeral is read as the integer that it writes. -/
theorem Numeral.readInt?_eq {s : List Char} {n : Int} (h : Numeral s n) : readInt? s = some n := by
  cases h with
  | plus hne hds => simp [readInt?, readNat?_digits hne hds]
  | minus hne hds => simp [readInt?, readNat?_digits hne hds]
  | unsigned hne hds =>
    -- A digit is neither of the signs, so the text is read without one.
    unfold readInt?
    split
    · exact absurd (hds '+' List.mem_cons_self) (by decide)
    · exact absurd (hds '-' List.mem_cons_self) (by decide)
    · simp [readNat?_digits hne hds]

theorem Numeral.isBlank_eq_false {s : List Char} {n : Int} (h : Numeral s n) {c : Char}
    (hc : c ∈ s) : isBlank c = false := by
  cases h with
  | unsigned _ hds => exact isBlank_of_isDigit (hds c hc)
  | plus _ hds | minus _ hds =>
    rcases List.mem_cons.1 hc with rfl | hc
    · decide
    · exact isBlank_of_isDigit (hds c hc)

/-- Every integer is written by some numeral. -/
theorem exists_numeral (n : Int) : ∃ s, Numeral s n := by
  have hdigits : ∀ k : Nat, ∀ c ∈ Nat.toDigits 10 k, c.isDigit = true := fun k c hc =>
    Nat.isDigit_of_mem_toDigits (by decide) (by decide) hc
  rcases Int.eq_nat_or_neg n with ⟨k, rfl | rfl⟩
  · have h := Numeral.unsigned (Nat.toDigits_ne_nil (b := 10) (n := k)) (hdigits k)
    rw [value_toDigits] at h
    exact ⟨_, h⟩
  · have h := Numeral.minus (Nat.toDigits_ne_nil (b := 10) (n := k)) (hdigits k)
    rw [value_toDigits] at h
    exact ⟨_, h⟩

end Text

/-! ## Integers in values -/

namespace Value

/-- A value brings an integer: it is of an integer kind and holds it, or it is a text that writes
it, with blanks around it or none. -/
inductive Carries : Value → Int → Prop
  | integer {v : Value} {n : Int} (h : v.integer? = some n) : Carries v n
  | text {left numeral right : List Char} {n : Int} (hleft : ∀ c ∈ left, isBlank c = true)
      (h : Numeral numeral n) (hright : ∀ c ∈ right, isBlank c = true) :
      Carries (.string (String.ofList (left ++ numeral ++ right))) n

theorem exists_carries (n : Int) : ∃ v : Value, v.Carries n := by
  obtain ⟨numeral, h⟩ := exists_numeral n
  have hnone : ∀ c ∈ ([] : List Char), isBlank c = true := fun c hc => by cases hc
  exact ⟨_, .text hnone h hnone⟩

theorem Carries.isNull_eq_false {v : Value} {n : Int} (h : v.Carries n) : v.isNull = false := by
  cases h with
  | text => rfl
  | integer h =>
    cases v with
    | null => cases h
    | _ => rfl

/-- The integer that a value brings is taken as it is, if 64 bits are enough for it. -/
theorem toInteger_of_carries {v : Value} {n m : Int} (h : v.Carries n) :
    v.toInteger = .ok m ↔ IsInt64 n ∧ m = n := by
  cases h with
  | text hleft h hright =>
    have hread := trim_surrounded hleft (fun c hc => h.isBlank_eq_false hc) hright
    unfold toInteger
    dsimp only
    rw [String.toList_ofList, hread, h.readInt?_eq]
    by_cases hn : IsInt64 n <;> simp [hn, eq_comm]
  | integer h =>
    unfold toInteger
    split
    · cases h
    · rw [h]
      by_cases hn : IsInt64 n <;> simp [hn, eq_comm]

end Value

/-! ## Integers in data -/

/-- The integer that a datum of an integer kind holds. -/
def Datum.integer? : Datum → Option Int
  | .int32 n => some n.toInt
  | .int64 n => some n.toInt
  | .uint32 n => some n.toNat
  | .uint64 n => some n.toNat
  | _ => none

namespace SqlType

def integers : List SqlType := [.tinyInt, .smallInt, .int, .bigInt]

/-- The integers that a column of a type can hold. -/
def Holds : SqlType → Int → Prop
  | .tinyInt, n => 0 ≤ n ∧ n ≤ 255
  | .smallInt, n => -32768 ≤ n ∧ n ≤ 32767
  | .int, n => -2147483648 ≤ n ∧ n ≤ 2147483647
  | .bigInt, n => -9223372036854775808 ≤ n ∧ n ≤ 9223372036854775807
  | _, _ => False

/-- The datum of an integer for a column of a type, if the data of the column have room for it. -/
def integerDatum? (t : SqlType) (n : Int) : Option Datum :=
  match t.datumKind with
  | .int32 => if Value.IsInt32 n then some (.int32 (Int32.ofInt n)) else none
  | .int64 => if Value.IsInt64 n then some (.int64 (Int64.ofInt n)) else none
  | _ => none

variable {t : SqlType} {v : Value} {n : Int} {d : Datum}

/-- The datum of an integer holds that integer. -/
theorem integer?_of_integerDatum? (h : t.integerDatum? n = some d) : d.integer? = some n := by
  unfold integerDatum? at h
  split at h
  · obtain ⟨hn, hd⟩ := Option.ite_none_right_eq_some.1 h
    cases hd
    exact congrArg some (Int32.toInt_ofInt_of_le hn.1 (Int.lt_of_le_sub_one hn.2))
  · obtain ⟨hn, hd⟩ := Option.ite_none_right_eq_some.1 h
    cases hd
    exact congrArg some (Int64.toInt_ofInt_of_le hn.1 (Int.lt_of_le_sub_one hn.2))
  · cases h

/-- What a column of integers is sent is the datum of the integer, whatever value brings it. -/
theorem bind_of_carries (ht : t ∈ integers) (h : v.Carries n) :
    t.bind v = .ok d ↔ t.integerDatum? n = some d := by
  have hpresent : t.bind v = t.bindPresent v := by
    rw [bind, h.isNull_eq_false, if_neg Bool.false_ne_true]
  have hnarrow : t.datumKind = .int32 →
      (t.bindPresent v = .ok d ↔ t.integerDatum? n = some d) := by
    intro hkind
    rw [bindPresent_int32_iff hkind, integerDatum?, hkind]
    simp only [Value.toInteger_of_carries h, Option.ite_none_right_eq_some, Option.some.injEq]
    constructor
    · rintro ⟨_, ⟨_, rfl⟩, hn, rfl⟩
      exact ⟨hn, rfl⟩
    · rintro ⟨hn, rfl⟩
      exact ⟨n, ⟨Value.isInt64_of_isInt32 hn, rfl⟩, hn, rfl⟩
  rw [hpresent]
  simp only [integers, List.mem_cons, List.not_mem_nil, or_false] at ht
  rcases ht with rfl | rfl | rfl | rfl
  · exact hnarrow rfl
  · exact hnarrow rfl
  · exact hnarrow rfl
  · have hbind : bigInt.bindPresent v = .ok d ↔
        ∃ m, v.toInteger = .ok m ∧ Datum.int64 (Int64.ofInt m) = d := Outcome.map_eq_ok_iff
    have hdatum : bigInt.integerDatum? n = some d ↔
        Value.IsInt64 n ∧ Datum.int64 (Int64.ofInt n) = d := by
      simp [integerDatum?, datumKind]
    rw [hbind, hdatum]
    constructor
    · rintro ⟨m, hm, hd⟩
      obtain ⟨hn, rfl⟩ := (Value.toInteger_of_carries h).1 hm
      exact ⟨hn, hd⟩
    · rintro ⟨hn, hd⟩
      exact ⟨n, (Value.toInteger_of_carries h).2 ⟨hn, rfl⟩, hd⟩

/-- There is a datum for the integers that a column can hold, and for all of 32 bits. -/
theorem exists_integerDatum?_iff (ht : t ∈ integers) :
    (∃ d, t.integerDatum? n = some d) ↔ t.Holds n ∨ Value.IsInt32 n := by
  simp only [integers, List.mem_cons, List.not_mem_nil, or_false] at ht
  rcases ht with rfl | rfl | rfl | rfl
  all_goals
    simp only [integerDatum?, datumKind, Holds, Value.isInt32_iff, Value.isInt64_iff,
      Option.ite_none_right_eq_some, Option.some.injEq]
    grind

/-! ## Exactness -/

/-- Whatever value brings the integer, it is bound just if the column can hold the integer; what is
sent then is the integer itself, and the same for all values that bring it. -/
def BindsExactly (t : SqlType) (n : Int) : Prop :=
  ∀ v : Value, v.Carries n → ((∃ d, t.bind v = .ok d) ↔ t.Holds n) ∧
    ∀ d, t.bind v = .ok d → d.integer? = some n ∧ ∀ w : Value, w.Carries n → t.bind w = .ok d

theorem bindsExactly_of_holds_iff (ht : t ∈ integers)
    (h : (∃ d, t.integerDatum? n = some d) ↔ t.Holds n) : BindsExactly t n := by
  intro v hv
  refine ⟨(exists_congr fun d => bind_of_carries ht hv).trans h, fun d hd => ?_⟩
  have hdatum := (bind_of_carries ht hv).1 hd
  exact ⟨integer?_of_integerDatum? hdatum, fun w hw => (bind_of_carries ht hw).2 hdatum⟩

/-- An integer of 32 bits is sent to a column that cannot hold it. -/
theorem not_bindsExactly_of_isInt32 (ht : t ∈ integers) (hn : Value.IsInt32 n)
    (hholds : ¬ t.Holds n) : ¬ BindsExactly t n := by
  intro h
  obtain ⟨v, hv⟩ := Value.exists_carries n
  obtain ⟨d, hd⟩ := (exists_integerDatum?_iff ht).2 (.inr hn)
  exact hholds ((h v hv).1.1 ⟨d, (bind_of_carries ht hv).2 hd⟩)

/-- The columns of integers are sent the integers that they can hold, and these unchanged, whatever
brings them; but one that a column cannot hold is refused only if it has more than 32 bits. -/
theorem bindsExactly_iff (ht : t ∈ integers) :
    BindsExactly t n ↔ t.Holds n ∨ ¬ Value.IsInt32 n := by
  constructor
  · intro h
    by_cases hn : Value.IsInt32 n
    · refine .inl (Classical.byContradiction fun hholds => ?_)
      exact not_bindsExactly_of_isInt32 ht hn hholds h
    · exact .inr hn
  · intro h
    refine bindsExactly_of_holds_iff ht ((exists_integerDatum?_iff ht).trans ?_)
    constructor
    · rintro (hholds | hn)
      · exact hholds
      · exact h.resolve_right fun hwide => hwide hn
    · exact .inl

/-- The greatest integer of a small column. -/
theorem bindsExactly_iff_smallInt :
    smallInt ∈ integers ∧ smallInt.Holds 32767 ∧
      (BindsExactly smallInt 32767 ↔ smallInt.Holds 32767 ∨ ¬ Value.IsInt32 32767) ∧
      smallInt.bind (.string " +032767\n") = .ok (.int32 32767) :=
  ⟨by decide, ⟨by decide, by decide⟩, bindsExactly_iff (by decide), by decide +kernel⟩

/-- A column of one byte is sent 300. -/
theorem not_bindsExactly_tinyInt :
    tinyInt.bind (.int 300) = .ok (.int32 300) ∧ ¬ BindsExactly tinyInt 300 :=
  ⟨by decide, not_bindsExactly_of_isInt32 (by decide) (by decide) (by simp [Holds])⟩

end SqlType

end EntitySql
