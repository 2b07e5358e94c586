/-!
# Searching texts

The first occurrence of a text in another.

    (after? needle s).isSome = true ↔ needle occurs in s    (isSome_after?_iff)
-/

namespace EntitySql.Text

/-- What follows a text that `s` starts with. -/
def afterStart? : (start s : List Char) → Option (List Char)
  | [], s => some s
  | _ :: _, [] => none
  | a :: start, c :: s => if a = c then afterStart? start s else none

/-- What follows the first occurrence of a text. -/
def after? (needle : List Char) : List Char → Option (List Char)
  | [] => afterStart? needle []
  | c :: s => (afterStart? needle (c :: s)).or (after? needle s)

def contains (needle s : String) : Bool := (after? needle.toList s.toList).isSome

/-! ## Laws -/

theorem afterStart?_eq_some_iff {start s r : List Char} :
    afterStart? start s = some r ↔ s = start ++ r := by
  induction start generalizing s with
  | nil => simp [afterStart?, eq_comm]
  | cons a start ih =>
    cases s with
    | nil => simp [afterStart?]
    | cons c s =>
      by_cases h : a = c
      · simp [afterStart?, h, ih]
      · simp [afterStart?, h, Ne.symm h]

theorem isSome_after?_iff {needle s : List Char} :
    (after? needle s).isSome = true ↔ ∃ l r, s = l ++ needle ++ r := by
  induction s with
  | nil => cases needle <;> simp [after?, afterStart?]
  | cons c s ih =>
    rw [after?, Option.isSome_or, Bool.or_eq_true, ih]
    constructor
    · rintro (h | ⟨l, r, rfl⟩)
      · obtain ⟨r, hr⟩ := Option.isSome_iff_exists.1 h
        exact ⟨[], r, afterStart?_eq_some_iff.1 hr⟩
      · exact ⟨c :: l, r, rfl⟩
    · rintro ⟨l, r, h⟩
      cases l with
      | nil => exact .inl (Option.isSome_iff_exists.2 ⟨r, afterStart?_eq_some_iff.2 h⟩)
      | cons d l =>
        obtain ⟨rfl, rfl⟩ := List.cons.inj (by simpa using h)
        exact .inr ⟨l, r, by simp⟩

end EntitySql.Text
