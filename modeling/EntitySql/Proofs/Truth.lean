/-!
# Truth values

Conditions on rows have three truth values: a comparison with a null is unknown, and what is
unknown is neither true nor false.  `all` and `any` are the conjunction and the disjunction of
a list, `not` swaps them.

    (any l).not = all (l.map not)                           (not_any)
    any (l.map any) = any l.flatten                         (any_flatten)
    any l = holds ↔ holds ∈ l                               (any_eq_holds_iff)
    any l = fails ↔ t = fails for all t ∈ l                 (any_eq_fails_iff)
    joined b (l.map (signed b)) = signed b (any l)          (joined_signed)
    joined b (l.map (joined b)) = joined b l.flatten        (joined_flatten)
-/

namespace EntitySql

/-- The truth value of a condition. -/
inductive Truth
  | holds
  | fails
  | unknown
deriving DecidableEq, Repr

namespace Truth

/-- The truth value of what is either true or false. -/
def ofBool (b : Bool) : Truth := if b then holds else fails

/-- What is unknown stays so when it is negated. -/
def not : Truth → Truth
  | holds => fails
  | fails => holds
  | unknown => unknown

/-- Some false part makes the whole false, whatever is unknown. -/
def and : Truth → Truth → Truth
  | fails, _ => fails
  | holds, u => u
  | unknown, fails => fails
  | unknown, _ => unknown

/-- Some true part makes the whole true, whatever is unknown. -/
def or : Truth → Truth → Truth
  | holds, _ => holds
  | fails, u => u
  | unknown, holds => holds
  | unknown, _ => unknown

/-- The conjunction of a list, true of the empty one. -/
def all (l : List Truth) : Truth := l.foldr and holds

/-- The disjunction of a list, false of the empty one. -/
def any (l : List Truth) : Truth := l.foldr or fails

/-- A truth value, or the negation of it. -/
def signed (negated : Bool) (t : Truth) : Truth := if negated then t.not else t

/-- The truth value of several parts: all of them hold where they are negated, and some of them
otherwise. -/
def joined (negated : Bool) (parts : List Truth) : Truth :=
  if negated then all parts else any parts

/-! ## Laws -/

@[simp] theorem all_nil : all [] = holds := rfl

@[simp] theorem all_cons (t : Truth) (l : List Truth) : all (t :: l) = t.and (all l) := rfl

@[simp] theorem any_nil : any [] = fails := rfl

@[simp] theorem any_cons (t : Truth) (l : List Truth) : any (t :: l) = t.or (any l) := rfl

theorem not_ofBool (b : Bool) : (ofBool b).not = ofBool !b := by
  cases b <;> rfl

@[simp] theorem and_holds (t : Truth) : t.and holds = t := by
  cases t <;> rfl

@[simp] theorem or_fails (t : Truth) : t.or fails = t := by
  cases t <;> rfl

theorem and_assoc (t u v : Truth) : (t.and u).and v = t.and (u.and v) := by
  cases t <;> cases u <;> cases v <;> rfl

theorem or_assoc (t u v : Truth) : (t.or u).or v = t.or (u.or v) := by
  cases t <;> cases u <;> cases v <;> rfl

theorem ofBool_eq_holds_iff (b : Bool) : ofBool b = holds ↔ b = true := by
  cases b <;> decide

theorem and_eq_holds_iff (t u : Truth) : t.and u = holds ↔ t = holds ∧ u = holds := by
  cases t <;> cases u <;> decide

theorem not_or (t u : Truth) : (t.or u).not = t.not.and u.not := by
  cases t <;> cases u <;> rfl

theorem or_eq_holds_iff (t u : Truth) : t.or u = holds ↔ t = holds ∨ u = holds := by
  cases t <;> cases u <;> decide

/-- A disjunction fails when each part of it does. -/
theorem not_any (l : List Truth) : (any l).not = all (l.map not) := by
  induction l with
  | nil => rfl
  | cons t l ih => rw [any_cons, not_or, ih, List.map_cons, all_cons]

theorem any_append (l m : List Truth) : any (l ++ m) = (any l).or (any m) := by
  induction l with
  | nil => rfl
  | cons t l ih => rw [List.cons_append, any_cons, ih, any_cons, or_assoc]

theorem all_append (l m : List Truth) : all (l ++ m) = (all l).and (all m) := by
  induction l with
  | nil => rfl
  | cons t l ih => rw [List.cons_append, all_cons, ih, all_cons, and_assoc]

/-- It does not matter how the parts of a disjunction are put together. -/
theorem any_flatten (ls : List (List Truth)) : any (ls.map any) = any ls.flatten := by
  induction ls with
  | nil => rfl
  | cons l ls ih => rw [List.map_cons, any_cons, ih, List.flatten_cons, any_append]

theorem all_flatten (ls : List (List Truth)) : all (ls.map all) = all ls.flatten := by
  induction ls with
  | nil => rfl
  | cons l ls ih => rw [List.map_cons, all_cons, ih, List.flatten_cons, all_append]

/-- Parts that are negated one by one are negated as a whole. -/
theorem joined_signed (negated : Bool) (l : List Truth) :
    joined negated (l.map (signed negated)) = signed negated (any l) := by
  cases negated with
  | false =>
    have hid : l.map (signed false) = l := List.map_id l
    exact congrArg any hid
  | true => exact (not_any l).symm

theorem joined_flatten (negated : Bool) (ls : List (List Truth)) :
    joined negated (ls.map (joined negated)) = joined negated ls.flatten := by
  cases negated with
  | false => exact any_flatten ls
  | true => exact all_flatten ls

theorem any_eq_holds_iff (l : List Truth) : any l = holds ↔ holds ∈ l := by
  induction l with
  | nil => decide
  | cons t l ih =>
    rw [any_cons, or_eq_holds_iff, ih, List.mem_cons]
    constructor
    · rintro (h | h)
      · exact .inl h.symm
      · exact .inr h
    · rintro (h | h)
      · exact .inl h.symm
      · exact .inr h

theorem or_eq_fails_iff (t u : Truth) : t.or u = fails ↔ t = fails ∧ u = fails := by
  cases t <;> cases u <;> decide

theorem any_eq_fails_iff (l : List Truth) : any l = fails ↔ ∀ t ∈ l, t = fails := by
  induction l with
  | nil => simp
  | cons t l ih => rw [any_cons, or_eq_fails_iff, ih, List.forall_mem_cons]

theorem not_eq_holds_iff (t : Truth) : t.not = holds ↔ t = fails := by
  cases t <;> decide

end Truth

end EntitySql
