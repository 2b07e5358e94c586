import EntitySql.Proofs.Membership

/-!
# Nulls among the values of a membership

A list of values may have nulls in it.  For `=` and `IN` they do no harm: a row is accepted if its
column equals one of the other values.  For `!=` and `NOT IN` a single null among the values spoils
the condition, which accepts no row at all: to differ from a null is unknown, and so is to differ
from all values of the list.

    a negated membership accepts a row ↔ its column differs from all values, none of which is null
                                                            (signed_any_eq_holds_iff)
    AsksMembers e o a item field column f ↔
      f.operator is not negated, or none of its values is null   (asksMembers_iff)
-/

namespace EntitySql

open EntitySql.Sql

/-! ## Values that are equal -/

/-- The values that stand for a null are the nulls. -/
def DenotesNulls {α : Type} (denote : Value → Option α) : Prop :=
  ∀ v, denote v = none ↔ v.isNull = true

/-- A value that is not null equals what a column holds. -/
def Sql.Collation.Equals {α : Type} (k : Collation α) (denote : Value → Option α) (x : α)
    (v : Value) : Prop :=
  ∃ y, denote v = some y ∧ k.equal x y = true

section

variable {α : Type} {k : Collation α} {denote : Value → Option α} {x : α} {v : Value}

theorem compare_eq_holds_iff : k.compare .eq (some x) (denote v) = .holds ↔ k.Equals denote x v := by
  unfold Collation.Equals
  cases denote v with
  | none => simp [Collation.compare]
  | some y =>
    cases hequal : k.equal x y <;>
      simp [Collation.compare, Collation.relates, Truth.ofBool, hequal]

/-- A null is not known to differ from anything. -/
theorem compare_eq_fails_iff (hdenote : DenotesNulls denote) :
    k.compare .eq (some x) (denote v) = .fails ↔ v.isNull = false ∧ ¬ k.Equals denote x v := by
  have hnull := hdenote v
  unfold Collation.Equals
  cases hv : denote v with
  | none => simp [Collation.compare, hnull.1 hv]
  | some y =>
    have hsome : v.isNull = false := by simpa [hv] using hnull
    cases hequal : k.equal x y <;>
      simp [Collation.compare, Collation.relates, Truth.ofBool, hsome, hequal]

/-- What a membership accepts: a value that equals one of some values, or, where it is negated, one
that differs from all of them while none of them is null. -/
theorem signed_any_eq_holds_iff (hdenote : DenotesNulls denote) {negated : Bool}
    {vs : List Value} :
    Truth.signed negated (.any (vs.map fun v => k.compare .eq (some x) (denote v))) = .holds ↔
      if negated then (∀ v ∈ vs, v.isNull = false) ∧ ¬ ∃ v ∈ vs, k.Equals denote x v
      else ∃ v ∈ vs, k.Equals denote x v := by
  cases negated with
  | false =>
    show Truth.any _ = .holds ↔ _
    rw [Truth.any_eq_holds_iff, List.mem_map, if_neg Bool.false_ne_true]
    exact exists_congr fun v => and_congr_right fun _ => compare_eq_holds_iff
  | true =>
    show (Truth.any _).not = .holds ↔ _
    rw [Truth.not_eq_holds_iff, Truth.any_eq_fails_iff, List.forall_mem_map, if_pos rfl]
    have hfails : (∀ v ∈ vs, k.compare .eq (some x) (denote v) = .fails) ↔
        ∀ v ∈ vs, v.isNull = false ∧ ¬ k.Equals denote x v :=
      forall₂_congr fun v _ => compare_eq_fails_iff hdenote
    rw [hfails]
    constructor
    · intro h
      exact ⟨fun v hv => (h v hv).1, fun ⟨v, hv, hequal⟩ => (h v hv).2 hequal⟩
    · rintro ⟨hnulls, hdiffers⟩ v hv
      exact ⟨hnulls v hv, fun hequal => hdiffers ⟨v, hv, hequal⟩⟩

end

/-! ## Rows that a membership accepts -/

/-- The text for a field is read as a condition that, where the column is not null, accepts the row
if the column equals some value of the field, or none where the operator is negated. -/
def AsksMembers (e : Entity) (o : Options) (a : Action) (item field : Nat) (column : String)
    (f : FieldValue) : Prop :=
  ∃ p t, Predicate.ofField e o a item field column f = .ok p ∧
    SearchCondition.readFactor? p.text = some t ∧
    ∀ (α : Type) (k : Collation α) (row : String → Option α) (denote : Value → Option α) (x : α),
      DenotesNulls denote → row column = some x →
        (t.truth ((FieldPredicate.mk column p).params.context k row denote) = .holds ↔
          if f.operator.negated then ¬ ∃ v ∈ f.values, k.Equals denote x v
          else ∃ v ∈ f.values, k.Equals denote x v)

section

variable {e : Entity} {o : Options} {a : Action} {item field : Nat} {column : String}
  {f : FieldValue} {vs : List Value}

variable (o a item field) in
/-- What the condition for a list of values accepts. -/
theorem reads_list (hcolumn : e.hasColumn column = true) (hop : f.operator ∈ Predicate.memberships)
    (hlist : f.operand = .array vs) :
    ∃ p t, Predicate.ofField e o a item field column f = .ok p ∧
      SearchCondition.readFactor? p.text = some t ∧
      ∀ (α : Type) (k : Collation α) (row : String → Option α) (denote : Value → Option α),
        t.truth ((FieldPredicate.mk column p).params.context k row denote) =
          .signed f.operator.negated (.any (vs.map fun v =>
            k.compare .eq (row column) (denote v))) := by
  have hp : Predicate.ofField e o a item field column f = _ :=
    Predicate.ofField_of_membership (.inl hcolumn) hop
  obtain ⟨t, hread, htruth⟩ := Predicate.reads_ofField hp fun hlike => by
    rw [hlike] at hop
    exact absurd hop (by decide)
  refine ⟨_, t, hp, hread, fun α k row denote => ?_⟩
  obtain ⟨hmeans, hslots⟩ := htruth α k row denote
  rw [hmeans, Predicate.truth_ofOperand _ denote hop hslots, hlist]
  rfl

/-- Without nulls in the list, or for an operator that is not negated, the condition asks for the
values of the list. -/
theorem asksMembers_of_no_nulls (hcolumn : e.hasColumn column = true)
    (hop : f.operator ∈ Predicate.memberships) (hlist : f.operand = .array vs)
    (hnulls : f.operator.negated = true → ∀ v ∈ vs, v.isNull = false) :
    AsksMembers e o a item field column f := by
  obtain ⟨p, t, hp, hread, htruth⟩ := reads_list o a item field hcolumn hop hlist
  refine ⟨p, t, hp, hread, fun α k row denote x hdenote hx => ?_⟩
  have hvalues : f.values = vs := by rw [FieldValue.values, hlist]; rfl
  rw [htruth, hx, signed_any_eq_holds_iff hdenote, hvalues]
  cases hnegated : f.operator.negated with
  | false => rfl
  | true =>
    rw [if_pos rfl, if_pos rfl]
    exact and_iff_right (hnulls hnegated)

/-- A null in the list of a negated membership keeps it from accepting a row that equals none of
the values. -/
theorem not_asksMembers_of_null (hcolumn : e.hasColumn column = true)
    (hop : f.operator ∈ Predicate.memberships) (hlist : f.operand = .array vs)
    (hnegated : f.operator.negated = true) {v : Value} (hv : v ∈ vs) (hnull : v.isNull = true) :
    ¬ AsksMembers e o a item field column f := by
  obtain ⟨p, t, hp, hread, htruth⟩ := reads_list o a item field hcolumn hop hlist
  rintro ⟨p', t', hp', hread', hasks⟩
  cases hp.symm.trans hp'
  cases hread.symm.trans hread'
  -- A row whose column is one, where every value that is not null stands for zero.
  let denote : Value → Option Nat := fun w => if w.isNull then none else some 0
  have hdenote : DenotesNulls denote := fun w => by simp [denote]
  have hiff := hasks Nat .naturals (fun _ => some 1) denote 1 hdenote rfl
  rw [htruth, signed_any_eq_holds_iff hdenote, hnegated, if_pos rfl, if_pos rfl] at hiff
  have hdiffers : ¬ ∃ w ∈ f.values, Collation.naturals.Equals denote 1 w := by
    rintro ⟨w, _, y, hy, hequal⟩
    have hone : 1 = y := by simpa [Collation.naturals] using hequal
    subst hone
    simp [denote] at hy
  obtain ⟨hnulls, _⟩ := hiff.2 hdiffers
  rw [hnulls v hv] at hnull
  cases hnull

/-- Memberships of a list accept the rows whose column is in the list, or is not where they are
negated, unless a negated one has a null among its values. -/
theorem asksMembers_iff (hcolumn : e.hasColumn column = true)
    (hop : f.operator ∈ Predicate.memberships) (hlist : f.operand = .array vs) :
    AsksMembers e o a item field column f ↔
      (f.operator.negated = true → ∀ v ∈ vs, v.isNull = false) := by
  constructor
  · intro hasks hnegated v hv
    by_contra hnull
    exact not_asksMembers_of_null hcolumn hop hlist hnegated hv (by simpa using hnull) hasks
  · exact asksMembers_of_no_nulls hcolumn hop hlist

end

/-- Two keys that a person has to differ from, in chunks of one. -/
theorem asksMembers_iff_people :
    AsksMembers people { chunkSize := 1 } .find 0 0 "id"
        (.query (.compareAny .notIn [.int 1, .string "2"])) ↔
      (Operator.notIn.negated = true → ∀ v ∈ [Value.int 1, .string "2"], v.isNull = false) :=
  asksMembers_iff (by decide) (by decide) rfl

/-- A key and a null that a person has to differ from: nobody does. -/
theorem not_asksMembers_people :
    ¬ AsksMembers people {} .find 0 0 "id" (.query (.compareAny .notIn [.int 1, .null .int])) :=
  not_asksMembers_of_null (by decide) (by decide) rfl rfl (List.mem_cons_of_mem _ List.mem_cons_self)
    rfl

end EntitySql
