import EntitySql.Predicate.OfField
import EntitySql.Proofs.Meaning

/-!
# Forms of field predicates

The forms that the predicate of a field takes, with what is known of the lists in each of them.
A field that is not refused always has one of these forms, whatever its column, and so does
every predicate of a condition.

    ofField e o a item field column f = .ok p →
      FieldForm o (baseName item field) column f.operator p       (fieldForm_ofField)
    Condition.ofItems e o a items = .ok c →
      each predicate in c comes from a field of some item         (exists_ofField)
-/

namespace EntitySql

namespace Predicate

/-- A form of the predicate of a field with an operator. -/
inductive FieldForm (o : Options) (base column : String) : Operator → Predicate → Prop
  | always (operator : Operator) (holds : Bool) : FieldForm o base column operator (.always holds)
  | null (operator : Operator) (negated : Bool) :
      FieldForm o base column operator (.null column negated)
  | compare {operator : Operator} (comparison : operator ∈ Operator.comparisons)
      {operand : Operand} (nonempty : operand.values ≠ []) :
      FieldForm o base column operator (.compare column operator (slotsOf base operand))
  | like {operand : Operand} (nonempty : operand.values ≠ []) :
      FieldForm o base column .like (.like column (slotsOf base operand) o.likeEscape)
  | between (low high : Value) :
      FieldForm o base column .between
        (.between column ⟨base ++ "_0", low⟩ ⟨base ++ "_1", high⟩)
  | member {operator : Operator} (negated : Bool) {values : List Value} (nonempty : values ≠ []) :
      FieldForm o base column operator (.member column negated (chunkSlots base o.chunkSize values))

variable {e : Entity} {o : Options} {a : Action} {base column : String}

theorem values_patternOperand (mode : LikeMode) (escape : Option Char) (operand : Operand) :
    (patternOperand mode escape operand).values = operand.values.map (patternOf mode escape) := by
  cases operand <;> rfl

theorem fieldForm_ofValues {mode : LikeMode} {operator : Operator} (hop : operator ≠ .between)
    {operand : Operand} (hne : operand.values ≠ []) :
    FieldForm o base column operator (ofValues o base column mode operator operand) := by
  have hpatterns : (patternOperand mode o.likeEscape operand).values ≠ [] := by
    rw [values_patternOperand]
    simpa using hne
  cases operator with
  | in_ => exact .member false hne
  | notIn => exact .member true hne
  | like => exact .like hpatterns
  | between => exact absurd rfl hop
  | eq => exact .compare (by decide) hne
  | ne => exact .compare (by decide) hne
  | lt => exact .compare (by decide) hne
  | lte => exact .compare (by decide) hne
  | gt => exact .compare (by decide) hne
  | gte => exact .compare (by decide) hne

theorem fieldForm_ofOperand {mode : LikeMode} {operator : Operator} (hop : operator ≠ .between)
    (operand : Operand) :
    FieldForm o base column operator (ofOperand o base column mode operator operand) := by
  unfold ofOperand
  split
  · exact .null _ _
  · exact .always _ _
  · next hnull hempty =>
    refine fieldForm_ofValues hop ?_
    cases operand with
    | scalar v => simp [Operand.values]
    | array vs =>
      rintro rfl
      exact hempty rfl

theorem fieldForm_ofUsable {f : FieldValue} {p : Predicate}
    (h : ofUsable e o a base column f = .ok p) : FieldForm o base column f.operator p := by
  unfold ofUsable at h
  split at h
  · next hop =>
    split at h
    · cases h
      rw [hop]
      exact .between _ _
    · cases h
  · next hop =>
    cases h
    exact fieldForm_ofOperand hop _

/-- The predicate of a field that is not refused has one of the forms. -/
theorem fieldForm_ofField {item field : Nat} {f : FieldValue} {p : Predicate}
    (h : ofField e o a item field column f = .ok p) :
    FieldForm o (baseName item field) column f.operator p := by
  unfold ofField at h
  split at h
  · exact fieldForm_ofUsable h
  · split at h
    · cases h
      exact .always _ _
    · cases h
    · exact fieldForm_ofUsable h

end Predicate

/-- Each predicate of a condition comes from a field of an item. -/
theorem Condition.exists_ofField {e : Entity} {o : Options} {a : Action} {items : List Item}
    {c : Condition} (h : ofItems e o a items = .ok c) {g : List FieldPredicate} (hg : g ∈ c)
    {p : FieldPredicate} (hp : p ∈ g) :
    ∃ i ∈ items, ∃ item field f, (p.column, f) ∈ i.entries ∧
      Predicate.ofField e o a item field p.column f = .ok p.predicate := by
  obtain ⟨⟨i, item⟩, hi, hitem⟩ := Outcome.mem_of_mapM h hg
  obtain ⟨⟨⟨column, f⟩, field⟩, hf, hfield⟩ := Outcome.mem_of_mapM hitem hp
  obtain ⟨q, hq, rfl⟩ := Outcome.map_eq_ok_iff.1 hfield
  exact ⟨i, List.fst_mem_of_mem_zipIdx hi, item, field, f, List.fst_mem_of_mem_zipIdx hf, hq⟩

end EntitySql
