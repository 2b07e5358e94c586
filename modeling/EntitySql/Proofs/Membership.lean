import EntitySql.Proofs.ConditionText

/-!
# Equality and membership

Four operators ask whether a column has one of some values: `=` and `IN` for it to have one,
`!=` and `NOT IN` for it to have none.  What they ask depends on the operand alone, and neither
on which of the two operators is used nor on how the values are cut into chunks.

    the text of the predicate is read as a tree whose truth value is
      signed operator.negated (operandTruth k denote (row column) operand)   (membership_reads)
    the text of any predicate of a field means what the predicate does       (means_ofField)
-/

namespace EntitySql

open EntitySql.Sql

variable {α : Type}

/-! ## Values of parameters -/

/-- The context of a row in which the parameters have the values that they carry. -/
def Params.context (k : Collation α) (row : String → Option α) (denote : Value → Option α)
    (ps : Params) : Context α :=
  ⟨k, row, fun name => (ps.get? name).bind fun p => denote p.value⟩

theorem Params.parameter_context (k : Collation α) (row : String → Option α)
    (denote : Value → Option α) {ps : Params} (h : ps.names.Nodup) {p : Param} (hp : p ∈ ps) :
    (ps.context k row denote).parameter p.name = denote p.value := by
  simp [context, get?_of_mem h hp]

/-! ## Operands -/

/-- Whether a value is what an operand asks for: a null where the operand is a null by itself,
and otherwise a value equal to one of its values. -/
def operandTruth (k : Collation α) (denote : Value → Option α) (y : Option α) : Operand → Truth
  | .scalar (.null _) => nullTruth false y
  | operand => .any (operand.values.map fun v => k.compare .eq y (denote v))

namespace Predicate

abbrev slotValues (slots : List Slot) : List Value := slots.map (·.value)

theorem slotValues_numbered (base : String) (values : List Value) :
    slotValues (numbered base values) = values := by
  rw [slotValues, numbered, List.map_map]
  exact List.zipIdx_map_fst 0 values

theorem slotValues_slotsOf (base : String) (operand : Operand) :
    slotValues (slotsOf base operand) = operand.values := by
  cases operand with
  | scalar v => rfl
  | array vs => exact slotValues_numbered base vs

/-- The chunks carry the values in order. -/
theorem slotValues_chunkSlots (base : String) (size : Nat) (values : List Value) :
    slotValues (chunkSlots base size values).flatten = values := by
  rw [slotValues, List.map_flatten, chunkSlots, List.map_map]
  have hchunk : (fun p : List Value × Nat => slotValues (numbered s!"{base}_{p.2}" p.1)) =
      Prod.fst := funext fun p => slotValues_numbered _ p.1
  have hchunks := List.zipIdx_map_fst 0 (chunks size values)
  show ((chunks size values).zipIdx.map fun p => slotValues (numbered s!"{base}_{p.2}" p.1)).flatten
    = values
  rw [hchunk, hchunks, flatten_chunks]

theorem length_of_mem_chunkSlots {base : String} {size : Nat} {values : List Value}
    {chunk : List Slot} (h : chunk ∈ chunkSlots base size values) :
    chunk.length ≤ max size 1 := by
  obtain ⟨⟨vs, c⟩, hmem, rfl⟩ := List.mem_map.1 h
  rw [length_numbered]
  exact (mem_chunks (List.fst_mem_of_mem_zipIdx hmem)).2

/-! ## Predicates -/

section

variable {e : Entity} {o : Options} {a : Action} {item field : Nat} {base column : String}
  {f : FieldValue}

/-- The four operators that ask whether a column has one of some values. -/
def memberships : List Operator := [.eq, .ne, .in_, .notIn]

theorem ofField_of_column (hcolumn : e.hasColumn column = true ∨ o.columnMode = .off) :
    ofField e o a item field column f = ofUsable e o a (baseName item field) column f := by
  rw [ofField]
  rcases hcolumn with hcolumn | hmode
  · rw [if_pos hcolumn]
  · rw [hmode]
    exact ite_self _

/-- On a column that may be used, no operator but `BETWEEN` is refused. -/
theorem ofField_of_ne_between (hcolumn : e.hasColumn column = true ∨ o.columnMode = .off)
    (hop : f.operator ≠ .between) :
    ofField e o a item field column f = .ok (ofOperand o (baseName item field) column
      (f.likeMode?.getD o.likeMode) f.operator f.operand) := by
  rw [ofField_of_column hcolumn, ofUsable]
  split
  · next hbetween => exact absurd hbetween hop
  · rfl

theorem ne_between_of_membership {operator : Operator} (hop : operator ∈ memberships) :
    operator ≠ .between := by
  rintro rfl
  exact absurd hop (by decide)

/-- On a column that may be used, the four operators are not refused. -/
theorem ofField_of_membership (hcolumn : e.hasColumn column = true ∨ o.columnMode = .off)
    (hop : f.operator ∈ memberships) :
    ofField e o a item field column f = .ok (ofOperand o (baseName item field) column
      (f.likeMode?.getD o.likeMode) f.operator f.operand) :=
  ofField_of_ne_between hcolumn (ne_between_of_membership hop)

theorem joined_slots (x : Context α) (denote : Value → Option α) (negated : Bool)
    {slots : List Slot} (hslots : ∀ s ∈ slots, x.parameter s.name = denote s.value) :
    Truth.joined negated (slots.map fun s =>
      x.collation.compare (if negated then .ne else .eq) (x.row column) (x.parameter s.name)) =
    Truth.signed negated (.any ((slotValues slots).map fun v =>
      x.collation.compare .eq (x.row column) (denote v))) := by
  rw [Collation.joined_compare, List.map_map]
  refine congrArg (fun l => Truth.signed negated (.any l)) (List.map_congr_left fun s hs => ?_)
  rw [hslots s hs]
  rfl

/-- Where no parameter is a null by itself and there is some value, the operator asks for one of
the values, or for none. -/
theorem truth_ofValues (x : Context α) (denote : Value → Option α) {mode : LikeMode}
    {operator : Operator} (hop : operator ∈ memberships) {operand : Operand}
    (hslots : ∀ s ∈ (ofValues o base column mode operator operand).slots,
      x.parameter s.name = denote s.value) :
    (ofValues o base column mode operator operand).truth x =
      .signed operator.negated (.any (operand.values.map fun v =>
        x.collation.compare .eq (x.row column) (denote v))) := by
  simp only [memberships, List.mem_cons, List.not_mem_nil, or_false] at hop
  rcases hop with rfl | rfl | rfl | rfl
  · rw [← slotValues_slotsOf base operand]
    exact joined_slots x denote false hslots
  · rw [← slotValues_slotsOf base operand]
    exact joined_slots x denote true hslots
  · rw [← slotValues_chunkSlots base o.chunkSize operand.values]
    exact joined_slots x denote false hslots
  · rw [← slotValues_chunkSlots base o.chunkSize operand.values]
    exact joined_slots x denote true hslots

theorem ofOperand_of_values {mode : LikeMode} {operator : Operator} {operand : Operand}
    (hnull : ∀ kind, operand ≠ .scalar (.null kind)) (hvalues : operand.values ≠ []) :
    ofOperand o base column mode operator operand =
      ofValues o base column mode operator operand := by
  unfold ofOperand
  split
  · exact absurd rfl (hnull _)
  · exact absurd rfl hvalues
  · rfl

theorem operandTruth_of_values {k : Collation α} {denote : Value → Option α} {y : Option α}
    {operand : Operand} (hnull : ∀ kind, operand ≠ .scalar (.null kind)) :
    operandTruth k denote y operand =
      .any (operand.values.map fun v => k.compare .eq y (denote v)) := by
  unfold operandTruth
  split
  · exact absurd rfl (hnull _)
  · rfl

/-- The predicate of the four operators has the truth value that its operand gives it. -/
theorem truth_ofOperand (x : Context α) (denote : Value → Option α) {mode : LikeMode}
    {operator : Operator} (hop : operator ∈ memberships) {operand : Operand}
    (hslots : ∀ s ∈ (ofOperand o base column mode operator operand).slots,
      x.parameter s.name = denote s.value) :
    (ofOperand o base column mode operator operand).truth x =
      .signed operator.negated (operandTruth x.collation denote (x.row column) operand) := by
  by_cases hnull : ∃ kind, operand = .scalar (.null kind)
  · obtain ⟨kind, rfl⟩ := hnull
    rfl
  have hnull : ∀ kind, operand ≠ .scalar (.null kind) := fun kind h => hnull ⟨kind, h⟩
  by_cases hvalues : operand.values = []
  · cases operand with
    | scalar v => cases hvalues
    | array vs =>
      cases hvalues
      show Truth.ofBool operator.negated = .signed operator.negated .fails
      cases operator.negated <;> rfl
  · rw [ofOperand_of_values hnull hvalues] at hslots ⊢
    rw [operandTruth_of_values hnull]
    exact truth_ofValues x denote hop hslots

/-- The chunks of a membership: the values in order, in parts that are not empty and no longer
than the bound. -/
theorem member_ofOperand {mode : LikeMode} {operator : Operator}
    (hop : operator = .in_ ∨ operator = .notIn) {operand : Operand}
    (hvalues : operand.values ≠ []) (hnull : ∀ kind, operand ≠ .scalar (.null kind)) :
    ∃ chunks, ofOperand o base column mode operator operand =
        .member column operator.negated chunks ∧
      slotValues chunks.flatten = operand.values ∧
      ∀ chunk ∈ chunks, chunk ≠ [] ∧ chunk.length ≤ max o.chunkSize 1 := by
  refine ⟨chunkSlots base o.chunkSize operand.values, ?_, slotValues_chunkSlots _ _ _, ?_⟩
  · rw [ofOperand_of_values hnull hvalues]
    rcases hop with rfl | rfl <;> rfl
  · intro chunk hchunk
    exact ⟨ne_nil_of_mem_chunkSlots hchunk, length_of_mem_chunkSlots hchunk⟩

/-- The parameters of a field's predicate have the values that its slots carry. -/
theorem parameter_of_slot {p : Predicate} (h : ofField e o a item field column f = .ok p)
    (k : Collation α) (row : String → Option α) (denote : Value → Option α) {s : Slot}
    (hs : s ∈ p.slots) :
    ((FieldPredicate.mk column p).params.context k row denote).parameter s.name =
      denote s.value := by
  have hnames := (namedUnder_ofField h).nodup
  rw [← FieldPredicate.names_params ⟨column, p⟩] at hnames
  exact Params.parameter_context k row denote hnames (List.mem_map_of_mem hs)

/-- The text for a field is read as a condition that means what the predicate of the field does. -/
theorem means_ofField {p : Predicate} (h : ofField e o a item field column f = .ok p)
    (hescape : f.operator = .like → o.likeEscape ≠ some '\'') :
    ∃ t, SearchCondition.readFactor? p.text = some t ∧
      ∀ (α : Type) (x : Context α), t.truth x = p.truth x := by
  have hread := readable_ofField h hescape
  exact ⟨_, SearchCondition.readFactor?_eq_some hread.spells.tokens_eq hread.readsFactor,
    fun α x => truth_tree x p⟩

/-- The text for a field is read as a condition that means what the predicate of the field does, and
that finds the values of the predicate's slots by their names. -/
theorem reads_ofField {p : Predicate} (h : ofField e o a item field column f = .ok p)
    (hescape : f.operator = .like → o.likeEscape ≠ some '\'') :
    ∃ t, SearchCondition.readFactor? p.text = some t ∧
      ∀ (α : Type) (k : Collation α) (row : String → Option α) (denote : Value → Option α),
        t.truth ((FieldPredicate.mk column p).params.context k row denote) =
          p.truth ((FieldPredicate.mk column p).params.context k row denote) ∧
        ∀ s ∈ p.slots, ((FieldPredicate.mk column p).params.context k row denote).parameter s.name =
          denote s.value := by
  obtain ⟨t, hread, hmeans⟩ := means_ofField h hescape
  exact ⟨t, hread, fun α k row denote =>
    ⟨hmeans α _, fun s hs => parameter_of_slot h k row denote hs⟩⟩

end

end Predicate

/-- The text for one of the four operators is read as a condition that holds, fails or is unknown
as the operand says, negated for `!=` and `NOT IN`; no other difference of the operators and no
option changes that.  Memberships cut their values into chunks without losing or moving any. -/
theorem membership_reads {e : Entity} {o : Options} {a : Action} {item field : Nat}
    {column : String} {f : FieldValue}
    (hcolumn : e.hasColumn column = true ∨ o.columnMode = .off)
    (hop : f.operator ∈ Predicate.memberships) :
    ∃ p t, Predicate.ofField e o a item field column f = .ok p ∧
      SearchCondition.readFactor? p.text = some t ∧
      (∀ (α : Type) (k : Collation α) (row : String → Option α) (denote : Value → Option α),
        t.truth ((FieldPredicate.mk column p).params.context k row denote) =
          .signed f.operator.negated (operandTruth k denote (row column) f.operand)) ∧
      ((f.operator = .in_ ∨ f.operator = .notIn) → f.operand.values ≠ [] →
        (∀ kind, f.operand ≠ .scalar (.null kind)) →
        ∃ chunks, p = .member column f.operator.negated chunks ∧
          Predicate.slotValues chunks.flatten = f.operand.values ∧
          ∀ chunk ∈ chunks, chunk ≠ [] ∧ chunk.length ≤ max o.chunkSize 1) := by
  have hfield : Predicate.ofField e o a item field column f = _ :=
    Predicate.ofField_of_membership hcolumn hop
  have hread := Predicate.readable_ofField hfield fun hlike => by
    rw [hlike] at hop
    exact absurd hop (by decide)
  have hnames := (Predicate.namedUnder_ofField hfield).nodup
  refine ⟨_, _, hfield,
    SearchCondition.readFactor?_eq_some hread.spells.tokens_eq hread.readsFactor, ?_, ?_⟩
  · intro α k row denote
    rw [Predicate.truth_tree]
    refine Predicate.truth_ofOperand _ denote hop fun s hs => ?_
    rw [← FieldPredicate.names_params ⟨column, _⟩] at hnames
    exact Params.parameter_context k row denote hnames (List.mem_map_of_mem hs)
  · intro hmember hvalues hnull
    exact Predicate.member_ofOperand hmember hvalues hnull

/-- Three values that a name has to differ from, one of them a null, in chunks of two. -/
theorem membership_reads_people :
    ∃ p t, Predicate.ofField people { chunkSize := 2 } .find 0 0 "name"
        (.query (.compareAny .notIn [.string "a", .null .string, .string "b"])) = .ok p ∧
      p.text = "([name] NOT IN (@w0_0_0_0, @w0_0_0_1) AND [name] NOT IN (@w0_0_1_0))" ∧
      SearchCondition.readFactor? p.text = some t ∧
      ∀ (α : Type) (k : Collation α) (row : String → Option α) (denote : Value → Option α),
        t.truth ((FieldPredicate.mk "name" p).params.context k row denote) =
          (Truth.any ([.string "a", .null .string, .string "b"].map fun v =>
            k.compare .eq (row "name") (denote v))).not := by
  have hcolumn : people.hasColumn "name" = true ∨
      ({ chunkSize := 2 } : Options).columnMode = .off := .inl (by decide)
  have hop : (FieldValue.query (.compareAny .notIn
      [.string "a", .null .string, .string "b"])).operator ∈ Predicate.memberships := by
    decide
  obtain ⟨p, t, hp, hread, htruth, _⟩ := membership_reads hcolumn hop
  refine ⟨p, t, hp, ?_, hread, htruth⟩
  cases hp
  decide

end EntitySql
