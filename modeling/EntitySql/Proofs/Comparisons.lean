import EntitySql.Proofs.Builder
import EntitySql.Proofs.LikePattern
import Mathlib.Data.String.Basic
import Mathlib.Order.MinMax

/-!
# Ranges, comparisons and patterns

Five operators compare a column with one value at a time, and `BETWEEN` asks for a range.  Where
the values are in a total order, the rows that a predicate of theirs accepts are those that the
order says.  A null among the values is passed over by a comparison, and as a bound it leaves the
range empty; only a null by itself asks for the rows whose column is null.  Bounds may come in
either order, and what is not two bounds is refused.

    min low high ≤ x ∧ x ≤ max low high, however the bounds compare     (truth_between_iff)
    e.hasColumn column = true → AsksInOrder e o a item field column     (asksInOrder)
-/

namespace EntitySql

open EntitySql.Sql

/-! ## Values in order -/

/-- A collation compares the values of a total order as the order does. -/
structure Sql.Collation.Orders {α : Type} [LinearOrder α] (k : Collation α) : Prop where
  equal_iff : ∀ x y, k.equal x y = true ↔ x = y
  less_iff : ∀ x y, k.less x y = true ↔ x < y

/-- What is compared with a value: nothing with a null, and its meaning with any other. -/
def Value.denoted {α : Type} (meaning : Value → α) (v : Value) : Option α :=
  if v.isNull then none else some (meaning v)

/-- How two values of a total order compare. -/
def Sql.Comparator.Relates {α : Type} [LinearOrder α] : Comparator → α → α → Prop
  | .eq, x, y => x = y
  | .ne, x, y => x ≠ y
  | .lt, x, y => x < y
  | .lte, x, y => x ≤ y
  | .gt, x, y => y < x
  | .gte, x, y => y ≤ x

/-- How an operator relates what a column holds to one value. -/
def Operator.Relates {α : Type} [LinearOrder α] (k : Collation α) (escape : Option Char)
    (operator : Operator) (x y : α) : Prop :=
  if operator = .like then k.like x y escape = true else operator.comparator.Relates x y

/-- How an operator compares what a column holds with one value, where either may be null. -/
def Operator.compared {α : Type} (k : Collation α) (escape : Option Char) (operator : Operator)
    (y z : Option α) : Truth :=
  if operator = .like then k.matchPattern escape y z else k.compare operator.comparator y z

section

theorem Sql.Collation.orders_naturals : Collation.naturals.Orders :=
  ⟨fun _ _ => decide_eq_true_iff, fun _ _ => decide_eq_true_iff⟩

theorem Sql.Collation.orders_texts : Collation.texts.Orders :=
  ⟨fun _ _ => decide_eq_true_iff, fun _ _ => decide_eq_true_iff⟩

variable {α : Type} {k : Collation α} {meaning : Value → α} {y : Option α}

theorem Value.denoted_eq_some_iff {v : Value} {z : α} :
    v.denoted meaning = some z ↔ v.isNull = false ∧ meaning v = z := by
  unfold Value.denoted
  cases v.isNull <;> simp

theorem matchPattern_holds_iff {escape : Option Char} {z : Option α} :
    k.matchPattern escape y z = .holds ↔
      ∃ x w, y = some x ∧ z = some w ∧ k.like x w escape = true := by
  cases y with
  | none => simp [Collation.matchPattern]
  | some x =>
    cases z with
    | none => simp [Collation.matchPattern]
    | some w => simp [Collation.matchPattern, Truth.ofBool_eq_holds_iff]

variable [LinearOrder α]

theorem Sql.Collation.Orders.relates_iff (hk : k.Orders) (c : Comparator) (x z : α) :
    k.relates c x z = true ↔ c.Relates x z := by
  cases c with
  | eq => exact hk.equal_iff x z
  | ne => simpa [Collation.relates, Comparator.Relates] using (hk.equal_iff x z).not
  | lt => exact hk.less_iff x z
  | lte =>
    rw [Collation.relates, Bool.or_eq_true, hk.less_iff, hk.equal_iff, Comparator.Relates,
      le_iff_lt_or_eq]
  | gt => exact hk.less_iff z x
  | gte =>
    rw [Collation.relates, Bool.or_eq_true, hk.less_iff, hk.equal_iff, Comparator.Relates,
      le_iff_lt_or_eq, eq_comm]

theorem Sql.Collation.Orders.compare_holds_iff (hk : k.Orders) (c : Comparator) (z : Option α) :
    k.compare c y z = .holds ↔ ∃ x w, y = some x ∧ z = some w ∧ c.Relates x w := by
  cases y with
  | none => simp [Collation.compare]
  | some x =>
    cases z with
    | none => simp [Collation.compare]
    | some w =>
      rw [Collation.compare, Truth.ofBool_eq_holds_iff, hk.relates_iff]
      simp

theorem Operator.compared_holds_iff (hk : k.Orders) {escape : Option Char} {operator : Operator}
    {z : Option α} :
    operator.compared k escape y z = .holds ↔
      ∃ x w, y = some x ∧ z = some w ∧ operator.Relates k escape x w := by
  unfold Operator.compared Operator.Relates
  split
  · exact matchPattern_holds_iff
  · exact hk.compare_holds_iff operator.comparator z

/-- Sorting puts the smaller of two values in front. -/
theorem Sql.Collation.Orders.sorted_some (hk : k.Orders) (l h : α) :
    k.sorted (some l) (some h) = (some (min l h), some (max l h)) := by
  have hholds : k.compare .lte (some l) (some h) = .holds ↔ l ≤ h := by
    rw [hk.compare_holds_iff]
    simp [Comparator.Relates]
  unfold Collation.sorted
  by_cases hle : l ≤ h
  · rw [if_pos (hholds.2 hle), min_eq_left hle, max_eq_right hle]
  · have hge := le_of_not_ge hle
    rw [if_neg (fun hlte => hle (hholds.1 hlte)), min_eq_right hge, max_eq_left hge]

/-- A range is known to have a value between the smaller and the greater bound, and to have none
where a bound is null. -/
theorem Sql.Collation.Orders.truth_between_iff (hk : k.Orders) (low high : Option α) :
    (k.compare .gte y (k.sorted low high).1).and (k.compare .lte y (k.sorted low high).2) = .holds ↔
      ∃ x l h, y = some x ∧ low = some l ∧ high = some h ∧ min l h ≤ x ∧ x ≤ max l h := by
  rw [Truth.and_eq_holds_iff, hk.compare_holds_iff, hk.compare_holds_iff]
  cases low with
  | none => cases high <;> simp [Collation.sorted, Collation.compare]
  | some l =>
    cases high with
    | none => simp [Collation.sorted, Collation.compare]
    | some h =>
      rw [hk.sorted_some]
      cases y <;> simp [Comparator.Relates]

end

/-! ## What a field asks for -/

/-- The five operators that compare with one value at a time. -/
def Predicate.orderings : List Operator := [.lt, .lte, .gt, .gte, .like]

/-- What a column holds is what a field asks for, where the values are in a total order. -/
inductive FieldValue.Met {α : Type} [LinearOrder α] (k : Collation α) (o : Options)
    (meaning : Value → α) (f : FieldValue) : Option α → Prop
  /-- A range has the values between its bounds, whichever of them is the smaller. -/
  | between {low high : Value} {x : α} (hop : f.operator = .between)
      (hoperand : f.operand = .array [low, high]) (hlow : low.isNull = false)
      (hhigh : high.isNull = false) (hmin : min (meaning low) (meaning high) ≤ x)
      (hmax : x ≤ max (meaning low) (meaning high)) : Met k o meaning f (some x)
  /-- A null by itself asks for nulls. -/
  | null {kind : Kind} (hop : f.operator ∈ Predicate.orderings)
      (hoperand : f.operand = .scalar (.null kind)) : Met k o meaning f none
  /-- One value, or pattern, that is not null is enough. -/
  | value {v : Value} {x : α} (hop : f.operator ∈ Predicate.orderings) (hv : v ∈ f.carried o)
      (hnull : v.isNull = false) (hrelates : f.operator.Relates k o.likeEscape x (meaning v)) :
      Met k o meaning f (some x)

/-- The field has an operator that compares, or is a range with two bounds. -/
def FieldValue.Ordered (f : FieldValue) : Prop :=
  f.operator ∈ Predicate.orderings ∨
    f.operator = .between ∧ ∃ low high, f.operand = .array [low, high]

/-- The predicate of a column accepts a row. -/
def Predicate.Accepts {α : Type} (p : Predicate) (column : String) (k : Collation α)
    (meaning : Value → α) (row : String → Option α) : Prop :=
  p.truth ((FieldPredicate.mk column p).params.context k row (Value.denoted meaning)) = .holds

/-- What the fields of a column ask for by comparisons, patterns and ranges. -/
structure AsksInOrder (e : Entity) (o : Options) (a : Action) (item field : Nat)
    (column : String) : Prop where
  /-- The predicate accepts the rows that the order says, and its text means what it does. -/
  accepts : ∀ f : FieldValue, f.Ordered →
    ∃ p, Predicate.ofField e o a item field column f = .ok p ∧
      (∀ (α : Type) [LinearOrder α] (k : Collation α) (meaning : Value → α)
        (row : String → Option α), k.Orders →
          (p.Accepts column k meaning row ↔ f.Met k o meaning (row column))) ∧
      ((f.operator = .like → o.likeEscape ≠ some '\'') →
        ∃ t, SearchCondition.readFactor? p.text = some t ∧
          ∀ (α : Type) (x : Context α), t.truth x = p.truth x)
  /-- A range is refused where it does not have two bounds in a list. -/
  refuses : ∀ f : FieldValue, f.operator = .between →
    (∀ low high, f.operand ≠ .array [low, high]) →
      Predicate.ofField e o a item field column f =
        refuse e.table a (.invalidBetween column f.values.length)
  /-- Bounds that trade places change neither the text nor the rows that are accepted. -/
  swaps : ∀ (f g : FieldValue) (low high : Value), f.operator = .between → g.operator = .between →
    f.operand = .array [low, high] → g.operand = .array [high, low] →
      ∃ p q, Predicate.ofField e o a item field column f = .ok p ∧
        Predicate.ofField e o a item field column g = .ok q ∧ p.text = q.text ∧
        ∀ (α : Type) [LinearOrder α] (k : Collation α) (meaning : Value → α)
          (row : String → Option α), k.Orders →
            (p.Accepts column k meaning row ↔ q.Accepts column k meaning row)

/-! ## Predicates of fields -/

section

variable {e : Entity} {o : Options} {a : Action} {item field : Nat} {base column : String}
  {f : FieldValue} {low high : Value} {α : Type}

namespace Predicate

theorem ne_between_of_ordering {operator : Operator} (hop : operator ∈ orderings) :
    operator ≠ .between := by
  rintro rfl
  exact absurd hop (by decide)

theorem negated_of_ordering {operator : Operator} (hop : operator ∈ orderings) :
    operator.negated = false := by
  revert hop
  cases operator <;> decide

/-- The predicate of a range. -/
theorem ofField_between (hcolumn : e.hasColumn column = true) (hop : f.operator = .between)
    (hoperand : f.operand = .array [low, high]) :
    ofField e o a item field column f = .ok (.between column
      ⟨baseName item field ++ "_0", low⟩ ⟨baseName item field ++ "_1", high⟩) := by
  rw [ofField_of_column (.inl hcolumn), ofUsable, hop, hoperand]
  rfl

/-- A range of anything but two bounds in a list is refused. -/
theorem ofField_not_between (hcolumn : e.hasColumn column = true) (hop : f.operator = .between)
    (hoperand : ∀ low high, f.operand ≠ .array [low, high]) :
    ofField e o a item field column f =
      refuse e.table a (.invalidBetween column f.values.length) := by
  rw [ofField_of_column (.inl hcolumn), ofUsable, hop]
  cases hbounds : bounds? f.operand with
  | none => rfl
  | some bounds => exact absurd (eq_array_of_bounds? hbounds) (hoperand _ _)

/-- Comparisons with some slots, one of which is enough. -/
theorem truth_ofValues_of_ordering (x : Context α) {mode : LikeMode} {operator : Operator}
    (hop : operator ∈ orderings) (operand : Operand) :
    (ofValues o base column mode operator operand).truth x =
      .any ((ofValues o base column mode operator operand).slots.map fun s =>
        operator.compared x.collation o.likeEscape (x.row column) (x.parameter s.name)) := by
  simp only [orderings, List.mem_cons, List.not_mem_nil, or_false] at hop
  rcases hop with rfl | rfl | rfl | rfl | rfl <;> rfl

/-- Where no value is a null by itself, one of the values that the field carries is enough. -/
theorem truth_ofOperand_of_ordering (x : Context α) (denote : Value → Option α)
    (hop : f.operator ∈ orderings) (hoperand : ∀ kind, f.operand ≠ .scalar (.null kind))
    (hslots : ∀ s ∈ (ofOperand o base column (f.likeMode?.getD o.likeMode) f.operator
      f.operand).slots, x.parameter s.name = denote s.value) :
    (ofOperand o base column (f.likeMode?.getD o.likeMode) f.operator f.operand).truth x =
      .any ((f.carried o).map fun v =>
        f.operator.compared x.collation o.likeEscape (x.row column) (denote v)) := by
  by_cases hvalues : f.operand.values = []
  · have hcarried : f.carried o = [] := by
      simp [FieldValue.carried, FieldValue.values, hvalues]
    have hnil : f.operand = .array [] := by
      cases hoperand : f.operand with
      | scalar v => simp [hoperand, Operand.values] at hvalues
      | array vs => simpa [hoperand, Operand.values] using hvalues
    rw [hcarried, hnil, ofOperand, negated_of_ordering hop]
    rfl
  · rw [ofOperand_of_values hoperand hvalues] at hslots ⊢
    have hcarried : slotValues (ofValues o base column (f.likeMode?.getD o.likeMode) f.operator
        f.operand).slots = f.carried o := slotValues_ofValues f.operand
    rw [truth_ofValues_of_ordering x hop, ← hcarried, List.map_map]
    refine congrArg Truth.any (List.map_congr_left fun s hs => ?_)
    rw [hslots s hs]
    rfl

/-- The text of a range is the same for either order of its bounds. -/
theorem text_between_congr {f g : FieldValue} {p q : Predicate} {low' high' : Value}
    (hcolumn : e.hasColumn column = true) (hf : f.operator = .between) (hg : g.operator = .between)
    (hflow : f.operand = .array [low, high]) (hglow : g.operand = .array [low', high'])
    (hp : ofField e o a item field column f = .ok p)
    (hq : ofField e o a item field column g = .ok q) : p.text = q.text := by
  cases (ofField_between hcolumn hf hflow).symm.trans hp
  cases (ofField_between hcolumn hg hglow).symm.trans hq
  rfl

end Predicate

end

/-! ## Rows that are accepted -/

section

variable {e : Entity} {o : Options} {a : Action} {item field : Nat} {column : String}
  {f g : FieldValue} {low high : Value} {α : Type} [LinearOrder α] {k : Collation α}
  {meaning : Value → α} {row : String → Option α}

namespace FieldValue

theorem met_between_iff (hop : f.operator = .between) (hoperand : f.operand = .array [low, high])
    {y : Option α} :
    f.Met k o meaning y ↔ ∃ x l h, y = some x ∧ low.denoted meaning = some l ∧
      high.denoted meaning = some h ∧ min l h ≤ x ∧ x ≤ max l h := by
  constructor
  · intro hmet
    cases hmet with
    | between _ hoperand' hlow hhigh hmin hmax =>
      cases hoperand.symm.trans hoperand'
      exact ⟨_, _, _, rfl, Value.denoted_eq_some_iff.2 ⟨hlow, rfl⟩,
        Value.denoted_eq_some_iff.2 ⟨hhigh, rfl⟩, hmin, hmax⟩
    | null hordering => exact absurd hop (Predicate.ne_between_of_ordering hordering)
    | value hordering => exact absurd hop (Predicate.ne_between_of_ordering hordering)
  · rintro ⟨x, l, h, rfl, hlow, hhigh, hmin, hmax⟩
    obtain ⟨hlow', rfl⟩ := Value.denoted_eq_some_iff.1 hlow
    obtain ⟨hhigh', rfl⟩ := Value.denoted_eq_some_iff.1 hhigh
    exact .between hop hoperand hlow' hhigh' hmin hmax

theorem met_null_iff (hop : f.operator ∈ Predicate.orderings) {kind : Kind}
    (hoperand : f.operand = .scalar (.null kind)) {y : Option α} :
    f.Met k o meaning y ↔ y = none := by
  constructor
  · intro hmet
    cases hmet with
    | between hbetween => exact absurd hbetween (Predicate.ne_between_of_ordering hop)
    | null => rfl
    | value _ hv hnull =>
      have hvalues : f.values = [.null kind] := by rw [FieldValue.values, hoperand]; rfl
      have hnulls : ∀ w ∈ f.carried o, w.isNull = true := by
        unfold FieldValue.carried
        rw [hvalues]
        split <;> simp [Predicate.patternOf, Value.isNull]
      rw [hnulls _ hv] at hnull
      cases hnull
  · rintro rfl
    exact .null hop hoperand

theorem met_value_iff (hop : f.operator ∈ Predicate.orderings)
    (hoperand : ∀ kind, f.operand ≠ .scalar (.null kind)) {y : Option α} :
    f.Met k o meaning y ↔ ∃ v ∈ f.carried o, ∃ x w, y = some x ∧ v.denoted meaning = some w ∧
      f.operator.Relates k o.likeEscape x w := by
  constructor
  · intro hmet
    cases hmet with
    | between hbetween => exact absurd hbetween (Predicate.ne_between_of_ordering hop)
    | null _ hnull => exact absurd hnull (hoperand _)
    | value _ hv hnull hrelates =>
      exact ⟨_, hv, _, _, rfl, Value.denoted_eq_some_iff.2 ⟨hnull, rfl⟩, hrelates⟩
  · rintro ⟨v, hv, x, w, rfl, hdenoted, hrelates⟩
    obtain ⟨hnull, rfl⟩ := Value.denoted_eq_some_iff.1 hdenoted
    exact .value hop hv hnull hrelates

/-- Of what is no null by itself, one value that is not null is enough for a row with a value. -/
theorem met_some_iff (hop : f.operator ∈ Predicate.orderings)
    (hoperand : ∀ kind, f.operand ≠ .scalar (.null kind)) {x : α} :
    f.Met k o meaning (some x) ↔
      ∃ v ∈ f.carried o, v.isNull = false ∧ f.operator.Relates k o.likeEscape x (meaning v) := by
  rw [met_value_iff hop hoperand]
  refine exists_congr fun v => and_congr_right fun _ => ?_
  constructor
  · rintro ⟨_, _, ⟨⟩, hdenoted, hrelates⟩
    obtain ⟨hnull, rfl⟩ := Value.denoted_eq_some_iff.1 hdenoted
    exact ⟨hnull, hrelates⟩
  · rintro ⟨hnull, hrelates⟩
    exact ⟨x, _, rfl, Value.denoted_eq_some_iff.2 ⟨hnull, rfl⟩, hrelates⟩

end FieldValue

namespace Predicate

theorem accepts_between_iff (hk : k.Orders) (hcolumn : e.hasColumn column = true)
    (hop : f.operator = .between) (hoperand : f.operand = .array [low, high]) {p : Predicate}
    (hp : ofField e o a item field column f = .ok p) :
    p.Accepts column k meaning row ↔ f.Met k o meaning (row column) := by
  have hslots := fun s hs => parameter_of_slot hp k row (Value.denoted meaning) (s := s) hs
  cases (ofField_between hcolumn hop hoperand).symm.trans hp
  rw [FieldValue.met_between_iff hop hoperand, Accepts, truth,
    hslots _ List.mem_cons_self, hslots _ (List.mem_cons_of_mem _ List.mem_cons_self)]
  exact hk.truth_between_iff _ _

theorem accepts_null_iff (hcolumn : e.hasColumn column = true) (hop : f.operator ∈ orderings)
    {kind : Kind} (hoperand : f.operand = .scalar (.null kind)) {p : Predicate}
    (hp : ofField e o a item field column f = .ok p) :
    p.Accepts column k meaning row ↔ f.Met k o meaning (row column) := by
  rw [FieldValue.met_null_iff hop hoperand]
  cases (ofField_of_ne_between (.inl hcolumn) (ne_between_of_ordering hop)).symm.trans hp
  rw [hoperand, ofOperand, negated_of_ordering hop]
  show Truth.ofBool (row column).isNone = .holds ↔ _
  rw [Truth.ofBool_eq_holds_iff, Option.isNone_iff_eq_none]

theorem accepts_values_iff (hk : k.Orders) (hcolumn : e.hasColumn column = true)
    (hop : f.operator ∈ orderings) (hoperand : ∀ kind, f.operand ≠ .scalar (.null kind))
    {p : Predicate} (hp : ofField e o a item field column f = .ok p) :
    p.Accepts column k meaning row ↔ f.Met k o meaning (row column) := by
  have hslots := fun s hs => parameter_of_slot hp k row (Value.denoted meaning) (s := s) hs
  cases (ofField_of_ne_between (.inl hcolumn) (ne_between_of_ordering hop)).symm.trans hp
  rw [FieldValue.met_value_iff hop hoperand, Accepts,
    truth_ofOperand_of_ordering _ _ hop hoperand hslots, Truth.any_eq_holds_iff, List.mem_map]
  exact exists_congr fun v => and_congr_right fun _ => Operator.compared_holds_iff hk

/-- The predicate of a field accepts the rows that the order says. -/
theorem accepts_iff (hk : k.Orders) (hcolumn : e.hasColumn column = true) (hf : f.Ordered)
    {p : Predicate} (hp : ofField e o a item field column f = .ok p) :
    p.Accepts column k meaning row ↔ f.Met k o meaning (row column) := by
  rcases hf with hop | ⟨hop, low, high, hoperand⟩
  · by_cases hnull : ∃ kind, f.operand = .scalar (.null kind)
    · obtain ⟨kind, hoperand⟩ := hnull
      exact accepts_null_iff hcolumn hop hoperand hp
    · exact accepts_values_iff hk hcolumn hop (fun kind h => hnull ⟨kind, h⟩) hp
  · exact accepts_between_iff hk hcolumn hop hoperand hp

/-- A field of the order is not refused. -/
theorem exists_ofField (hcolumn : e.hasColumn column = true) (hf : f.Ordered) :
    ∃ p, ofField e o a item field column f = .ok p := by
  rcases hf with hop | ⟨hop, low, high, hoperand⟩
  · exact ⟨_, ofField_of_ne_between (.inl hcolumn) (ne_between_of_ordering hop)⟩
  · exact ⟨_, ofField_between hcolumn hop hoperand⟩

end Predicate

/-- The order of the bounds does not matter for a range. -/
theorem FieldValue.met_swap_iff (hf : f.operator = .between) (hg : g.operator = .between)
    (hflow : f.operand = .array [low, high]) (hglow : g.operand = .array [high, low])
    {y : Option α} : f.Met k o meaning y ↔ g.Met k o meaning y := by
  rw [met_between_iff hf hflow, met_between_iff hg hglow]
  constructor
  · rintro ⟨x, l, h, hx, hl, hh, hmin, hmax⟩
    exact ⟨x, h, l, hx, hh, hl, min_comm l h ▸ hmin, max_comm l h ▸ hmax⟩
  · rintro ⟨x, h, l, hx, hh, hl, hmin, hmax⟩
    exact ⟨x, l, h, hx, hl, hh, min_comm h l ▸ hmin, max_comm h l ▸ hmax⟩

end

/-- On a column of the entity, the comparisons, patterns and ranges ask for what the order of the
values says. -/
theorem asksInOrder {e : Entity} {o : Options} {a : Action} {item field : Nat} {column : String}
    (hcolumn : e.hasColumn column = true) : AsksInOrder e o a item field column where
  accepts f hf := by
    obtain ⟨p, hp⟩ := Predicate.exists_ofField hcolumn hf
    refine ⟨p, hp, ?_, Predicate.means_ofField hp⟩
    intro α _ k meaning row hk
    exact Predicate.accepts_iff hk hcolumn hf hp
  refuses f hop hoperand := Predicate.ofField_not_between hcolumn hop hoperand
  swaps f g low high hf hg hflow hglow := by
    have hford : f.Ordered := .inr ⟨hf, low, high, hflow⟩
    have hgord : g.Ordered := .inr ⟨hg, high, low, hglow⟩
    obtain ⟨p, hp⟩ := Predicate.exists_ofField hcolumn hford
    obtain ⟨q, hq⟩ := Predicate.exists_ofField hcolumn hgord
    refine ⟨p, q, hp, hq, Predicate.text_between_congr hcolumn hf hg hflow hglow hp hq, ?_⟩
    intro α _ k meaning row hk
    rw [Predicate.accepts_iff hk hcolumn hford hp, Predicate.accepts_iff hk hcolumn hgord hq]
    exact FieldValue.met_swap_iff hf hg hflow hglow

/-- Texts are escaped by an exclamation mark. -/
def escaping : Options := { likeEscape := some '!' }

/-- Keys from nine down to one and keys below three, a null or five, among the natural numbers;
names that start with one of two texts or a null; and a range with one bound, which is refused. -/
theorem asksInOrder_people :
    people.hasColumn "id" = true ∧ people.hasColumn "name" = true ∧
      (∃ p, Predicate.ofField people {} .find 0 0 "id" (.query (.between (.int 9) (.int 1))) =
          .ok p ∧
        ∀ n : Nat, p.Accepts "id" .naturals (fun v => (v.integer?.getD 0).toNat)
          (fun _ => some n) ↔ 1 ≤ n ∧ n ≤ 9) ∧
      (∃ p, Predicate.ofField people {} .find 0 0 "id"
          (.query (.compareAny .lt [.int 3, .null .int, .int 5])) = .ok p ∧
        ∀ n : Nat, p.Accepts "id" .naturals (fun v => (v.integer?.getD 0).toNat)
          (fun _ => some n) ↔ n < 3 ∨ n < 5) ∧
      (∃ p, Predicate.ofField people escaping .find 0 0 "name" (.query
          ((FieldQuery.compareAny .like [.string "an", .null .string, .string "b_"]).withMode
            .startsWith)) = .ok p ∧
        ∀ s : String, p.Accepts "name" .texts (fun v => v.toText.toOption.getD "")
          (fun _ => some s) ↔ "an".toList <+: s.toList ∨ "b_".toList <+: s.toList) ∧
      Predicate.ofField people {} .find 0 0 "id" (.query (.compareAny .between [.int 1])) =
        refuse "people" .find (.invalidBetween "id" 1) := by
  have hid : people.hasColumn "id" = true := by decide
  have hname : people.hasColumn "name" = true := by decide
  have hids : AsksInOrder people {} .find 0 0 "id" := asksInOrder hid
  have hnames : AsksInOrder people escaping .find 0 0 "name" := asksInOrder hname
  have hpassed : ∀ (p : Value → Prop) (v w : Value) (kind : Kind), v.isNull = false →
      w.isNull = false →
        ((∃ u ∈ [v, .null kind, w], u.isNull = false ∧ p u) ↔ p v ∨ p w) := by
    intro p v w kind hv hw
    have hnull : (Value.null kind).isNull = true := rfl
    simp [hv, hw, hnull]
  refine ⟨hid, hname, ?_, ?_, ?_, hids.refuses _ rfl (by rintro _ _ ⟨⟩)⟩
  · have hf : (FieldValue.query (.between (.int 9) (.int 1))).Ordered := .inr ⟨rfl, _, _, rfl⟩
    obtain ⟨p, hp, haccepts, _⟩ := hids.accepts _ hf
    refine ⟨p, hp, fun n => ?_⟩
    rw [haccepts Nat .naturals _ _ Collation.orders_naturals, FieldValue.met_between_iff rfl rfl]
    constructor
    · rintro ⟨x, l, h, hx, hl, hh, hmin, hmax⟩
      cases hx
      cases hl
      cases hh
      exact ⟨hmin, hmax⟩
    · rintro ⟨hmin, hmax⟩
      exact ⟨n, 9, 1, rfl, rfl, rfl, hmin, hmax⟩
  · obtain ⟨p, hp, haccepts, _⟩ := hids.accepts
      (.query (.compareAny .lt [.int 3, .null .int, .int 5])) (.inl (by decide))
    refine ⟨p, hp, fun n => ?_⟩
    rw [haccepts Nat .naturals _ _ Collation.orders_naturals,
      FieldValue.met_some_iff (by decide) (by rintro _ ⟨⟩)]
    exact hpassed _ (.int 3) (.int 5) .int rfl rfl
  · obtain ⟨p, hp, haccepts, _⟩ := hnames.accepts
      (.query ((FieldQuery.compareAny .like [.string "an", .null .string, .string "b_"]).withMode
            .startsWith)) (.inl (by decide))
    refine ⟨p, hp, fun s => ?_⟩
    have hlike : Collation.texts.like = likeMatches := rfl
    have hstarts : ∀ value, Collation.texts.like s (LikeMode.startsWith.pattern value (some '!'))
        (some '!') = true ↔ value.toList <+: s.toList := by
      intro value
      rw [hlike, LikeMode.likeMatches_pattern_iff (by decide) (by decide)]
      rfl
    rw [haccepts String .texts _ _ Collation.orders_texts,
      FieldValue.met_some_iff (by decide) (by rintro _ ⟨⟩), ← hstarts, ← hstarts]
    exact hpassed _ _ _ .string rfl rfl

end EntitySql
