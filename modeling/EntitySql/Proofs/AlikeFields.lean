import EntitySql.Proofs.Alike
import EntitySql.Proofs.Membership

/-!
# Predicates of alike fields

Fields of one form whose values are related have predicates of one form whose slots are related.
The relation is left open.  If it asks only for nulls at the same places, the predicates differ in
nothing but values, and their texts are the same; if it asks for the same values, the predicates
differ in nothing but the names of their slots, and they mean the same.

    FieldValue.Alike V f g → Alike (Predicate.Alike S) (the predicate of f) (that of g)
                                                            (alike_ofField)
    p.Alike (same names) q → p.text = q.text                (Predicate.Alike.text_eq)
    p.Alike (same parameters) q → p.truth x = q.truth y     (Predicate.Alike.truth_eq)
    the same for all items of a condition                   (alike_ofItems)
    c.Alike (same values) d → c.truth x = d.truth y         (Condition.Alike.truth_eq)
-/

namespace EntitySql

open EntitySql.Sql
open List (Forall₂)

variable {V : Value → Value → Prop} {S T : Slot → Slot → Prop}

/-! ## Fields -/

/-- Two values that are related, both of them null or neither, or two lists of related values. -/
inductive Operand.Alike (V : Value → Value → Prop) : Operand → Operand → Prop
  | scalar {v w : Value} (hnull : v.isNull = w.isNull) (h : V v w) :
      Alike V (.scalar v) (.scalar w)
  | array {vs ws : List Value} (h : Forall₂ V vs ws) : Alike V (.array vs) (.array ws)

/-- Two fields of one form with operands that are alike. -/
inductive FieldValue.Alike (V : Value → Value → Prop) : FieldValue → FieldValue → Prop
  | value {v w : Value} (hnull : v.isNull = w.isNull) (h : V v w) : Alike V (.value v) (.value w)
  | array {vs ws : List Value} (h : Forall₂ V vs ws) : Alike V (.array vs) (.array ws)
  | query (operator : Operator) (like : Option LikeMode) {x y : Operand} (h : x.Alike V y) :
      Alike V (.query ⟨operator, x, like⟩) (.query ⟨operator, y, like⟩)

/-- Two items with fields that are alike, for the same columns in the same order. -/
def Item.Alike (V : Value → Value → Prop) (i j : Item) : Prop :=
  Forall₂ (fun x y => x.1 = y.1 ∧ x.2.Alike V y.2) i.entries j.entries

theorem Operand.Alike.values {x y : Operand} (h : x.Alike V y) : Forall₂ V x.values y.values := by
  cases h with
  | scalar hnull h => exact .cons h .nil
  | array h => exact h

theorem Operand.Alike.bounds? {x y : Operand} (h : x.Alike V y) :
    Option.Rel (fun p q => V p.1 q.1 ∧ V p.2 q.2) (Predicate.bounds? x) (Predicate.bounds? y) := by
  cases h with
  | scalar hnull h => exact .none
  | array h =>
    cases h with
    | nil => exact .none
    | cons hlow h =>
      cases h with
      | nil => exact .none
      | cons hhigh h =>
        cases h with
        | nil => exact .some ⟨hlow, hhigh⟩
        | cons _ _ => exact .none

theorem Operand.alike_refl (hV : ∀ v, V v v) (x : Operand) : x.Alike V x := by
  cases x with
  | scalar v => exact .scalar rfl (hV v)
  | array vs => exact .array (List.forall₂_same.2 fun v _ => hV v)

namespace FieldValue

theorem alike_refl (hV : ∀ v, V v v) (f : FieldValue) : f.Alike V f := by
  cases f with
  | value v => exact .value rfl (hV v)
  | array vs => exact .array (List.forall₂_same.2 fun v _ => hV v)
  | query q => exact .query q.operator q.like (Operand.alike_refl hV q.operand)

variable {f g : FieldValue}

theorem Alike.operator_eq (h : f.Alike V g) : f.operator = g.operator := by
  cases h <;> rfl

theorem Alike.likeMode?_eq (h : f.Alike V g) : f.likeMode? = g.likeMode? := by
  cases h <;> rfl

theorem Alike.operand (h : f.Alike V g) : f.operand.Alike V g.operand := by
  cases h with
  | value hnull h => exact .scalar hnull h
  | array h => exact .array h
  | query operator like h => exact h

end FieldValue

theorem Item.alike_refl (hV : ∀ v, V v v) (i : Item) : i.Alike V i :=
  List.forall₂_same.2 fun x _ => ⟨rfl, x.2.alike_refl hV⟩

/-! ## Predicates -/

namespace Predicate

/-- Two predicates of one form on one column, with slots that are related. -/
inductive Alike (S : Slot → Slot → Prop) : Predicate → Predicate → Prop
  | always (holds : Bool) : Alike S (.always holds) (.always holds)
  | null (column : String) (negated : Bool) : Alike S (.null column negated) (.null column negated)
  | compare (column : String) (operator : Operator) {slots others : List Slot}
      (h : Forall₂ S slots others) :
      Alike S (.compare column operator slots) (.compare column operator others)
  | like (column : String) (escape : Option Char) {slots others : List Slot}
      (h : Forall₂ S slots others) : Alike S (.like column slots escape) (.like column others escape)
  | between (column : String) {low high otherLow otherHigh : Slot} (hlow : S low otherLow)
      (hhigh : S high otherHigh) :
      Alike S (.between column low high) (.between column otherLow otherHigh)
  | member (column : String) (negated : Bool) {chunks others : List (List Slot)}
      (h : Forall₂ (Forall₂ S) chunks others) :
      Alike S (.member column negated chunks) (.member column negated others)

namespace Alike

variable {p q : Predicate}

theorem slots (h : p.Alike S q) : Forall₂ S p.slots q.slots := by
  cases h with
  | always holds => exact .nil
  | null column negated => exact .nil
  | compare column operator h => exact h
  | like column escape h => exact h
  | between column hlow hhigh => exact .cons hlow (.cons hhigh .nil)
  | member column negated h => exact List.rel_flatten h

theorem imp_mem (h : p.Alike S q) (hST : ∀ s ∈ p.slots, ∀ t ∈ q.slots, S s t → T s t) :
    p.Alike T q := by
  cases h with
  | always holds => exact .always holds
  | null column negated => exact .null column negated
  | compare column operator h => exact .compare column operator (forall₂_imp_mem h hST)
  | like column escape h => exact .like column escape (forall₂_imp_mem h hST)
  | between column hlow hhigh =>
    refine .between column (hST _ ?_ _ ?_ hlow) (hST _ ?_ _ ?_ hhigh) <;> simp [Predicate.slots]
  | member column negated h =>
    refine .member column negated (forall₂_imp_mem h fun chunk hchunk other hother hslots => ?_)
    refine forall₂_imp_mem hslots fun s hs t ht => hST s ?_ t ?_
    · exact List.mem_flatten.2 ⟨chunk, hchunk, hs⟩
    · exact List.mem_flatten.2 ⟨other, hother, ht⟩

/-- A predicate shows no more of its slots than their names. -/
theorem text_eq (h : p.Alike (fun s t => s.name = t.name) q) : p.text = q.text := by
  have hcompare : ∀ (column : String) (operator : Operator) (s t : Slot), s.name = t.name →
      compareText column operator s = compareText column operator t := by
    intro column operator s t hst
    rw [compareText, compareText, Slot.marker, Slot.marker, hst]
  cases h with
  | always holds => rfl
  | null column negated => rfl
  | compare column operator h =>
    exact congrArg (joined (joiner operator.negated))
      (map_eq_of_forall₂ (h.imp fun s t hst => hcompare column operator s t hst))
  | like column escape h =>
    refine congrArg (joined (joiner false)) (map_eq_of_forall₂ (h.imp fun s t hst => ?_))
    rw [hcompare column .like s t hst]
  | between column hlow hhigh => rw [text, text, Slot.marker, Slot.marker, hlow, hhigh]; rfl
  | member column negated h =>
    refine congrArg (joined (joiner negated))
      (map_eq_of_forall₂ (h.imp fun chunk other hslots => ?_))
    have hmarkers : chunk.map Slot.marker = other.map Slot.marker :=
      map_eq_of_forall₂ (hslots.imp fun s t hst => congrArg ("@" ++ ·) hst)
    rw [memberText, memberText, hmarkers]

/-- A predicate means no more than the values of its parameters do. -/
theorem truth_eq {α : Type} {x y : Context α} (hcollation : x.collation = y.collation)
    (hrow : x.row = y.row) (h : p.Alike (fun s t => x.parameter s.name = y.parameter t.name) q) :
    p.truth x = q.truth y := by
  have hmap : ∀ (g : Option α → Truth) {slots others : List Slot},
      Forall₂ (fun s t => x.parameter s.name = y.parameter t.name) slots others →
        slots.map (fun s => g (x.parameter s.name)) = others.map (fun t => g (y.parameter t.name)) :=
    fun g _ _ h => map_eq_of_forall₂ (h.imp fun s t hst => congrArg g hst)
  cases h with
  | always holds => rfl
  | null column negated => rw [truth, truth, hrow]
  | compare column operator h =>
    rw [truth, truth, hcollation, hrow]
    exact congrArg _ (hmap _ h)
  | like column escape h =>
    rw [truth, truth, hcollation, hrow]
    exact congrArg _ (hmap _ h)
  | between column hlow hhigh => rw [truth, truth, hcollation, hrow, hlow, hhigh]
  | member column negated h =>
    rw [truth, truth, hcollation, hrow]
    exact congrArg _ (hmap _ (List.rel_flatten h))

end Alike

/-! ### Slots of operands -/

/-- Slots of related values are related when they are named alike behind the two bases. -/
def Names (S : Slot → Slot → Prop) (V : Value → Value → Prop) (base other : String) : Prop :=
  ∀ suffix v w, V v w → S ⟨base ++ suffix, v⟩ ⟨other ++ suffix, w⟩

section

variable {base other : String} (hnames : Names S V base other)

include hnames

theorem Names.append (suffix : String) : Names S V (base ++ suffix) (other ++ suffix) := by
  intro rest v w h
  rw [String.append_assoc, String.append_assoc]
  exact hnames _ v w h

theorem alike_numbered {vs ws : List Value} (h : Forall₂ V vs ws) :
    Forall₂ S (numbered base vs) (numbered other ws) := by
  refine forall₂_map (forall₂_zipIdx h 0 0) ?_
  rintro ⟨v, i⟩ ⟨w, j⟩ ⟨hvw, n, rfl, rfl⟩
  have hslots := hnames ("_" ++ toString (0 + n)) v w hvw
  simp only [← String.append_assoc] at hslots
  exact hslots

theorem alike_slotsOf {x y : Operand} (h : x.Alike V y) :
    Forall₂ S (slotsOf base x) (slotsOf other y) := by
  cases h with
  | scalar hnull h =>
    have hslot := hnames "" _ _ h
    rw [String.append_empty, String.append_empty] at hslot
    exact .cons hslot .nil
  | array h => exact alike_numbered hnames h

theorem alike_chunkSlots (size : Nat) {vs ws : List Value} (h : Forall₂ V vs ws) :
    Forall₂ (Forall₂ S) (chunkSlots base size vs) (chunkSlots other size ws) := by
  refine forall₂_map (forall₂_zipIdx (forall₂_chunks h size) 0 0) ?_
  rintro ⟨chunk, i⟩ ⟨others, j⟩ ⟨hvalues, n, rfl, rfl⟩
  have hchunk := alike_numbered (hnames.append ("_" ++ toString (0 + n))) hvalues
  simp only [← String.append_assoc] at hchunk
  exact hchunk

/-! ### Predicates of fields -/

variable {e : Entity} {o : Options} {a : Action} {column : String}
  (hV : ∀ mode escape v w, V v w → V (patternOf mode escape v) (patternOf mode escape w))

include hV

theorem alike_ofValues (mode : LikeMode) (operator : Operator) {x y : Operand} (h : x.Alike V y) :
    (ofValues o base column mode operator x).Alike S (ofValues o other column mode operator y) := by
  have hpatterns : Forall₂ S (slotsOf base (patternOperand mode o.likeEscape x))
      (slotsOf other (patternOperand mode o.likeEscape y)) := by
    cases h with
    | @scalar v w hnull h =>
      have hslot := hnames "" _ _ (hV mode o.likeEscape v w h)
      rw [String.append_empty, String.append_empty] at hslot
      exact .cons hslot .nil
    | array h => exact alike_numbered hnames (forall₂_map h (hV mode o.likeEscape))
  have hslots := alike_slotsOf hnames h
  cases operator with
  | in_ => exact .member column false (alike_chunkSlots hnames o.chunkSize h.values)
  | notIn => exact .member column true (alike_chunkSlots hnames o.chunkSize h.values)
  | like => exact .like column o.likeEscape hpatterns
  | eq => exact .compare column .eq hslots
  | ne => exact .compare column .ne hslots
  | lt => exact .compare column .lt hslots
  | lte => exact .compare column .lte hslots
  | gt => exact .compare column .gt hslots
  | gte => exact .compare column .gte hslots
  | between => exact .compare column .between hslots

theorem alike_ofOperand (mode : LikeMode) (operator : Operator) {x y : Operand}
    (h : x.Alike V y) :
    (ofOperand o base column mode operator x).Alike S
      (ofOperand o other column mode operator y) := by
  have hvalues : (ofValues o base column mode operator x).Alike S
      (ofValues o other column mode operator y) := alike_ofValues hnames hV mode operator h
  cases h with
  | @scalar v w hnull h =>
    cases hv : v.isNull with
    | true =>
      obtain ⟨k, rfl⟩ := Value.isNull_iff.1 hv
      obtain ⟨l, rfl⟩ := Value.isNull_iff.1 (hnull ▸ hv)
      exact .null column operator.negated
    | false =>
      have hpresent : ∀ u : Value, u.isNull = false →
          ∀ kind, Operand.scalar u ≠ .scalar (.null kind) := by
        rintro u hu kind ⟨⟩
        cases hu
      rw [ofOperand_of_values (hpresent v hv) (List.cons_ne_nil v []),
        ofOperand_of_values (hpresent w (hnull ▸ hv)) (List.cons_ne_nil w [])]
      exact hvalues
  | array h =>
    cases h with
    | nil => exact .always operator.negated
    | cons _ _ => exact hvalues

theorem alike_ofUsable {f g : FieldValue} (h : f.Alike V g) :
    Outcome.Alike (Alike S) (ofUsable e o a base column f) (ofUsable e o a other column g) := by
  have hoperand := h.operand
  have hlength : f.values.length = g.values.length := hoperand.values.length_eq
  unfold ofUsable
  rw [h.operator_eq, h.likeMode?_eq, hlength]
  split
  · have hbounds := hoperand.bounds?
    generalize bounds? f.operand = x, bounds? g.operand = y at hbounds
    cases hbounds with
    | none => exact .error _
    | some h => exact .ok (.between column (hnames "_0" _ _ h.1) (hnames "_1" _ _ h.2))
  · exact .ok (alike_ofOperand hnames hV _ _ hoperand)

omit hnames in
/-- The predicates of two alike fields of one column are alike. -/
theorem alike_ofField {item field otherItem otherField : Nat}
    (hnames : Names S V (baseName item field) (baseName otherItem otherField)) {f g : FieldValue}
    (h : f.Alike V g) :
    Outcome.Alike (Alike S) (ofField e o a item field column f)
      (ofField e o a otherItem otherField column g) := by
  have husable : Outcome.Alike (Alike S) (ofUsable e o a (baseName item field) column f)
      (ofUsable e o a (baseName otherItem otherField) column g) := alike_ofUsable hnames hV h
  unfold ofField
  split
  · exact husable
  · split
    · exact .ok (.always true)
    · exact .error _
    · exact husable

end

end Predicate

/-! ## Conditions -/

def Param.Alike (p q : Param) : Prop := p.name = q.name ∧ p.column = q.column

def FieldPredicate.Alike (S : Slot → Slot → Prop) (p q : FieldPredicate) : Prop :=
  p.column = q.column ∧ p.predicate.Alike S q.predicate

/-- The parameter of a slot of a condition. -/
theorem Condition.mem_params {c : Condition} {g : List FieldPredicate} (hg : g ∈ c)
    {p : FieldPredicate} (hp : p ∈ g) {s : Slot} (hs : s ∈ p.predicate.slots) :
    ⟨s.name, s.value, p.column⟩ ∈ c.params :=
  List.mem_flatMap.2 ⟨g, hg, List.mem_flatMap.2 ⟨p, hp, List.mem_map_of_mem hs⟩⟩

/-- The condition on items that are numbered from a place on. -/
def Condition.ofItemsFrom (e : Entity) (o : Options) (a : Action) (start : Nat)
    (items : List Item) : Except Error Condition :=
  (items.zipIdx start).mapM fun (i, item) => ofItem e o a i item

theorem Condition.ofItems_eq (e : Entity) (o : Options) (a : Action) (items : List Item) :
    ofItems e o a items = ofItemsFrom e o a 0 items :=
  rfl

/-- Two conditions whose predicates are alike, place by place. -/
def Condition.Alike (S : Slot → Slot → Prop) (c d : Condition) : Prop :=
  Forall₂ (Forall₂ (FieldPredicate.Alike S)) c d

namespace Condition

section

variable {e : Entity} {o : Options} {a : Action}
  (hV : ∀ mode escape v w, V v w →
    V (Predicate.patternOf mode escape v) (Predicate.patternOf mode escape w))

include hV

theorem alike_ofItem {item other : Nat}
    (hnames : ∀ field, Predicate.Names S V (Predicate.baseName item field)
      (Predicate.baseName other field)) {i j : Item} (h : i.Alike V j) :
    Outcome.Alike (Forall₂ (FieldPredicate.Alike S)) (ofItem e o a i item)
      (ofItem e o a j other) := by
  refine .mapM (forall₂_zipIdx h 0 0) ?_
  rintro ⟨⟨column, f⟩, k⟩ ⟨⟨_, g⟩, l⟩ ⟨⟨rfl, hfields⟩, n, rfl, rfl⟩
  refine (Predicate.alike_ofField hV (hnames (0 + n)) hfields).map ?_
  exact fun p q hpq => ⟨rfl, hpq⟩

/-- The conditions on alike items are alike, wherever they are numbered from. -/
theorem alike_ofItems {start other : Nat}
    (hnames : ∀ n field, Predicate.Names S V (Predicate.baseName (start + n) field)
      (Predicate.baseName (other + n) field)) {items others : List Item}
    (h : Forall₂ (Item.Alike V) items others) :
    Outcome.Alike (Alike S) (ofItemsFrom e o a start items) (ofItemsFrom e o a other others) := by
  refine .mapM (forall₂_zipIdx h start other) ?_
  rintro ⟨i, k⟩ ⟨j, l⟩ ⟨hij, n, rfl, rfl⟩
  exact alike_ofItem hV (hnames n) hij

end

namespace Alike

variable {c d : Condition}

/-- The text of a condition shows no more of its slots than their names. -/
theorem text?_eq (h : c.Alike (fun s t => s.name = t.name) d) : c.text? = d.text? := by
  refine congrArg Sql.alternatives (map_eq_of_forall₂ (h.imp fun g k hgk => ?_))
  exact map_eq_of_forall₂ (hgk.imp fun p q hpq => hpq.2.text_eq)

theorem params (h : c.Alike (fun s t => s.name = t.name) d) :
    Forall₂ Param.Alike c.params d.params := by
  refine List.rel_flatMap h fun g k hgk => List.rel_flatMap hgk fun p q hpq => ?_
  exact forall₂_map hpq.2.slots fun s t hst => ⟨hst, hpq.1⟩

/-- A condition means no more than the values that its slots carry. -/
theorem truth_eq (h : c.Alike (fun s t => s.value = t.value) d) {α : Type} {x y : Context α}
    (hcollation : x.collation = y.collation) (hrow : x.row = y.row) {denote : Value → Option α}
    (hx : ∀ p ∈ c.params, x.parameter p.name = denote p.value)
    (hy : ∀ p ∈ d.params, y.parameter p.name = denote p.value) : c.truth x = d.truth y := by
  refine congrArg Truth.any (map_eq_of_forall₂ (forall₂_imp_mem h fun g hg k hk hgk => ?_))
  refine congrArg Truth.all (map_eq_of_forall₂ (forall₂_imp_mem hgk fun p hp q hq hpq => ?_))
  refine (hpq.2.imp_mem fun s hs t ht hst => ?_).truth_eq hcollation hrow
  rw [hx _ (mem_params hg hp hs), hy _ (mem_params hk hq ht), hst]

end Alike

end Condition

end EntitySql
