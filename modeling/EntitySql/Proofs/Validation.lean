import EntitySql.Call
import EntitySql.Outcome

/-!
# What the validation lets pass

The validation drops bare nulls and what is left empty by that, and looks at every value of every
field that is kept.  Whether it lets an item pass does not depend on the items around it.

    c.validate items = .ok kept ↔ kept = presentItems items, with the key where it is needed, and
      no field of kept has a fault                          (validate_eq_ok_iff)
    c.validate xs = .ok ks → c.validate ys = .ok ls →
      c.validate (xs ++ ys) = .ok (ks ++ ls)                (validate_append)
    c.validate items = .ok kept → the values of kept are of the types of their columns, patterns
      aside                                                 (fits_of_validate)
-/

namespace EntitySql

/-! ## Items that are kept -/

theorem presentItems_append (xs ys : List Item) :
    presentItems (xs ++ ys) = presentItems xs ++ presentItems ys := by
  rw [presentItems, List.map_append, List.filter_append]
  rfl

namespace Call

/-- No declared column refuses a field of the item. -/
def Admits (c : Call) (i : Item) : Prop :=
  ∀ entry ∈ i.entries, ∀ column, c.entity.column? entry.1 = some column →
    c.fieldFault? column entry.2 = none

theorem violations_eq_nil_iff {c : Call} {i : Item} {place : Nat} :
    c.violations i place = [] ↔ c.Admits i := by
  rw [violations, List.filterMap_eq_nil_iff]
  refine forall₂_congr fun entry _ => ?_
  cases hcolumn : c.entity.column? entry.1 <;> simp [hcolumn]

/-- No item has a violation at its place just if each of them passes. -/
theorem forall_violations_eq_nil_iff {c : Call} {items : List Item} :
    (∀ p ∈ items.zipIdx, c.violations p.1 p.2 = []) ↔ ∀ i ∈ items, c.Admits i := by
  constructor
  · intro h i hi
    obtain ⟨place, hplace, rfl⟩ := List.getElem_of_mem hi
    have hmem : (items[place], place) ∈ items.zipIdx :=
      List.mk_mem_zipIdx_iff_getElem?.2 (List.getElem?_eq_getElem hplace)
    exact violations_eq_nil_iff.1 (h _ hmem)
  · intro h p hp
    exact violations_eq_nil_iff.2 (h p.1 (List.fst_mem_of_mem_zipIdx hp))

/-- The validation fails for a missing key or a fault and for nothing else. -/
theorem validate_eq_ok_iff {c : Call} {items kept : List Item} :
    c.validate items = .ok kept ↔ kept = presentItems items ∧
      (c.needsKey = true → ∀ i ∈ kept, i.contains c.key = true) ∧ ∀ i ∈ kept, c.Admits i := by
  have hkeys : (c.needsKey && (presentItems items).any (!·.contains c.key)) = false ↔
      (c.needsKey = true → ∀ i ∈ presentItems items, i.contains c.key = true) := by
    cases c.needsKey <;> simp
  unfold validate
  dsimp only
  constructor
  · intro h
    split at h
    · cases h
    next hkey =>
    split at h
    · next hnone =>
      cases h
      refine ⟨rfl, hkeys.1 (by simpa using hkey), forall_violations_eq_nil_iff.1 fun p hp => ?_⟩
      exact List.flatMap_eq_nil_iff.1 hnone p hp
    · cases h
  · rintro ⟨rfl, hkey, hadmits⟩
    rw [hkeys.2 hkey, if_neg Bool.false_ne_true]
    split
    · rfl
    · next hsome =>
      refine absurd (List.flatMap_eq_nil_iff.2 fun p hp => ?_) hsome
      exact forall_violations_eq_nil_iff.2 hadmits p hp

/-- What passes in two lists passes in both of them together. -/
theorem validate_append {c : Call} {xs ys ks ls : List Item} (hx : c.validate xs = .ok ks)
    (hy : c.validate ys = .ok ls) : c.validate (xs ++ ys) = .ok (ks ++ ls) := by
  obtain ⟨rfl, hxkey, hxadmits⟩ := validate_eq_ok_iff.1 hx
  obtain ⟨rfl, hykey, hyadmits⟩ := validate_eq_ok_iff.1 hy
  refine validate_eq_ok_iff.2 ⟨(presentItems_append xs ys).symm, fun hkey i hi => ?_, fun i hi => ?_⟩
  · exact (List.mem_append.1 hi).elim (hxkey hkey i) (hykey hkey i)
  · exact (List.mem_append.1 hi).elim (hxadmits i) (hyadmits i)

end Call

/-! ## Types of values -/

/-- The value is of the storage type of the column, if the column has one. -/
def Entity.Fits (e : Entity) (column : String) (v : Value) : Prop :=
  ∀ t, e.sqlType? column = some t → ∃ d, t.bind v = .ok d

theorem Entity.fits_of_isNull {e : Entity} {column : String} {v : Value} (h : v.isNull = true) :
    e.Fits column v := by
  obtain ⟨k, rfl⟩ := Value.isNull_iff.1 h
  exact fun t _ => ⟨_, t.bind_null k⟩

/-- A column that accepts a value by its type can be sent it. -/
theorem Column.bind_of_validate {c : Column} {v : Value} (hnull : v.isNull = false)
    (h : c.validate v true = .ok ()) {t : SqlType} (ht : c.sqlType = some t) :
    ∃ d, t.bind v = .ok d := by
  rw [validate, hnull] at h
  obtain ⟨_, htype, _⟩ := Outcome.bind_eq_ok_iff.1 h
  unfold checkType at htype
  rw [ht] at htype
  dsimp only at htype
  split at htype
  · next d hd => exact ⟨d, hd⟩
  · cases htype

/-- A value without a fault is of the type of its column, unless it becomes a pattern. -/
theorem Call.fits_of_valueFault? {c : Call} {name : String} {operator : Operator} {v : Value}
    (hop : operator ≠ .like)
    (h : ∀ column, c.entity.column? name = some column → c.valueFault? column operator v = none) :
    c.entity.Fits name v := by
  cases hnull : v.isNull with
  | true => exact Entity.fits_of_isNull hnull
  | false =>
    intro t ht
    obtain ⟨column, hcolumn, htype⟩ := Option.bind_eq_some_iff.1 ht
    have hfault := h column hcolumn
    rw [valueFault?, hnull, decide_eq_true hop, Bool.false_and, if_neg Bool.false_ne_true] at hfault
    split at hfault
    · next hok => exact column.bind_of_validate hnull hok htype
    · cases hfault

/-- Every value that the validation lets pass is of the type of its column, unless it becomes a
pattern. -/
theorem Call.fits_of_validate {c : Call} {items kept : List Item} (h : c.validate items = .ok kept)
    {i : Item} (hi : i ∈ kept) {column : String} {f : FieldValue} (hf : (column, f) ∈ i.entries)
    (hop : f.operator ≠ .like) {v : Value} (hv : v ∈ f.values) : c.entity.Fits column v := by
  obtain ⟨_, _, hadmits⟩ := validate_eq_ok_iff.1 h
  refine fits_of_valueFault? hop fun d hd => ?_
  exact List.findSome?_eq_none_iff.1 (hadmits i hi (column, f) hf d hd) v hv

end EntitySql
