import EntitySql.Proofs.AlikeFields
import EntitySql.Query.Insert
import EntitySql.Query.Update

/-!
# Rows of alike items

Alike items have the same columns, so they fall into alike groups, and of these become rows that
differ in nothing but the values of their parameters.

    Forall₂ (Item.Alike V) items others →
      Forall₂ (ShapeGroup.Alike V) (ofItems items) (ofItems others)              (alike_ofItems)
    Forall₂ (ShapeGroup.Alike V) groups others →
      Alike (Forall₂ Values.Alike) (the rows of groups) (those of others)        (alike_ofGroups)
-/

namespace EntitySql

open List (Forall₂)

variable {V : Value → Value → Prop}

/-! ## Entries -/

namespace Entries

variable {α β : Type} {R : α → β → Prop} {l : List (String × α)} {m : List (String × β)}

theorem rel_get? (h : Forall₂ (fun x y => x.1 = y.1 ∧ R x.2 y.2) l m) (key : String) :
    Option.Rel R (get? key l) (get? key m) := by
  induction h with
  | nil => exact .none
  | @cons x y l m hxy _ ih =>
    rw [get?_cons, get?_cons, hxy.1]
    split
    · exact .some hxy.2
    · exact ih

theorem rel_set (h : Forall₂ (fun x y => x.1 = y.1 ∧ R x.2 y.2) l m) (key : String) {a : α} {b : β}
    (hab : R a b) : Forall₂ (fun x y => x.1 = y.1 ∧ R x.2 y.2) (set key a l) (set key b m) := by
  induction h with
  | nil => exact .cons ⟨rfl, hab⟩ .nil
  | @cons x y l m hxy hrest ih =>
    obtain ⟨k, c⟩ := x
    obtain ⟨k', d⟩ := y
    obtain ⟨rfl, hcd⟩ := hxy
    by_cases hk : k = key
    · simp only [set, hk, if_true]
      exact .cons ⟨rfl, hab⟩ hrest
    · simp only [set, hk, if_false]
      exact .cons ⟨rfl, hcd⟩ ih

end Entries

/-! ## Items -/

namespace Item.Alike

variable {i j : Item} (h : i.Alike V j)

include h

theorem columns_eq : i.columns = j.columns := map_eq_of_forall₂ (h.imp fun _ _ hxy => hxy.1)

theorem sortedColumns_eq : i.sortedColumns = j.sortedColumns := by
  rw [sortedColumns, sortedColumns, h.columns_eq]

theorem shapeKey_eq : i.shapeKey = j.shapeKey := by
  rw [shapeKey, shapeKey, h.sortedColumns_eq]

theorem isEmpty_eq : i.isEmpty = j.isEmpty := by
  rw [isEmpty, isEmpty, Bool.eq_iff_iff, List.isEmpty_iff_length_eq_zero,
    List.isEmpty_iff_length_eq_zero, List.Forall₂.length_eq h]

theorem get? (column : String) : Option.Rel (FieldValue.Alike V) (i.get? column) (j.get? column) :=
  Entries.rel_get? h column

theorem erase (column : String) : (i.erase column).Alike V (j.erase column) :=
  forall₂_filter h fun _ _ hxy => congrArg (fun c => decide (c ≠ column)) hxy.1

theorem set (column : String) {f g : FieldValue} (hfg : f.Alike V g) :
    (i.set column f).Alike V (j.set column g) :=
  Entries.rel_set h column hfg

/-- Either both items have a single value for a column or neither. -/
theorem cell? (column : String) :
    Option.Rel (fun _ _ => True) (i.cell? column) (j.cell? column) := by
  have hget := h.get? column
  unfold Item.cell?
  generalize i.get? column = x, j.get? column = y at hget
  cases hget with
  | none => exact .some trivial
  | some hfields =>
    cases hfields with
    | value hnull h => exact .some trivial
    | array h => exact .none
    | query operator like h => exact .none

end Item.Alike

/-! ## Groups -/

/-- Two groups of one set of columns with alike items. -/
def ShapeGroup.Alike (V : Value → Value → Prop) (g k : ShapeGroup) : Prop :=
  g.columns = k.columns ∧ Forall₂ (Item.Alike V) g.items k.items

namespace ShapeGroup

theorem alike_insert {groups others : List (String × ShapeGroup)}
    (h : Forall₂ (fun x y => x.1 = y.1 ∧ x.2.Alike V y.2) groups others) (shape : String)
    {i j : Item} (hij : i.Alike V j) :
    Forall₂ (fun x y => x.1 = y.1 ∧ x.2.Alike V y.2) (insert shape i groups)
      (insert shape j others) := by
  induction h with
  | nil => exact .cons ⟨rfl, hij.sortedColumns_eq, .cons hij .nil⟩ .nil
  | @cons x y groups others hxy hrest ih =>
    obtain ⟨key, g⟩ := x
    obtain ⟨key', k⟩ := y
    obtain ⟨rfl, hcolumns, hitems⟩ := hxy
    by_cases hkey : key = shape
    · simp only [insert, hkey, if_true]
      exact .cons ⟨rfl, hcolumns, List.rel_append hitems (.cons hij .nil)⟩ hrest
    · simp only [insert, hkey, if_false]
      exact .cons ⟨rfl, hcolumns, hitems⟩ ih

theorem alike_ofItems {items others : List Item} (h : Forall₂ (Item.Alike V) items others) :
    Forall₂ (ShapeGroup.Alike V) (ofItems items) (ofItems others) := by
  have hgroups : Forall₂ (fun x y => x.1 = y.1 ∧ x.2.Alike V y.2)
      (items.foldl (fun groups i => insert i.shapeKey i groups) [])
      (others.foldl (fun groups i => insert i.shapeKey i groups) []) := by
    refine List.rel_foldl (fun groups groups' hgroups i j hij => ?_) .nil h
    rw [hij.shapeKey_eq]
    exact alike_insert hgroups j.shapeKey hij
  exact forall₂_map hgroups fun _ _ hxy => hxy.2

/-- Where a group is cut depends on the number of its items alone. -/
theorem Alike.split {g k : ShapeGroup} (h : g.Alike V k) (size : Nat) :
    Forall₂ (ShapeGroup.Alike V) (g.split size) (k.split size) :=
  forall₂_map (forall₂_chunks h.2 size) fun _ _ hitems => ⟨h.1, hitems⟩

end ShapeGroup

/-! ## Rows -/

theorem alike_cellsFrom (row : Nat) {i j : Item} (h : i.Alike V j) (place : Nat)
    (columns : List String) :
    Forall₂ Param.Alike (cellsFrom row i place columns).1 (cellsFrom row j place columns).1 ∧
      (cellsFrom row i place columns).2 = (cellsFrom row j place columns).2 := by
  induction columns generalizing place with
  | nil => exact ⟨.nil, rfl⟩
  | cons column rest ih =>
    have hcell := h.cell? column
    unfold cellsFrom
    generalize i.cell? column = x, j.cell? column = y at hcell
    cases hcell with
    | none => exact ⟨.nil, rfl⟩
    | some _ => exact ⟨.cons ⟨rfl, rfl⟩ (ih (place + 1)).1, (ih (place + 1)).2⟩

theorem alike_cells (table : String) (a : Action) (row : Nat) (columns : List String)
    {i j : Item} (h : i.Alike V j) :
    Outcome.Alike (Forall₂ Param.Alike) (cells table a row columns i)
      (cells table a row columns j) := by
  obtain ⟨hparams, hrefused⟩ := alike_cellsFrom row h 0 columns
  unfold cells
  generalize cellsFrom row i 0 columns = x, cellsFrom row j 0 columns = y at hparams hrefused
  obtain ⟨ps, refused⟩ := x
  obtain ⟨qs, _⟩ := y
  cases hrefused
  cases refused with
  | none => exact .ok hparams
  | some column => exact .error _

/-- Two blocks of rows for the same columns, with parameters that are alike. -/
def Values.Alike (v w : Values) : Prop :=
  v.columns = w.columns ∧ Forall₂ (Forall₂ Param.Alike) v.rows w.rows

namespace Values

theorem alike_ofGroups {groups others : List ShapeGroup}
    (h : Forall₂ (ShapeGroup.Alike V) groups others) (table : String) (a : Action) (row : Nat) :
    Outcome.Alike (Forall₂ Alike) (ofGroups table a row groups) (ofGroups table a row others) := by
  induction h generalizing row with
  | nil => exact .ok .nil
  | @cons g k groups others hgk _ ih =>
    obtain ⟨hcolumns, hitems⟩ := hgk
    unfold ofGroups
    rw [hcolumns, hitems.length_eq]
    refine Outcome.Alike.bind (R := Forall₂ (Forall₂ Param.Alike))
      (.mapM (forall₂_zipIdx hitems row row) ?_) fun rows rows' hrows => ?_
    · rintro ⟨i, m⟩ ⟨j, n⟩ ⟨hij, d, rfl, rfl⟩
      exact alike_cells table a (row + d) k.columns hij
    · refine (ih (row + k.items.length)).bind fun vs ws hvw => ?_
      exact .ok (.cons ⟨rfl, hrows⟩ hvw)

namespace Alike

variable {v w : Values} (h : v.Alike w)

include h

theorem params : Forall₂ Param.Alike v.params w.params := List.rel_flatten h.2

theorem columnsText_eq : v.columnsText = w.columnsText := by
  rw [columnsText, columnsText, h.1]

/-- The text of rows shows no more of their parameters than their names. -/
theorem rowsText_eq : v.rowsText = w.rowsText := by
  have hrows : v.rows.map rowText = w.rows.map rowText := by
    refine map_eq_of_forall₂ (h.2.imp fun row other hrow => ?_)
    have hmarkers : row.map Param.marker = other.map Param.marker :=
      map_eq_of_forall₂ (hrow.imp fun p q hpq => congrArg ("@" ++ ·) hpq.1)
    rw [rowText, rowText, hmarkers]
  rw [rowsText, rowsText, hrows]

end Alike

end Values

end EntitySql
