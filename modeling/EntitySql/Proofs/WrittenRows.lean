import EntitySql.Proofs.Shapes
import EntitySql.Query.Insert
import EntitySql.Query.Update

/-!
# Written groups and rows

What is known of the groups that items are put into before they are written, and of the rows
that become of them: no group is empty, its columns are those of one of the items, and every row
has a cell for each column in order.  A row is written if every column has a single value, and it
holds what its item says of the columns of the group.

    g ∈ ShapeGroup.ofItems items → FromItems items g        (fromItems_of_mem_ofItems)
    Values.ofGroups table a row groups = .ok vs → v ∈ vs → v comes from some g in groups
                                                            (written_of_mem_ofGroups)
    every cell of vs holds what an item of some group has   (exists_cell_of_mem_ofGroups)
    (∃ vs, Values.ofGroups table a row groups = .ok vs) ↔
      no item of a group lacks a single value for a column  (exists_ofGroups_iff)
    what the rows of groups hold = what their items say, where the items have the columns of
      their groups                                          (records_ofGroups)
-/

namespace EntitySql

/-! ## Groups -/

/-- A group that some items make: it has an item, and its columns are those of one of them. -/
structure FromItems (items : List Item) (g : ShapeGroup) : Prop where
  nonempty : g.items ≠ []
  columns : ∃ i ∈ items, g.columns = i.sortedColumns

namespace ShapeGroup

/-- The groups of some items are made from them. -/
theorem fromItems_of_mem_ofItems {items : List Item} {g : ShapeGroup} (hg : g ∈ ofItems items) :
    FromItems items g := by
  obtain ⟨i, hi, hmem, hcolumns, _⟩ := exists_first hg
  exact ⟨List.ne_nil_of_mem hmem, i, hi, hcolumns⟩

/-- The pieces of a group have its columns, and an item each. -/
theorem fromItems_split {items : List Item} {g piece : ShapeGroup} (hg : FromItems items g)
    {size : Nat} (h : piece ∈ g.split size) : FromItems items piece := by
  obtain ⟨chunk, hchunk, rfl⟩ := List.mem_map.1 h
  exact ⟨(mem_chunks hchunk).1, hg.columns⟩

end ShapeGroup

theorem Item.sortedColumns_ne_nil {i : Item} (h : i.isEmpty = false) : i.sortedColumns ≠ [] := by
  intro hnil
  have hperm := Text.sortNames_perm i.columns
  rw [show Text.sortNames i.columns = [] from hnil] at hperm
  have hentries : i.entries = [] := List.map_eq_nil_iff.1 hperm.nil_eq.symm
  rw [isEmpty, hentries] at h
  cases h

/-! ## Rows -/

/-- The rows of a statement as a group gives them. -/
structure Written (g : ShapeGroup) (v : Values) : Prop where
  columns : v.columns = g.columns
  length : v.rows.length = g.items.length
  cells : ∀ row ∈ v.rows, row.map (·.column) = v.columns

theorem Written.rows_ne_nil {g : ShapeGroup} {v : Values} (h : Written g v) (hg : g.items ≠ []) :
    v.rows ≠ [] := by
  intro hnil
  have hlength := h.length
  rw [hnil] at hlength
  exact hg (List.eq_nil_of_length_eq_zero hlength.symm)

theorem columns_cellsFrom {row place : Nat} {i : Item} {columns : List String} {ps : Params}
    (h : cellsFrom row i place columns = (ps, none)) : ps.map (·.column) = columns := by
  induction columns generalizing place ps with
  | nil =>
    cases h
    rfl
  | cons column rest ih =>
    rw [cellsFrom] at h
    split at h
    · cases h
    · next v hv =>
      obtain ⟨hps, hrefused⟩ := Prod.mk.inj h
      have hrest := ih (Prod.ext rfl hrefused : cellsFrom row i (place + 1) rest = (_, none))
      rw [← hps, List.map_cons, hrest]

theorem cellsFrom_of_cells {table : String} {action : Action} {row : Nat} {columns : List String}
    {i : Item} {ps : Params} (h : cells table action row columns i = .ok ps) :
    cellsFrom row i 0 columns = (ps, none) := by
  unfold cells at h
  split at h
  · next hcells =>
    cases h
    exact hcells
  · cases h

/-- The first column without a single value is the one that is refused. -/
theorem refused_cellsFrom (row place : Nat) (i : Item) (columns : List String) :
    (cellsFrom row i place columns).2 = columns.find? fun c => (i.cell? c).isNone := by
  induction columns generalizing place with
  | nil => rfl
  | cons column rest ih =>
    rw [cellsFrom, List.find?_cons]
    cases hcell : i.cell? column with
    | none => rfl
    | some v => exact ih (place + 1)

/-- A row is written unless a column has no single value. -/
theorem exists_cells_iff {table : String} {action : Action} {row : Nat} {columns : List String}
    {i : Item} :
    (∃ ps, cells table action row columns i = .ok ps) ↔ ∀ c ∈ columns, i.cell? c ≠ none := by
  have hrefused := refused_cellsFrom row 0 i columns
  have hfind : columns.find? (fun c => (i.cell? c).isNone) = none ↔
      ∀ c ∈ columns, i.cell? c ≠ none := by
    simp [List.find?_eq_none]
  rw [← hfind, ← hrefused]
  unfold cells
  constructor
  · rintro ⟨ps, h⟩
    split at h
    · next hcells => rw [hcells]
    · cases h
  · intro hnone
    split
    · next ps hcells => exact ⟨ps, rfl⟩
    · next column hcells =>
      rw [hcells] at hnone
      cases hnone

/-- The rows of all groups are written unless a column of a group has no single value. -/
theorem Values.exists_ofGroups_iff {table : String} {action : Action} {row : Nat}
    {groups : List ShapeGroup} :
    (∃ vs, ofGroups table action row groups = .ok vs) ↔
      ∀ g ∈ groups, ∀ i ∈ g.items, ∀ c ∈ g.columns, i.cell? c ≠ none := by
  induction groups generalizing row with
  | nil => exact ⟨fun _ g hg => by simp at hg, fun _ => ⟨[], rfl⟩⟩
  | cons g rest ih =>
    have hrows : (∃ rows, (g.items.zipIdx row).mapM (fun p =>
        cells table action p.2 g.columns p.1) = .ok rows) ↔
        ∀ i ∈ g.items, ∀ c ∈ g.columns, i.cell? c ≠ none := by
      rw [Outcome.exists_mapM_iff]
      constructor
      · intro h i hi
        have hfst : i ∈ (g.items.zipIdx row).map Prod.fst := by rwa [List.zipIdx_map_fst]
        obtain ⟨⟨j, n⟩, hj, rfl⟩ := List.mem_map.1 hfst
        exact exists_cells_iff.1 (h (j, n) hj)
      · rintro h ⟨i, n⟩ hi
        exact exists_cells_iff.2 (h i (List.fst_mem_of_mem_zipIdx hi))
    have hrest : (∃ vs, ofGroups table action (row + g.items.length) rest = .ok vs) ↔
        ∀ h ∈ rest, ∀ i ∈ h.items, ∀ c ∈ h.columns, i.cell? c ≠ none := ih
    rw [List.forall_mem_cons, ← hrows, ← hrest]
    constructor
    · rintro ⟨vs, h⟩
      obtain ⟨rows, hrows, h⟩ := Outcome.bind_eq_ok_iff.1 h
      obtain ⟨others, hothers, _⟩ := Outcome.bind_eq_ok_iff.1 h
      exact ⟨⟨rows, hrows⟩, others, hothers⟩
    · rintro ⟨⟨rows, hrows⟩, others, hothers⟩
      refine ⟨⟨g.columns, rows⟩ :: others, Outcome.bind_eq_ok_iff.2 ⟨rows, hrows, ?_⟩⟩
      exact Outcome.bind_eq_ok_iff.2 ⟨others, hothers, rfl⟩

/-- The rows of every statement come from a group. -/
theorem Values.written_of_mem_ofGroups {table : String} {action : Action} {row : Nat}
    {groups : List ShapeGroup} {vs : List Values} (h : ofGroups table action row groups = .ok vs)
    {v : Values} (hv : v ∈ vs) : ∃ g ∈ groups, Written g v := by
  induction groups generalizing row vs with
  | nil =>
    cases h
    simp at hv
  | cons g rest ih =>
    obtain ⟨rows, hrows, h⟩ := Outcome.bind_eq_ok_iff.1 h
    obtain ⟨others, hothers, h⟩ := Outcome.bind_eq_ok_iff.1 h
    cases h
    rcases List.mem_cons.1 hv with rfl | hv
    · refine ⟨g, List.mem_cons_self, rfl, ?_, fun row hrow => ?_⟩
      · have hlength := congrArg List.length (Outcome.mapM_eq_ok_iff.1 hrows)
        simpa using hlength.symm
      · obtain ⟨⟨i, n⟩, _, hcells⟩ := Outcome.mem_of_mapM hrows hrow
        exact columns_cellsFrom (cellsFrom_of_cells hcells)
    · obtain ⟨k, hk, hwritten⟩ := ih hothers hv
      exact ⟨k, List.mem_cons_of_mem g hk, hwritten⟩

theorem cell?_of_mem_cellsFrom {row place : Nat} {i : Item} {columns : List String} {p : Param}
    (h : p ∈ (cellsFrom row i place columns).1) : i.cell? p.column = some p.value := by
  induction columns generalizing place with
  | nil => cases h
  | cons column rest ih =>
    rw [cellsFrom] at h
    split at h
    · cases h
    · next v hv =>
      rcases List.mem_cons.1 h with rfl | h
      · exact hv
      · exact ih h

/-- Every cell that is written holds what an item of some group has for its column. -/
theorem Values.exists_cell_of_mem_ofGroups {table : String} {action : Action} {row : Nat}
    {groups : List ShapeGroup} {vs : List Values} (h : ofGroups table action row groups = .ok vs)
    {p : Param} (hp : p ∈ vs.flatMap Values.params) :
    ∃ g ∈ groups, ∃ i ∈ g.items, i.cell? p.column = some p.value := by
  induction groups generalizing row vs with
  | nil =>
    cases h
    cases hp
  | cons g rest ih =>
    obtain ⟨rows, hrows, h⟩ := Outcome.bind_eq_ok_iff.1 h
    obtain ⟨others, hothers, h⟩ := Outcome.bind_eq_ok_iff.1 h
    cases h
    rw [List.flatMap_cons, List.mem_append] at hp
    rcases hp with hp | hp
    · obtain ⟨ps, hps, hp⟩ := List.mem_flatten.1 hp
      obtain ⟨⟨i, n⟩, hi, hcells⟩ := Outcome.mem_of_mapM hrows hps
      have hmem : p ∈ (cellsFrom n i 0 g.columns).1 := by
        rw [cellsFrom_of_cells hcells]
        exact hp
      exact ⟨g, List.mem_cons_self, i, List.fst_mem_of_mem_zipIdx hi, cell?_of_mem_cellsFrom hmem⟩
    · obtain ⟨k, hk, hcell⟩ := ih hothers hp
      exact ⟨k, List.mem_cons_of_mem g hk, hcell⟩

/-! ## Records -/

/-- Columns, each with what is said of it or written into it. -/
abbrev Record := List (String × Option FieldValue)

/-- What an item says of its columns, these in ascending order. -/
def Item.record (i : Item) : Record := i.sortedColumns.map fun c => (c, i.get? c)

/-- What the cells of a row write into their columns. -/
def Params.record (ps : Params) : Record := ps.map fun p => (p.column, some (.value p.value))

theorem Item.columns_record (i : Item) : i.record.map Prod.fst = i.sortedColumns := by
  rw [record, List.map_map]
  exact List.map_id _

/-- Without a column, an item says the same of all others. -/
theorem Item.record_erase (i : Item) (column : String) :
    (i.erase column).record = i.record.filter (·.1 ≠ column) := by
  have hcolumns : (i.erase column).columns = i.columns.filter (· ≠ column) := by
    rw [columns, columns, List.filter_map]
    rfl
  rw [record, record, sortedColumns, hcolumns, Text.sortNames_filter, ← sortedColumns,
    List.filter_map]
  refine List.map_congr_left fun c hc => ?_
  have hne : c ≠ column := by simpa using (List.mem_filter.1 hc).2
  rw [get?_erase_of_ne i hne]

theorem record_cellsFrom {row place : Nat} {i : Item} {columns : List String} {ps : Params}
    (hcolumns : ∀ c ∈ columns, c ∈ i.columns)
    (h : cellsFrom row i place columns = (ps, none)) :
    ps.record = columns.map fun c => (c, i.get? c) := by
  induction columns generalizing place ps with
  | nil =>
    cases h
    rfl
  | cons column rest ih =>
    obtain ⟨f, hf⟩ := Item.mem_columns_iff.1 (hcolumns column List.mem_cons_self)
    rw [cellsFrom] at h
    split at h
    · cases h
    · next v hv =>
      -- The column is there, so its cell is the value that the item has for it.
      have hvalue : i.get? column = some (.value v) := by
        rw [Item.cell?, hf] at hv
        rw [hf]
        cases f with
        | value w =>
          cases hv
          rfl
        | array vs => cases hv
        | query q => cases hv
      obtain ⟨hps, hrefused⟩ := Prod.mk.inj h
      have hrest := ih (fun c hc => hcolumns c (List.mem_cons_of_mem column hc))
        (Prod.ext rfl hrefused : cellsFrom row i (place + 1) rest = (_, none))
      rw [List.map_cons, hvalue, ← hrest, ← hps]
      rfl

/-- A row for the columns of an item writes what the item says, and nothing else. -/
theorem record_cells {table : String} {action : Action} {row : Nat} {columns : List String}
    {i : Item} {ps : Params} (hcolumns : columns = i.sortedColumns)
    (h : cells table action row columns i = .ok ps) : ps.record = i.record := by
  subst hcolumns
  exact record_cellsFrom (fun c hc => Item.mem_sortedColumns.1 hc) (cellsFrom_of_cells h)

/-- The rows of groups whose items have their columns write what the items say, in order. -/
theorem Values.records_ofGroups {table : String} {action : Action} {row : Nat}
    {groups : List ShapeGroup} (hgroups : ∀ g ∈ groups, ∀ i ∈ g.items, g.columns = i.sortedColumns)
    {vs : List Values} (h : ofGroups table action row groups = .ok vs) :
    (vs.flatMap Values.rows).map Params.record =
      (groups.flatMap (·.items)).map Item.record := by
  induction groups generalizing row vs with
  | nil =>
    cases h
    rfl
  | cons g rest ih =>
    obtain ⟨rows, hrows, h⟩ := Outcome.bind_eq_ok_iff.1 h
    obtain ⟨others, hothers, h⟩ := Outcome.bind_eq_ok_iff.1 h
    cases h
    have hfirst : rows.map Params.record =
        (g.items.zipIdx row).map fun p => p.1.record := by
      refine Outcome.map_of_mapM hrows fun p hp ps hcells => ?_
      exact record_cells (hgroups g List.mem_cons_self p.1 (List.fst_mem_of_mem_zipIdx hp)) hcells
    have hitems : ((g.items.zipIdx row).map fun p => p.1.record) = g.items.map Item.record := by
      rw [← List.zipIdx_map_fst row g.items, List.map_map, List.zipIdx_map_fst]
      rfl
    have hothers := ih (fun k hk => hgroups k (List.mem_cons_of_mem g hk)) hothers
    rw [List.flatMap_cons, List.flatMap_cons, List.map_append, List.map_append, hothers, hfirst,
      hitems]

end EntitySql
