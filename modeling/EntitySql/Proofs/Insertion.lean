import EntitySql.Proofs.ConditionText
import EntitySql.Proofs.Writing

/-!
# What an insert writes

An insert writes the items it is given, each of them once: without the identifier unless the
options keep it, and without the items that have no columns then.  Items are put into groups, the
groups are cut into pieces of bounded size and the columns of a piece are sorted, but read back
from the text nothing of that is left beside the order of the rows.

    the items that are inserted say what there is to write          (record_insertedItems)
    FaithfulRecords (insertions e o items) →
      the records of Query.insert e o items are the insertions of the items    (inserts_items)
-/

namespace EntitySql

open EntitySql.Sql

/-! ## Items that can be written -/

/-- Every column of the item has a single value. -/
def Item.IsPlain (i : Item) : Prop := ∀ c f, i.get? c = some f → ∃ v, f = .value v

theorem Item.isPlain_iff {i : Item} : i.IsPlain ↔ ∀ c ∈ i.columns, i.cell? c ≠ none := by
  have hcell : ∀ c f, i.get? c = some f → (i.cell? c ≠ none ↔ ∃ v, f = .value v) := by
    intro c f hf
    rw [cell?, hf]
    cases f with
    | value v => simp
    | array vs => simp
    | query q => simp
  constructor
  · intro h c hc
    obtain ⟨f, hf⟩ := mem_columns_iff.1 hc
    exact (hcell c f hf).2 (h c f hf)
  · intro h c f hf
    exact (hcell c f hf).1 (h c (mem_columns_iff.2 ⟨f, hf⟩))

/-! ## What there is to write -/

/-- What an insert has to write of an item: what the item says of its columns, but for the
identifier unless the options keep it. -/
def Item.insertion (e : Entity) (o : Options) (i : Item) : Record :=
  i.record.filter fun cell => o.insertIdentifier ∨ cell.1 ≠ e.identifier

/-- What an insert has to write of some items; those of which nothing is left are left out. -/
def insertions (e : Entity) (o : Options) (items : List Item) : List Record :=
  (items.map (Item.insertion e o)).filter (!·.isEmpty)

def Record.shape (r : Record) : String := ",".intercalate (r.map Prod.fst)

/-- Records that have one shape have the same columns. -/
def FaithfulRecords (records : List Record) : Prop :=
  ∀ r ∈ records, ∀ s ∈ records, Record.shape r = Record.shape s → r.map Prod.fst = s.map Prod.fst

instance (records : List Record) : Decidable (FaithfulRecords records) :=
  inferInstanceAs (Decidable (∀ r ∈ records, ∀ s ∈ records,
    Record.shape r = Record.shape s → r.map Prod.fst = s.map Prod.fst))

section

variable {e : Entity} {o : Options} {items : List Item}

theorem Item.isEmpty_record (i : Item) : i.record.isEmpty = i.isEmpty := by
  have hperm : i.sortedColumns.Perm i.columns := Text.sortNames_perm i.columns
  have hlength : i.record.length = i.entries.length := by
    rw [record, List.length_map, hperm.length_eq, columns, List.length_map]
  rw [Bool.eq_iff_iff, isEmpty, List.isEmpty_iff_length_eq_zero, List.isEmpty_iff_length_eq_zero,
    hlength]

/-- The items that are inserted say what there is to write, in their order. -/
theorem record_insertedItems (e : Entity) (o : Options) (items : List Item) :
    (insertedItems e o items).map Item.record = insertions e o items := by
  have hkept : ((if o.insertIdentifier then items else items.map (·.erase e.identifier)).map
      Item.record) = items.map (Item.insertion e o) := by
    by_cases ho : o.insertIdentifier = true
    · rw [if_pos ho]
      refine List.map_congr_left fun i _ => ?_
      simp [Item.insertion, ho]
    · rw [if_neg ho, List.map_map]
      refine List.map_congr_left fun i _ => ?_
      simp [Item.insertion, ho, Item.record_erase]
  rw [insertions, ← hkept, List.filter_map]
  refine congrArg (List.map Item.record) (List.filter_congr fun i _ => ?_)
  show (!i.isEmpty) = !i.record.isEmpty
  rw [Item.isEmpty_record]

theorem faithfulShapes_insertedItems (h : FaithfulRecords (insertions e o items)) :
    FaithfulShapes (insertedItems e o items) := by
  have hrecord : ∀ i ∈ insertedItems e o items, i.record ∈ insertions e o items := fun i hi =>
    record_insertedItems e o items ▸ List.mem_map_of_mem hi
  intro i hi j hj hshape
  have hcolumns := h i.record (hrecord i hi) j.record (hrecord j hj)
  rw [Record.shape, Record.shape, i.columns_record, j.columns_record] at hcolumns
  exact Item.sortedColumns_eq_iff.1 (hcolumns hshape)

/-- What an inserted item has for a column is what one of the items has, where the column is not an
identifier that is left out. -/
theorem exists_insertedItems_iff {c : String} {f : FieldValue} :
    (∃ i ∈ insertedItems e o items, i.get? c = some f) ↔
      (o.insertIdentifier = true ∨ c ≠ e.identifier) ∧ ∃ i ∈ items, i.get? c = some f := by
  have hkeep : ∀ (l : List Item) (i : Item), i.get? c = some f →
      (i ∈ l.filter (!·.isEmpty) ↔ i ∈ l) := by
    intro l i hf
    rw [List.mem_filter, and_iff_left]
    obtain ⟨entries, _⟩ := i
    cases entries with
    | nil => cases hf
    | cons => rfl
  unfold insertedItems
  by_cases ho : o.insertIdentifier = true
  · rw [if_pos ho, and_iff_right (.inl ho)]
    exact exists_congr fun i => and_congr_left fun hf => hkeep items i hf
  · rw [if_neg ho, or_iff_right ho]
    constructor
    · rintro ⟨i, hi, hf⟩
      obtain ⟨j, hj, rfl⟩ := List.mem_map.1 ((hkeep _ i hf).1 hi)
      have hne : c ≠ e.identifier := by
        rintro rfl
        rw [Item.get?_erase_self] at hf
        cases hf
      exact ⟨hne, j, hj, Item.get?_erase_of_ne j hne ▸ hf⟩
    · rintro ⟨hne, j, hj, hf⟩
      rw [← Item.get?_erase_of_ne j hne] at hf
      exact ⟨_, (hkeep _ _ hf).2 (List.mem_map_of_mem hj), hf⟩

end

/-! ## Pieces of groups -/

namespace ShapeGroup

theorem mem_split {size : Nat} {g piece : ShapeGroup} (h : piece ∈ g.split size) :
    piece.columns = g.columns ∧ piece.items ≠ [] ∧ piece.items.length ≤ max size 1 ∧
      ∀ i ∈ piece.items, i ∈ g.items := by
  obtain ⟨chunk, hchunk, rfl⟩ := List.mem_map.1 h
  obtain ⟨hne, hlength⟩ := mem_chunks hchunk
  refine ⟨rfl, hne, hlength, fun i hi => ?_⟩
  rw [← flatten_chunks size g.items]
  exact List.mem_flatten.2 ⟨chunk, hchunk, hi⟩

/-- The pieces of a group hold its items in order. -/
theorem flatMap_split (size : Nat) (g : ShapeGroup) :
    (g.split size).flatMap (·.items) = g.items := by
  rw [split, List.flatMap_map, List.flatMap_id', flatten_chunks]

end ShapeGroup

/-- The pieces by which some items are inserted. -/
def insertedPieces (e : Entity) (o : Options) (items : List Item) : List ShapeGroup :=
  (ShapeGroup.ofItems (insertedItems e o items)).flatMap (·.split o.maxInsertRows)

section

variable {e : Entity} {o : Options} {items : List Item}

theorem flatMap_insertedPieces :
    (insertedPieces e o items).flatMap (·.items) =
      (ShapeGroup.ofItems (insertedItems e o items)).flatMap (·.items) := by
  rw [insertedPieces, List.flatMap_assoc]
  exact List.flatMap_congr fun g _ => g.flatMap_split o.maxInsertRows

theorem columns_insertedPieces (h : FaithfulShapes (insertedItems e o items)) {piece : ShapeGroup}
    (hpiece : piece ∈ insertedPieces e o items) {i : Item} (hi : i ∈ piece.items) :
    piece.columns = i.sortedColumns := by
  obtain ⟨g, hg, hpiece⟩ := List.mem_flatMap.1 hpiece
  obtain ⟨hcolumns, _, _, hitems⟩ := ShapeGroup.mem_split hpiece
  rw [hcolumns]
  exact ShapeGroup.columns_of_faithful h hg (hitems i hi)

/-- A statement has rows, but not more than the options allow. -/
theorem written_of_mem_inserted {vs : List Values}
    (hvs : Values.ofGroups e.table .insert 0 (insertedPieces e o items) = .ok vs) {v : Values}
    (hv : v ∈ vs) :
    ∃ piece, Written piece v ∧ 1 ≤ v.rows.length ∧ v.rows.length ≤ max o.maxInsertRows 1 := by
  obtain ⟨piece, hpiece, hwritten⟩ := Values.written_of_mem_ofGroups hvs hv
  obtain ⟨g, _, hsplit⟩ := List.mem_flatMap.1 hpiece
  obtain ⟨_, hne, hlength, _⟩ := ShapeGroup.mem_split hsplit
  refine ⟨piece, hwritten, ?_, ?_⟩
  · exact List.length_pos_iff.2 (hwritten.rows_ne_nil hne)
  · rw [hwritten.length]
    exact hlength

theorem insert_eq_ok_iff {q : Query} :
    Query.insert e o items = .ok q ↔ ∃ vs,
      Values.ofGroups e.table .insert 0 (insertedPieces e o items) = .ok vs ∧
        .ofValues .insert (insertText e) vs = q :=
  Outcome.map_eq_ok_iff

/-- An insert succeeds if every column of every item has a single value, and only then. -/
theorem exists_insert_iff (h : FaithfulShapes (insertedItems e o items)) :
    (∃ q, Query.insert e o items = .ok q) ↔ ∀ i ∈ insertedItems e o items, i.IsPlain := by
  have hok : (∃ q, Query.insert e o items = .ok q) ↔
      ∃ vs, Values.ofGroups e.table .insert 0 (insertedPieces e o items) = .ok vs := by
    constructor
    · rintro ⟨q, hq⟩
      obtain ⟨vs, hvs, _⟩ := insert_eq_ok_iff.1 hq
      exact ⟨vs, hvs⟩
    · rintro ⟨vs, hvs⟩
      exact ⟨_, insert_eq_ok_iff.2 ⟨vs, hvs, rfl⟩⟩
  have hmem : ∀ i, i ∈ insertedItems e o items ↔
      ∃ piece ∈ insertedPieces e o items, i ∈ piece.items := by
    intro i
    rw [← List.mem_flatMap, flatMap_insertedPieces]
    exact (ShapeGroup.perm_flatMap_ofItems _).mem_iff.symm
  rw [hok, Values.exists_ofGroups_iff]
  constructor
  · intro hcells i hi
    obtain ⟨piece, hpiece, hip⟩ := (hmem i).1 hi
    refine Item.isPlain_iff.2 fun c hc => hcells piece hpiece i hip c ?_
    rw [columns_insertedPieces h hpiece hip]
    exact Item.mem_sortedColumns.2 hc
  · intro hplain piece hpiece i hi c hc
    rw [columns_insertedPieces h hpiece hi] at hc
    refine Item.isPlain_iff.1 (hplain i ((hmem i).2 ⟨piece, hpiece, hi⟩)) c ?_
    exact Item.mem_sortedColumns.1 hc

/-- An insert fails if what is written of some item has a list or a query for a column, and only
then. -/
theorem exists_insert_error_iff (h : FaithfulShapes (insertedItems e o items)) :
    (∃ error, Query.insert e o items = .error error) ↔
      ∃ i ∈ items, ∃ c f, (o.insertIdentifier = true ∨ c ≠ e.identifier) ∧ i.get? c = some f ∧
        ∀ v, f ≠ .value v := by
  have hfails : (∃ error, Query.insert e o items = .error error) ↔
      ¬ ∃ q, Query.insert e o items = .ok q := by
    cases Query.insert e o items <;> simp
  have hplain : (¬ ∀ i ∈ insertedItems e o items, i.IsPlain) ↔
      ∃ c f, (∃ i ∈ insertedItems e o items, i.get? c = some f) ∧ ∀ v, f ≠ .value v := by
    simp only [Item.IsPlain]
    push Not
    constructor
    · rintro ⟨i, hi, c, f, hf, hvalue⟩
      exact ⟨c, f, ⟨i, hi, hf⟩, hvalue⟩
    · rintro ⟨c, f, ⟨i, hi, hf⟩, hvalue⟩
      exact ⟨i, hi, c, f, hf, hvalue⟩
  rw [hfails, exists_insert_iff h, hplain]
  simp only [exists_insertedItems_iff]
  constructor
  · rintro ⟨c, f, ⟨hc, i, hi, hf⟩, hvalue⟩
    exact ⟨i, hi, c, f, hc, hf, hvalue⟩
  · rintro ⟨i, hi, c, f, hc, hf, hvalue⟩
    exact ⟨c, f, ⟨hc, i, hi, hf⟩, hvalue⟩

end

/-! ## Records -/

/-- Records of items, picked out by their columns. -/
theorem filter_map_record (l : List Item) (columns : List String) :
    (l.map Item.record).filter (·.map Prod.fst = columns) =
      (l.filter (·.sortedColumns = columns)).map Item.record := by
  rw [List.filter_map]
  refine congrArg (List.map Item.record) (List.filter_congr fun i _ => ?_)
  show decide (i.record.map Prod.fst = columns) = decide (i.sortedColumns = columns)
  rw [Item.columns_record]

/-- Read back from the text of an insert, what there is to write of the items is there, each item
once, with all its columns and values and with nothing beside them.  The rows of one insert are as
many as the options allow at most, and supply its columns; items with the same columns keep their
order.  An insert fails if some item has a list or a query for a column that is written, and only
then. -/
theorem inserts_items {e : Entity} {o : Options} {items : List Item}
    (hfaithful : FaithfulRecords (insertions e o items)) :
    ((∃ error, Query.insert e o items = .error error) ↔
      ∃ i ∈ items, ∃ c f, (o.insertIdentifier = true ∨ c ≠ e.identifier) ∧ i.get? c = some f ∧
        ∀ v, f ≠ .value v) ∧
    ∀ q, Query.insert e o items = .ok q →
      (q.sql = "" ↔ insertions e o items = []) ∧
      ∃ commands, readBatch? q.sql = some commands ∧
        (∀ command ∈ commands, ∃ columns rows, command = .insert e.table columns rows ∧
          1 ≤ rows.length ∧ rows.length ≤ max o.maxInsertRows 1 ∧
          ∀ row ∈ rows, row.length = columns.length) ∧
        (q.records commands).Perm (insertions e o items) ∧
        ∀ columns, (q.records commands).filter (·.map Prod.fst = columns) =
          (insertions e o items).filter (·.map Prod.fst = columns) := by
  have hshapes := faithfulShapes_insertedItems hfaithful
  constructor
  · exact exists_insert_error_iff hshapes
  · intro q hq
    obtain ⟨vs, hvs, hquery, hstated⟩ := Query.stated_insert hq
    have hpieces : ∀ piece ∈ insertedPieces e o items, ∀ i ∈ piece.items,
        piece.columns = i.sortedColumns := fun piece hpiece i hi =>
      columns_insertedPieces hshapes hpiece hi
    have hcells : (vs.flatMap Values.rows).map Params.record =
        ((ShapeGroup.ofItems (insertedItems e o items)).flatMap (·.items)).map Item.record := by
      rw [Values.records_ofGroups hpieces hvs, flatMap_insertedPieces]
    have hrecords : q.records (vs.map fun v => .insert e.table v.columns v.names) =
        ((ShapeGroup.ofItems (insertedItems e o items)).flatMap (·.items)).map Item.record := by
      rw [← hcells]
      exact records_map hvs (by rw [hquery]; rfl) hstated.names fun v => rfl
    have hperm := (ShapeGroup.perm_flatMap_ofItems (insertedItems e o items)).map Item.record
    rw [record_insertedItems] at hperm
    refine ⟨?_, _, hstated.read, ?_, ?_, ?_⟩
    · have hrows : ∀ v ∈ vs, v.rows ≠ [] := by
        intro v hv
        obtain ⟨_, _, hpos, _⟩ := written_of_mem_inserted hvs hv
        exact List.length_pos_iff.1 hpos
      rw [hquery, sql_ofValues_eq_empty_iff .insert (insertText e) hrows (hcells ▸ hperm)]
    · intro command hcommand
      obtain ⟨v, hv, rfl⟩ := List.mem_map.1 hcommand
      obtain ⟨piece, hwritten, hpos, hlength⟩ := written_of_mem_inserted hvs hv
      have hrows : v.names.length = v.rows.length := List.length_map _
      refine ⟨v.columns, v.names, rfl, ?_, ?_, fun row hrow => hwritten.length_of_mem_names hrow⟩
      · rw [hrows]
        exact hpos
      · rw [hrows]
        exact hlength
    · rw [hrecords]
      exact hperm
    · intro columns
      rw [hrecords, filter_map_record, ShapeGroup.filter_columns hshapes, ← filter_map_record,
        record_insertedItems]

/-- People to insert: two of the same columns, set in different orders, one of no columns, one
without the identifier, and one of the identifier alone. -/
def newPeople : List Item :=
  [.ofList [("name", .value (.string "a")), ("id", .value (.int 1))],
   .empty,
   .ofList [("name", .value (.string "b"))],
   .ofList [("id", .value (.int 2)), ("name", .value (.string "c"))],
   .ofList [("id", .value (.int 3))]]

/-- The identifier is written, and every statement has one row. -/
def oneByOne : Options := { insertIdentifier := true, maxInsertRows := 1 }

/-- By default the database is to assign the identifiers, and who has nothing else is left out.
Where the options keep the identifier, it is written, and the people of the same columns are written
by two statements.  A list of names cannot be written. -/
theorem inserts_items_people :
    (FaithfulRecords (insertions people {} newPeople) ∧
      ∃ q, Query.insert people {} newPeople = .ok q ∧
        q.sql = "INSERT INTO [people] ([name]) VALUES (@v0_0), (@v1_0), (@v2_0);" ∧
        ∃ commands, readBatch? q.sql = some commands ∧
          (q.records commands).Perm
            [[("name", some (.value (.string "a")))], [("name", some (.value (.string "b")))],
             [("name", some (.value (.string "c")))]]) ∧
    (FaithfulRecords (insertions people oneByOne newPeople) ∧
      ∃ q, Query.insert people oneByOne newPeople = .ok q ∧
        q.sql = "INSERT INTO [people] ([id], [name]) VALUES (@v0_0, @v0_1);\n" ++
          "INSERT INTO [people] ([id], [name]) VALUES (@v1_0, @v1_1);\n" ++
          "INSERT INTO [people] ([name]) VALUES (@v2_0);\n" ++
          "INSERT INTO [people] ([id]) VALUES (@v3_0);" ∧
        ∃ commands, readBatch? q.sql = some commands ∧
          (q.records commands).Perm
            [[("id", some (.value (.int 1))), ("name", some (.value (.string "a")))],
             [("name", some (.value (.string "b")))],
             [("id", some (.value (.int 2))), ("name", some (.value (.string "c")))],
             [("id", some (.value (.int 3)))]]) ∧
    ∃ error, Query.insert people {} [.ofList [("name", .array [])]] = .error error := by
  refine ⟨?_, ?_, ?_⟩
  · have hfaithful : FaithfulRecords (insertions people {} newPeople) := by decide +kernel
    obtain ⟨q, hq⟩ : ∃ q, Query.insert people {} newPeople = .ok q := ⟨_, rfl⟩
    obtain ⟨_, commands, hread, _, hperm, _⟩ := (inserts_items hfaithful).2 q hq
    refine ⟨hfaithful, q, hq, ?_, commands, hread, hperm⟩
    cases hq
    decide +kernel
  · have hfaithful : FaithfulRecords (insertions people oneByOne newPeople) := by decide +kernel
    obtain ⟨q, hq⟩ : ∃ q, Query.insert people oneByOne newPeople = .ok q := ⟨_, rfl⟩
    obtain ⟨_, commands, hread, _, hperm, _⟩ := (inserts_items hfaithful).2 q hq
    refine ⟨hfaithful, q, hq, ?_, commands, hread, hperm⟩
    cases hq
    decide +kernel
  · have hfaithful : FaithfulRecords (insertions people {} [.ofList [("name", .array [])]]) := by
      decide +kernel
    refine (inserts_items hfaithful).1.2 ⟨_, List.mem_cons_self, "name", .array [], ?_, ?_, ?_⟩
    · exact .inr (by decide)
    · decide +kernel
    · rintro v ⟨⟩

end EntitySql
