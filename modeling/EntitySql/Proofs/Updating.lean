import EntitySql.Proofs.ConditionText
import EntitySql.Proofs.Writing

/-!
# What an update writes

An update merges, for each item and each of the values by which its key names rows, one row into
the table: what the item says, with that value for the key.  Of the values that name the same row
the first one counts.  An item with no column beside the key changes nothing, and neither does one
whose key names no row.  A merge joins its rows by the key and sets their other columns.

    Query.update e o items key = .ok q → FaithfulShapes items →
      the records of the query are the changes of the items             (updates_items)
-/

namespace EntitySql

open EntitySql.Sql

/-! ## Changes -/

def Item.keyValues (key : String) (i : Item) : List Value :=
  ((i.get? key).map FieldValue.values).getD []

/-- The records by which an item changes the rows that it names: one for the first value of every
identity that its key has, with that value for the key. -/
def Item.changes (e : Entity) (key : String) (i : Item) : List Record :=
  if i.columns.any (· ≠ key) then
    (firstsBy (keyIdentity e key) (i.keyValues key)).map fun v =>
      i.sortedColumns.map fun c => (c, if c = key then some (.value v) else i.get? c)
  else []

section

variable {e : Entity} {o : Options} {key : String}

/-! ## Rows of one item -/

theorem keyed_eq_ok {i : Item} {rows : List Item} (h : i.keyed e key = .ok rows) :
    key ∈ i.columns ∧
      rows = (firstsBy (keyIdentity e key) (i.keyValues key)).map fun v => i.set key (.value v) := by
  unfold Item.keyed at h
  split at h
  · cases h
  · next f hf =>
    split at h
    · cases h
    · next vs hvs =>
      cases h
      refine ⟨Item.mem_columns_iff.2 ⟨f, hf⟩, ?_⟩
      rw [Item.keyValues, hf, distinctBy_eq_firstsBy, FieldValue.values_of_keys? hvs]
      rfl

theorem columns_set_of_mem {i : Item} (hkey : key ∈ i.columns) (f : FieldValue) :
    (i.set key f).columns = i.columns := by
  rw [Item.columns_set, if_pos hkey]

theorem record_set {i : Item} (hkey : key ∈ i.columns) (f : FieldValue) :
    (i.set key f).record =
      i.sortedColumns.map fun c => (c, if c = key then some f else i.get? c) := by
  rw [Item.record, Item.sortedColumns, columns_set_of_mem hkey f]
  refine List.map_congr_left fun c _ => ?_
  rw [Item.get?_set]

/-- The rows of an item have its columns. -/
theorem columns_of_mem_keyed {i : Item} {rows : List Item} (h : i.keyed e key = .ok rows)
    {r : Item} (hr : r ∈ rows) : r.columns = i.columns ∧ key ∈ r.columns := by
  obtain ⟨hkey, rfl⟩ := keyed_eq_ok h
  obtain ⟨v, _, rfl⟩ := List.mem_map.1 hr
  have hcolumns := columns_set_of_mem hkey (.value v)
  exact ⟨hcolumns, hcolumns ▸ hkey⟩

/-- The rows of an item that have something to change are its changes. -/
theorem changes_of_keyed {i : Item} {rows : List Item} (h : i.keyed e key = .ok rows) :
    (rows.filter (·.columns.any (· ≠ key))).map Item.record = i.changes e key := by
  obtain ⟨hkey, hrows⟩ := keyed_eq_ok h
  have hany : ∀ r ∈ rows, r.columns.any (· ≠ key) = i.columns.any (· ≠ key) := by
    intro r hr
    rw [(columns_of_mem_keyed h hr).1]
  rw [List.filter_congr hany, Item.changes]
  cases i.columns.any (· ≠ key) with
  | false => simp
  | true =>
    rw [List.filter_eq_self.2 fun _ _ => rfl, if_pos rfl, hrows, List.map_map]
    refine List.map_congr_left fun v _ => ?_
    exact record_set hkey (.value v)

/-! ## Rows of all items -/

section

variable {items : List Item} {rows : List (List Item)}
  (hrows : items.mapM (Item.keyed e key) = .ok rows)

include hrows

theorem exists_of_mem_keyed {r : Item} (hr : r ∈ rows.flatten) :
    ∃ i ∈ items, r.columns = i.columns ∧ key ∈ r.columns := by
  obtain ⟨l, hl, hr⟩ := List.mem_flatten.1 hr
  obtain ⟨i, hi, hkeyed⟩ := Outcome.mem_of_mapM hrows hl
  exact ⟨i, hi, columns_of_mem_keyed hkeyed hr⟩

/-- Rows have the shapes of their items. -/
theorem faithful_keyed (h : FaithfulShapes items) : FaithfulShapes rows.flatten := by
  intro r hr s hs hshape
  obtain ⟨i, hi, hri, _⟩ := exists_of_mem_keyed hrows hr
  obtain ⟨j, hj, hsj, _⟩ := exists_of_mem_keyed hrows hs
  have hij : i.shapeKey = j.shapeKey := by
    rwa [Item.shapeKey, Item.shapeKey, Item.sortedColumns, Item.sortedColumns, hri, hsj] at hshape
  intro c
  rw [hri, hsj]
  exact h i hi j hj hij c

theorem changes_of_rows :
    (rows.flatten.filter (·.columns.any (· ≠ key))).map Item.record =
      items.flatMap (Item.changes e key) := by
  have hchanges : rows.map (fun l => (l.filter (·.columns.any (· ≠ key))).map Item.record) =
      items.map (Item.changes e key) :=
    Outcome.map_of_mapM hrows fun i _ l hkeyed => changes_of_keyed hkeyed
  rw [List.filter_flatten, List.map_flatten, List.map_map, List.flatMap_def, ← hchanges]
  rfl

end

/-! ## Groups that change something -/

/-- Elements of the groups that are kept are those that are kept for themselves. -/
theorem flatMap_filter_of_forall {α β : Type} {l : List α} {f : α → List β} {p : α → Bool}
    {q : β → Bool} (h : ∀ a ∈ l, ∀ b ∈ f a, q b = p a) :
    (l.filter p).flatMap f = (l.flatMap f).filter q := by
  induction l with
  | nil => rfl
  | cons a l ih =>
    have hrest := ih fun b hb => h b (List.mem_cons_of_mem a hb)
    have ha := List.filter_congr (h a List.mem_cons_self)
    rw [List.flatMap_cons, List.filter_append, ← hrest, ha]
    cases hp : p a with
    | false => simp [hp]
    | true => simp [hp]

/-- The groups of rows that have a column beside the key. -/
def changedGroups (key : String) (rows : List Item) : List ShapeGroup :=
  (ShapeGroup.ofItems rows).filter fun g => !(g.changed key).isEmpty

theorem isEmpty_changed (g : ShapeGroup) :
    (!(g.changed key).isEmpty) = g.columns.any (· ≠ key) := by
  rw [ShapeGroup.changed, Bool.eq_iff_iff]
  simp [List.filter_eq_nil_iff]

/-- The columns of such a group are the key and others, each once. -/
theorem columns_of_mem_changedGroups {items : List Item} {rows : List (List Item)}
    (hrows : items.mapM (Item.keyed e key) = .ok rows) {g : ShapeGroup}
    (hg : g ∈ changedGroups key rows.flatten) :
    key ∈ g.columns ∧ g.columns.Nodup ∧ g.columns.filter (· ≠ key) ≠ [] := by
  obtain ⟨hg, hchanged⟩ := List.mem_filter.1 hg
  obtain ⟨r, hr, _, hsorted, _⟩ := ShapeGroup.exists_first hg
  obtain ⟨i, _, _, hkey⟩ := exists_of_mem_keyed hrows hr
  refine ⟨?_, ?_, ?_⟩
  · rw [hsorted]
    exact Item.mem_sortedColumns.2 hkey
  · rw [hsorted]
    exact r.nodup_sortedColumns
  · simpa [ShapeGroup.changed] using hchanged

theorem flatMap_changedGroups {rows : List Item} (h : FaithfulShapes rows) :
    (changedGroups key rows).flatMap (·.items) =
      ((ShapeGroup.ofItems rows).flatMap (·.items)).filter (·.columns.any (· ≠ key)) := by
  refine flatMap_filter_of_forall fun g hg i hi => ?_
  have hperm : i.sortedColumns.Perm i.columns := Text.sortNames_perm i.columns
  rw [isEmpty_changed, ShapeGroup.columns_of_faithful h hg hi]
  exact hperm.symm.any_eq

end

/-- Read back from the text of an update, the changes of the items are there, each once, and
nothing else.  Every merge joins its rows by the key, which is among their columns, and sets the
other columns, of which there are some; all its rows supply its columns. -/
theorem updates_items {e : Entity} {o : Options} {items : List Item} {key : String} {q : Query}
    (hshapes : FaithfulShapes items) (h : Query.update e o items key = .ok q) :
    (q.sql = "" ↔ items.flatMap (Item.changes e key) = []) ∧
      ∃ commands, readBatch? q.sql = some commands ∧
        (∀ command ∈ commands, ∃ columns rows,
          command = .merge e.table rows columns ⟨key, key⟩
            ((columns.filter (· ≠ key)).map fun c => ⟨c, c⟩) ∧
          key ∈ columns ∧ columns.Nodup ∧ columns.filter (· ≠ key) ≠ [] ∧ rows ≠ [] ∧
          ∀ row ∈ rows, row.length = columns.length) ∧
        (q.records commands).Perm (items.flatMap (Item.changes e key)) := by
  obtain ⟨rows, vs, hrows, hvs, hquery, hstated⟩ := Query.stated_update h
  have hfaithful := faithful_keyed hrows hshapes
  have hcolumns : ∀ g ∈ changedGroups key rows.flatten, ∀ i ∈ g.items,
      g.columns = i.sortedColumns := fun g hg i hi =>
    ShapeGroup.columns_of_faithful hfaithful (List.mem_filter.1 hg).1 hi
  have hcells := Values.records_ofGroups hcolumns hvs
  have hperm : ((vs.flatMap Values.rows).map Params.record).Perm
      (items.flatMap (Item.changes e key)) := by
    rw [hcells, flatMap_changedGroups hfaithful, ← changes_of_rows hrows]
    exact ((ShapeGroup.perm_flatMap_ofItems rows.flatten).filter _).map Item.record
  have hrecords : q.records (vs.map (mergeCommand e key)) =
      (vs.flatMap Values.rows).map Params.record :=
    records_map hvs (by rw [hquery]; rfl) hstated.names fun v => rfl
  have hblock : ∀ v ∈ vs, ∃ g ∈ changedGroups key rows.flatten, Written g v ∧ v.rows ≠ [] := by
    intro v hv
    obtain ⟨g, hg, hwritten⟩ := Values.written_of_mem_ofGroups hvs hv
    obtain ⟨_, _, hmem, _⟩ := ShapeGroup.exists_first (List.mem_filter.1 hg).1
    exact ⟨g, hg, hwritten, hwritten.rows_ne_nil (List.ne_nil_of_mem hmem)⟩
  refine ⟨?_, _, hstated.read, ?_, ?_⟩
  · rw [hquery]
    refine sql_ofValues_eq_empty_iff .update (updateText e key) (fun v hv => ?_) hperm
    obtain ⟨_, _, _, hne⟩ := hblock v hv
    exact hne
  · intro command hcommand
    obtain ⟨v, hv, rfl⟩ := List.mem_map.1 hcommand
    obtain ⟨g, hg, hwritten, hne⟩ := hblock v hv
    obtain ⟨hkey, hnodup, hset⟩ := columns_of_mem_changedGroups hrows hg
    rw [← hwritten.columns] at hkey hnodup hset
    refine ⟨v.columns, v.names, rfl, hkey, hnodup, hset, ?_,
      fun row hrow => hwritten.length_of_mem_names hrow⟩
    simpa [Values.names] using hne
  · rw [hrecords]
    exact hperm

/-- Changes of people: one for three values that name two rows, one without anything to change, and
one that names no row. -/
def peopleChanges : List Item :=
  [.ofList [("name", .value (.string "a")), ("id", .array [.int 1, .string "1", .int 2])],
   .ofList [("id", .value (.int 3))],
   .ofList [("id", .array []), ("name", .value (.string "b"))]]

theorem updates_items_people :
    FaithfulShapes peopleChanges ∧ ∃ q, Query.update people {} peopleChanges "id" = .ok q ∧
      ∃ commands, readBatch? q.sql = some commands ∧
        (q.records commands).Perm
          [[("id", some (.value (.int 1))), ("name", some (.value (.string "a")))],
           [("id", some (.value (.int 2))), ("name", some (.value (.string "a")))]] := by
  have hshapes : FaithfulShapes peopleChanges := faithful_of_no_comma (by decide +kernel)
  obtain ⟨q, hq⟩ : ∃ q, Query.update people {} peopleChanges "id" = .ok q := ⟨_, rfl⟩
  obtain ⟨_, commands, hread, _, hperm⟩ := updates_items hshapes hq
  have hchanges : peopleChanges.flatMap (Item.changes people "id") =
      [[("id", some (.value (.int 1))), ("name", some (.value (.string "a")))],
       [("id", some (.value (.int 2))), ("name", some (.value (.string "a")))]] := by
    decide +kernel
  rw [hchanges] at hperm
  exact ⟨hshapes, q, hq, commands, hread, hperm⟩

end EntitySql
