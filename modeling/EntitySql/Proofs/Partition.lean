import EntitySql.Proofs.WrittenRows

/-!
# Items by their columns

Items are grouped so that one statement can write all items of the same columns.  The groups are
a stable partition of the items by their columns where the shapes of the items are faithful, and
only there: items of different columns and one shape come into one group, which has the columns of
the first.  The others are then written with nulls for columns that they do not have, and without
the values of columns that the group does not have.

    PartitionedByColumns items (ShapeGroup.ofItems items) ↔ FaithfulShapes items
                                                            (partitionedByColumns_iff)
-/

namespace EntitySql

/-- The groups are a stable partition of the items by their columns. -/
structure PartitionedByColumns (items : List Item) (groups : List ShapeGroup) : Prop where
  /-- Two items are in one group if and only if they have the same columns. -/
  together : ∀ i ∈ items, ∀ j ∈ items,
    (∃ g ∈ groups, i ∈ g.items ∧ j ∈ g.items) ↔ i.SameColumns j
  /-- The columns of a group are those of each of its items, in ascending order. -/
  columns : ∀ g ∈ groups, g.columns.Pairwise (· ≤ ·) ∧ g.columns.Nodup ∧
    ∀ i ∈ g.items, ∀ c, c ∈ g.columns ↔ c ∈ i.columns
  /-- The groups come in the order of the first items that have their columns. -/
  order : groups.map (·.columns) = firstsBy id (items.map Item.sortedColumns)
  /-- The items of a group stand in the order of all items. -/
  stable : ∀ g ∈ groups, g.items = items.filter (·.sortedColumns = g.columns)
  /-- No item is lost, added or repeated. -/
  whole : (groups.flatMap (·.items)).Perm items
  /-- The row that is written for an item of a group says what the item says: it has no null for a
  column that the item does not have, and no value of the item is left out. -/
  rows : ∀ g ∈ groups, ∀ i ∈ g.items, ∀ (table : String) (action : Action) (row : Nat)
    (ps : Params), cells table action row g.columns i = .ok ps → ps.record = i.record

/-- Faithful shapes keep items of different columns apart. -/
theorem FaithfulShapes.partitionedByColumns {items : List Item} (h : FaithfulShapes items) :
    PartitionedByColumns items (ShapeGroup.ofItems items) where
  together := by
    intro i hi j hj
    constructor
    · rintro ⟨g, hg, hig, hjg⟩
      refine Item.sortedColumns_eq_iff.1 ?_
      rw [← ShapeGroup.columns_of_faithful h hg hig, ShapeGroup.columns_of_faithful h hg hjg]
    · intro hcolumns
      refine ShapeGroup.exists_mem_of_shapeKey_eq hi hj ?_
      exact (h.shapeKey_eq_iff hi hj).2 (Item.sortedColumns_eq_iff.2 hcolumns)
  columns := by
    intro g hg
    obtain ⟨first, _, _, hcolumns, _⟩ := ShapeGroup.exists_first hg
    refine ⟨?_, ?_, fun i hi c => ?_⟩
    · rw [hcolumns]
      exact Text.pairwise_sortNames first.columns
    · rw [hcolumns]
      exact first.nodup_sortedColumns
    · rw [ShapeGroup.columns_of_faithful h hg hi]
      exact Item.mem_sortedColumns
  order := by
    rw [ShapeGroup.map_columns_ofItems h, distinctBy_eq_firstsBy]
  stable := fun g hg => ShapeGroup.items_of_faithful h hg
  whole := ShapeGroup.perm_flatMap_ofItems items
  rows := by
    intro g hg i hi table action row ps hcells
    exact record_cells (ShapeGroup.columns_of_faithful h hg hi) hcells

/-- The groups of items are a stable partition by their columns, from which every item is written
as it is, if and only if no two items of different columns have one shape. -/
theorem partitionedByColumns_iff (items : List Item) :
    PartitionedByColumns items (ShapeGroup.ofItems items) ↔ FaithfulShapes items := by
  constructor
  · intro h i hi j hj hshape
    exact (h.together i hi j hj).1 (ShapeGroup.exists_mem_of_shapeKey_eq hi hj hshape)
  · intro h
    exact h.partitionedByColumns

/-- A table whose columns have names with a comma between them. -/
def grid : Entity :=
  Declaration.entity
    { name := "grid", table := some "grid"
      columns := [.typed "a,b" .int, .typed "a" .int, .typed "b" .int] }

/-- Two items of one shape: the columns of the second are those in the name of the first. -/
def gridItems : List Item :=
  [.ofList [("a,b", .value (.int 1))], .ofList [("a", .value (.int 2)), ("b", .value (.int 3))]]

/-- The second item is written into the column of the first: its values are lost, and a null takes
their place. -/
theorem not_partitionedByColumns_grid :
    ∃ q, Query.insert grid {} gridItems = .ok q ∧
      q.sql = "INSERT INTO [grid] ([a,b]) VALUES (@v0_0), (@v1_0);" ∧
      q.params.map (·.value) = [.int 1, .untypedNull] ∧
      ¬ PartitionedByColumns gridItems (ShapeGroup.ofItems gridItems) := by
  refine ⟨_, rfl, by decide +kernel, by decide +kernel, fun h => ?_⟩
  have hshape : (gridItems[0]).shapeKey = (gridItems[1]).shapeKey := by decide +kernel
  have hfirst : gridItems[0] ∈ gridItems := by simp
  have hsecond : gridItems[1] ∈ gridItems := by simp
  have hgroup := ShapeGroup.exists_mem_of_shapeKey_eq hfirst hsecond hshape
  have hcolumns := (h.together _ hfirst _ hsecond).1 hgroup "a"
  revert hcolumns
  decide

end EntitySql
