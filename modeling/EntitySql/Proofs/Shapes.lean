import EntitySql.Proofs.Grouping
import EntitySql.Shape

/-!
# Shapes and columns

The shape of an item is a text, and different sets of columns can have one text: `{a,b}` has that
of `{a, b}`.  Shapes that tell apart the columns of some items are faithful to them, and then the
groups of the items are those of their columns; without a comma in any name shapes are faithful.

    ShapeGroup.ofItems items = the groups of the items by their shapes      (ofItems_eq)
    FaithfulShapes items → g ∈ ShapeGroup.ofItems items → i ∈ g.items →
      g.columns = i.sortedColumns                                           (columns_of_faithful)
    FaithfulShapes items → the items of some columns stand in their order   (filter_columns)
    no name has a comma and no item is empty → FaithfulShapes items         (faithful_of_no_comma)
-/

namespace EntitySql

/-! ## Columns of items -/

namespace Item

/-- Two items have the same columns, in whatever order. -/
def SameColumns (i j : Item) : Prop := ∀ c, c ∈ i.columns ↔ c ∈ j.columns

theorem mem_sortedColumns {i : Item} {c : String} : c ∈ i.sortedColumns ↔ c ∈ i.columns :=
  (Text.sortNames_perm i.columns).mem_iff

theorem nodup_sortedColumns (i : Item) : i.sortedColumns.Nodup :=
  (Text.sortNames_perm i.columns).nodup_iff.2 i.distinct

theorem sortedColumns_eq_iff {i j : Item} :
    i.sortedColumns = j.sortedColumns ↔ i.SameColumns j := by
  constructor
  · intro h c
    rw [← mem_sortedColumns, h, mem_sortedColumns]
  · intro h
    exact Text.sortNames_eq_of_perm ((List.perm_ext_iff_of_nodup i.distinct j.distinct).2 h)

theorem mem_columns_iff {i : Item} {c : String} : c ∈ i.columns ↔ ∃ f, i.get? c = some f := by
  have hnone : i.get? c = none ↔ c ∉ i.columns := Entries.get?_eq_none_iff
  constructor
  · intro hc
    exact Option.ne_none_iff_exists'.1 fun h => hnone.1 h hc
  · rintro ⟨f, hf⟩
    by_contra hc
    rw [hnone.2 hc] at hf
    cases hf

end Item

/-! ## Faithful shapes -/

/-- Items that have one shape have the same columns. -/
def FaithfulShapes (items : List Item) : Prop :=
  ∀ i ∈ items, ∀ j ∈ items, i.shapeKey = j.shapeKey → i.SameColumns j

theorem FaithfulShapes.shapeKey_eq_iff {items : List Item} (h : FaithfulShapes items) {i j : Item}
    (hi : i ∈ items) (hj : j ∈ items) :
    i.shapeKey = j.shapeKey ↔ i.sortedColumns = j.sortedColumns := by
  constructor
  · intro hshape
    exact Item.sortedColumns_eq_iff.2 (h i hi j hj hshape)
  · intro hcolumns
    rw [Item.shapeKey, Item.shapeKey, hcolumns]

/-- Without a comma in them, the columns of an item are the parts of its shape. -/
theorem faithful_of_no_comma {items : List Item}
    (h : ∀ i ∈ items, i.columns ≠ [] ∧ ∀ c ∈ i.columns, ',' ∉ c.toList) :
    FaithfulShapes items := by
  have hparts : ∀ i ∈ items, i.shapeKey.toList.splitOn ',' = i.sortedColumns.map String.toList := by
    intro i hi
    obtain ⟨hne, hcomma⟩ := h i hi
    have hchars : i.shapeKey.toList = [','].intercalate (i.sortedColumns.map String.toList) :=
      String.toList_intercalate
    rw [hchars]
    refine List.splitOn_intercalate ',' ?_ ?_
    · intro name hname
      obtain ⟨c, hc, rfl⟩ := List.mem_map.1 hname
      exact hcomma c (Item.mem_sortedColumns.1 hc)
    · obtain ⟨c, hc⟩ := List.exists_mem_of_ne_nil _ hne
      exact List.ne_nil_of_mem (List.mem_map_of_mem (Item.mem_sortedColumns.2 hc))
  intro i hi j hj hshape
  refine Item.sortedColumns_eq_iff.1 ?_
  have hnames : i.sortedColumns.map String.toList = j.sortedColumns.map String.toList := by
    rw [← hparts i hi, ← hparts j hj, hshape]
  exact (List.map_inj_right fun _ _ => String.toList_inj.1).1 hnames

namespace ShapeGroup

/-! ## Groups of items -/

/-- Items as a group, with the columns of the first. -/
def ofMembers (members : List Item) : ShapeGroup :=
  ⟨(members.head?.map Item.sortedColumns).getD [], members⟩

theorem insert_map {groups : List (String × List Item)} (h : ∀ g ∈ groups, g.2 ≠ [])
    (shape : String) (i : Item) :
    insert shape i (groups.map fun g => (g.1, ofMembers g.2)) =
      (Entries.push shape i groups).map fun g => (g.1, ofMembers g.2) := by
  induction groups with
  | nil => rfl
  | cons g rest ih =>
    obtain ⟨key, members⟩ := g
    by_cases hkey : key = shape
    · -- The first item stays the first, as the group is not empty.
      obtain ⟨first, others, rfl⟩ := List.exists_cons_of_ne_nil (h (key, members)
        List.mem_cons_self)
      simp [insert, Entries.push, hkey, ofMembers]
    · have hrest := ih fun g hg => h g (List.mem_cons_of_mem _ hg)
      simp only [List.map_cons, insert, Entries.push, hkey, if_false, hrest]

/-- The groups of items are those of their shapes. -/
theorem ofItems_eq (items : List Item) :
    ofItems items = (groupsBy Item.shapeKey items).map fun g => ofMembers g.2 := by
  unfold ofItems
  rw [foldl_groupsBy (fun g => (g.1, ofMembers g.2))
    fun i l => insert_map (fun g hg => ne_nil_of_mem_groupsBy hg) i.shapeKey i, List.map_map]
  rfl

theorem flatMap_ofItems (items : List Item) :
    (ofItems items).flatMap (·.items) = (groupsBy Item.shapeKey items).flatMap Prod.snd := by
  rw [ofItems_eq, List.flatMap_map]
  rfl

/-- The items of all groups are the items. -/
theorem perm_flatMap_ofItems (items : List Item) :
    ((ofItems items).flatMap (·.items)).Perm items := by
  rw [flatMap_ofItems]
  exact perm_flatMap_groupsBy Item.shapeKey items

theorem mem_ofItems {items : List Item} {g : ShapeGroup} :
    g ∈ ofItems items ↔
      ∃ i ∈ items, g = ofMembers (items.filter (·.shapeKey = i.shapeKey)) := by
  rw [ofItems_eq, List.mem_map]
  constructor
  · rintro ⟨⟨key, members⟩, hmem, rfl⟩
    obtain ⟨hkey, hmembers⟩ := mem_groupsBy.1 hmem
    obtain ⟨i, hi, rfl⟩ := List.mem_map.1 hkey
    exact ⟨i, hi, congrArg ofMembers hmembers⟩
  · rintro ⟨i, hi, rfl⟩
    exact ⟨(i.shapeKey, _), mem_groupsBy.2 ⟨List.mem_map_of_mem hi, rfl⟩, rfl⟩

/-- Items of one shape are in one group, whatever their columns are. -/
theorem exists_mem_of_shapeKey_eq {items : List Item} {i j : Item} (hi : i ∈ items)
    (hj : j ∈ items) (hshape : i.shapeKey = j.shapeKey) :
    ∃ g ∈ ofItems items, i ∈ g.items ∧ j ∈ g.items := by
  refine ⟨_, mem_ofItems.2 ⟨i, hi, rfl⟩, ?_, ?_⟩
  · exact List.mem_filter.2 ⟨hi, by simp⟩
  · exact List.mem_filter.2 ⟨hj, by simp [hshape]⟩

/-- A group has a first item, the one whose columns it has. -/
theorem exists_first {items : List Item} {g : ShapeGroup} (hg : g ∈ ofItems items) :
    ∃ i ∈ items, i ∈ g.items ∧ g.columns = i.sortedColumns ∧
      g.items = items.filter (·.shapeKey = i.shapeKey) := by
  obtain ⟨i, hi, rfl⟩ := mem_ofItems.1 hg
  have hself : i ∈ items.filter (·.shapeKey = i.shapeKey) := List.mem_filter.2 ⟨hi, by simp⟩
  obtain ⟨first, others, hfirst⟩ := List.exists_cons_of_ne_nil (List.ne_nil_of_mem hself)
  have hmem : first ∈ items.filter (·.shapeKey = i.shapeKey) := by
    rw [hfirst]
    exact List.mem_cons_self
  obtain ⟨hitems, hshape⟩ := List.mem_filter.1 hmem
  refine ⟨first, hitems, hmem, ?_, ?_⟩
  · rw [ofMembers, hfirst]
    rfl
  · rw [of_decide_eq_true hshape]
    rfl

/-! ## Groups by columns -/

section

variable {items : List Item} (h : FaithfulShapes items)

include h

/-- Where shapes are faithful, every item of a group has its columns. -/
theorem columns_of_faithful {g : ShapeGroup} (hg : g ∈ ofItems items) {i : Item}
    (hi : i ∈ g.items) : g.columns = i.sortedColumns := by
  obtain ⟨first, hfirst, _, hcolumns, hitems⟩ := exists_first hg
  rw [hitems] at hi
  obtain ⟨hi, hshape⟩ := List.mem_filter.1 hi
  rw [hcolumns]
  exact ((h.shapeKey_eq_iff hi hfirst).1 (of_decide_eq_true hshape)).symm

/-- Where shapes are faithful, a group has all items of its columns, in their order. -/
theorem items_of_faithful {g : ShapeGroup} (hg : g ∈ ofItems items) :
    g.items = items.filter (·.sortedColumns = g.columns) := by
  obtain ⟨first, hfirst, _, hcolumns, hitems⟩ := exists_first hg
  rw [hitems, hcolumns]
  refine List.filter_congr fun i hi => ?_
  exact decide_eq_decide.2 (h.shapeKey_eq_iff hi hfirst)

/-- Where shapes are faithful, the items of some columns stand in their order. -/
theorem filter_columns (columns : List String) :
    ((ofItems items).flatMap (·.items)).filter (·.sortedColumns = columns) =
      items.filter (·.sortedColumns = columns) := by
  rw [flatMap_ofItems]
  have hperm := perm_flatMap_groupsBy Item.shapeKey items
  by_cases hany : ∃ j ∈ items, j.sortedColumns = columns
  · obtain ⟨j, hj, rfl⟩ := hany
    have hshape : ∀ i ∈ items,
        decide (i.sortedColumns = j.sortedColumns) = decide (i.shapeKey = j.shapeKey) :=
      fun i hi => decide_eq_decide.2 (h.shapeKey_eq_iff hi hj).symm
    rw [List.filter_congr hshape, List.filter_congr fun i hi => hshape i (hperm.mem_iff.1 hi)]
    exact filter_flatMap_groupsBy Item.shapeKey items j.shapeKey
  · have hnone : ∀ l : List Item, (∀ i ∈ l, i ∈ items) →
        l.filter (·.sortedColumns = columns) = [] := by
      intro l hl
      refine List.filter_eq_nil_iff.2 fun i hi hcolumns => hany ⟨i, hl i hi, ?_⟩
      exact of_decide_eq_true hcolumns
    rw [hnone items fun i hi => hi, hnone _ fun i hi => hperm.mem_iff.1 hi]

/-- Where shapes are faithful, the groups have the columns of the items, each once and in the
order in which they first occur. -/
theorem map_columns_ofItems :
    (ofItems items).map (·.columns) = distinctBy id (items.map Item.sortedColumns) := by
  have hshapes : items.map Item.shapeKey =
      (items.map Item.sortedColumns).map (",".intercalate ·) := by
    rw [List.map_map]
    rfl
  have hnodup : ((distinctBy id (items.map Item.sortedColumns)).map (",".intercalate ·)).Nodup := by
    refine List.Nodup.map_on ?_ (by simpa using nodup_distinctBy id (items.map Item.sortedColumns))
    intro cs hcs ds hds heq
    obtain ⟨i, hi, rfl⟩ := List.mem_map.1 (mem_distinctBy_id.1 hcs)
    obtain ⟨j, hj, rfl⟩ := List.mem_map.1 (mem_distinctBy_id.1 hds)
    exact (h.shapeKey_eq_iff hi hj).1 heq
  rw [ofItems_eq, groupsBy, hshapes, distinctBy_map hnodup, List.map_map, List.map_map,
    List.map_map]
  refine (List.map_congr_left fun cs hcs => ?_).trans (List.map_id _)
  obtain ⟨i, hi, rfl⟩ := List.mem_map.1 (mem_distinctBy_id.1 hcs)
  have hgroup : ofMembers (items.filter (·.shapeKey = i.shapeKey)) ∈ ofItems items :=
    mem_ofItems.2 ⟨i, hi, rfl⟩
  exact columns_of_faithful h hgroup (List.mem_filter.2 ⟨hi, by simp⟩)

end

end ShapeGroup

end EntitySql
