import EntitySql.Proofs.StatementText
import EntitySql.Query.Delete

/-!
# The text of a query

The text of every query is read back as a batch of commands, from which its parameters follow:
one select or delete, or an insert or a merge for each block of rows.

    a find    as one select, of the condition on its items      (stated_find)
    an insert as one insert for each block of rows              (stated_insert)
    an update as one merge for each block of rows               (stated_update)
    a delete  as one delete, of the condition on its key values (stated_delete)
-/

namespace EntitySql

open EntitySql.Sql

/-! ## Queries -/

/-- A query whose text is a batch of commands that are read back from it, and whose parameters
are those of the commands' uses, each with its column. -/
structure Query.Stated (q : Query) (commands : List Command) : Prop where
  read : readBatch? q.sql = some commands
  markers : markers q.sql = (commands.flatMap Command.uses).map Prod.fst
  uses : distinctBy id (commands.flatMap Command.uses) = q.params.map fun p => (p.name, p.column)
  names : q.params.names.Nodup

namespace Query

theorem stated_of_states {q : Query} {l : List (String × Command)}
    (hsql : q.sql = Sql.batch (l.map Prod.fst)) (h : ∀ s ∈ l, States s.1 s.2)
    (huses : distinctBy id (l.flatMap (·.2.uses)) = q.params.map fun p => (p.name, p.column))
    (hnames : q.params.names.Nodup) : q.Stated (l.map Prod.snd) := by
  obtain ⟨hread, hmarkers⟩ := states_batch h
  have hflat : (l.map Prod.snd).flatMap Command.uses = l.flatMap (·.2.uses) :=
    List.flatMap_map ..
  refine ⟨?_, ?_, ?_, hnames⟩
  · rw [hsql, hread]
  · rw [hsql, hmarkers, hflat]
  · rw [hflat, huses]

variable {e : Entity} {o : Options} {items : List Item} {q : Query}

/-- A find is read as one select, from the condition on its items. -/
theorem stated_find_of_canSpell (hitems : ∀ i ∈ items, o.CanSpell i) {page : Page}
    (h : Query.find e o items page = .ok q) :
    ∃ c terms, Condition.ofItems e o .find items = .ok c ∧ page.terms e o = .ok terms ∧
      q.params = c.params ∧
      q.Stated [.select e.table (c.tree?.map Prod.snd) terms (page.window o)] := by
  obtain ⟨c, hc, h⟩ := Outcome.bind_eq_ok_iff.1 h
  obtain ⟨terms, hterms, h⟩ := Outcome.bind_eq_ok_iff.1 h
  cases h
  refine ⟨c, terms, hc, hterms, rfl, ?_⟩
  have hread := Condition.readable_of_canSpell hitems hc
  have hstates := states_select e o page hread terms
  refine stated_of_states (l := [(_, _)]) rfl (by simpa using hstates) ?_
    (Condition.namedUnder_ofItems hc).nodup
  rw [List.flatMap_singleton, Command.uses, uses_tree?]
  exact Condition.distinct_uses hc

theorem stated_find (ho : o.check = .ok ()) {page : Page} (h : Query.find e o items page = .ok q) :
    ∃ c terms, Condition.ofItems e o .find items = .ok c ∧ page.terms e o = .ok terms ∧
      q.params = c.params ∧
      q.Stated [.select e.table (c.tree?.map Prod.snd) terms (page.window o)] :=
  stated_find_of_canSpell (fun i _ => Options.canSpell_of_check ho i) h

/-- The condition on one field of one item. -/
theorem ofItems_single (a : Action) (column : String) (f : FieldValue) :
    Condition.ofItems e o a [Item.empty.set column f] =
      (fun p => [[⟨column, p⟩]]) <$> Predicate.ofField e o a 0 0 column f := by
  show Condition.ofItems e o a [⟨[(column, f)], _⟩] = _
  unfold Condition.ofItems Condition.ofItem
  cases hfield : Predicate.ofField e o a 0 0 column f with
  | error refusal =>
    simp only [List.zipIdx_singleton, List.mapM_cons, hfield]
    rfl
  | ok p =>
    simp only [List.zipIdx_singleton, List.mapM_cons, hfield]
    rfl

/-- The key values of a delete that is not refused, and what becomes of them. -/
theorem delete_eq_ok (h : Query.delete e o items = .ok q) :
    ∃ keys p, deletedKeys e items = .ok keys ∧ keys ≠ [] ∧
      Predicate.ofField e o .delete 0 0 e.identifier (.array keys) = .ok p ∧
      q = ⟨.delete, Sql.batch ["DELETE FROM " ++ quoteIdentifier e.table ++ " WHERE " ++ p.text],
        (FieldPredicate.mk e.identifier p).params⟩ := by
  obtain ⟨keys, hkeys, h⟩ := Outcome.bind_eq_ok_iff.1 h
  dsimp only at h
  split at h
  · obtain ⟨_, hrefused, _⟩ := Outcome.bind_eq_ok_iff.1 h
    cases hrefused
  next hne =>
  obtain ⟨c, hc, h⟩ := Outcome.bind_eq_ok_iff.1 h
  rw [ofItems_single] at hc
  obtain ⟨p, hp, rfl⟩ := Outcome.map_eq_ok_iff.1 hc
  cases h
  refine ⟨keys, p, hkeys, by simpa using hne, hp, ?_⟩
  simp [Condition.params, Condition.text?, Condition.texts, alternatives, Sql.conjunction]

/-- A delete is read as one delete, of the predicate of its key values. -/
theorem stated_delete (h : Query.delete e o items = .ok q) :
    ∃ keys p, deletedKeys e items = .ok keys ∧ keys ≠ [] ∧
      Predicate.ofField e o .delete 0 0 e.identifier (.array keys) = .ok p ∧
      q.params = (FieldPredicate.mk e.identifier p).params ∧
      q.Stated [.delete e.table (some p.tree)] := by
  obtain ⟨keys, p, hkeys, hne, hp, rfl⟩ := delete_eq_ok h
  refine ⟨keys, p, hkeys, hne, hp, rfl, ?_⟩
  have hread : p.Readable := Predicate.readable_ofField hp fun hlike => by cases hlike
  have hnames := (Predicate.namedUnder_ofField hp).nodup
  refine stated_of_states (l := [(_, _)]) rfl (by simpa using states_delete e hread) ?_
    (by rwa [FieldPredicate.names_params])
  simp only [List.flatMap_singleton, Command.uses, Option.toList_some, Predicate.uses_tree]
  rw [Predicate.distinct_uses (Predicate.fieldForm_ofField hp) hnames]
  simp [FieldPredicate.params]

/-- The rows that groups are written by can be read back. -/
theorem readable_of_mem_ofGroups {table : String} {a : Action} {row : Nat}
    {groups : List ShapeGroup} (hgroups : ∀ g ∈ groups, g.columns ≠ [] ∧ g.items ≠ [])
    {vs : List Values} (h : Values.ofGroups table a row groups = .ok vs) {v : Values}
    (hv : v ∈ vs) : v.Readable := by
  obtain ⟨g, hg, hwritten⟩ := Values.written_of_mem_ofGroups h hv
  obtain ⟨hcolumns, hitems⟩ := hgroups g hg
  refine ⟨hwritten.columns ▸ hcolumns, hwritten.rows_ne_nil hitems, hwritten.cells,
    fun r hr p hp => ?_⟩
  refine (Values.namedUnder_ofGroups h).words (by decide) (List.mem_map_of_mem ?_)
  exact List.mem_flatMap.2 ⟨v, hv, List.mem_flatten.2 ⟨r, hr, hp⟩⟩

/-- Blocks of rows are read as one command each. -/
theorem stated_ofValues {table : String} {a : Action} {groups : List ShapeGroup}
    (hgroups : ∀ g ∈ groups, g.columns ≠ [] ∧ g.items ≠ []) {vs : List Values}
    (h : Values.ofGroups table a 0 groups = .ok vs) {text : Values → String}
    {command : Values → Command} (hstates : ∀ v ∈ vs, States (text v) (command v))
    (huses : ∀ v, (command v).uses = v.names.flatMap (·.zip v.columns)) :
    (Query.ofValues a text vs).Stated (vs.map command) := by
  have hnames := (Values.namedUnder_ofGroups h).nodup
  have hflat : (vs.flatMap fun v => (command v).uses) =
      (vs.flatMap Values.params).map fun p => (p.name, p.column) := by
    rw [List.map_flatMap]
    refine List.flatMap_congr fun v hv => ?_
    rw [huses v, (readable_of_mem_ofGroups hgroups h hv).uses_names]
  have hstated := stated_of_states (q := Query.ofValues a text vs)
    (l := vs.map fun v => (text v, command v)) (by rw [List.map_map]; rfl) (by simpa using hstates)
    ?_ hnames
  · rwa [List.map_map] at hstated
  · rw [List.flatMap_map, hflat]
    refine distinctBy_of_nodup (List.Nodup.of_map Prod.fst ?_)
    rw [List.map_map]
    exact hnames

/-- An insert is read as one insert for each block of rows. -/
theorem stated_insert (h : Query.insert e o items = .ok q) :
    ∃ vs, Values.ofGroups e.table .insert 0 ((ShapeGroup.ofItems
        (insertedItems e o items)).flatMap (·.split o.maxInsertRows)) = .ok vs ∧
      q = .ofValues .insert (insertText e) vs ∧
      q.Stated (vs.map fun v => .insert e.table v.columns v.names) := by
  obtain ⟨vs, hvs, rfl⟩ := Outcome.map_eq_ok_iff.1 h
  refine ⟨vs, hvs, rfl, ?_⟩
  have hgroups : ∀ g ∈ (ShapeGroup.ofItems (insertedItems e o items)).flatMap
      (·.split o.maxInsertRows), g.columns ≠ [] ∧ g.items ≠ [] := by
    intro piece hpiece
    obtain ⟨g, hg, hpiece⟩ := List.mem_flatMap.1 hpiece
    have hfrom := ShapeGroup.fromItems_split (ShapeGroup.fromItems_of_mem_ofItems hg) hpiece
    obtain ⟨i, hi, hcolumns⟩ := hfrom.columns
    refine ⟨hcolumns ▸ Item.sortedColumns_ne_nil ?_, hfrom.nonempty⟩
    simpa using (List.mem_filter.1 hi).2
  exact stated_ofValues hgroups hvs
    (fun v hv => states_insert e (readable_of_mem_ofGroups hgroups hvs hv)) fun _ => rfl

/-- An update is read as one merge for each block of rows. -/
theorem stated_update {key : String} (h : Query.update e o items key = .ok q) :
    ∃ rows vs, items.mapM (Item.keyed e key) = .ok rows ∧
      Values.ofGroups e.table .update 0 ((ShapeGroup.ofItems rows.flatten).filter fun g =>
        !(g.changed key).isEmpty) = .ok vs ∧
      q = .ofValues .update (updateText e key) vs ∧ q.Stated (vs.map (mergeCommand e key)) := by
  unfold Query.update at h
  dsimp only at h
  split at h
  · obtain ⟨_, hrefused, _⟩ := Outcome.bind_eq_ok_iff.1 h
    cases hrefused
  obtain ⟨rows, hrows, h⟩ := Outcome.bind_eq_ok_iff.1 h
  obtain ⟨vs, hvs, rfl⟩ := Outcome.map_eq_ok_iff.1 h
  refine ⟨rows, vs, hrows, hvs, rfl, ?_⟩
  have hchanged : ∀ g ∈ (ShapeGroup.ofItems rows.flatten).filter fun g =>
      !(g.changed key).isEmpty, g.changed key ≠ [] := by
    intro g hg
    simpa using (List.mem_filter.1 hg).2
  have hgroups : ∀ g ∈ (ShapeGroup.ofItems rows.flatten).filter fun g =>
      !(g.changed key).isEmpty, g.columns ≠ [] ∧ g.items ≠ [] := by
    intro g hg
    refine ⟨fun hnil => hchanged g hg ?_, ?_⟩
    · rw [ShapeGroup.changed, hnil]
      rfl
    · exact (ShapeGroup.fromItems_of_mem_ofItems (List.mem_filter.1 hg).1).nonempty
  refine stated_ofValues hgroups hvs (fun v hv => ?_) fun _ => rfl
  obtain ⟨g, hg, hwritten⟩ := Values.written_of_mem_ofGroups hvs hv
  refine states_update e key (readable_of_mem_ofGroups hgroups hvs hv) ?_
  rw [hwritten.columns]
  exact hchanged g hg

end Query

end EntitySql
