import EntitySql.Proofs.Grouping
import EntitySql.Relation

/-!
# The queries for relations

Foreign keys are put together by what they point to, and every reference of which some row holds a
value has a query of its own.  The query asks for the values that the rows hold, each of them once,
whichever foreign keys they are held in.

    the targets of foreign keys = the groups by their references             (ofKeys_eq)
    the data of a target have the join keys that rows hold in its columns,
      none of them twice                              (some_mem_data, nodup_data)
    the targets that have a query are those that have data  (map_target_eq, mem_map_target_iff)
    the targets in one table are those of the foreign keys to it     (filter_table_ofKeys)
    all queries are there if the tables of those targets are registered      (exists_ofTargets)
-/

namespace EntitySql

/-! ## References -/

/-- What a foreign key points to: a table and a column of it. -/
def ForeignKey.reference (fk : ForeignKey) : String × String := (fk.table, fk.key)

namespace RelationTarget

/-- What the foreign keys of a target point to. -/
def reference (t : RelationTarget) : String × String := (t.table, t.key)

/-- The target of foreign keys that have one reference. -/
def ofGroup (g : (String × String) × List ForeignKey) : RelationTarget :=
  ⟨g.1.1, g.1.2, g.2.map (·.column)⟩

theorem insert_map_ofGroup (fk : ForeignKey) (groups : List ((String × String) × List ForeignKey)) :
    insert fk (groups.map ofGroup) = (Entries.push fk.reference fk groups).map ofGroup := by
  induction groups with
  | nil => rfl
  | cons g rest ih =>
    have hreference : (ofGroup g).table = fk.table ∧ (ofGroup g).key = fk.key ↔
        g.1 = fk.reference := by
      rw [Prod.ext_iff]
      rfl
    rw [List.map_cons, insert, Entries.push]
    by_cases h : g.1 = fk.reference
    · rw [if_pos (hreference.2 h), if_pos h, List.map_cons, ofGroup, ofGroup, List.map_append]
      rfl
    · rw [if_neg (mt hreference.1 h), if_neg h, List.map_cons, ih]

theorem filter_table_insert (table : String) (fk : ForeignKey) (targets : List RelationTarget) :
    (insert fk targets).filter (·.table = table) =
      if fk.table = table then insert fk (targets.filter (·.table = table))
      else targets.filter (·.table = table) := by
  induction targets with
  | nil => by_cases hfk : fk.table = table <;> simp [insert, hfk]
  | cons t rest ih =>
    rw [insert]
    by_cases hsame : t.table = fk.table ∧ t.key = fk.key
    · by_cases hfk : fk.table = table <;> simp [insert, hsame, hfk]
    · rw [if_neg hsame]
      by_cases ht : t.table = table
      · have hcons : ∀ l : List RelationTarget, (t :: l).filter (·.table = table) =
            t :: l.filter (·.table = table) := fun l => List.filter_cons_of_pos (by simpa using ht)
        rw [hcons, hcons, ih, insert, if_neg hsame]
        split <;> rfl
      · have hcons : ∀ l : List RelationTarget, (t :: l).filter (·.table = table) =
            l.filter (·.table = table) := fun l => List.filter_cons_of_neg (by simpa using ht)
        rw [hcons, hcons, ih]

/-- The targets in a table are those of the foreign keys to the table. -/
theorem filter_table_ofKeys (table : String) (fks : List ForeignKey) :
    (ofKeys fks).filter (·.table = table) = ofKeys (fks.filter (·.table = table)) := by
  induction fks using List.reverseRecOn with
  | nil => rfl
  | append_singleton fks fk ih =>
    have hconcat : ∀ l : List ForeignKey, ofKeys (l ++ [fk]) = insert fk (ofKeys l) := fun l => by
      rw [ofKeys, List.foldl_append]
      rfl
    rw [hconcat, filter_table_insert, ih, List.filter_append]
    by_cases hfk : fk.table = table
    · rw [if_pos hfk, ← hconcat, List.filter_cons_of_pos (by simpa using hfk), List.filter_nil]
    · rw [if_neg hfk, List.filter_cons_of_neg (by simpa using hfk), List.filter_nil,
        List.append_nil]

variable {fks : List ForeignKey}

/-- Foreign keys share a target if they have one reference, and only then. -/
theorem ofKeys_eq (fks : List ForeignKey) :
    ofKeys fks = (groupsBy ForeignKey.reference fks).map ofGroup := by
  unfold ofKeys
  exact foldl_groupsBy ofGroup
    (fun fk l => insert_map_ofGroup fk (groupsBy ForeignKey.reference l)) fks

theorem map_reference (fks : List ForeignKey) :
    (ofKeys fks).map reference = distinctBy id (fks.map ForeignKey.reference) := by
  rw [ofKeys_eq, groupsBy, List.map_map, List.map_map]
  exact List.map_id _

/-- Every reference has one target. -/
theorem nodup_references (fks : List ForeignKey) : ((ofKeys fks).map reference).Nodup := by
  rw [map_reference]
  simpa using nodup_distinctBy id (fks.map ForeignKey.reference)

theorem exists_reference_iff {reference : String × String} :
    (∃ t ∈ ofKeys fks, t.reference = reference) ↔ ∃ fk ∈ fks, fk.reference = reference := by
  have hmem : reference ∈ (ofKeys fks).map RelationTarget.reference ↔
      reference ∈ fks.map ForeignKey.reference := by
    rw [map_reference, mem_distinctBy_id]
  rwa [List.mem_map, List.mem_map] at hmem

/-- The columns of a target are those of the foreign keys that have its reference. -/
theorem mem_columns {t : RelationTarget} (ht : t ∈ ofKeys fks) {c : String} :
    c ∈ t.columns ↔ ∃ fk ∈ fks, fk.reference = t.reference ∧ fk.column = c := by
  rw [ofKeys_eq] at ht
  obtain ⟨g, hg, rfl⟩ := List.mem_map.1 ht
  obtain ⟨_, hmembers⟩ := mem_groupsBy.1 hg
  have hcolumns : (ofGroup g).columns = (fks.filter (·.reference = g.1)).map (·.column) := by
    rw [ofGroup, hmembers]
  rw [hcolumns, List.mem_map]
  constructor
  · rintro ⟨fk, hfk, hc⟩
    obtain ⟨hfk, hreference⟩ := List.mem_filter.1 hfk
    exact ⟨fk, hfk, of_decide_eq_true hreference, hc⟩
  · rintro ⟨fk, hfk, hreference, hc⟩
    exact ⟨fk, List.mem_filter.2 ⟨hfk, decide_eq_true hreference⟩, hc⟩

/-- A target with one of its columns is a foreign key. -/
theorem mk_mem_of_mem_columns {t : RelationTarget} (ht : t ∈ ofKeys fks) {c : String}
    (hc : c ∈ t.columns) : (⟨c, t.table, t.key⟩ : ForeignKey) ∈ fks := by
  obtain ⟨⟨column, table, key⟩, hfk, hreference, rfl⟩ := (mem_columns ht).1 hc
  obtain ⟨rfl, rfl⟩ := Prod.mk.inj hreference
  exact hfk

theorem exists_column_iff {t : RelationTarget} (ht : t ∈ ofKeys fks) {p : String → Prop} :
    (∃ c ∈ t.columns, p c) ↔ ∃ fk ∈ fks, fk.reference = t.reference ∧ p fk.column := by
  constructor
  · rintro ⟨c, hc, hp⟩
    obtain ⟨fk, hfk, hreference, rfl⟩ := (mem_columns ht).1 hc
    exact ⟨fk, hfk, hreference, hp⟩
  · rintro ⟨fk, hfk, hreference, hp⟩
    exact ⟨fk.column, (mem_columns ht).2 ⟨fk, hfk, hreference, rfl⟩, hp⟩

/-- The columns of all targets are those of the foreign keys. -/
theorem perm_columns (fks : List ForeignKey) :
    ((ofKeys fks).flatMap (·.columns)).Perm (fks.map (·.column)) := by
  have hcolumns : (ofKeys fks).flatMap (·.columns) =
      ((groupsBy ForeignKey.reference fks).flatMap Prod.snd).map (·.column) := by
    rw [ofKeys_eq, List.flatMap_map, List.map_flatMap]
    rfl
  rw [hcolumns]
  exact (perm_flatMap_groupsBy ForeignKey.reference fks).map (·.column)

end RelationTarget

/-! ## Data -/

theorem joinKey?_eq_none_iff {d : Datum} : d.joinKey? = none ↔ (Value.ofDatum d).isNull = true := by
  cases d <;> simp [Datum.joinKey?, Value.ofDatum, Value.isNull]

theorem Row.joinKey?_eq_some_iff {r : Row} {c k : String} :
    r.joinKey? c = some k ↔ ∃ d, r.get? c = some d ∧ d.joinKey? = some k :=
  Option.bind_eq_some_iff

namespace RelationTarget

variable {t : RelationTarget} {rows : List Row}

/-- The data of a target are held by rows, and none of them is null. -/
theorem exists_of_mem_data {d : Datum} (h : d ∈ t.data rows) :
    (Value.ofDatum d).isNull = false ∧ ∃ c ∈ t.columns, ∃ r ∈ rows, r.get? c = some d := by
  obtain ⟨hheld, hkey⟩ := List.mem_filter.1 ((distinctBy_sublist Datum.joinKey? _).subset h)
  obtain ⟨r, hr, hd⟩ := List.mem_flatMap.1 hheld
  obtain ⟨c, hc, hget⟩ := List.mem_filterMap.1 hd
  refine ⟨?_, c, hc, r, hr, hget⟩
  rw [← Bool.not_eq_true]
  intro hnull
  rw [joinKey?_eq_none_iff.2 hnull] at hkey
  cases hkey

/-- No two data of a target have one join key. -/
theorem nodup_data (t : RelationTarget) (rows : List Row) :
    ((t.data rows).map Datum.joinKey?).Nodup :=
  nodup_distinctBy Datum.joinKey? _

/-- The data of a target have the join keys that rows hold in its columns. -/
theorem some_mem_data {k : String} :
    some k ∈ (t.data rows).map Datum.joinKey? ↔
      ∃ c ∈ t.columns, ∃ r ∈ rows, r.joinKey? c = some k := by
  rw [data, mem_distinctBy, List.mem_map]
  constructor
  · rintro ⟨d, hd, hk⟩
    obtain ⟨hheld, _⟩ := List.mem_filter.1 hd
    obtain ⟨r, hr, hd⟩ := List.mem_flatMap.1 hheld
    obtain ⟨c, hc, hget⟩ := List.mem_filterMap.1 hd
    exact ⟨c, hc, r, hr, Row.joinKey?_eq_some_iff.2 ⟨d, hget, hk⟩⟩
  · rintro ⟨c, hc, r, hr, hk⟩
    obtain ⟨d, hget, hk⟩ := Row.joinKey?_eq_some_iff.1 hk
    refine ⟨d, List.mem_filter.2 ⟨?_, by rw [hk]; rfl⟩, hk⟩
    exact List.mem_flatMap.2 ⟨r, hr, List.mem_filterMap.2 ⟨c, hc, hget⟩⟩

/-- A target has data if a row holds a value in one of its columns. -/
theorem data_ne_nil_iff :
    t.data rows ≠ [] ↔ ∃ c ∈ t.columns, ∃ r ∈ rows, r.joinKey? c ≠ none := by
  constructor
  · intro h
    obtain ⟨d, hd⟩ := List.exists_mem_of_ne_nil _ h
    obtain ⟨hnull, c, hc, r, hr, hget⟩ := exists_of_mem_data hd
    refine ⟨c, hc, r, hr, fun hnone => ?_⟩
    have hkey : d.joinKey? = none := by simpa [Row.joinKey?, hget] using hnone
    rw [joinKey?_eq_none_iff.1 hkey] at hnull
    cases hnull
  · rintro ⟨c, hc, r, hr, hne⟩ hnil
    obtain ⟨k, hk⟩ := Option.ne_none_iff_exists'.1 hne
    have hmem := some_mem_data.2 ⟨c, hc, r, hr, hk⟩
    rw [hnil] at hmem
    simp at hmem

end RelationTarget

/-! ## Queries -/

namespace RelationQuery

variable {registry : Registry} {request : RelationRequest} {rows : List Row}
  {targets : List RelationTarget} {queries : List RelationQuery}

/-- The queries stand for the targets that have data, each at the place of its target. -/
theorem targets_eq (h : ofTargets registry request rows targets = .ok queries) :
    queries.map (fun q => (q.target, q.place)) =
      targets.zipIdx.filter fun (t, _) => !(t.data rows).isEmpty := by
  rw [Outcome.map_of_mapM h (k := id) fun (t, place) _ q hq => ?_, List.map_id]
  obtain ⟨_, _, rfl⟩ := Outcome.map_eq_ok_iff.1 hq
  rfl

theorem of_mem_ofTargets (h : ofTargets registry request rows targets = .ok queries)
    {q : RelationQuery} (hq : q ∈ queries) :
    registry.byTable q.target.table = .ok q.gateway ∧
      q.filter = q.target.filter request ((q.target.data rows).map Value.ofDatum) := by
  obtain ⟨⟨t, place⟩, _, htarget⟩ := Outcome.mem_of_mapM h hq
  obtain ⟨gateway, hgateway, rfl⟩ := Outcome.map_eq_ok_iff.1 htarget
  exact ⟨hgateway, rfl⟩

/-- A query is at the place of its target. -/
theorem mem_zipIdx_of_mem_ofTargets (h : ofTargets registry request rows targets = .ok queries)
    {q : RelationQuery} (hq : q ∈ queries) : (q.target, q.place) ∈ targets.zipIdx := by
  have hmem : (q.target, q.place) ∈ queries.map fun q => (q.target, q.place) :=
    List.mem_map_of_mem hq
  rw [targets_eq h] at hmem
  exact (List.mem_filter.1 hmem).1

theorem map_target_eq (h : ofTargets registry request rows targets = .ok queries) :
    queries.map (·.target) = targets.filter fun t => !(t.data rows).isEmpty := by
  calc queries.map (·.target)
      = (targets.zipIdx.filter fun (t, _) => !(t.data rows).isEmpty).map Prod.fst := by
        rw [← targets_eq h, List.map_map]
        rfl
    _ = (targets.zipIdx.map Prod.fst).filter fun t => !(t.data rows).isEmpty := by
        rw [List.filter_map]
        rfl
    _ = targets.filter fun t => !(t.data rows).isEmpty := by
        rw [List.zipIdx_map_fst]

/-- The targets that have a query are those that have data. -/
theorem mem_map_target_iff (h : ofTargets registry request rows targets = .ok queries)
    {t : RelationTarget} :
    t ∈ queries.map (·.target) ↔ t ∈ targets ∧ t.data rows ≠ [] := by
  rw [map_target_eq h, List.mem_filter]
  simp

/-- No target has two queries. -/
theorem nodup_map_reference {fks : List ForeignKey}
    (h : ofTargets registry request rows (RelationTarget.ofKeys fks) = .ok queries) :
    (queries.map (·.target.reference)).Nodup := by
  have hreferences : queries.map (·.target.reference) =
      ((RelationTarget.ofKeys fks).zipIdx.filter fun (t, _) => !(t.data rows).isEmpty).map
        (·.1.reference) := by
    rw [← targets_eq h, List.map_map]
    rfl
  have hall : (RelationTarget.ofKeys fks).zipIdx.map (·.1.reference) =
      (RelationTarget.ofKeys fks).map (·.reference) := by
    conv_rhs => rw [← List.zipIdx_map_fst 0 (RelationTarget.ofKeys fks), List.map_map]
    rfl
  rw [hreferences]
  refine List.Nodup.sublist (List.filter_sublist.map _) ?_
  rw [hall]
  exact RelationTarget.nodup_references fks

/-- The queries are there if all tables that need one are registered. -/
theorem exists_ofTargets
    (h : ∀ t ∈ targets, t.data rows ≠ [] → ∃ gateway, registry.byTable t.table = .ok gateway) :
    ∃ queries, ofTargets registry request rows targets = .ok queries := by
  refine Outcome.exists_mapM_iff.2 fun (t, place) ht => ?_
  obtain ⟨ht, hdata⟩ := List.mem_filter.1 ht
  obtain ⟨gateway, hgateway⟩ := h t (List.fst_mem_of_mem_zipIdx ht) (by simpa using hdata)
  exact ⟨_, Outcome.map_eq_ok_iff.2 ⟨gateway, hgateway, rfl⟩⟩

end RelationQuery

end EntitySql
