import EntitySql.Proofs.QueryText

/-!
# What a query writes

A query that writes rows is read back as commands, and the parameters in their rows stand for
values: what the query writes is, for each row of each command, the columns with the values of the
parameters in their places.

    what is read back of blocks of rows = what the blocks hold         (records_map)
    a row of a block supplies the columns of the block                 (length_of_mem_names)
    the text of blocks that have rows is empty ↔ nothing is written    (sql_ofValues_eq_empty_iff)
-/

namespace EntitySql

open EntitySql.Sql

/-- What a row of parameters writes into some columns: the value of each into its column. -/
def Params.written (ps : Params) (columns row : List String) : Record :=
  (columns.zip row).map fun (c, name) => (c, (ps.get? name).map fun p => .value p.value)

def Sql.Command.records (ps : Params) : Command → List Record
  | .insert _ columns rows => rows.map (ps.written columns)
  | .merge _ rows columns _ _ => rows.map (ps.written columns)
  | .select .. | .delete .. => []

/-- The records that a query writes by some commands. -/
def Query.records (q : Query) (commands : List Command) : List Record :=
  commands.flatMap (Command.records q.params)

/-- A row of parameters writes what its cells hold. -/
theorem Params.written_names {ps : Params} (h : ps.names.Nodup) {row : Params}
    (hrow : ∀ p ∈ row, p ∈ ps) : ps.written (row.map (·.column)) row.names = row.record := by
  rw [written, names, List.zip_map', List.map_map]
  refine List.map_congr_left fun p hp => ?_
  show (p.column, (ps.get? p.name).map fun p => FieldValue.value p.value) = _
  rw [get?_of_mem h (hrow p hp)]
  rfl

/-- Blocks of rows, each of them written by one command, write what they hold. -/
theorem records_map {table : String} {a : Action} {row : Nat} {groups : List ShapeGroup}
    {vs : List Values} (hvs : Values.ofGroups table a row groups = .ok vs) {q : Query}
    (hparams : q.params = vs.flatMap Values.params) (hnames : q.params.names.Nodup)
    {command : Values → Command}
    (hcommand : ∀ v, (command v).records q.params = v.names.map (q.params.written v.columns)) :
    q.records (vs.map command) = (vs.flatMap Values.rows).map Params.record := by
  rw [Query.records, List.flatMap_map, List.map_flatMap]
  refine List.flatMap_congr fun v hv => ?_
  obtain ⟨g, _, hwritten⟩ := Values.written_of_mem_ofGroups hvs hv
  rw [hcommand, Values.names, List.map_map]
  refine List.map_congr_left fun ps hps => ?_
  have hmem : ∀ p ∈ ps, p ∈ q.params := by
    intro p hp
    rw [hparams]
    exact List.mem_flatMap.2 ⟨v, hv, List.mem_flatten.2 ⟨ps, hps, hp⟩⟩
  have hcells := Params.written_names hnames hmem
  rwa [hwritten.cells ps hps] at hcells

/-- A row of a block has as many parameters as the block has columns. -/
theorem Written.length_of_mem_names {g : ShapeGroup} {v : Values} (h : Written g v)
    {row : List String} (hrow : row ∈ v.names) : row.length = v.columns.length := by
  obtain ⟨ps, hps, rfl⟩ := List.mem_map.1 hrow
  rw [← h.cells ps hps, Params.names, List.length_map, List.length_map]

/-- The text of blocks that all have rows is empty where there is nothing to write. -/
theorem sql_ofValues_eq_empty_iff (a : Action) (text : Values → String) {vs : List Values}
    (hrows : ∀ v ∈ vs, v.rows ≠ []) {records : List Record}
    (hperm : ((vs.flatMap Values.rows).map Params.record).Perm records) :
    (Query.ofValues a text vs).sql = "" ↔ records = [] := by
  have hlength : records = [] ↔ vs.flatMap Values.rows = [] := by
    rw [← List.length_eq_zero_iff, ← hperm.length_eq, List.length_map, List.length_eq_zero_iff]
  rw [Query.ofValues, batch_eq_empty_iff, List.map_eq_nil_iff, hlength,
    List.flatMap_eq_nil_iff]
  constructor
  · intro hnil v hv
    rw [hnil] at hv
    simp at hv
  · intro hnil
    by_contra hne
    obtain ⟨v, hv⟩ := List.exists_mem_of_ne_nil vs hne
    exact hrows v hv (hnil v hv)

end EntitySql
