import EntitySql.Proofs.QueryText

/-!
# Parameters of a query

The text of a query and its parameters agree, though they are put together apart: the text
names exactly the parameters, in their order, and each of them stands where its column says.

    Query.Built e o q → distinctBy id (markers q.sql) = q.params.names ∧ …   (parameters_agree)
-/

namespace EntitySql

open EntitySql.Sql

/-- A query that one of the four builders makes of some items. -/
inductive Query.Built (e : Entity) (o : Options) : Query → Prop
  | find {items : List Item} {page : Page} {q : Query} (h : Query.find e o items page = .ok q) :
      Built e o q
  | insert {items : List Item} {q : Query} (h : Query.insert e o items = .ok q) : Built e o q
  | update {items : List Item} {key : String} {q : Query}
      (h : Query.update e o items key = .ok q) : Built e o q
  | delete {items : List Item} {q : Query} (h : Query.delete e o items = .ok q) : Built e o q

/-- Whatever the builder, the query is read back as the commands it states. -/
theorem Query.Built.exists_stated {e : Entity} {o : Options} {q : Query} (ho : o.check = .ok ())
    (h : Query.Built e o q) : ∃ commands, q.Stated commands := by
  cases h with
  | find h =>
    obtain ⟨c, terms, _, _, _, hstated⟩ := stated_find ho h
    exact ⟨_, hstated⟩
  | insert h =>
    obtain ⟨vs, _, _, hstated⟩ := stated_insert h
    exact ⟨_, hstated⟩
  | update h =>
    obtain ⟨rows, vs, _, _, _, hstated⟩ := stated_update h
    exact ⟨_, hstated⟩
  | delete h =>
    obtain ⟨keys, p, _, _, _, _, hstated⟩ := stated_delete h
    exact ⟨_, hstated⟩

/-- The markers of a query, each once, are the names of its parameters, and no name comes twice.
Read as commands, every marker of the text is a use beside a column that it is compared with, or
in the place of a column that it is written into; that column is the one that the parameter
carries. -/
theorem parameters_agree {e : Entity} {o : Options} {q : Query} (ho : o.check = .ok ())
    (h : Query.Built e o q) :
    distinctBy id (markers q.sql) = q.params.names ∧ q.params.names.Nodup ∧
      ∃ commands, readBatch? q.sql = some commands ∧
        markers q.sql = (commands.flatMap Command.uses).map Prod.fst ∧
        distinctBy id (commands.flatMap Command.uses) =
          q.params.map fun p => (p.name, p.column) := by
  obtain ⟨commands, hstated⟩ := h.exists_stated ho
  have hnames : (q.params.map fun p => (p.name, p.column)).map Prod.fst = q.params.names := by
    rw [List.map_map]
    rfl
  refine ⟨?_, hstated.names, commands, hstated.read, hstated.markers, hstated.uses⟩
  rw [hstated.markers, distinctBy_map, hstated.uses, hnames]
  rw [hstated.uses, hnames]
  exact hstated.names

/-- An entity whose names look like SQL text. -/
def unquoted : Entity :=
  Declaration.entity { name := "x", table := some "t] WHERE @a=('", identifier := "]]@v0_0'" }

/-- An update by a key, on names that look like parameters, quotes and brackets. -/
theorem parameters_agree_unquoted :
    ∃ q, Query.update unquoted { columnMode := .off }
        [.ofList [("]]@v0_0'", .array [.int 1, .int 2]), ("[@w0]'", .value (.string "@v9_9"))]]
        "]]@v0_0'" = .ok q ∧
      q.params.names = ["v0_0", "v0_1", "v1_0", "v1_1"] ∧
      distinctBy id (markers q.sql) = q.params.names := by
  obtain ⟨q, hq⟩ : ∃ q, Query.update unquoted { columnMode := .off }
      [.ofList [("]]@v0_0'", .array [.int 1, .int 2]), ("[@w0]'", .value (.string "@v9_9"))]]
      "]]@v0_0'" = .ok q := ⟨_, rfl⟩
  refine ⟨q, hq, ?_, (parameters_agree (by decide) (.update hq)).1⟩
  cases hq
  decide

end EntitySql
