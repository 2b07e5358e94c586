import EntitySql.Backend.Script
import EntitySql.Proofs.Course
import EntitySql.Proofs.NestedLoops

/-!
# Resolving relations

Resolving the relations of some rows warns of tables that no foreign key points to, asks one query
for each reference of which a row holds a value, and gives every row the rows that it points to.
What comes of it is the join by nested loops of the rows with what the queries find, whatever the
backend answers; and all of it fails if a query does.

    a run of queries = one answer for each, in order                      (runAll_eq_ok_iff)
    a query asks for values that rows hold, and for all of them           (asks_of_mem_ofTargets)
    resolving rows = asking the queries, then looking up what they find   (resolve_eq_ok_iff_lookup)
    resolving rows = asking the queries, then nested loops                (resolves_by_nested_loops)
-/

namespace EntitySql

/-! ## Runs of queries -/

/-- Queries are asked one behind another: each finds some rows, and the events are those of all. -/
inductive Answered (b : Backend) :
    (past : List Event) → List RelationQuery → List (List Row) → (events : List Event) → Prop
  | nil {past : List Event} : Answered b past [] [] []
  | cons {past own more : List Event} {q : RelationQuery} {queries : List RelationQuery}
      {rows : List Row} {answers : List (List Row)}
      (first : q.gateway.find b [q.filter] {} past = (.ok rows, own))
      (others : Answered b (past ++ own) queries answers more) :
      Answered b past (q :: queries) (rows :: answers) (own ++ more)

section

variable {b : Backend} {past events : List Event} {queries : List RelationQuery}

/-- One query is sent for each that is asked. -/
theorem Answered.countP_eq {answers : List (List Row)} (h : Answered b past queries answers events) :
    events.countP Event.isQuery = queries.length := by
  induction h with
  | nil => rfl
  | cons first others ih =>
    rw [List.countP_append, Gateway.countP_find first, ih, List.length_cons, Nat.add_comm]

/-- Queries that are run are asked, and what they find comes with the places of their targets. -/
theorem runAll_eq_ok_iff {found : List (Nat × List Row)} :
    RelationQuery.runAll b queries past = (.ok found, events) ↔ ∃ answers,
      Answered b past queries answers events ∧
        found = (queries.zip answers).map fun p => (p.1.place, p.2) := by
  induction queries generalizing past events found with
  | nil =>
    rw [RelationQuery.runAll, Access.pure_eq_ok_iff]
    constructor
    · rintro ⟨rfl, rfl⟩
      exact ⟨[], .nil, rfl⟩
    · rintro ⟨answers, hanswered, rfl⟩
      cases hanswered
      exact ⟨rfl, rfl⟩
  | cons q queries ih =>
    constructor
    · intro h
      obtain ⟨rows, own, _, hfirst, hrest, rfl⟩ := Access.bind_eq_ok_iff.1 h
      obtain ⟨others, more, _, hothers, hreturn, rfl⟩ := Access.bind_eq_ok_iff.1 hrest
      obtain ⟨rfl, rfl⟩ := Access.pure_eq_ok_iff.1 hreturn
      obtain ⟨answers, hanswered, rfl⟩ := ih.1 hothers
      rw [List.append_nil]
      exact ⟨rows :: answers, .cons hfirst hanswered, rfl⟩
    · rintro ⟨answers, hanswered, rfl⟩
      cases hanswered with
      | cons first others =>
        refine Access.bind_eq_ok_iff.2 ⟨_, _, _, first, ?_, rfl⟩
        refine Access.bind_eq_ok_iff.2 ⟨_, _, _, ih.2 ⟨_, others, rfl⟩, ?_, (List.append_nil _).symm⟩
        exact Access.pure_eq_ok_iff.2 ⟨rfl, rfl⟩

end

/-! ## Requests -/

namespace RelationRequest

/-- A request that names tables wants the rows of these, and any other wants those of all. -/
def Wants (request : RelationRequest) (table : String) : Prop :=
  ∀ tables ∈ request.tables, table ∈ tables

instance (request : RelationRequest) (table : String) : Decidable (request.Wants table) :=
  inferInstanceAs (Decidable (∀ tables ∈ request.tables, table ∈ tables))

/-- The foreign keys that point to a table that a request wants the rows of. -/
def requested (request : RelationRequest) (fks : List ForeignKey) : List ForeignKey :=
  fks.filter fun fk => request.Wants fk.table

/-- The warnings of a request: one for each table that it names and no foreign key points to. -/
def warnings (request : RelationRequest) (fks : List ForeignKey) : List Event :=
  ((request.tables.getD []).filter fun table => ∀ fk ∈ fks, fk.table ≠ table).map fun table =>
    .warn "no foreign key references requested table" (some table)

theorem wanted_eq_requested (request : RelationRequest) (fks : List ForeignKey) :
    request.wanted fks = request.requested fks := by
  obtain ⟨tables, filters⟩ := request
  cases tables with
  | none => simp [wanted, requested, Wants]
  | some tables => simp [wanted, requested, Wants]

end RelationRequest

theorem warnUnreferenced_eq (tables : List String) (past : List Event) :
    warnUnreferenced tables past = (.ok (), tables.map fun table =>
      .warn "no foreign key references requested table" (some table)) := by
  induction tables generalizing past with
  | nil => rfl
  | cons table rest ih => exact Access.bind_eq_ok_iff.2 ⟨(), _, _, rfl, ih _, rfl⟩

theorem RelationRequest.warn_eq (request : RelationRequest) (fks : List ForeignKey)
    (past : List Event) :
    warnUnreferenced (request.unreferenced fks) past = (.ok (), request.warnings fks) := by
  have hunreferenced : request.unreferenced fks =
      (request.tables.getD []).filter fun table => ∀ fk ∈ fks, fk.table ≠ table :=
    List.filter_congr fun table _ => by
      rw [Bool.eq_iff_iff]
      simp
  rw [hunreferenced, RelationRequest.warnings, warnUnreferenced_eq]

/-! ## Queries -/

/-- The text by which a value is joined with data, none for a null: integers of all widths are
joined by what they are. -/
def Value.joinKey? : Value → Option String
  | .bool b => some (if b then "true" else "false")
  | .float x => some (x.text .plain)
  | .double x => some (x.text .plain)
  | .string s => some s
  | .bytes b => some ("[" ++ ", ".intercalate (b.map fun n => toString n.toNat) ++ "]")
  | v => v.integer?.map toString

theorem joinKey?_ofDatum (d : Datum) : (Value.ofDatum d).joinKey? = d.joinKey? := by
  cases d <;> rfl

theorem kind_ofDatum (d : Datum) : (Value.ofDatum d).kind = d.kind.valueKind := by
  cases d <;> rfl

/-- What a query asks for some rows: the rows of its table that meet what the request says of the
table, with a key that some row holds in a column that points to it. -/
structure RelationQuery.Asks (registry : Registry) (request : RelationRequest)
    (fks : List ForeignKey) (rows : List Row) (q : RelationQuery) : Prop where
  gateway : registry.byTable q.target.table = .ok q.gateway
  /-- The key is one of some values.  None of them is null, each is what some row holds in a column
  that points to the key, no two have one join key, and every join key that a row holds in such a
  column is there. -/
  values : ∃ vs : List Value, q.filter.get? q.target.key = some (.array vs) ∧
    (∀ v ∈ vs, v.isNull = false ∧
      ∃ fk ∈ fks, fk.reference = q.target.reference ∧ ∃ r ∈ rows, ∃ d,
        r.get? fk.column = some d ∧ v.kind = d.kind.valueKind ∧ v.joinKey? = d.joinKey?) ∧
    (vs.map Value.joinKey?).Nodup ∧
    ∀ k, some k ∈ vs.map Value.joinKey? ↔
      ∃ fk ∈ fks, fk.reference = q.target.reference ∧ ∃ r ∈ rows, r.joinKey? fk.column = some k
  /-- What the request says of other columns is kept. -/
  others : ∀ c ≠ q.target.key,
    q.filter.get? c = ((Entries.get? q.target.table request.filters).getD .empty).get? c

section

variable {registry : Registry} {request : RelationRequest} {rows : List Row}
  {fks : List ForeignKey} {queries : List RelationQuery}

theorem asks_of_mem_ofTargets
    (h : RelationQuery.ofTargets registry request rows (RelationTarget.ofKeys fks) = .ok queries)
    {q : RelationQuery} (hq : q ∈ queries) : q.Asks registry request fks rows := by
  obtain ⟨hgateway, hfilter⟩ := RelationQuery.of_mem_ofTargets h hq
  obtain ⟨htarget, _⟩ := (RelationQuery.mem_map_target_iff h).1 (List.mem_map_of_mem hq)
  have hkeys : ((q.target.data rows).map Value.ofDatum).map Value.joinKey? =
      (q.target.data rows).map Datum.joinKey? := by
    rw [List.map_map]
    exact List.map_congr_left fun d _ => joinKey?_ofDatum d
  refine ⟨hgateway, ⟨(q.target.data rows).map Value.ofDatum, ?_, ?_, ?_, ?_⟩, ?_⟩
  · rw [hfilter]
    exact Item.get?_set_self _ _ _
  · intro v hv
    obtain ⟨d, hd, rfl⟩ := List.mem_map.1 hv
    obtain ⟨hnull, hheld⟩ := RelationTarget.exists_of_mem_data hd
    obtain ⟨fk, hfk, hreference, r, hr, hget⟩ := (RelationTarget.exists_column_iff htarget).1 hheld
    exact ⟨hnull, fk, hfk, hreference, r, hr, d, hget, kind_ofDatum d, joinKey?_ofDatum d⟩
  · rw [hkeys]
    exact RelationTarget.nodup_data q.target rows
  · intro k
    rw [hkeys, RelationTarget.some_mem_data]
    exact RelationTarget.exists_column_iff htarget
  · intro c hc
    rw [hfilter]
    exact Item.get?_set_of_ne _ hc _

theorem exists_held_iff {t : RelationTarget} (ht : t ∈ RelationTarget.ofKeys fks) :
    t.data rows ≠ [] ↔ ∃ fk ∈ fks, fk.reference = t.reference ∧
      ∃ r ∈ rows, r.joinKey? fk.column ≠ none := by
  rw [RelationTarget.data_ne_nil_iff]
  exact RelationTarget.exists_column_iff ht

/-- The references that have a query are those of which some row holds a value. -/
theorem mem_references_iff
    (h : RelationQuery.ofTargets registry request rows (RelationTarget.ofKeys fks) = .ok queries)
    {reference : String × String} :
    reference ∈ queries.map (·.target.reference) ↔
      ∃ fk ∈ fks, fk.reference = reference ∧ ∃ r ∈ rows, r.joinKey? fk.column ≠ none := by
  constructor
  · intro hreference
    obtain ⟨q, hq, rfl⟩ := List.mem_map.1 hreference
    obtain ⟨htarget, hdata⟩ :=
      (RelationQuery.mem_map_target_iff h).1 (List.mem_map_of_mem hq)
    exact (exists_held_iff htarget).1 hdata
  · rintro ⟨fk, hfk, rfl, hheld⟩
    obtain ⟨t, ht, hreference⟩ := RelationTarget.exists_reference_iff.2 ⟨fk, hfk, rfl⟩
    have hdata := (exists_held_iff ht).2 ⟨fk, hfk, hreference.symm, hheld⟩
    obtain ⟨q, hq, rfl⟩ := List.mem_map.1 ((RelationQuery.mem_map_target_iff h).2 ⟨ht, hdata⟩)
    exact List.mem_map.2 ⟨q, hq, hreference⟩

end

/-! ## Results -/

theorem wanted_sublist (request : RelationRequest) (fks : List ForeignKey) :
    (request.wanted fks).Sublist fks := by
  unfold RelationRequest.wanted
  split
  · exact List.Sublist.refl fks
  · exact List.filter_sublist

/-- Resolving warns, runs the queries and looks up what they find. -/
theorem resolve_eq_ok_iff_lookup {b : Backend} {g : Gateway} {registry : Registry}
    {request : RelationRequest} {rows : List Row} {queries : List RelationQuery}
    (hqueries : RelationQuery.ofTargets registry request rows
      (RelationTarget.ofKeys (request.wanted g.entity.foreignKeys)) = .ok queries)
    {past events : List Event} {resolved : List Resolved} :
    g.resolve b registry request rows past = (.ok resolved, events) ↔ ∃ answers own,
      Answered b (past ++ request.warnings g.entity.foreignKeys) queries answers own ∧
        events = request.warnings g.entity.foreignKeys ++ own ∧
        resolved = rows.map (resolveRow (joinIndexes
          (RelationTarget.ofKeys (request.wanted g.entity.foreignKeys))
            ((queries.zip answers).map fun p => (p.1.place, p.2)))) := by
  have hwarn := request.warn_eq g.entity.foreignKeys past
  unfold Gateway.resolve
  constructor
  · -- Making the queries adds no event: the events are the warnings and those of the finds.
    intro h
    obtain ⟨_, _, _, hfirst, hrest, rfl⟩ := Access.bind_eq_ok_iff.1 h
    obtain ⟨built, _, _, hbuilt, hrun, rfl⟩ := Access.bind_eq_ok_iff.1 hrest
    obtain ⟨found, own, _, hfound, hreturn, rfl⟩ := Access.bind_eq_ok_iff.1 hrun
    obtain ⟨rfl, rfl⟩ := Access.pure_eq_ok_iff.1 hreturn
    obtain ⟨hbuilt, rfl⟩ := Access.ofExcept_eq_ok_iff.1 hbuilt
    rw [hwarn] at hfirst
    obtain ⟨_, rfl⟩ := Prod.mk.inj hfirst
    rw [hqueries] at hbuilt
    cases hbuilt
    obtain ⟨answers, hanswered, rfl⟩ := runAll_eq_ok_iff.1 hfound
    rw [List.append_nil] at hanswered
    refine ⟨answers, own, hanswered, ?_, rfl⟩
    rw [List.nil_append, List.append_nil]
  · rintro ⟨answers, own, hanswered, rfl, rfl⟩
    refine Access.bind_eq_ok_iff.2 ⟨(), _, own, hwarn, ?_, rfl⟩
    refine Access.bind_eq_ok_iff.2 ⟨queries, [], own,
      Access.ofExcept_eq_ok_iff.2 ⟨hqueries, rfl⟩, ?_, rfl⟩
    rw [List.append_nil]
    refine Access.bind_eq_ok_iff.2 ⟨_, own, [], runAll_eq_ok_iff.2 ⟨answers, hanswered, rfl⟩, ?_,
      (List.append_nil own).symm⟩
    exact Access.pure_eq_ok_iff.2 ⟨rfl, rfl⟩

/-- Resolving warns, runs the queries and joins the rows with what they find. -/
theorem resolve_eq_ok_iff {b : Backend} {g : Gateway} {registry : Registry}
    {request : RelationRequest} {rows : List Row} {queries : List RelationQuery}
    (hcolumns : ((request.wanted g.entity.foreignKeys).map (·.column)).Nodup)
    (hqueries : RelationQuery.ofTargets registry request rows
      (RelationTarget.ofKeys (request.wanted g.entity.foreignKeys)) = .ok queries)
    {past events : List Event} {resolved : List Resolved} :
    g.resolve b registry request rows past = (.ok resolved, events) ↔ ∃ answers own,
      Answered b (past ++ request.warnings g.entity.foreignKeys) queries answers own ∧
        events = request.warnings g.entity.foreignKeys ++ own ∧
        resolved = rows.map
          (nestedLoops (request.wanted g.entity.foreignKeys) (queries.zip answers)) := by
  have hjoin : ∀ answers, rows.map (resolveRow (joinIndexes
      (RelationTarget.ofKeys (request.wanted g.entity.foreignKeys))
        ((queries.zip answers).map fun p => (p.1.place, p.2)))) =
      rows.map (nestedLoops (request.wanted g.entity.foreignKeys) (queries.zip answers)) := by
    intro answers
    refine List.map_congr_left fun r _ => resolveRow_eq (fun p hp => ?_) hcolumns r
    exact RelationQuery.mem_zipIdx_of_mem_ofTargets hqueries (List.of_mem_zip hp).1
  simp only [resolve_eq_ok_iff_lookup hqueries, hjoin]

theorem countP_warnings (request : RelationRequest) (fks : List ForeignKey) :
    (request.warnings fks).countP Event.isQuery = 0 := by
  rw [List.countP_eq_zero]
  intro event hevent
  obtain ⟨table, _, rfl⟩ := List.mem_map.1 hevent
  exact Bool.false_ne_true

/-- Resolving rows asks one query for each reference of a requested foreign key of which some row
holds a value, and no other.  It succeeds if all queries do, and gives the rows in their order, each
with what nested loops over the answers find for its requested foreign keys. -/
theorem resolves_by_nested_loops {g : Gateway} {registry : Registry} {request : RelationRequest}
    {rows : List Row} (hcolumns : (g.entity.foreignKeys.map (·.column)).Nodup)
    (hregistry : ∀ fk ∈ request.requested g.entity.foreignKeys,
      (∃ r ∈ rows, r.joinKey? fk.column ≠ none) →
        ∃ gateway, registry.byTable fk.table = .ok gateway) :
    ∃ queries : List RelationQuery,
      (queries.map (·.target.reference)).Nodup ∧
      (∀ reference, reference ∈ queries.map (·.target.reference) ↔
        ∃ fk ∈ request.requested g.entity.foreignKeys, fk.reference = reference ∧
          ∃ r ∈ rows, r.joinKey? fk.column ≠ none) ∧
      (∀ q ∈ queries, q.Asks registry request (request.requested g.entity.foreignKeys) rows) ∧
      ∀ (b : Backend) (past events : List Event) (resolved : List Resolved),
        (g.resolve b registry request rows past = (.ok resolved, events) ↔
          ∃ answers own,
            Answered b (past ++ request.warnings g.entity.foreignKeys) queries answers own ∧
              events = request.warnings g.entity.foreignKeys ++ own ∧
              resolved = rows.map
                (nestedLoops (request.requested g.entity.foreignKeys) (queries.zip answers))) ∧
        (g.resolve b registry request rows past = (.ok resolved, events) →
          events.countP Event.isQuery = queries.length) := by
  simp only [← RelationRequest.wanted_eq_requested] at hregistry ⊢
  have hwanted : ((request.wanted g.entity.foreignKeys).map (·.column)).Nodup :=
    hcolumns.sublist ((wanted_sublist request g.entity.foreignKeys).map _)
  have hexists : ∃ queries, RelationQuery.ofTargets registry request rows
      (RelationTarget.ofKeys (request.wanted g.entity.foreignKeys)) = .ok queries := by
    refine RelationQuery.exists_ofTargets fun t ht hdata => ?_
    obtain ⟨fk, hfk, hreference, hheld⟩ := (exists_held_iff ht).1 hdata
    have htable : fk.table = t.table := congrArg Prod.fst hreference
    rw [← htable]
    exact hregistry fk hfk hheld
  obtain ⟨queries, hqueries⟩ := hexists
  refine ⟨queries, RelationQuery.nodup_map_reference hqueries,
    fun reference => mem_references_iff hqueries, fun q hq => asks_of_mem_ofTargets hqueries hq, ?_⟩
  intro b past events resolved
  refine ⟨resolve_eq_ok_iff hwanted hqueries, fun h => ?_⟩
  obtain ⟨answers, own, hanswered, rfl, _⟩ := (resolve_eq_ok_iff hwanted hqueries).1 h
  rw [List.countP_append, countP_warnings, hanswered.countP_eq, Nat.zero_add]

/-- Posts, which point to authors by two columns. -/
def posts : Gateway :=
  .pooled
    (Declaration.entity
      { name := "post", table := some "posts"
        columns := [.typed "author" .int, .typed "editor" .bigInt]
        foreignKeys := [⟨"author", "authors", "id"⟩, ⟨"editor", "authors", "id"⟩] })
    {} .empty

def authors : Registry :=
  Registry.empty.register <| .pooled
    (Declaration.entity
      { name := "author", table := some "authors", columns := [.typed "id" .int] })
    {} .empty

/-- The first post has two authors, the second one of them, in integers of another width. -/
def postRows : List Row :=
  [⟨"", [⟨"author", .int32 1⟩, ⟨"editor", .int64 2⟩]⟩,
   ⟨"", [⟨"author", .null .int32⟩, ⟨"editor", .int64 1⟩]⟩]

def authorRow (n : Int32) : Row := ⟨"", [⟨"id", .int32 n⟩]⟩

/-- A backend that answers with three authors, one of which was not asked for. -/
def threeAuthors : Backend :=
  Script.backend ⟨[("authors", [authorRow 3, authorRow 2, authorRow 1])], 0, [], false⟩

def taggedPosts : Gateway :=
  .pooled
    (Declaration.entity
      { name := "post", table := some "posts"
        columns := [.typed "tag" .nVarChar, .typed "author" .int, .typed "editor" .bigInt]
        foreignKeys :=
          [⟨"tag", "tags", "code"⟩, ⟨"author", "authors", "id"⟩, ⟨"editor", "authors", "id"⟩] })
    {} .empty

/-- A tag in each of the posts. -/
def taggedRows : List Row :=
  [⟨"", [⟨"tag", .str "a"⟩, ⟨"author", .int32 1⟩, ⟨"editor", .int64 2⟩]⟩,
   ⟨"", [⟨"tag", .str "b"⟩, ⟨"author", .null .int32⟩, ⟨"editor", .int64 1⟩]⟩]

/-- The authors are requested, one of them by a key that gives way to those of the posts, and so are
the rows of a table that nothing points to. -/
def onlyAuthors : RelationRequest :=
  { tables := some ["authors", "readers"]
    filters := [("authors", .ofList [("id", .value (.int 3))])] }

/-- Only authors are asked for, by the two keys that posts hold in three places, although the tags
are not registered; each post has its authors and no other. -/
theorem resolves_posts :
    (taggedPosts.entity.foreignKeys.map (·.column)).Nodup ∧
    (∀ fk ∈ onlyAuthors.requested taggedPosts.entity.foreignKeys,
      (∃ r ∈ taggedRows, r.joinKey? fk.column ≠ none) →
        ∃ gateway, authors.byTable fk.table = .ok gateway) ∧
    ∃ resolved events,
      taggedPosts.resolve threeAuthors authors onlyAuthors taggedRows [] = (.ok resolved, events) ∧
      events = [.warn "no foreign key references requested table" (some "readers"), .acquire,
        .query ⟨2⟩ ⟨"SELECT * FROM [authors] WHERE [id] IN (@w0_0_0_0, @w0_0_0_1);",
          [⟨"w0_0_0_0", .int, .int32 1⟩, ⟨"w0_0_0_1", .int, .int32 2⟩]⟩] ∧
      resolved.map (·.related) =
        [[("author", [authorRow 1]), ("editor", [authorRow 2])],
         [("author", []), ("editor", [authorRow 1])]] ∧
      ∃ q : RelationQuery, q.target.reference = ("authors", "id") ∧
        q.Asks authors onlyAuthors (onlyAuthors.requested taggedPosts.entity.foreignKeys)
          taggedRows ∧
        ∃ answers own, Answered threeAuthors
            (onlyAuthors.warnings taggedPosts.entity.foreignKeys) [q] answers own ∧
          resolved = taggedRows.map (nestedLoops
            (onlyAuthors.requested taggedPosts.entity.foreignKeys) ([q].zip answers)) := by
  have hcolumns : (taggedPosts.entity.foreignKeys.map (·.column)).Nodup := by decide
  have hreferences : ∀ fk ∈ onlyAuthors.requested taggedPosts.entity.foreignKeys,
      fk.reference = ("authors", "id") := by decide
  have hregistry : ∀ fk ∈ onlyAuthors.requested taggedPosts.entity.foreignKeys,
      (∃ r ∈ taggedRows, r.joinKey? fk.column ≠ none) →
        ∃ gateway, authors.byTable fk.table = .ok gateway := by
    intro fk hfk _
    have htable : fk.table = "authors" := congrArg Prod.fst (hreferences fk hfk)
    rw [htable]
    exact ⟨_, rfl⟩
  obtain ⟨queries, hnodup, hasked, hasks, hresolve⟩ := resolves_by_nested_loops hcolumns hregistry
  obtain ⟨resolved, events, hresolved, hevents, hrelated⟩ : ∃ resolved events,
      taggedPosts.resolve threeAuthors authors onlyAuthors taggedRows [] = (.ok resolved, events) ∧
      events = [.warn "no foreign key references requested table" (some "readers"), .acquire,
        .query ⟨2⟩ ⟨"SELECT * FROM [authors] WHERE [id] IN (@w0_0_0_0, @w0_0_0_1);",
          [⟨"w0_0_0_0", .int, .int32 1⟩, ⟨"w0_0_0_1", .int, .int32 2⟩]⟩] ∧
      resolved.map (·.related) =
        [[("author", [authorRow 1]), ("editor", [authorRow 2])],
         [("author", []), ("editor", [authorRow 1])]] :=
    ⟨_, _, rfl, by decide +kernel, by decide +kernel⟩
  obtain ⟨hiff, hcount⟩ := hresolve threeAuthors [] events resolved
  obtain ⟨answers, own, hanswered, _, hjoined⟩ := hiff.1 hresolved
  have hlength : queries.length = 1 := by
    rw [← hcount hresolved, hevents]
    rfl
  obtain ⟨q, rfl⟩ := List.length_eq_one_iff.1 hlength
  have hreference : q.target.reference = ("authors", "id") := by
    obtain ⟨fk, hfk, hreference, _⟩ := (hasked q.target.reference).1 List.mem_cons_self
    rw [← hreference, hreferences fk hfk]
  exact ⟨hcolumns, hregistry, resolved, events, hresolved, hevents, hrelated, q, hreference,
    hasks q List.mem_cons_self, answers, own, hanswered, hjoined⟩

end EntitySql
