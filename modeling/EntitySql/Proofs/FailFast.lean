import EntitySql.Proofs.Resolution

/-!
# Failing fast

A call sends one statement or none.  It sends the bound query of what the hook makes of its items
if every stage before succeeds; the first stage that fails ends the call with its error, and nothing
that would come behind it is done.  Relations are resolved in the same way: a referenced table that
is not registered ends it before the first query.

    every stage before the statement succeeds → one statement is sent, that of the call
    it is not so → none is sent
    a stage fails → the call fails with its error, and the hook on results does not run
    a referenced table is not registered → no query is sent                    (fails_fast)
-/

namespace EntitySql

/-! ## Calls -/

def Event.isAfter : Event → Bool
  | .after _ _ => true
  | _ => false

namespace Gateway

/-- All stages before the statement of a call succeed: the hook makes items of those it is given,
a query that is not empty is built of these and bound, and there is a connection. -/
structure Ready (b : Backend) (g : Gateway) (op : Operation) (past : List Event)
    (items : List Item) (q : Query) (s : Statement) (c : Connection) : Prop where
  hook : g.prepared op = .ok items
  build : (g.builderOf op).build g.entity g.options items = .ok q
  isEmpty : q.isEmpty = false
  bind : q.bind g.entity = .ok s
  connection : g.connection b (past ++ g.toldBefore op) = .ok c

/-- The first stage of a call that fails, with its error and the events up to it.  What the hook on
results says comes behind all of these. -/
inductive FailsAt (b : Backend) (g : Gateway) (op : Operation) (past : List Event) :
    Error → List Event → Prop
  | hook {e : Error} (h : g.prepared op = .error e) : FailsAt b g op past e (g.toldBefore op)
  | build {items : List Item} {e : Error} (hitems : g.prepared op = .ok items)
      (h : (g.builderOf op).build g.entity g.options items = .error e) :
      FailsAt b g op past e (g.toldBefore op)
  | bind {items : List Item} {q : Query} {e : Error} (hitems : g.prepared op = .ok items)
      (hq : (g.builderOf op).build g.entity g.options items = .ok q) (hempty : q.isEmpty = false)
      (h : q.bind g.entity = .error e) : FailsAt b g op past e (g.toldBefore op)
  | connection {items : List Item} {q : Query} {s : Statement} {e : Error}
      (hitems : g.prepared op = .ok items)
      (hq : (g.builderOf op).build g.entity g.options items = .ok q) (hempty : q.isEmpty = false)
      (hs : q.bind g.entity = .ok s)
      (h : g.connection b (past ++ g.toldBefore op) = .error e) :
      FailsAt b g op past e (g.toldBefore op ++ g.asking)
  | statement {items : List Item} {q : Query} {s : Statement} {c : Connection} {e : Error}
      (hready : g.Ready b op past items q s c)
      (h : op.answer b c s (past ++ g.toldBefore op ++ g.asking) = .error e) :
      FailsAt b g op past e (g.toldBefore op ++ g.asking ++ [op.request c s])

/-- A call that sends at most one statement and stops at the first stage that fails. -/
structure FailsFast (b : Backend) (g : Gateway) (op : Operation) (past : List Event) : Prop where
  /-- The statement of the call is sent, and no other, if all stages before it succeed. -/
  sends : ∀ {items q s c}, g.Ready b op past items q s c →
    (g.perform b op past).2.filter Event.isStatement = [op.request c s]
  /-- No statement is sent if they do not. -/
  withholds : (∀ items q s c, ¬ g.Ready b op past items q s c) →
    (g.perform b op past).2.filter Event.isStatement = []
  /-- The first stage that fails ends the call with its error, and the hook on results is not
  run. -/
  stops : ∀ {e events}, g.FailsAt b op past e events →
    g.perform b op past = (.error e, events) ∧ ∀ event ∈ events, event.isAfter = false
  /-- A query that is empty has a result without a connection: no row is affected. -/
  idles : ∀ {items q}, g.prepared op = .ok items →
    (g.builderOf op).build g.entity g.options items = .ok q → q.isEmpty = true →
    g.perform b op past = ((fun _ => .affected 0) <$> g.accepted op (.affected 0),
      g.toldBefore op ++ g.toldAfter op (.affected 0)) ∧
    .acquire ∉ (g.perform b op past).2
  /-- The result of the statement is that of the call, if the hook on results accepts it. -/
  answers : ∀ {items q s c result}, g.Ready b op past items q s c →
    op.answer b c s (past ++ g.toldBefore op ++ g.asking) = .ok result →
    g.perform b op past = ((fun _ => result) <$> g.accepted op result,
      g.toldBefore op ++ g.asking ++ [op.request c s] ++ g.toldAfter op result)

section

variable {b : Backend} {g : Gateway} {op : Operation} {past events : List Event}
  {items : List Item} {q : Query} {s : Statement} {c : Connection} {e : Error}

theorem Ready.statement? (h : g.Ready b op past items q s c) : g.statement? op = .ok (some s) :=
  statement?_eq_some_iff.2 ⟨q, built_eq_ok_iff.2 ⟨items, h.hook, h.build⟩, h.isEmpty, h.bind⟩

theorem exists_ready (hs : g.statement? op = .ok (some s))
    (hc : g.connection b (past ++ g.toldBefore op) = .ok c) :
    ∃ items q, g.Ready b op past items q s c := by
  obtain ⟨q, hq, hempty, hbind⟩ := statement?_eq_some_iff.1 hs
  obtain ⟨items, hitems, hbuild⟩ := built_eq_ok_iff.1 hq
  exact ⟨items, q, hitems, hbuild, hempty, hbind, hc⟩

/-- A stage that fails is where the course of the call ends. -/
theorem FailsAt.course (h : g.FailsAt b op past e events) :
    Course b g op past (.error e) events := by
  cases h with
  | hook h => exact .refused (statement?_eq_error_iff.2 (.inl (built_eq_error_iff.2 (.inl h))))
  | build hitems h =>
    have hbuilt := built_eq_error_iff.2 (.inr ⟨_, hitems, h⟩)
    exact .refused (statement?_eq_error_iff.2 (.inl hbuilt))
  | bind hitems hq hempty h =>
    have hbuilt := built_eq_ok_iff.2 ⟨_, hitems, hq⟩
    exact .refused (statement?_eq_error_iff.2 (.inr ⟨_, hbuilt, hempty, h⟩))
  | connection hitems hq hempty hs h =>
    have hbuilt := built_eq_ok_iff.2 ⟨_, hitems, hq⟩
    exact .unconnected (statement?_eq_some_iff.2 ⟨_, hbuilt, hempty, hs⟩) h
  | statement hready h => exact .failed hready.statement? hready.connection h

/-- No hook on results has run where a stage fails. -/
theorem FailsAt.isAfter (h : g.FailsAt b op past e events) {event : Event}
    (hevent : event ∈ events) : event.isAfter = false := by
  have hbefore : event ∈ g.toldBefore op → event.isAfter = false := by
    intro hevent
    obtain ⟨stage, items, rfl⟩ := exists_of_mem_toldBefore hevent
    rfl
  have hasking : event ∈ g.asking → event.isAfter = false := by
    intro hevent
    rw [eq_acquire_of_mem_asking hevent]
    rfl
  cases h with
  | hook | build | bind => exact hbefore hevent
  | connection => exact (List.mem_append.1 hevent).elim hbefore hasking
  | statement =>
    rcases List.mem_append.1 hevent with h | h
    · exact (List.mem_append.1 h).elim hbefore hasking
    · rw [List.mem_singleton.1 h]
      cases op <;> rfl

end

theorem failsFast (b : Backend) (g : Gateway) (op : Operation) (past : List Event) :
    g.FailsFast b op past where
  sends := by
    intro items q s c hready
    rw [filter_isStatement, sent, hready.statement?, hready.connection]
  withholds := by
    intro hnone
    rw [filter_isStatement, sent]
    split
    · next s c hs hc =>
      obtain ⟨items, q, hready⟩ := exists_ready hs hc
      exact absurd hready (hnone items q s c)
    · rfl
  stops := fun h => ⟨h.course.perform_eq, fun _ hevent => h.isAfter hevent⟩
  idles := by
    intro items q hitems hq hempty
    have hstatement := statement?_eq_none_iff.2 ⟨q, built_eq_ok_iff.2 ⟨items, hitems, hq⟩, hempty⟩
    have hperform : g.perform b op past = _ := (Course.idle hstatement).perform_eq
    refine ⟨hperform, fun hacquire => ?_⟩
    rw [hperform] at hacquire
    rcases List.mem_append.1 hacquire with h | h
    · cases isHook_of_mem_toldBefore h
    · cases isHook_of_mem_toldAfter h
  answers := fun hready h => (Course.answered hready.statement? hready.connection h).perform_eq

end Gateway

/-! ## Relations -/

theorem Registry.eq_unknownEntity_of_get {registry : Registry} {name : String} {e : Error}
    (h : registry.get name = .error e) : e = .unknownEntity name := by
  unfold get at h
  cases hgateway : Entries.get? name registry.gateways with
  | none =>
    rw [hgateway] at h
    cases h
    rfl
  | some gateway =>
    rw [hgateway] at h
    cases h

/-- A table that leads nowhere is an unknown entity. -/
theorem Registry.eq_unknownEntity_of_byTable {registry : Registry} {table : String} {e : Error}
    (h : registry.byTable table = .error e) : ∃ name, e = .unknownEntity name := by
  unfold byTable at h
  cases hname : Entries.get? table registry.tables with
  | none =>
    rw [hname] at h
    cases h
    exact ⟨table, rfl⟩
  | some name =>
    rw [hname] at h
    exact ⟨name, eq_unknownEntity_of_get h⟩

section

variable {registry : Registry} {request : RelationRequest} {rows : List Row}

theorem RelationQuery.eq_unknownEntity_of_ofTargets {targets : List RelationTarget} {e : Error}
    (h : ofTargets registry request rows targets = .error e) : ∃ name, e = .unknownEntity name := by
  obtain ⟨⟨t, place⟩, _, htarget⟩ := Outcome.exists_error_of_mapM h
  exact Registry.eq_unknownEntity_of_byTable (Outcome.map_eq_error_iff.1 htarget)

/-- There are no queries if a table is not registered that some row needs. -/
theorem RelationQuery.ofTargets_of_unregistered (request : RelationRequest)
    {fks : List ForeignKey} {fk : ForeignKey} (hfk : fk ∈ fks)
    (hheld : ∃ r ∈ rows, r.joinKey? fk.column ≠ none)
    (hregistry : ∀ gateway, registry.byTable fk.table ≠ .ok gateway) :
    ∃ name, ofTargets registry request rows (RelationTarget.ofKeys fks) =
      .error (.unknownEntity name) := by
  cases hqueries : ofTargets registry request rows (RelationTarget.ofKeys fks) with
  | error e =>
    obtain ⟨name, rfl⟩ := eq_unknownEntity_of_ofTargets hqueries
    exact ⟨name, rfl⟩
  | ok queries =>
    have hreference := (mem_references_iff hqueries).2 ⟨fk, hfk, rfl, hheld⟩
    obtain ⟨q, hq, hreference⟩ := List.mem_map.1 hreference
    have htable : q.target.table = fk.table := congrArg Prod.fst hreference
    have hgateway := (of_mem_ofTargets hqueries hq).1
    rw [htable] at hgateway
    exact absurd hgateway (hregistry q.gateway)

theorem Gateway.resolve_of_refused {b : Backend} {g : Gateway} {past : List Event} {e : Error}
    (h : RelationQuery.ofTargets registry request rows
      (RelationTarget.ofKeys (request.wanted g.entity.foreignKeys)) = .error e) :
    g.resolve b registry request rows past = (.error e, request.warnings g.entity.foreignKeys) := by
  rw [resolve, Access.bind_ok (request.warn_eq _ past), h]
  exact Prod.ext rfl (List.append_nil _)

end

theorem filter_isStatement_warnings (request : RelationRequest) (fks : List ForeignKey) :
    (request.warnings fks).filter Event.isStatement = [] := by
  refine List.filter_eq_nil_iff.2 fun event hevent => ?_
  obtain ⟨table, _, rfl⟩ := List.mem_map.1 hevent
  exact Bool.false_ne_true

/-- A call sends one statement or none, and stops at the first stage that fails.  Resolving rows
sends none if the table of a wanted foreign key is not registered of which some row holds a
value. -/
theorem fails_fast (b : Backend) (g : Gateway) (past : List Event) :
    (∀ op, g.FailsFast b op past) ∧
    ∀ (registry : Registry) (request : RelationRequest) (rows : List Row),
      (∃ fk ∈ request.wanted g.entity.foreignKeys, (∃ r ∈ rows, r.joinKey? fk.column ≠ none) ∧
        ∀ gateway, registry.byTable fk.table ≠ .ok gateway) →
      (∃ name, (g.resolve b registry request rows past).1 = .error (.unknownEntity name)) ∧
      (g.resolve b registry request rows past).2.filter Event.isStatement = [] := by
  refine ⟨fun op => g.failsFast b op past, fun registry request rows hmissing => ?_⟩
  obtain ⟨fk, hfk, hheld, hregistry⟩ := hmissing
  obtain ⟨name, hqueries⟩ := RelationQuery.ofTargets_of_unregistered request hfk hheld hregistry
  rw [Gateway.resolve_of_refused hqueries]
  exact ⟨⟨name, rfl⟩, filter_isStatement_warnings request _⟩

/-- Posts with a hook that sees what inserts do. -/
def watchedPosts : Gateway := { posts with hooks := .setAfter .empty .insert fun _ _ => .ok () }

def newPost : Item := .ofList [("author", .value (.int 1))]

/-- A backend that has no connection to give. -/
def offline : Backend := Script.backend ⟨[], 0, [⟨.acquire, "", "offline"⟩], false⟩

/-- A find of all posts sends its statement; an author who is no integer ends an insert before
anything is sent, and so does the lack of a connection, of which the hook on results does not hear.
An insert of nothing has a result without a connection, of which it does.  The authors of posts are
not registered, so that resolving them sends nothing. -/
theorem fails_fast_posts :
    (∃ items q s c, posts.Ready threeAuthors (.find [] {}) [] items q s c ∧
      (posts.perform threeAuthors (.find [] {}) []).2.filter Event.isStatement = [.query c s]) ∧
    (∃ violations, posts.perform threeAuthors
        (.insert [.ofList [("author", .value (.string "ann"))]]) [] =
      (refuse "posts" .insert (.validationFailed violations), [])) ∧
    watchedPosts.perform offline (.insert [newPost]) [] =
      (.error (.backend ⟨"offline"⟩), [.acquire]) ∧
    watchedPosts.perform offline (.insert []) [] =
      (.ok (.affected 0), [.after ⟨.insert, "posts", "id"⟩ (.affected 0)]) ∧
    (∃ fk ∈ RelationRequest.wanted {} posts.entity.foreignKeys,
      (∃ r ∈ postRows, r.joinKey? fk.column ≠ none) ∧
        ∀ gateway, Registry.empty.byTable fk.table ≠ .ok gateway) ∧
    (∃ name, (posts.resolve threeAuthors Registry.empty {} postRows []).1 =
      .error (.unknownEntity name)) ∧
    (posts.resolve threeAuthors Registry.empty {} postRows []).2.filter Event.isStatement = [] := by
  obtain ⟨hcalls, hresolve⟩ := fails_fast threeAuthors posts []
  obtain ⟨hwatched, _⟩ := fails_fast offline watchedPosts []
  have hready : ∃ items q, posts.Ready threeAuthors (.find [] {}) [] items q
      ⟨"SELECT * FROM [posts];", []⟩ ⟨1⟩ := Gateway.exists_ready rfl rfl
  obtain ⟨items, q, hready⟩ := hready
  have hhook : ∃ violations, posts.prepared
      (.insert [.ofList [("author", .value (.string "ann"))]]) =
        refuse "posts" .insert (.validationFailed violations) := ⟨_, rfl⟩
  obtain ⟨violations, hhook⟩ := hhook
  have hconnection : watchedPosts.FailsAt offline (.insert [newPost]) []
      (.backend ⟨"offline"⟩) [.acquire] := .connection rfl rfl rfl rfl rfl
  have hmissing : ∃ fk ∈ RelationRequest.wanted {} posts.entity.foreignKeys,
      (∃ r ∈ postRows, r.joinKey? fk.column ≠ none) ∧
        ∀ gateway, Registry.empty.byTable fk.table ≠ .ok gateway := by
    refine ⟨⟨"author", "authors", "id"⟩, by decide, ⟨_, List.mem_cons_self, by decide⟩, ?_⟩
    rintro gateway ⟨⟩
  refine ⟨⟨items, q, _, _, hready, (hcalls _).sends hready⟩, ⟨violations, ?_⟩, ?_, ?_, hmissing, ?_⟩
  · exact ((hcalls _).stops (.hook hhook)).1
  · exact ((hwatched _).stops hconnection).1
  · exact ((hwatched (.insert [])).idles rfl rfl rfl).1
  · exact hresolve Registry.empty {} postRows hmissing

end EntitySql
