import EntitySql.Proofs.Resolution

/-!
# Gateways on one connection

A gateway that is bound to a connection sends its own statements on that connection and asks for no
other.  Relations are not its own: the rows that others point to are found by the gateways of a
registry, each in its own session.  So the gateway stays on its connection if and only if the
gateways that it finds relations by are bound to that connection as well.

    the events of a call keep to c ↔ it has no statement, or the gateway is bound to c
                                                                      (keepsTo_perform_iff)
    the first query on a table is the first query of some request    (exists_queries_only)
    g.onConnection c stays on c ↔ the relations of g keep to c               (staysOn_iff)
    what g.onConnection c sends, it sends on c, and all else is found by gateways that are
      registered for what its foreign keys point to, in their sessions      (keepsSessions)
-/

namespace EntitySql

/-! ## Events on a connection -/

/-- What keeps to a connection: requests on it, and what needs none. -/
def Event.KeepsTo (c : Connection) : Event → Prop
  | .acquire | .begin => False
  | .query d _ | .exec d _ | .commit d | .rollback d => d = c
  | .before _ _ _ | .after _ _ | .warn _ _ => True

theorem Event.keepsTo_of_isHook {event : Event} (h : event.isHook = true) (c : Connection) :
    event.KeepsTo c := by
  cases event with
  | before | after => trivial
  | _ => cases h

theorem Operation.keepsTo_request_iff {op : Operation} {c d : Connection} {s : Statement} :
    (op.request d s).KeepsTo c ↔ d = c := by
  cases op <;> rfl

namespace Gateway

/-! ## Calls -/

section

variable {b : Backend} {g : Gateway} {op : Operation} {past : List Event} {c d : Connection}
  {s : Statement}

theorem acquire_mem_perform (hs : g.statement? op = .ok (some s)) (h : g.session = .pooled) :
    .acquire ∈ (g.perform b op past).2 := by
  have hasking : .acquire ∈ g.asking := by
    rw [asking, h]
    exact List.mem_singleton_self _
  have hcourse := g.course b op past
  generalize (g.perform b op past).1 = outcome, (g.perform b op past).2 = events at hcourse ⊢
  cases hcourse with
  | refused hstatement | idle hstatement =>
    rw [hs] at hstatement
    cases hstatement
  | unconnected | failed | answered => simp [hasking]

theorem request_mem_perform (hs : g.statement? op = .ok (some s)) (h : g.session = .bound c) :
    op.request c s ∈ (g.perform b op past).2 := by
  have hsent : op.request c s ∈ g.sent b op past := by
    rw [sent, hs, connection_of_bound h]
    exact List.mem_singleton_self _
  rw [← filter_isStatement] at hsent
  exact (List.mem_filter.1 hsent).1

/-- The events of a call keep to a connection if the gateway is bound to it, and else only if
nothing is sent. -/
theorem keepsTo_perform_iff :
    (∀ event ∈ (g.perform b op past).2, event.KeepsTo c) ↔
      ∀ s, g.statement? op = .ok (some s) → g.session = .bound c := by
  constructor
  · intro h s hs
    cases hsession : g.session with
    | pooled => exact (h _ (acquire_mem_perform hs hsession)).elim
    | bound d =>
      rw [Operation.keepsTo_request_iff.1 (h _ (request_mem_perform hs hsession))]
  · intro h event hevent
    rcases mem_perform hevent with hhook | ⟨⟨s, hs⟩, hasking | hsent⟩
    · exact event.keepsTo_of_isHook hhook c
    · rw [asking_of_bound (h s hs)] at hasking
      cases hasking
    · rw [sent, hs, connection_of_bound (h s hs)] at hsent
      rw [List.mem_singleton.1 hsent]
      exact Operation.keepsTo_request_iff.2 rfl

end

/-! ## Relations -/

/-- The queries that resolving the relations of some rows asks. -/
def queries (g : Gateway) (registry : Registry) (request : RelationRequest) (rows : List Row) :
    Except Error (List RelationQuery) :=
  RelationQuery.ofTargets registry request rows
    (RelationTarget.ofKeys (request.wanted g.entity.foreignKeys))

end Gateway

def RelationQuery.operation (q : RelationQuery) : Operation := .find [q.filter] {}

/-- The same request for one table only. -/
def RelationRequest.only (request : RelationRequest) (table : String) : RelationRequest :=
  { request with tables := some [table] }

theorem RelationRequest.wanted_only {request : RelationRequest} {fks : List ForeignKey}
    {fk : ForeignKey} (hfk : fk ∈ request.wanted fks) :
    (request.only fk.table).wanted fks = (request.wanted fks).filter (·.table = fk.table) := by
  unfold wanted only at *
  cases htables : request.tables with
  | none => simp
  | some tables =>
    rw [htables] at hfk
    have hwanted : tables.contains fk.table = true := (List.mem_filter.1 hfk).2
    dsimp only
    rw [List.filter_filter]
    refine List.filter_congr fun other _ => ?_
    by_cases hother : other.table = fk.table
    · simpa [hother] using hwanted
    · simp [hother]

namespace Gateway

section

variable {g : Gateway} {registry : Registry} {request : RelationRequest} {rows : List Row}

/-- The targets of the request for one table are the targets in this table. -/
theorem ofKeys_wanted_only {queries : List RelationQuery} {q : RelationQuery}
    (h : g.queries registry request rows = .ok queries) (hq : q ∈ queries) :
    RelationTarget.ofKeys ((request.only q.target.table).wanted g.entity.foreignKeys) =
      (RelationTarget.ofKeys (request.wanted g.entity.foreignKeys)).filter
        (·.table = q.target.table) := by
  obtain ⟨fk, hfk, hreference, _⟩ := (mem_references_iff h).1 (List.mem_map_of_mem hq)
  have htable : fk.table = q.target.table := congrArg Prod.fst hreference
  rw [← htable, RelationRequest.wanted_only hfk, RelationTarget.filter_table_ofKeys]

/-- The first of some queries on a table is the first query of the request for this table only. -/
theorem exists_queries_only {queries more : List RelationQuery} {q : RelationQuery}
    (h : g.queries registry request rows = .ok queries)
    (hfirst : queries.filter (·.target.table = q.target.table) = q :: more) :
    ∃ q' rest, g.queries registry (request.only q.target.table) rows = .ok (q' :: rest) ∧
      q'.gateway = q.gateway ∧ q'.operation = q.operation := by
  have hq : q ∈ queries := (List.mem_filter.1 (hfirst ▸ List.mem_cons_self)).1
  obtain ⟨hgateway, hfilter⟩ := RelationQuery.of_mem_ofTargets h hq
  have htargets := ofKeys_wanted_only h hq
  obtain ⟨queries', h'⟩ : ∃ queries', g.queries registry (request.only q.target.table) rows =
      .ok queries' := by
    refine RelationQuery.exists_ofTargets fun t ht _ => ⟨q.gateway, ?_⟩
    rw [htargets] at ht
    rw [of_decide_eq_true (List.mem_filter.1 ht).2, hgateway]
  have hmap : queries'.map (·.target) = q.target :: more.map (·.target) := by
    calc queries'.map (·.target)
        = (queries.map (·.target)).filter (·.table = q.target.table) := by
          rw [RelationQuery.map_target_eq h', RelationQuery.map_target_eq h, htargets,
            List.filter_comm]
      _ = (queries.filter (·.target.table = q.target.table)).map (·.target) := by
          rw [List.filter_map]
          rfl
      _ = q.target :: more.map (·.target) := by rw [hfirst, List.map_cons]
  cases queries' with
  | nil => cases hmap
  | cons q' rest =>
    have htarget : q'.target = q.target := (List.cons.inj hmap).1
    obtain ⟨hgateway', hfilter'⟩ := RelationQuery.of_mem_ofTargets h' List.mem_cons_self
    rw [htarget] at hgateway' hfilter'
    refine ⟨q', rest, h', ?_, ?_⟩
    · rw [hgateway] at hgateway'
      exact (Except.ok.inj hgateway').symm
    · rw [RelationQuery.operation, RelationQuery.operation, hfilter', hfilter]
      rfl

end

/-! ## Runs of queries -/

section

variable {b : Backend} {past : List Event} {p : Event → Prop} {c : Connection}

theorem find_snd (g : Gateway) (items : List Item) (page : Page) :
    (g.find b items page past).2 = (g.perform b (.find items page) past).2 := by
  rw [perform, Access.map_eq]

theorem exists_statement?_of_find {g : Gateway} {items : List Item} {page : Page} {rows : List Row}
    (h : (g.find b items page past).1 = .ok rows) :
    ∃ s, g.statement? (.find items page) = .ok (some s) := by
  have hperform : (g.perform b (.find items page) past).1 = .ok (.rows rows) := by
    rw [perform, Access.map_eq, h]
    rfl
  rcases statement?_of_perform_ok hperform with hnone | ⟨s, _, hs, _⟩
  · exact absurd hnone (statement?_find_ne_none items page)
  · exact ⟨s, hs⟩

/-- The events of queries are those of the first and, if it succeeds, of the others. -/
theorem forall_mem_runAll_cons_iff {q : RelationQuery} {rest : List RelationQuery} :
    (∀ event ∈ (RelationQuery.runAll b (q :: rest) past).2, p event) ↔
      (∀ event ∈ (q.gateway.perform b q.operation past).2, p event) ∧
      ∀ rows, (q.gateway.find b [q.filter] {} past).1 = .ok rows → ∀ event ∈
        (RelationQuery.runAll b rest (past ++ (q.gateway.find b [q.filter] {} past).2)).2,
          p event := by
  rw [RelationQuery.runAll, Access.forall_mem_bind_iff, find_snd]
  refine and_congr_right fun _ => forall_congr' fun rows => imp_congr_right fun _ => ?_
  rw [Access.forall_mem_bind_iff]
  exact and_iff_left fun _ _ => List.forall_mem_nil _

/-- The events of queries are those of finds by their gateways. -/
theorem forall_mem_runAll {queries : List RelationQuery}
    (h : ∀ q ∈ queries, ∀ past, ∀ event ∈ (q.gateway.perform b q.operation past).2, p event)
    (past : List Event) : ∀ event ∈ (RelationQuery.runAll b queries past).2, p event := by
  induction queries generalizing past with
  | nil => exact List.forall_mem_nil _
  | cons q rest ih =>
    obtain ⟨hq, hrest⟩ := List.forall_mem_cons.1 h
    exact forall_mem_runAll_cons_iff.2 ⟨hq past, fun _ _ => ih hrest _⟩

/-- Queries keep to a connection if every one that can be reached does. -/
theorem keepsTo_runAll {queries : List RelationQuery}
    (h : ∀ before q after, queries = before ++ q :: after →
      (∀ q' ∈ before, ∃ s, q'.gateway.statement? q'.operation = .ok (some s)) →
      ∀ s, q.gateway.statement? q.operation = .ok (some s) → q.gateway.session = .bound c) :
    ∀ event ∈ (RelationQuery.runAll b queries past).2, event.KeepsTo c := by
  induction queries generalizing past with
  | nil => exact List.forall_mem_nil _
  | cons q rest ih =>
    refine forall_mem_runAll_cons_iff.2 ⟨?_, fun rows hrows => ih ?_⟩
    · exact keepsTo_perform_iff.2 (h [] q rest rfl (List.forall_mem_nil _))
    · intro before q' after hrest hbefore
      refine h (q :: before) q' after (congrArg (q :: ·) hrest) ?_
      exact List.forall_mem_cons.2 ⟨exists_statement?_of_find hrows, hbefore⟩

/-- The events of a resolution are its warnings and, if its queries are there, those of the
queries. -/
theorem forall_mem_resolve_iff {g : Gateway} {registry : Registry} {request : RelationRequest}
    {rows : List Row} :
    (∀ event ∈ (g.resolve b registry request rows past).2, p event) ↔
      (∀ event ∈ request.warnings g.entity.foreignKeys, p event) ∧
      ∀ queries, g.queries registry request rows = .ok queries →
        ∀ event ∈ (RelationQuery.runAll b queries
          (past ++ request.warnings g.entity.foreignKeys)).2, p event := by
  rw [resolve, Access.forall_mem_bind_iff, request.warn_eq]
  refine and_congr_right fun _ => ?_
  constructor
  · intro h queries hqueries
    have hrun := (Access.forall_mem_bind_iff.1 (h () rfl)).2 queries hqueries
    rw [Access.ofExcept, List.append_nil] at hrun
    exact (Access.forall_mem_bind_iff.1 hrun).1
  · intro h _ _
    refine Access.forall_mem_bind_iff.2 ⟨List.forall_mem_nil _, fun queries hqueries => ?_⟩
    rw [Access.ofExcept, List.append_nil]
    exact Access.forall_mem_bind_iff.2 ⟨h queries hqueries, fun _ _ => List.forall_mem_nil _⟩

end

end Gateway

/-! ## Sequences of calls -/

/-- A call of any sort, with its arguments. -/
inductive Errand
  | operation (op : Operation)
  | resolve (request : RelationRequest) (rows : List Row)
  | findResolved (items : List Item) (page : Page) (request : RelationRequest)

namespace Gateway

/-- Makes a call of any sort, whatever its result. -/
def attend (b : Backend) (g : Gateway) (registry : Registry) : Errand → Access Error Unit
  | .operation op => (fun _ => ()) <$> g.perform b op
  | .resolve request rows => (fun _ => ()) <$> g.resolve b registry request rows
  | .findResolved items page request =>
    (fun _ => ()) <$> g.findResolved b registry items page request

/-- Makes calls one behind another, whether they succeed or not. -/
def attendAll (b : Backend) (g : Gateway) (registry : Registry) : List Errand → Access Error Unit
  | [] => return ()
  | errand :: rest => do
    let _ ← (g.attend b registry errand).attempt
    attendAll b g registry rest

/-- Whatever is called, and whatever the backend answers, all requests are on a connection. -/
def StaysOn (g : Gateway) (registry : Registry) (c : Connection) : Prop :=
  ∀ b errands past, ∀ event ∈ (g.attendAll b registry errands past).2, event.KeepsTo c

/-- The gateways by which relations are resolved are bound to a connection: each that is the first
to be asked and has a statement to send. -/
def RelationsKeepTo (g : Gateway) (registry : Registry) (c : Connection) : Prop :=
  ∀ request rows q rest s, g.queries registry request rows = .ok (q :: rest) →
    q.gateway.statement? q.operation = .ok (some s) → q.gateway.session = .bound c

section

variable {b : Backend} {g : Gateway} {registry : Registry} {c : Connection} {past : List Event}

/-- If relations keep to a connection, every query that can be reached does, not only the first:
the first one on its table has the same gateway. -/
theorem RelationsKeepTo.session_eq (h : g.RelationsKeepTo registry c) {request : RelationRequest}
    {rows : List Row} {before after : List RelationQuery} {q : RelationQuery} {s : Statement}
    (hqueries : g.queries registry request rows = .ok (before ++ q :: after))
    (hbefore : ∀ q' ∈ before, ∃ s, q'.gateway.statement? q'.operation = .ok (some s))
    (hs : q.gateway.statement? q.operation = .ok (some s)) : q.gateway.session = .bound c := by
  have hreached : ∀ q' ∈ before ++ [q], ∃ s, q'.gateway.statement? q'.operation = .ok (some s) :=
    List.forall_mem_append.2 ⟨hbefore, List.forall_mem_singleton.2 ⟨s, hs⟩⟩
  have hq : q ∈ (before ++ [q]).filter (·.target.table = q.target.table) :=
    List.mem_filter.2 ⟨List.mem_append_right _ (List.mem_singleton_self q), decide_eq_true rfl⟩
  obtain ⟨first, more, hfilter⟩ := List.exists_cons_of_ne_nil (List.ne_nil_of_mem hq)
  obtain ⟨hfirst, htable⟩ := List.mem_filter.1 (hfilter ▸ List.mem_cons_self : first ∈ _)
  replace htable : first.target.table = q.target.table := of_decide_eq_true htable
  obtain ⟨s', hs'⟩ := hreached first hfirst
  rw [List.append_cons] at hqueries
  have honly : (before ++ [q] ++ after).filter (·.target.table = first.target.table) =
      first :: (more ++ after.filter (·.target.table = q.target.table)) := by
    rw [htable, List.filter_append, hfilter, List.cons_append]
  obtain ⟨q', rest, hq', hgateway', hoperation⟩ := exists_queries_only hqueries honly
  have hsession := h _ _ q' rest s' hq' (by rw [hgateway', hoperation, hs'])
  -- Both queries have the gateway of the table.
  have hgateway := (RelationQuery.of_mem_ofTargets hqueries
    (List.mem_append_left after hfirst)).1
  rw [htable, (RelationQuery.of_mem_ofTargets hqueries
    (List.mem_append_left after (List.mem_append_right before (List.mem_singleton_self q)))).1]
    at hgateway
  rw [Except.ok.inj hgateway, ← hgateway', hsession]

/-- The events of a call of any sort are those of an operation, of a resolution, or of a find and of
a resolution behind it. -/
theorem forall_mem_attend {p : Event → Prop}
    (hoperation : ∀ op past, ∀ event ∈ (g.perform b op past).2, p event)
    (hresolve : ∀ request rows past, ∀ event ∈ (g.resolve b registry request rows past).2, p event)
    (errand : Errand) (past : List Event) :
    ∀ event ∈ (g.attend b registry errand past).2, p event := by
  cases errand with
  | operation op =>
    rw [Gateway.attend, Access.map_eq]
    exact hoperation op past
  | resolve request rows =>
    rw [Gateway.attend, Access.map_eq]
    exact hresolve request rows past
  | findResolved items page request =>
    rw [Gateway.attend, Access.map_eq]
    refine Access.forall_mem_bind_iff.2 ⟨?_, fun rows _ => hresolve request rows _⟩
    rw [find_snd]
    exact hoperation (.find items page) past

/-- The statement of an operation is sent on the connection that the gateway is bound to. -/
theorem keepsTo_onConnection (op : Operation) (past : List Event) :
    ∀ event ∈ ((g.onConnection c).perform b op past).2, event.KeepsTo c :=
  keepsTo_perform_iff.2 fun _ _ => rfl

/-- Calls on a gateway that is bound to a connection keep to it if its relations do. -/
theorem RelationsKeepTo.attend (h : g.RelationsKeepTo registry c) (errand : Errand)
    (past : List Event) :
    ∀ event ∈ ((g.onConnection c).attend b registry errand past).2, event.KeepsTo c := by
  refine forall_mem_attend keepsTo_onConnection (fun request rows past => ?_) errand past
  refine forall_mem_resolve_iff.2 ⟨fun event hevent => ?_, fun queries hqueries => ?_⟩
  · obtain ⟨table, _, rfl⟩ := List.mem_map.1 hevent
    trivial
  · refine keepsTo_runAll fun before q after hsplit hbefore s hs => ?_
    exact h.session_eq (hsplit ▸ hqueries) hbefore hs

/-- The events of any number of calls are those of each. -/
theorem forall_mem_attendAll {p : Event → Prop} {errands : List Errand}
    (h : ∀ errand ∈ errands, ∀ past, ∀ event ∈ (g.attend b registry errand past).2, p event)
    (past : List Event) : ∀ event ∈ (g.attendAll b registry errands past).2, p event := by
  induction errands generalizing past with
  | nil => exact List.forall_mem_nil _
  | cons errand rest ih =>
    obtain ⟨herrand, hrest⟩ := List.forall_mem_cons.1 h
    exact Access.forall_mem_bind_iff.2 ⟨herrand past, fun _ _ => ih hrest _⟩

end

/-- A gateway on a connection stays on it, whatever is called, if and only if the gateways by which
its relations are resolved are bound to the connection as well. -/
theorem staysOn_iff (g : Gateway) (registry : Registry) (c : Connection) :
    (g.onConnection c).StaysOn registry c ↔ g.RelationsKeepTo registry c := by
  constructor
  · intro h request rows q rest s hqueries hs
    have hrun := h (Script.backend ⟨[], 0, [], false⟩) [.resolve request rows] []
    have hresolve : ∀ event ∈ ((g.onConnection c).resolve (Script.backend ⟨[], 0, [], false⟩)
        registry request rows []).2, event.KeepsTo c := by
      have hattend := (Access.forall_mem_bind_iff.1 hrun).1
      rwa [Access.attempt, attend, Access.map_eq] at hattend
    have hqueries' := (forall_mem_resolve_iff.1 hresolve).2 (q :: rest) hqueries
    exact keepsTo_perform_iff.1 (forall_mem_runAll_cons_iff.1 hqueries').1 s hs
  · intro h b errands past
    exact forall_mem_attendAll (fun errand _ => h.attend errand) past

/-- The event belongs to a find by a gateway that is registered for the table of a foreign key. -/
def IsForeign (b : Backend) (g : Gateway) (registry : Registry) (event : Event)
    (gateway : Gateway) : Prop :=
  (∃ fk ∈ g.entity.foreignKeys, registry.byTable fk.table = .ok gateway) ∧
    ∃ item past, event ∈ (gateway.perform b (.find [item] {}) past).2

section

variable {b : Backend} {g : Gateway} {registry : Registry} {c : Connection}

/-- Beside its warnings, a resolution has the events of finds by registered gateways. -/
theorem forall_mem_resolve {p : Event → Prop} (hwarn : ∀ message table, p (.warn message table))
    (hforeign : ∀ event gateway, g.IsForeign b registry event gateway → p event)
    (request : RelationRequest) (rows : List Row) (past : List Event) :
    ∀ event ∈ (g.resolve b registry request rows past).2, p event := by
  refine forall_mem_resolve_iff.2 ⟨fun event hevent => ?_, fun queries hqueries => ?_⟩
  · obtain ⟨table, _, rfl⟩ := List.mem_map.1 hevent
    exact hwarn _ _
  · refine forall_mem_runAll (fun q hq past event hevent => ?_) _
    obtain ⟨fk, hfk, hreference, _⟩ := (mem_references_iff hqueries).1 (List.mem_map_of_mem hq)
    have htable : fk.table = q.target.table := congrArg Prod.fst hreference
    refine hforeign event q.gateway ⟨⟨fk, (wanted_sublist request _).subset hfk, ?_⟩, ?_⟩
    · rw [htable, (RelationQuery.of_mem_ofTargets hqueries hq).1]
    · exact ⟨q.filter, past, hevent⟩

/-- What a call of any sort does not send on the connection belongs to a find by a registered
gateway that is not bound to it. -/
theorem keepsTo_or_isForeign (errand : Errand) (past : List Event) :
    ∀ event ∈ ((g.onConnection c).attend b registry errand past).2, event.KeepsTo c ∨
      ∃ gateway, gateway.session ≠ .bound c ∧ g.IsForeign b registry event gateway := by
  refine forall_mem_attend ?_ ?_ errand past
  · exact fun op past event hevent => .inl (keepsTo_onConnection op past event hevent)
  · refine forall_mem_resolve (fun _ _ => .inl trivial) fun event gateway hforeign => ?_
    by_cases hsession : gateway.session = .bound c
    · obtain ⟨_, item, past, hevent⟩ := hforeign
      exact .inl (keepsTo_perform_iff.2 (fun _ _ => hsession) event hevent)
    · exact .inr ⟨gateway, hsession, hforeign⟩

end

/-- On which connections the statements of a gateway are sent that is bound to one. -/
structure KeepsSessions (g : Gateway) (registry : Registry) (c : Connection) : Prop where
  /-- The statements of any number of finds, inserts, updates and deletes are sent on the
  connection, and no other is asked for. -/
  own : ∀ b (ops : List Operation) past,
    ∀ event ∈ ((g.onConnection c).attendAll b registry (ops.map .operation) past).2,
      event.KeepsTo c
  /-- Among calls of all sorts, what does not keep to the connection belongs to a find by a gateway
  that is registered for the table of a foreign key, in the session of that gateway. -/
  others : ∀ b errands past, ∀ event ∈ ((g.onConnection c).attendAll b registry errands past).2,
    event.KeepsTo c ∨
      ∃ gateway, gateway.session ≠ .bound c ∧ g.IsForeign b registry event gateway
  /-- So everything keeps to the connection if the gateways by which relations are resolved are
  bound to it as well, and only then. -/
  stays_iff : (g.onConnection c).StaysOn registry c ↔ g.RelationsKeepTo registry c

/-- A gateway on a connection sends its own statements there; rows that others point to are found in
the sessions of the gateways that are registered for their tables. -/
theorem keepsSessions (g : Gateway) (registry : Registry) (c : Connection) :
    g.KeepsSessions registry c where
  own b ops past := by
    refine forall_mem_attendAll (fun errand herrand past => ?_) past
    obtain ⟨op, _, rfl⟩ := List.mem_map.1 herrand
    rw [Gateway.attend, Access.map_eq]
    exact keepsTo_onConnection op past
  others b errands past := forall_mem_attendAll (fun errand _ => keepsTo_or_isForeign errand) past
  stays_iff := g.staysOn_iff registry c

/-- Posts are on a connection, and their authors are looked for on another one. -/
theorem not_staysOn_posts :
    (∃ s, ((posts.onConnection ⟨7⟩).attendAll threeAuthors authors [.resolve {} postRows] []).2 =
      [.acquire, .query ⟨1⟩ s]) ∧
    ¬ (posts.onConnection ⟨7⟩).StaysOn authors ⟨7⟩ := by
  have hevents : ∃ s, ((posts.onConnection ⟨7⟩).attendAll threeAuthors authors
      [.resolve {} postRows] []).2 = [.acquire, .query ⟨1⟩ s] := ⟨_, rfl⟩
  refine ⟨hevents, fun h => ?_⟩
  obtain ⟨s, hevents⟩ := hevents
  have hkeeps := h threeAuthors [.resolve {} postRows] [] .acquire
  rw [hevents] at hkeeps
  exact hkeeps List.mem_cons_self

end Gateway

end EntitySql
