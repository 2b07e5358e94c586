import EntitySql.Proofs.Access
import EntitySql.Proofs.Builder

/-!
# The course of a call

The four calls of a gateway take one course.  The hook makes items of those it is given, the query
is built of these and bound, the statement is sent on a connection, and the hook on results sees
what comes of it; the first stage that fails ends the call.  What each stage gives is said without
the events before it, so that the whole course is known from the gateway, the call and the answers
of the backend.

    g.perform b op past = (outcome, events) ↔ Course b g op past outcome events    (perform_eq_iff)
    the query of a find is never empty                                             (isEmpty_of_find)
    the statements that a call sends are one or none                            (filter_isStatement)
    a find that succeeds adds one query to the events                                  (countP_find)
-/

namespace EntitySql

/-! ## Calls with their arguments -/

/-- A call on the rows of an entity, with its arguments. -/
inductive Operation
  | find (items : List Item) (page : Page)
  | insert (items : List Item)
  | update (items : List Item) (key : Option String)
  | delete (items : List Item)

namespace Operation

def items : Operation → List Item
  | .find items _ | .insert items | .update items _ | .delete items => items

/-- The request by which a statement is sent. -/
def request (op : Operation) (c : Connection) (s : Statement) : Event :=
  match op with
  | .find _ _ => .query c s
  | .insert _ | .update _ _ | .delete _ => .exec c s

def answer (op : Operation) (b : Backend) (c : Connection) (s : Statement) (past : List Event) :
    Except Error CallResult :=
  match op with
  | .find _ _ => .rows <$> (b.query c s (past ++ [.query c s])).mapError .backend
  | .insert _ | .update _ _ | .delete _ =>
    .affected <$> (b.exec c s (past ++ [.exec c s])).mapError .backend

def send (op : Operation) (b : Backend) (c : Connection) (s : Statement) :
    Access Error CallResult :=
  match op with
  | .find _ _ => .rows <$> (b.fetch c s).mapError .backend
  | .insert _ | .update _ _ | .delete _ => .affected <$> (b.execute c s).mapError .backend

end Operation

namespace Gateway

def perform (b : Backend) (g : Gateway) : Operation → Access Error CallResult
  | .find items page => .rows <$> g.find b items page
  | .insert items => .affected <$> g.insert b items
  | .update items key => .affected <$> g.update b items key
  | .delete items => .affected <$> g.delete b items

/-! ## Stages -/

/-- What the hooks are told of a call. -/
def callOf (g : Gateway) : Operation → Call
  | .find _ _ => g.call .find none
  | .insert _ => g.call .insert none
  | .update _ key => g.call .update key
  | .delete _ => g.call .delete none

def builderOf (g : Gateway) : Operation → Builder
  | .find _ page => .find page
  | .insert _ => .insert
  | .update _ key => .update (key.getD g.entity.identifier)
  | .delete _ => .delete

/-- The items that a call goes on with: what the hook makes of those it is given, or what the
validation lets pass. -/
def prepared (g : Gateway) (op : Operation) : Except Error (List Item) :=
  match g.hooks.before (g.callOf op).action with
  | none => (g.callOf op).validate op.items
  | some ⟨.replacing, run⟩ => run (g.callOf op) op.items
  | some ⟨.validated, run⟩ => (g.callOf op).validate op.items >>= run (g.callOf op)

/-- The run of the hook on items, if there is one. -/
def toldBefore (g : Gateway) (op : Operation) : List Event :=
  match g.hooks.before (g.callOf op).action with
  | none => []
  | some ⟨.replacing, _⟩ => [.before .replacing (g.callOf op).label op.items]
  | some ⟨.validated, _⟩ =>
    match (g.callOf op).validate op.items with
    | .ok items => [.before .validated (g.callOf op).label items]
    | .error _ => []

def built (g : Gateway) (op : Operation) : Except Error Query :=
  g.prepared op >>= (g.builderOf op).build g.entity g.options

/-- The statement of a call, none if its query does nothing. -/
def statement? (g : Gateway) (op : Operation) : Except Error (Option Statement) := do
  let q ← g.built op
  if q.isEmpty then return none else some <$> q.bind g.entity

def connection (g : Gateway) (b : Backend) (past : List Event) : Except Error Connection :=
  match g.session with
  | .pooled => (b.acquire (past ++ [.acquire])).mapError .backend
  | .bound c => .ok c

/-- The request for a connection, unless the gateway is on one. -/
def asking (g : Gateway) : List Event :=
  match g.session with
  | .pooled => [.acquire]
  | .bound _ => []

/-- What the hook on results says of a result; without a hook it is accepted. -/
def accepted (g : Gateway) (op : Operation) (result : CallResult) : Except Error Unit :=
  match g.hooks.after (g.callOf op).action with
  | none => .ok ()
  | some run => run (g.callOf op) result

/-- The run of the hook on results, if there is one. -/
def toldAfter (g : Gateway) (op : Operation) (result : CallResult) : List Event :=
  match g.hooks.after (g.callOf op).action with
  | none => []
  | some _ => [.after (g.callOf op).label result]

section

variable (g : Gateway) (op : Operation) (b : Backend) (past : List Event)

theorem prepare_eq :
    g.prepare (g.callOf op) op.items past = (g.prepared op, g.toldBefore op) := by
  unfold prepare prepared toldBefore
  rcases g.hooks.before (g.callOf op).action with _ | ⟨_ | _, run⟩
  · rfl
  · rfl
  · dsimp only
    cases (g.callOf op).validate op.items with
    | error e => rfl
    | ok items => rfl

theorem connect_eq : g.connect b past = (g.connection b past, g.asking) := by
  unfold connect connection asking
  cases g.session with
  | bound c => rfl
  | pooled =>
    dsimp only [Access.mapError, Backend.connect, Access.request]
    cases b.acquire (past ++ [.acquire]) with
    | error failure => rfl
    | ok c => rfl

theorem finish_eq (result : CallResult) :
    g.finish (g.callOf op) result past = (g.accepted op result, g.toldAfter op result) := by
  unfold finish accepted toldAfter
  cases g.hooks.after (g.callOf op).action with
  | none => rfl
  | some run => rfl

end

end Gateway

theorem Operation.send_eq (op : Operation) (b : Backend) (c : Connection) (s : Statement)
    (past : List Event) : op.send b c s past = (op.answer b c s past, [op.request c s]) := by
  cases op with
  | find items page =>
    rw [send, Access.map_eq, Access.mapError]
    unfold Backend.fetch Access.request answer
    cases b.query c s (past ++ [.query c s]) with
    | error failure => rfl
    | ok rows => rfl
  | insert items | update items key | delete items =>
    rw [send, Access.map_eq, Access.mapError]
    unfold Backend.execute Access.request answer
    cases b.exec c s (past ++ [.exec c s]) with
    | error failure => rfl
    | ok count => rfl

/-! ## All calls in one form -/

namespace Gateway

/-- Sends the statement of a query; for a query that does nothing, no row is affected. -/
def serve (b : Backend) (g : Gateway) (op : Operation) (q : Query) : Access Error CallResult :=
  if q.isEmpty then return .affected 0
  else do
    let statement ← Access.ofExcept (q.bind g.entity)
    let c ← g.connect b
    op.send b c statement

/-- What follows the query of a call. -/
def conclude (b : Backend) (g : Gateway) (op : Operation) (q : Query) :
    Access Error CallResult := do
  let result ← g.serve b op q
  g.finish (g.callOf op) result
  return result

/-- The stages of a call, one behind another. -/
def stages (b : Backend) (g : Gateway) (op : Operation) : Access Error CallResult := do
  let items ← g.prepare (g.callOf op) op.items
  let q ← Access.ofExcept ((g.builderOf op).build g.entity g.options items)
  g.conclude b op q

/-- A find always has a statement to send. -/
theorem isEmpty_of_find {e : Entity} {o : Options} {items : List Item} {page : Page} {q : Query}
    (h : Query.find e o items page = .ok q) : q.isEmpty = false := by
  obtain ⟨condition, _, h⟩ := Outcome.bind_eq_ok_iff.1 h
  obtain ⟨terms, _, h⟩ := Outcome.bind_eq_ok_iff.1 h
  cases h
  rw [Query.isEmpty, ← Bool.not_eq_true, String.isEmpty_iff, Sql.batch_eq_empty_iff]
  exact List.cons_ne_nil _ _

theorem map_change (b : Backend) (g : Gateway) (op : Operation)
    (hsend : ∀ c s, op.send b c s = .affected <$> (b.execute c s).mapError .backend) :
    .affected <$> g.change b (g.callOf op) op.items
      ((g.builderOf op).build g.entity g.options) = g.stages b op := by
  have hserve : ∀ q, g.serve b op q = .affected <$> g.send b q := by
    intro q
    unfold serve send
    by_cases hq : q.isEmpty = true
    · rw [if_pos hq, if_pos hq, map_pure]
    · rw [if_neg hq, if_neg hq]
      simp only [map_bind, hsend]
  unfold change stages conclude
  simp only [map_bind, map_pure, hserve, bind_map_left]

/-- Every call runs through the stages. -/
theorem perform_eq_stages (b : Backend) (g : Gateway) (op : Operation) :
    g.perform b op = g.stages b op := by
  cases op with
  | insert items => exact g.map_change b (.insert items) fun _ _ => rfl
  | update items key => exact g.map_change b (.update items key) fun _ _ => rfl
  | delete items => exact g.map_change b (.delete items) fun _ _ => rfl
  | find items page =>
    unfold perform find stages conclude
    simp only [map_bind, map_pure]
    refine bind_congr fun items => Access.ofExcept_bind_congr fun q hq => ?_
    unfold serve
    rw [if_neg (Bool.not_eq_true _ ▸ isEmpty_of_find hq)]
    simp only [bind_assoc, Operation.send, bind_map_left]
    rfl

end Gateway

/-! ## The course -/

/-- The course of a call: its stages run one behind another, up to the first that fails. -/
inductive Course (b : Backend) (g : Gateway) (op : Operation) (past : List Event) :
    Except Error CallResult → List Event → Prop
  /-- The hook refuses the items, or no query can be built of them, or it cannot be bound. -/
  | refused {e : Error} (hstatement : g.statement? op = .error e) :
      Course b g op past (.error e) (g.toldBefore op)
  /-- There is nothing to do, which is a result of its own. -/
  | idle (hstatement : g.statement? op = .ok none) :
      Course b g op past ((fun _ => .affected 0) <$> g.accepted op (.affected 0))
        (g.toldBefore op ++ g.toldAfter op (.affected 0))
  /-- There is no connection for the statement. -/
  | unconnected {s : Statement} {e : Error} (hstatement : g.statement? op = .ok (some s))
      (hconnection : g.connection b (past ++ g.toldBefore op) = .error e) :
      Course b g op past (.error e) (g.toldBefore op ++ g.asking)
  /-- The statement fails. -/
  | failed {s : Statement} {c : Connection} {e : Error}
      (hstatement : g.statement? op = .ok (some s))
      (hconnection : g.connection b (past ++ g.toldBefore op) = .ok c)
      (hanswer : op.answer b c s (past ++ g.toldBefore op ++ g.asking) = .error e) :
      Course b g op past (.error e) (g.toldBefore op ++ g.asking ++ [op.request c s])
  /-- The statement has a result, and the hook on results has the last word. -/
  | answered {s : Statement} {c : Connection} {result : CallResult}
      (hstatement : g.statement? op = .ok (some s))
      (hconnection : g.connection b (past ++ g.toldBefore op) = .ok c)
      (hanswer : op.answer b c s (past ++ g.toldBefore op ++ g.asking) = .ok result) :
      Course b g op past ((fun _ => result) <$> g.accepted op result)
        (g.toldBefore op ++ g.asking ++ [op.request c s] ++ g.toldAfter op result)

namespace Gateway

variable {b : Backend} {g : Gateway} {op : Operation} {past events : List Event}
  {outcome : Except Error CallResult}

theorem exists_course (b : Backend) (g : Gateway) (op : Operation) (past : List Event) :
    ∃ outcome events, Course b g op past outcome events := by
  rcases hstatement : g.statement? op with e | _ | s
  · exact ⟨_, _, .refused hstatement⟩
  · exact ⟨_, _, .idle hstatement⟩
  · rcases hconnection : g.connection b (past ++ g.toldBefore op) with e | c
    · exact ⟨_, _, .unconnected hstatement hconnection⟩
    · rcases hanswer : op.answer b c s (past ++ g.toldBefore op ++ g.asking) with e | result
      · exact ⟨_, _, .failed hstatement hconnection hanswer⟩
      · exact ⟨_, _, .answered hstatement hconnection hanswer⟩

theorem built_eq_error_iff {e : Error} :
    g.built op = .error e ↔ g.prepared op = .error e ∨
      ∃ items, g.prepared op = .ok items ∧
        (g.builderOf op).build g.entity g.options items = .error e :=
  Outcome.bind_eq_error_iff

theorem built_eq_ok_iff {q : Query} :
    g.built op = .ok q ↔ ∃ items, g.prepared op = .ok items ∧
      (g.builderOf op).build g.entity g.options items = .ok q :=
  Outcome.bind_eq_ok_iff

/-- There is no statement if there is no query, or if it cannot be bound. -/
theorem statement?_eq_error_iff {e : Error} :
    g.statement? op = .error e ↔ g.built op = .error e ∨
      ∃ q, g.built op = .ok q ∧ q.isEmpty = false ∧ q.bind g.entity = .error e := by
  rw [statement?, Outcome.bind_eq_error_iff]
  refine or_congr_right (exists_congr fun q => and_congr_right fun _ => ?_)
  rcases q.isEmpty
  · simp [Outcome.map_eq_error_iff]
  · simp [pure, Except.pure]

theorem statement?_eq_none_iff :
    g.statement? op = .ok none ↔ ∃ q, g.built op = .ok q ∧ q.isEmpty = true := by
  rw [statement?, Outcome.bind_eq_ok_iff]
  refine exists_congr fun q => and_congr_right fun _ => ?_
  rcases q.isEmpty
  · simp [Outcome.map_eq_ok_iff]
  · simp [pure, Except.pure]

theorem statement?_eq_some_iff {s : Statement} :
    g.statement? op = .ok (some s) ↔
      ∃ q, g.built op = .ok q ∧ q.isEmpty = false ∧ q.bind g.entity = .ok s := by
  rw [statement?, Outcome.bind_eq_ok_iff]
  refine exists_congr fun q => and_congr_right fun _ => ?_
  rcases q.isEmpty
  · simp [Outcome.map_eq_ok_iff]
  · simp [pure, Except.pure]

theorem stages_of_refused {e : Error} (h : g.built op = .error e) :
    g.stages b op past = (.error e, g.toldBefore op) := by
  have hprepare := g.prepare_eq op past
  unfold stages
  rcases built_eq_error_iff.1 h with hitems | ⟨items, hitems, hq⟩
  · rw [hitems] at hprepare
    exact Access.bind_error hprepare _
  · rw [hitems] at hprepare
    rw [Access.bind_ok hprepare, hq]
    exact Prod.ext rfl (List.append_nil _)

/-- A call with a query does what the query asks for behind the hook on items. -/
theorem stages_of_built {q : Query} (h : g.built op = .ok q)
    (hq : g.conclude b op q (past ++ g.toldBefore op) = (outcome, events)) :
    g.stages b op past = (outcome, g.toldBefore op ++ events) := by
  have hprepare := g.prepare_eq op past
  obtain ⟨items, hitems, hbuild⟩ := built_eq_ok_iff.1 h
  rw [hitems] at hprepare
  unfold stages
  rw [Access.bind_ok hprepare, hbuild]
  rw [Access.ofExcept_ok, pure_bind, hq]

theorem conclude_of_serve_error {q : Query} {e : Error}
    (h : g.serve b op q past = (.error e, events)) :
    g.conclude b op q past = (.error e, events) :=
  Access.bind_error h _

theorem conclude_of_serve {q : Query} {result : CallResult}
    (h : g.serve b op q past = (.ok result, events)) :
    g.conclude b op q past =
      ((fun _ => result) <$> g.accepted op result, events ++ g.toldAfter op result) := by
  unfold conclude
  rw [Access.bind_ok h, ← map_eq_pure_bind, Access.map_eq, finish_eq]

theorem serve_of_isEmpty {q : Query} (h : q.isEmpty = true) :
    g.serve b op q past = (.ok (.affected 0), []) := by
  unfold serve
  rw [if_pos h]
  rfl

theorem serve_of_bind_error {q : Query} {e : Error} (hempty : q.isEmpty = false)
    (h : q.bind g.entity = .error e) : g.serve b op q past = (.error e, []) := by
  unfold serve
  rw [if_neg (by simp [hempty]), h]
  rfl

/-- A statement is sent on the connection of the call. -/
theorem serve_of_bind {q : Query} {s : Statement} (hempty : q.isEmpty = false)
    (h : q.bind g.entity = .ok s) :
    g.serve b op q = g.connect b >>= fun c => op.send b c s := by
  unfold serve
  rw [if_neg (by simp [hempty]), h, Access.ofExcept_ok, pure_bind]

end Gateway

/-- The course of a call is what the call does. -/
theorem Course.perform_eq {b : Backend} {g : Gateway} {op : Operation} {past events : List Event}
    {outcome : Except Error CallResult} (h : Course b g op past outcome events) :
    g.perform b op past = (outcome, events) := by
  rw [Gateway.perform_eq_stages]
  have hconnect := g.connect_eq b (past ++ g.toldBefore op)
  cases h with
  | refused hstatement =>
    rcases Gateway.statement?_eq_error_iff.1 hstatement with hq | ⟨q, hq, hempty, hbind⟩
    · exact Gateway.stages_of_refused hq
    · refine (Gateway.stages_of_built hq (Gateway.conclude_of_serve_error
        (Gateway.serve_of_bind_error hempty hbind))).trans ?_
      rw [List.append_nil]
  | idle hstatement =>
    obtain ⟨q, hq, hempty⟩ := Gateway.statement?_eq_none_iff.1 hstatement
    exact Gateway.stages_of_built hq (Gateway.conclude_of_serve (Gateway.serve_of_isEmpty hempty))
  | unconnected hstatement hconnection =>
    obtain ⟨q, hq, hempty, hbind⟩ := Gateway.statement?_eq_some_iff.1 hstatement
    rw [hconnection] at hconnect
    refine Gateway.stages_of_built hq (Gateway.conclude_of_serve_error ?_)
    rw [Gateway.serve_of_bind hempty hbind, Access.bind_error hconnect]
  | failed hstatement hconnection hanswer =>
    obtain ⟨q, hq, hempty, hbind⟩ := Gateway.statement?_eq_some_iff.1 hstatement
    rw [hconnection] at hconnect
    rw [List.append_assoc]
    refine Gateway.stages_of_built hq (Gateway.conclude_of_serve_error ?_)
    rw [Gateway.serve_of_bind hempty hbind, Access.bind_ok hconnect, Operation.send_eq, hanswer]
  | answered hstatement hconnection hanswer =>
    obtain ⟨q, hq, hempty, hbind⟩ := Gateway.statement?_eq_some_iff.1 hstatement
    rw [hconnection] at hconnect
    rw [List.append_assoc, List.append_assoc, ← List.append_assoc g.asking]
    refine Gateway.stages_of_built hq (Gateway.conclude_of_serve ?_)
    rw [Gateway.serve_of_bind hempty hbind, Access.bind_ok hconnect, Operation.send_eq, hanswer]

namespace Gateway

variable {b : Backend} {g : Gateway} {op : Operation} {past events : List Event}
  {outcome : Except Error CallResult}

theorem perform_eq_iff :
    g.perform b op past = (outcome, events) ↔ Course b g op past outcome events := by
  constructor
  · intro h
    obtain ⟨outcome', events', hcourse⟩ := exists_course b g op past
    rw [hcourse.perform_eq] at h
    cases h
    exact hcourse
  · exact Course.perform_eq

theorem course (b : Backend) (g : Gateway) (op : Operation) (past : List Event) :
    Course b g op past (g.perform b op past).1 (g.perform b op past).2 :=
  perform_eq_iff.1 rfl

end Gateway

/-! ## What is sent -/

def Event.isHook : Event → Bool
  | .before _ _ _ | .after _ _ => true
  | _ => false

def Event.isQuery : Event → Bool
  | .query _ _ => true
  | _ => false

def Event.isStatement : Event → Bool
  | .query _ _ | .exec _ _ => true
  | _ => false

theorem Operation.isStatement_request (op : Operation) (c : Connection) (s : Statement) :
    (op.request c s).isStatement = true := by
  cases op <;> rfl

namespace Gateway

variable {b : Backend} {g : Gateway} {op : Operation} {past : List Event}

theorem connection_of_bound {c : Connection} (h : g.session = .bound c) :
    g.connection b past = .ok c := by
  rw [connection, h]

theorem asking_of_bound {c : Connection} (h : g.session = .bound c) : g.asking = [] := by
  rw [asking, h]

theorem exists_of_mem_toldBefore {event : Event} (h : event ∈ g.toldBefore op) :
    ∃ stage items, event = .before stage (g.callOf op).label items := by
  unfold toldBefore at h
  split at h
  · cases h
  · exact ⟨_, _, List.mem_singleton.1 h⟩
  · split at h
    · exact ⟨_, _, List.mem_singleton.1 h⟩
    · cases h

theorem isHook_of_mem_toldBefore {event : Event} (h : event ∈ g.toldBefore op) :
    event.isHook = true := by
  obtain ⟨stage, items, rfl⟩ := exists_of_mem_toldBefore h
  rfl

theorem isHook_of_mem_toldAfter {result : CallResult} {event : Event}
    (h : event ∈ g.toldAfter op result) : event.isHook = true := by
  unfold toldAfter at h
  split at h
  · cases h
  · rw [List.mem_singleton.1 h]
    rfl

theorem eq_acquire_of_mem_asking {event : Event} (h : event ∈ g.asking) : event = .acquire := by
  unfold asking at h
  split at h
  · exact List.mem_singleton.1 h
  · cases h

/-- The statement that a call sends, if it gets that far. -/
def sent (b : Backend) (g : Gateway) (op : Operation) (past : List Event) : List Event :=
  match g.statement? op, g.connection b (past ++ g.toldBefore op) with
  | .ok (some s), .ok c => [op.request c s]
  | _, _ => []

/-- Among the events that are neither runs of hooks nor requests for a connection, a call adds the
statement that it sends, and nothing else. -/
theorem filter_perform {p : Event → Bool} (hhook : ∀ event, event.isHook = true → p event = false)
    (hasking : ∀ event ∈ g.asking, p event = false) (hrequest : ∀ c s, p (op.request c s) = true) :
    (g.perform b op past).2.filter p = g.sent b op past := by
  have hnone : ∀ l : List Event, (∀ event ∈ l, p event = false) → l.filter p = [] := fun l h =>
    List.filter_eq_nil_iff.2 fun event hevent => by
      rw [h event hevent]
      exact Bool.false_ne_true
  have hbefore : (g.toldBefore op).filter p = [] :=
    hnone _ fun event hevent => hhook event (isHook_of_mem_toldBefore hevent)
  have hafter : ∀ result, (g.toldAfter op result).filter p = [] := fun result =>
    hnone _ fun event hevent => hhook event (isHook_of_mem_toldAfter hevent)
  replace hasking := hnone _ hasking
  have hsent : ∀ c s, [op.request c s].filter p = [op.request c s] := fun c s => by
    rw [List.filter_cons, if_pos (hrequest c s), List.filter_nil]
  have hcourse := g.course b op past
  unfold sent
  generalize g.perform b op past = run at hcourse
  obtain ⟨outcome, events⟩ := run
  dsimp only at hcourse ⊢
  cases hcourse with
  | refused hstatement => rw [hstatement, hbefore]
  | idle hstatement => rw [hstatement, List.filter_append, hbefore, hafter, List.nil_append]
  | unconnected hstatement hconnection =>
    rw [hstatement, hconnection, List.filter_append, hbefore, hasking, List.nil_append]
  | failed hstatement hconnection =>
    rw [hstatement, hconnection, List.filter_append, List.filter_append, hbefore, hasking, hsent]
    rfl
  | answered hstatement hconnection =>
    rw [hstatement, hconnection, List.filter_append, List.filter_append, List.filter_append,
      hbefore, hasking, hsent, hafter]
    rfl

theorem filter_isStatement (b : Backend) (g : Gateway) (op : Operation) (past : List Event) :
    (g.perform b op past).2.filter Event.isStatement = g.sent b op past :=
  filter_perform (fun event h => by cases event <;> simp_all [Event.isHook, Event.isStatement])
    (fun event h => by rw [eq_acquire_of_mem_asking h]; rfl) op.isStatement_request

/-- The events of a call are runs of hooks and, if there is a statement, the request for a
connection and the statement itself. -/
theorem mem_perform {event : Event} (h : event ∈ (g.perform b op past).2) :
    event.isHook = true ∨ (∃ s, g.statement? op = .ok (some s)) ∧
      (event ∈ g.asking ∨ event ∈ g.sent b op past) := by
  have hcourse := g.course b op past
  generalize (g.perform b op past).1 = outcome, (g.perform b op past).2 = events at hcourse h
  unfold sent
  cases hcourse with
  | refused => exact .inl (isHook_of_mem_toldBefore h)
  | idle =>
    rcases List.mem_append.1 h with hbefore | hafter
    · exact .inl (isHook_of_mem_toldBefore hbefore)
    · exact .inl (isHook_of_mem_toldAfter hafter)
  | unconnected hstatement =>
    rcases List.mem_append.1 h with hbefore | hasking
    · exact .inl (isHook_of_mem_toldBefore hbefore)
    · exact .inr ⟨⟨_, hstatement⟩, .inl hasking⟩
  | failed hstatement hconnection =>
    rw [hstatement, hconnection]
    simp only [List.mem_append] at h
    rcases h with (hbefore | hasking) | hsent
    · exact .inl (isHook_of_mem_toldBefore hbefore)
    · exact .inr ⟨⟨_, rfl⟩, .inl hasking⟩
    · exact .inr ⟨⟨_, rfl⟩, .inr hsent⟩
  | answered hstatement hconnection =>
    rw [hstatement, hconnection]
    simp only [List.mem_append] at h
    rcases h with ((hbefore | hasking) | hsent) | hafter
    · exact .inl (isHook_of_mem_toldBefore hbefore)
    · exact .inr ⟨⟨_, rfl⟩, .inl hasking⟩
    · exact .inr ⟨⟨_, rfl⟩, .inr hsent⟩
    · exact .inl (isHook_of_mem_toldAfter hafter)

/-- A call that succeeds had a statement and a connection for it, or nothing to do. -/
theorem statement?_of_perform_ok {result : CallResult}
    (h : (g.perform b op past).1 = .ok result) :
    g.statement? op = .ok none ∨ ∃ s c, g.statement? op = .ok (some s) ∧
      g.connection b (past ++ g.toldBefore op) = .ok c := by
  have hcourse := g.course b op past
  rw [h] at hcourse
  generalize houtcome : Except.ok result = outcome, (g.perform b op past).2 = events at hcourse
  cases hcourse with
  | refused | unconnected | failed => cases houtcome
  | idle hstatement => exact .inl hstatement
  | answered hstatement hconnection => exact .inr ⟨_, _, hstatement, hconnection⟩

/-- The query of a find is never empty. -/
theorem statement?_find_ne_none (items : List Item) (page : Page) :
    g.statement? (.find items page) ≠ .ok none := by
  intro h
  obtain ⟨q, hq, hempty⟩ := statement?_eq_none_iff.1 h
  obtain ⟨items, _, hbuild⟩ := built_eq_ok_iff.1 hq
  rw [isEmpty_of_find hbuild] at hempty
  cases hempty

/-- A find that succeeds sends one query. -/
theorem countP_find {items : List Item} {page : Page} {rows : List Row} {events : List Event}
    (h : g.find b items page past = (.ok rows, events)) : events.countP Event.isQuery = 1 := by
  have hperform : g.perform b (.find items page) past = (.ok (.rows rows), events) := by
    rw [perform, Access.map_eq, h]
    rfl
  have hfilter : (g.perform b (.find items page) past).2.filter Event.isQuery =
      g.sent b (.find items page) past :=
    filter_perform (fun event hhook => by cases event <;> simp_all [Event.isHook, Event.isQuery])
      (fun event h => by rw [eq_acquire_of_mem_asking h]; rfl) fun _ _ => rfl
  rw [hperform] at hfilter
  have hok := congrArg Prod.fst hperform
  rcases statement?_of_perform_ok hok with hnone | ⟨s, c, hstatement, hconnection⟩
  · exact absurd hnone (statement?_find_ne_none items page)
  · rw [List.countP_eq_length_filter, hfilter, sent, hstatement, hconnection]
    rfl

end Gateway

end EntitySql
