import EntitySql.Backend.Script
import EntitySql.Proofs.Course
import EntitySql.Transaction

/-!
# The journal of a transaction

What the backend is asked for by a program of calls in a transaction.  It begins a transaction; if
it cannot, that is all.  Then it gets the statements of the calls in their order, up to the first
call that fails, and in the end one request more: to commit if all calls succeed, and to roll back
if one fails.  The transaction has the error of the call that fails, whatever comes of the rollback.

    the requests of a program = those of its calls, in order                       (requests_run)
    a program fails with the error of a call, or all calls succeed
                                                     (run_of_mem_calls, exists_run_eq_ok)
    all calls succeed → begin, their statements, commit                   (committed_of_succeeds)
    a call fails → begin, the statements up to its own, rollback        (rolledBack_of_mem_calls)
    a transaction succeeds ↔ its beginning, all calls and its commit do           (keeps_journal)
-/

namespace EntitySql

/-! ## Programs -/

/-- Calls one behind another, each of which may depend on what came of those before. -/
inductive Program (α : Type)
  | done (a : α)
  | call (g : Gateway) (op : Operation) (next : CallResult → Program α)

/-- A call that was made, with what came of it. -/
structure MadeCall where
  gateway : Gateway
  operation : Operation
  outcome : Except Error CallResult

namespace MadeCall

/-- The statement of the call if it has one, as it is requested on a connection. -/
def requests (made : MadeCall) (c : Connection) : List Event :=
  match made.gateway.statement? made.operation with
  | .ok (some s) => [made.operation.request c s]
  | _ => []

def Succeeds (made : MadeCall) : Prop := ∃ result, made.outcome = .ok result

end MadeCall

namespace Program

variable {α : Type}

/-- Makes the calls on one connection, up to the first that fails. -/
def run (b : Backend) (c : Connection) : Program α → Access TransactionError α
  | .done a => return a
  | .call g op next => do
    let result ← ((g.onConnection c).perform b op).mapError .call
    (next result).run b c

/-- The calls that are made on one connection: all up to the first that fails. -/
def calls (b : Backend) (c : Connection) : Program α → List Event → List MadeCall
  | .done _, _ => []
  | .call g op next, past =>
    match (g.onConnection c).perform b op past with
    | (.error e, _) => [⟨g, op, .error e⟩]
    | (.ok result, own) => ⟨g, op, .ok result⟩ :: (next result).calls b c (past ++ own)

end Program

/-! ## Requests -/

def Event.isRequest : Event → Bool
  | .acquire | .begin | .commit _ | .rollback _ | .query _ _ | .exec _ _ => true
  | .before _ _ _ | .after _ _ | .warn _ _ => false

def requests (events : List Event) : List Event := events.filter Event.isRequest

theorem requests_append (l m : List Event) : requests (l ++ m) = requests l ++ requests m :=
  List.filter_append ..

/-- On a connection, a call requests its statement and nothing else. -/
theorem requests_perform (b : Backend) (g : Gateway) (op : Operation) (c : Connection)
    (past : List Event) (outcome : Except Error CallResult) :
    requests ((g.onConnection c).perform b op past).2 = (MadeCall.mk g op outcome).requests c := by
  have hfilter : requests ((g.onConnection c).perform b op past).2 =
      (g.onConnection c).sent b op past := by
    refine Gateway.filter_perform (fun event h => ?_) (fun event h => nomatch h) fun d s => ?_
    · cases event <;> simp_all [Event.isHook, Event.isRequest]
    · cases op <;> rfl
  have hstatement : (g.onConnection c).statement? op = g.statement? op := rfl
  rw [hfilter, Gateway.sent, Gateway.connection_of_bound rfl, hstatement, MadeCall.requests]
  rcases g.statement? op with e | _ | s <;> rfl

/-! ## Runs of programs -/

namespace Program

variable {α : Type} {b : Backend} {c : Connection} {past own : List Event} {g : Gateway}
  {op : Operation} {next : CallResult → Program α}

section

variable {e : Error} (h : (g.onConnection c).perform b op past = (.error e, own))

include h

/-- A program ends with a call that fails. -/
theorem run_call_error : (call g op next).run b c past = (.error (.call e), own) := by
  have hcall : ((g.onConnection c).perform b op).mapError TransactionError.call past =
      (.error (.call e), own) := by
    rw [Access.mapError, h]
  exact Access.bind_error hcall _

theorem calls_call_error : (call g op next).calls b c past = [⟨g, op, .error e⟩] := by
  rw [calls, h]

end

section

variable {result : CallResult} (h : (g.onConnection c).perform b op past = (.ok result, own))

include h

/-- A program goes on behind a call that succeeds. -/
theorem run_call_ok : (call g op next).run b c past =
    (((next result).run b c (past ++ own)).1, own ++ ((next result).run b c (past ++ own)).2) := by
  have hcall : ((g.onConnection c).perform b op).mapError TransactionError.call past =
      (.ok result, own) := by
    rw [Access.mapError, h]
  exact Access.bind_ok hcall _

theorem calls_call_ok : (call g op next).calls b c past =
    ⟨g, op, .ok result⟩ :: (next result).calls b c (past ++ own) := by
  rw [calls, h]

end

/-- The requests of a program are those of its calls, in order. -/
theorem requests_run (p : Program α) (b : Backend) (c : Connection) (past : List Event) :
    requests (p.run b c past).2 = (p.calls b c past).flatMap (·.requests c) := by
  induction p generalizing past with
  | done a => rfl
  | call g op next ih =>
    have hown := requests_perform b g op c past
    rcases hperform : (g.onConnection c).perform b op past with ⟨e | result, own⟩
    · rw [run_call_error hperform, calls_call_error hperform, List.flatMap_singleton, ← hown,
        hperform]
    · rw [run_call_ok hperform, calls_call_ok hperform, List.flatMap_cons, requests_append, ih,
        ← hown, hperform]

/-- A call that fails is how the program fails. -/
theorem run_of_mem_calls {p : Program α} {made : MadeCall} (hmade : made ∈ p.calls b c past)
    {e : Error} (he : made.outcome = .error e) : (p.run b c past).1 = .error (.call e) := by
  induction p generalizing past with
  | done a => cases hmade
  | call g op next ih =>
    rcases hperform : (g.onConnection c).perform b op past with ⟨e' | result, own⟩
    · rw [calls_call_error hperform, List.mem_singleton] at hmade
      subst hmade
      cases he
      rw [run_call_error hperform]
    · rw [calls_call_ok hperform] at hmade
      rw [run_call_ok hperform]
      rcases List.mem_cons.1 hmade with rfl | hrest
      · cases he
      · exact ih result hrest

/-- A program of calls that all succeed has a result. -/
theorem exists_run_eq_ok {p : Program α} (h : ∀ made ∈ p.calls b c past, made.Succeeds) :
    ∃ a, (p.run b c past).1 = .ok a := by
  induction p generalizing past with
  | done a => exact ⟨a, rfl⟩
  | call g op next ih =>
    rcases hperform : (g.onConnection c).perform b op past with ⟨e | result, own⟩
    · rw [calls_call_error hperform] at h
      obtain ⟨result, hresult⟩ := h _ (List.mem_singleton_self _)
      cases hresult
    · rw [calls_call_ok hperform] at h
      rw [run_call_ok hperform]
      exact ih result fun made hmade => h made (List.mem_cons_of_mem _ hmade)

end Program

/-! ## Transactions -/

namespace Backend

variable {α : Type} {b : Backend} {past own : List Event}

/-- To begin a transaction takes one request at most. -/
theorem beginTransaction_snd (b : Backend) (past : List Event) :
    (b.beginTransaction past).2 = [] ∨ (b.beginTransaction past).2 = [.begin] := by
  unfold beginTransaction
  cases b.begin? with
  | none => exact .inl rfl
  | some answer => exact .inr rfl

/-- A transaction that has begun was requested. -/
theorem beginTransaction_of_ok {c : Connection} (h : (b.beginTransaction past).1 = .ok c) :
    b.beginTransaction past = (.ok c, [.begin]) := by
  cases hbegin : b.begin? with
  | none =>
    rw [beginTransaction, hbegin] at h
    cases h
  | some answer =>
    rw [beginTransaction, hbegin] at h ⊢
    exact Prod.ext h rfl

theorem transaction_of_begin_error {failure : BackendFailure}
    (h : (b.beginTransaction past).1 = .error failure)
    (body : Connection → Access TransactionError α) :
    b.transaction body past = (.error (.ofFailure failure), (b.beginTransaction past).2) := by
  have hbegin : b.beginTransaction.mapError TransactionError.ofFailure past =
      (.error (.ofFailure failure), (b.beginTransaction past).2) := by
    rw [Access.mapError_eq, h]
    rfl
  exact Access.bind_error hbegin _

/-- A transaction that has begun runs its body and is concluded with what comes of it. -/
theorem transaction_of_begin_ok {c : Connection} (h : (b.beginTransaction past).1 = .ok c)
    (body : Connection → Access TransactionError α) {outcome : Except TransactionError α}
    {own : List Event} (hbody : body c (past ++ [.begin]) = (outcome, own)) :
    b.transaction body past = ((b.conclude c outcome (past ++ [.begin] ++ own)).1,
      .begin :: (own ++ (b.conclude c outcome (past ++ [.begin] ++ own)).2)) := by
  have hbegin : b.beginTransaction.mapError TransactionError.ofFailure past =
      (.ok c, [.begin]) := by
    rw [Access.mapError_eq, beginTransaction_of_ok h]
    rfl
  rw [transaction, Access.bind_ok hbegin, Access.attempt_bind, hbody]
  rfl

/-- What succeeds is committed, and only the commit may fail then. -/
theorem conclude_ok (c : Connection) (a : α) :
    b.conclude c (.ok a) past =
      ((fun _ => a) <$> (b.commit c (past ++ [.commit c])).mapError .ofFailure, [.commit c]) := by
  rw [conclude, ← map_eq_pure_bind, Access.map_eq, Access.mapError_eq]
  rfl

/-- A rollback is requested once, and of its failure there is only a warning. -/
theorem exists_abandon_eq {ε : Type} (b : Backend) (c : Connection) (past : List Event) :
    ∃ told, (b.abandon c : Access ε Unit) past = (.ok (), .rollback c :: told) ∧
      requests told = [] := by
  rcases hrollback : b.rollback c (past ++ [.rollback c]) with failure | ⟨⟨⟩⟩
  · refine ⟨[.warn ("rollback failed: " ++ failure.message) none], ?_, rfl⟩
    rw [abandon, Access.attempt_bind, rollBack, Access.request, hrollback]
    rfl
  · refine ⟨[], ?_, rfl⟩
    rw [abandon, Access.attempt_bind, rollBack, Access.request, hrollback]
    rfl

/-- What fails is rolled back, and its error stays. -/
theorem conclude_error (b : Backend) (c : Connection) (e : TransactionError)
    (past : List Event) :
    (b.conclude c (.error e : Except TransactionError α) past).1 = .error e ∧
      requests (b.conclude c (.error e : Except TransactionError α) past).2 = [.rollback c] := by
  obtain ⟨told, habandon, htold⟩ := b.exists_abandon_eq c past
  rw [conclude, Access.bind_ok habandon, requests_append]
  refine ⟨rfl, ?_⟩
  calc requests (.rollback c :: told) ++ requests []
      = .rollback c :: requests told := List.append_nil _
    _ = [.rollback c] := by rw [htold]

end Backend

/-! ## Programs in transactions -/

namespace Program

variable {α : Type}

def transact (b : Backend) (p : Program α) : Access TransactionError α :=
  b.transaction fun c => p.run b c

/-- The program was committed: its statements are followed by a commit, which has the last word. -/
structure Committed (b : Backend) (p : Program α) (past : List Event) (c : Connection) : Prop where
  journal : requests (p.transact b past).2 =
    .begin :: ((p.calls b c (past ++ [.begin])).flatMap (·.requests c) ++ [.commit c])
  /-- The result is that of the program, unless the commit fails: then its failure is the error. -/
  outcome : ∃ a, (p.run b c (past ++ [.begin])).1 = .ok a ∧
    (b.commit c (past ++ (p.transact b past).2) = .ok () → (p.transact b past).1 = .ok a) ∧
    ∀ failure, b.commit c (past ++ (p.transact b past).2) = .error failure →
      (p.transact b past).1 = .error (.other failure.message)

/-- The program was rolled back: its statements are followed by a rollback, of which nothing is left
in the error. -/
structure RolledBack (b : Backend) (p : Program α) (past : List Event) (c : Connection)
    (e : Error) : Prop where
  journal : requests (p.transact b past).2 =
    .begin :: ((p.calls b c (past ++ [.begin])).flatMap (·.requests c) ++ [.rollback c])
  outcome : (p.transact b past).1 = .error (.call e)

/-- What a transaction makes of a program. -/
structure KeepsJournal (b : Backend) (p : Program α) (past : List Event) : Prop where
  /-- A transaction that cannot begin has the error of its beginning, and nothing else is
  requested. -/
  unbegun : ∀ {failure}, (b.beginTransaction past).1 = .error failure →
    (p.transact b past).1 = .error (.other failure.message) ∧
      ((p.transact b past).2 = [] ∨ (p.transact b past).2 = [.begin])
  /-- Calls that all succeed are committed. -/
  committed : ∀ {c}, (b.beginTransaction past).1 = .ok c →
    (∀ made ∈ p.calls b c (past ++ [.begin]), made.Succeeds) → p.Committed b past c
  /-- A call that fails is rolled back with those before it. -/
  rolledBack : ∀ {c made e}, (b.beginTransaction past).1 = .ok c →
    made ∈ p.calls b c (past ++ [.begin]) → made.outcome = .error e → p.RolledBack b past c e
  /-- A transaction succeeds if it begins, all its calls succeed and the commit does. -/
  succeeds_iff : (∃ a, (p.transact b past).1 = .ok a) ↔
    ∃ c, (b.beginTransaction past).1 = .ok c ∧
      (∀ made ∈ p.calls b c (past ++ [.begin]), made.Succeeds) ∧
      b.commit c (past ++ (p.transact b past).2) = .ok ()

section

variable {b : Backend} {p : Program α} {past : List Event} {c : Connection}
  (hbegin : (b.beginTransaction past).1 = .ok c)

include hbegin

/-- Behind the beginning, the requests are those of the calls and of the conclusion. -/
theorem requests_transact {outcome : Except TransactionError α} {own : List Event}
    (hrun : p.run b c (past ++ [.begin]) = (outcome, own)) :
    requests (p.transact b past).2 =
      .begin :: ((p.calls b c (past ++ [.begin])).flatMap (·.requests c) ++
        requests (b.conclude c outcome (past ++ [.begin] ++ own)).2) := by
  have hown : requests own =
      (p.calls b c (past ++ [.begin])).flatMap (·.requests c) := by
    rw [← requests_run, hrun]
  rw [transact, Backend.transaction_of_begin_ok hbegin _ hrun, ← hown, ← requests_append]
  rfl

theorem committed_of_succeeds
    (hcalls : ∀ made ∈ p.calls b c (past ++ [.begin]), made.Succeeds) :
    p.Committed b past c := by
  obtain ⟨a, ha⟩ := exists_run_eq_ok hcalls
  have hrun : p.run b c (past ++ [.begin]) = (.ok a, (p.run b c (past ++ [.begin])).2) :=
    Prod.ext ha rfl
  have houtcome : (p.transact b past).1 =
      (fun _ => a) <$> (b.commit c (past ++ (p.transact b past).2)).mapError .ofFailure := by
    rw [transact, Backend.transaction_of_begin_ok hbegin _ hrun, Backend.conclude_ok]
    simp only [List.append_assoc, List.cons_append, List.nil_append]
  refine ⟨?_, a, ha, fun hcommit => ?_, fun failure hcommit => ?_⟩
  · rw [requests_transact hbegin hrun, Backend.conclude_ok]
    rfl
  · rw [houtcome, hcommit]
    rfl
  · rw [houtcome, hcommit]
    rfl

theorem rolledBack_of_mem_calls {made : MadeCall} {e : Error}
    (hmade : made ∈ p.calls b c (past ++ [.begin])) (he : made.outcome = .error e) :
    p.RolledBack b past c e := by
  have hrun : p.run b c (past ++ [.begin]) =
      (.error (.call e), (p.run b c (past ++ [.begin])).2) :=
    Prod.ext (run_of_mem_calls hmade he) rfl
  constructor
  · rw [requests_transact hbegin hrun, (b.conclude_error c _ _).2]
  · rw [transact, Backend.transaction_of_begin_ok hbegin _ hrun, (b.conclude_error c _ _).1]

end

end Program

/-- A program in a transaction requests its beginning, the statements of the calls up to the first
that fails, and then either a commit or a rollback, as the calls succeed or one fails; its result is
decided by them in this order. -/
theorem keeps_journal {α : Type} (b : Backend) (p : Program α) (past : List Event) :
    p.KeepsJournal b past where
  unbegun := by
    intro failure hbegin
    rw [Program.transact, Backend.transaction_of_begin_error hbegin]
    exact ⟨rfl, b.beginTransaction_snd past⟩
  committed := Program.committed_of_succeeds
  rolledBack := fun hbegin hmade he => Program.rolledBack_of_mem_calls hbegin hmade he
  succeeds_iff := by
    constructor
    · rintro ⟨a, ha⟩
      rcases hbegin : (b.beginTransaction past).1 with failure | c
      · rw [Program.transact, Backend.transaction_of_begin_error hbegin] at ha
        cases ha
      · have hcalls : ∀ made ∈ p.calls b c (past ++ [.begin]), made.Succeeds := by
          intro made hmade
          rcases he : made.outcome with e | result
          · rw [(Program.rolledBack_of_mem_calls hbegin hmade he).outcome] at ha
            cases ha
          · exact ⟨result, he⟩
        obtain ⟨_, _, _, hlost⟩ := (Program.committed_of_succeeds hbegin hcalls).outcome
        refine ⟨c, rfl, hcalls, ?_⟩
        rcases hcommit : b.commit c (past ++ (p.transact b past).2) with failure | ⟨⟨⟩⟩
        · rw [hlost failure hcommit] at ha
          cases ha
        · rfl
    · rintro ⟨c, hbegin, hcalls, hcommit⟩
      obtain ⟨a, _, hkept, _⟩ := (Program.committed_of_succeeds hbegin hcalls).outcome
      exact ⟨a, hkept hcommit⟩

def accounts : Gateway :=
  .pooled
    (Declaration.entity
      { name := "account", table := some "accounts"
        columns := [.typed "id" .int, .typed "owner" .nVarChar] })
    {} .empty

def openAndClose : Program CallResult :=
  .call accounts (.insert [.ofList [("owner", .value (.string "ann"))]]) fun _ =>
    .call accounts (.delete [.ofList [("id", .value (.int 1))]]) .done

/-- A backend that refuses statements with some text, and all rollbacks. -/
def refusing (text : String) : Backend :=
  Script.backend ⟨[], 1, [⟨.exec, text, "refused"⟩, ⟨.rollback, "", "lost"⟩], true⟩

/-- A backend that fails all requests of a sort. -/
def failing (request : Request) : Backend :=
  Script.backend ⟨[], 1, [⟨request, "", "unavailable"⟩], true⟩

/-- Both calls are committed; if the second is refused, both are rolled back, and that it was
refused is the error even though the rollback is lost.  A commit that fails is not followed by
anything, and neither is a beginning that fails: the failure is the error. -/
theorem keeps_journal_accounts :
    (∃ opening closing, requests (openAndClose.transact (refusing "UPDATE") []).2 =
      [.begin, .exec ⟨1⟩ opening, .exec ⟨1⟩ closing, .commit ⟨1⟩]) ∧
    ((∃ opening closing, requests (openAndClose.transact (refusing "DELETE") []).2 =
      [.begin, .exec ⟨1⟩ opening, .exec ⟨1⟩ closing, .rollback ⟨1⟩]) ∧
      (openAndClose.transact (refusing "DELETE") []).1 =
        .error (.call (.backend ⟨"refused"⟩))) ∧
    ((∃ opening closing, requests (openAndClose.transact (failing .commit) []).2 =
      [.begin, .exec ⟨1⟩ opening, .exec ⟨1⟩ closing, .commit ⟨1⟩]) ∧
      (openAndClose.transact (failing .commit) []).1 = .error (.other "unavailable")) ∧
    (openAndClose.transact (failing .begin) []).1 = .error (.other "unavailable") ∧
    (openAndClose.transact (failing .begin) []).2 = [.begin] := by
  have hcalls : ∀ b : Backend, (openAndClose.calls b ⟨1⟩ [.begin]).map (·.outcome) =
      [.ok (.affected 1), .ok (.affected 1)] →
        ∀ made ∈ openAndClose.calls b ⟨1⟩ [.begin], made.Succeeds := by
    intro b haccepted made hmade
    have houtcome := List.mem_map_of_mem (f := MadeCall.outcome) hmade
    rw [haccepted] at houtcome
    exact ⟨.affected 1, by simpa using houtcome⟩
  have hrefused : (openAndClose.calls (refusing "DELETE") ⟨1⟩ [.begin]).map (·.outcome) =
      [.ok (.affected 1), .error (.backend ⟨"refused"⟩)] := rfl
  have hlast : .error (.backend ⟨"refused"⟩) ∈
      (openAndClose.calls (refusing "DELETE") ⟨1⟩ [.begin]).map (·.outcome) := by
    rw [hrefused]
    exact List.mem_cons_of_mem _ (List.mem_singleton_self _)
  obtain ⟨made, hmade, he⟩ := List.mem_map.1 hlast
  have hcommitted := (keeps_journal (refusing "UPDATE") openAndClose []).committed rfl
    (hcalls _ rfl)
  have hrolledBack := (keeps_journal (refusing "DELETE") openAndClose []).rolledBack rfl hmade he
  have hlost := (keeps_journal (failing .commit) openAndClose []).committed rfl (hcalls _ rfl)
  obtain ⟨_, _, _, hfailure⟩ := hlost.outcome
  obtain ⟨hunbegun, _⟩ := (keeps_journal (failing .begin) openAndClose []).unbegun rfl
  exact ⟨⟨_, _, hcommitted.journal⟩, ⟨⟨_, _, hrolledBack.journal⟩, hrolledBack.outcome⟩,
    ⟨⟨_, _, hlost.journal⟩, hfailure _ rfl⟩, hunbegun, rfl⟩

end EntitySql
