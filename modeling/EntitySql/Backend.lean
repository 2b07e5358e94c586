import EntitySql.Hooks
import EntitySql.Query

/-!
# The backend

What a program does with its backend is recorded as a list of events, in order.  A `Backend`
answers each request from the events so far, the request itself among them, so that it can
answer in any way at all.  An `Access` is a computation that talks to it: from the events so
far it gives its outcome and the events that it adds.

    (x >>= f) past = (outcome of f after x, events of x ++ events of f)     (bind_ok)
-/

namespace EntitySql

/-! ## Events -/

structure Connection where
  id : Nat
deriving DecidableEq, Repr

/-- What a hook is told of its call. -/
structure CallLabel where
  action : Action
  table : String
  key : String
deriving DecidableEq, Repr

def Call.label (c : Call) : CallLabel := ⟨c.action, c.entity.table, c.key⟩

inductive Event
  | acquire
  | begin
  | commit (c : Connection)
  | rollback (c : Connection)
  | query (c : Connection) (s : Statement)
  | exec (c : Connection) (s : Statement)
  | before (stage : Stage) (call : CallLabel) (items : List Item)
  | after (call : CallLabel) (result : CallResult)
  | warn (message : String) (table : Option String)
deriving DecidableEq

/-! ## Computations -/

/-- A computation that adds events to those so far. -/
def Access (ε α : Type) : Type := List Event → Except ε α × List Event

namespace Access

variable {ε α β : Type}

/-- Runs one computation behind another, unless that fails. -/
def andThen (x : Access ε α) (f : α → Access ε β) : Access ε β := fun past =>
  match x past with
  | (.error e, events) => (.error e, events)
  | (.ok a, events) =>
    let (outcome, more) := f a (past ++ events)
    (outcome, events ++ more)

instance : Monad (Access ε) where
  pure a := fun _ => (.ok a, [])
  bind := andThen

/-- A computation that adds nothing. -/
def ofExcept (x : Except ε α) : Access ε α := fun _ => (x, [])

def emit (event : Event) : Access ε Unit := fun _ => (.ok (), [event])

/-- Adds a request and takes its answer from the events up to it. -/
def request (event : Event) (answer : List Event → Except ε α) : Access ε α := fun past =>
  (answer (past ++ [event]), [event])

def mapError {δ : Type} (x : Access ε α) (f : ε → δ) : Access δ α := fun past =>
  match x past with
  | (.error e, events) => (.error (f e), events)
  | (.ok a, events) => (.ok a, events)

/-- The outcome of a computation, whether it succeeds or not. -/
def attempt {δ : Type} (x : Access ε α) : Access δ (Except ε α) := fun past =>
  (.ok (x past).1, (x past).2)

/-- Runs computations one behind another up to the first that fails: what those before it
give, and how it fails. -/
def upToFailure {δ : Type} : List (Access ε α) → Access δ (List α × Except ε Unit)
  | [] => return ([], .ok ())
  | x :: rest => do
    match ← x.attempt with
    | .error e => return ([], .error e)
    | .ok a =>
      let (others, failure) ← upToFailure rest
      return (a :: others, failure)

/-! ## Laws -/

theorem bind_ok {x : Access ε α} {past events : List Event} {a : α}
    (h : x past = (.ok a, events)) (f : α → Access ε β) :
    (x >>= f) past = ((f a (past ++ events)).1, events ++ (f a (past ++ events)).2) := by
  show andThen x f past = _
  simp [andThen, h]

theorem bind_error {x : Access ε α} {past events : List Event} {e : ε}
    (h : x past = (.error e, events)) (f : α → Access ε β) :
    (x >>= f) past = (.error e, events) := by
  show andThen x f past = _
  simp [andThen, h]

end Access

/-! ## Answers -/

/-- What answers requests.  A backend without transactions has no answer to their
beginning. -/
structure Backend where
  acquire : List Event → Except BackendFailure Connection
  begin? : Option (List Event → Except BackendFailure Connection)
  query : Connection → Statement → List Event → Except BackendFailure (List Row)
  exec : Connection → Statement → List Event → Except BackendFailure Nat
  commit : Connection → List Event → Except BackendFailure Unit
  rollback : Connection → List Event → Except BackendFailure Unit

namespace Backend

def connect (b : Backend) : Access BackendFailure Connection :=
  .request .acquire b.acquire

def beginTransaction (b : Backend) : Access BackendFailure Connection :=
  match b.begin? with
  | none => .ofExcept (.error ⟨"transactions not supported by this provider"⟩)
  | some answer => .request .begin answer

/-- Sends a statement that returns rows. -/
def fetch (b : Backend) (c : Connection) (s : Statement) : Access BackendFailure (List Row) :=
  .request (.query c s) (b.query c s)

/-- Sends a statement that returns the number of rows it affects. -/
def execute (b : Backend) (c : Connection) (s : Statement) : Access BackendFailure Nat :=
  .request (.exec c s) (b.exec c s)

def commitTransaction (b : Backend) (c : Connection) : Access BackendFailure Unit :=
  .request (.commit c) (b.commit c)

def rollBack (b : Backend) (c : Connection) : Access BackendFailure Unit :=
  .request (.rollback c) (b.rollback c)

end Backend

end EntitySql
