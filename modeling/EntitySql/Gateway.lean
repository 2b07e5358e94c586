import EntitySql.Backend
import EntitySql.Options
import EntitySql.Query.Delete
import EntitySql.Query.Find
import EntitySql.Query.Insert
import EntitySql.Query.Update

/-!
# Gateways

A gateway is the access to the rows of one entity.  Each call runs the hook on its items,
compiles them, binds the parameters, sends one statement and runs the hook on the result;
whatever fails ends the call, so that nothing is sent unless all before it succeeds.  A
gateway takes a connection for each call, or runs all calls on one connection.
-/

namespace EntitySql

/-- Where the connection of a call comes from. -/
inductive Session
  | pooled
  | bound (c : Connection)
deriving DecidableEq, Repr

/-- The access to the rows of an entity. -/
structure Gateway where
  entity : Entity
  options : Options
  hooks : Hooks
  session : Session

namespace Gateway

/-! ## Stages of a call -/

/-- A gateway that takes its connections from the backend. -/
def pooled (e : Entity) (o : Options) (h : Hooks) : Gateway := ⟨e, o, h, .pooled⟩

def onConnection (g : Gateway) (c : Connection) : Gateway := { g with session := .bound c }

/-- The call of an action, by the identifier unless another key is given. -/
def call (g : Gateway) (action : Action) (key : Option String) : Call :=
  ⟨g.entity, action, key.getD g.entity.identifier⟩

/-- The items that a call goes on with. -/
def prepare (g : Gateway) (c : Call) (items : List Item) : Access Error (List Item) :=
  match g.hooks.before c.action with
  | none => .ofExcept (c.validate items)
  | some ⟨.replacing, run⟩ => do
    .emit (.before .replacing c.label items)
    .ofExcept (run c items)
  | some ⟨.validated, run⟩ => do
    let items ← Access.ofExcept (c.validate items)
    .emit (.before .validated c.label items)
    .ofExcept (run c items)

def finish (g : Gateway) (c : Call) (result : CallResult) : Access Error Unit :=
  match g.hooks.after c.action with
  | none => return ()
  | some run => do
    .emit (.after c.label result)
    .ofExcept (run c result)

def connect (b : Backend) (g : Gateway) : Access Error Connection :=
  match g.session with
  | .pooled => b.connect.mapError .backend
  | .bound c => return c

/-- Sends the query of a change and gives the number of rows it affects; a query that does
nothing is not sent. -/
def send (b : Backend) (g : Gateway) (q : Query) : Access Error Nat :=
  if q.isEmpty then return 0
  else do
    let statement ← Access.ofExcept (q.bind g.entity)
    let c ← g.connect b
    (b.execute c statement).mapError .backend

def change (b : Backend) (g : Gateway) (c : Call) (items : List Item)
    (build : List Item → Except Error Query) : Access Error Nat := do
  let items ← g.prepare c items
  let q ← Access.ofExcept (build items)
  let count ← g.send b q
  g.finish c (.affected count)
  return count

/-! ## Calls -/

/-- The rows that meet some of the items. -/
def find (b : Backend) (g : Gateway) (items : List Item) (p : Page) : Access Error (List Row) := do
  let c := g.call .find none
  let items ← g.prepare c items
  let q ← Access.ofExcept (Query.find g.entity g.options items p)
  let statement ← Access.ofExcept (q.bind g.entity)
  let connection ← g.connect b
  let rows ← (b.fetch connection statement).mapError .backend
  g.finish c (.rows rows)
  return rows

def insert (b : Backend) (g : Gateway) (items : List Item) : Access Error Nat :=
  g.change b (g.call .insert none) items (Query.insert g.entity g.options)

/-- Updates the rows that items name by a key, the identifier if none is given. -/
def update (b : Backend) (g : Gateway) (items : List Item) (key : Option String) :
    Access Error Nat :=
  let c := g.call .update key
  g.change b c items (Query.update g.entity g.options · c.key)

def delete (b : Backend) (g : Gateway) (items : List Item) : Access Error Nat :=
  g.change b (g.call .delete none) items (Query.delete g.entity g.options)

end Gateway

end EntitySql
