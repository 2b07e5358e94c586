import EntitySql.Entries
import EntitySql.Key
import EntitySql.Registry
import EntitySql.Row.Json
import EntitySql.Text.Order

/-!
# Relations

The rows that other rows point to by their foreign keys.  Foreign keys to one column of one
table share a query for all distinct values that rows hold, nulls aside; the rows it returns
are kept by the text of the key and joined to those that point to them.
-/

namespace EntitySql

/-! ## Requests -/

/-- Which relations are wanted, all if no tables are named, and what else the rows of a
table have to meet. -/
structure RelationRequest where
  tables : Option (List String) := none
  filters : List (String × Item) := []

/-- A row with the rows that its foreign keys point to, by column in ascending order. -/
structure Resolved where
  row : Row
  related : List (String × List Row)
deriving DecidableEq

/-! ## Join keys -/

/-- The text by which data are joined, none for a null: integers of all widths are joined by
their value. -/
def Datum.joinKey? : Datum → Option String
  | .null _ => none
  | .boolean b => some (if b then "true" else "false")
  | .int32 n => some (toString n.toInt)
  | .int64 n => some (toString n.toInt)
  | .uint32 n => some (toString n.toNat)
  | .uint64 n => some (toString n.toNat)
  | .float x => some (x.text .plain)
  | .double x => some (x.text .plain)
  | .str s | .date s | .time s | .timestamp s => some s
  | .binary b => some ("[" ++ ", ".intercalate (b.map fun n => toString n.toNat) ++ "]")

def Row.joinKey? (r : Row) (column : String) : Option String :=
  (r.get? column).bind Datum.joinKey?

/-! ## Targets -/

/-- A column of a table, with the columns that hold its values. -/
structure RelationTarget where
  table : String
  key : String
  columns : List String
deriving DecidableEq

namespace RelationTarget

/-- Adds a foreign key to the first target it has in common, or behind all targets. -/
def insert (fk : ForeignKey) : List RelationTarget → List RelationTarget
  | [] => [⟨fk.table, fk.key, [fk.column]⟩]
  | t :: rest =>
    if t.table = fk.table ∧ t.key = fk.key then
      { t with columns := t.columns ++ [fk.column] } :: rest
    else t :: insert fk rest

/-- The targets of some foreign keys. -/
def ofKeys (fks : List ForeignKey) : List RelationTarget :=
  fks.foldl (fun targets fk => insert fk targets) []

/-- The data of the columns of a target that rows hold, one for each join key. -/
def data (t : RelationTarget) (rows : List Row) : List Datum :=
  let held := rows.flatMap fun r => t.columns.filterMap r.get?
  distinctBy Datum.joinKey? (held.filter fun d => d.joinKey?.isSome)

/-- What the rows of a target have to meet: what the request says and, in place of what it
may say of the key, that the key is one of the values. -/
def filter (t : RelationTarget) (request : RelationRequest) (values : List Value) : Item :=
  ((Entries.get? t.table request.filters).getD Item.empty).set t.key (.array values)

end RelationTarget

def RelationRequest.wanted (request : RelationRequest) (fks : List ForeignKey) :
    List ForeignKey :=
  match request.tables with
  | none => fks
  | some tables => fks.filter fun fk => tables.contains fk.table

/-- The tables that a request names and no foreign key points to. -/
def RelationRequest.unreferenced (request : RelationRequest) (fks : List ForeignKey) :
    List String :=
  (request.tables.getD []).filter fun table => !fks.any (·.table = table)

/-! ## Joining -/

/-- Rows by their join keys: each key with the rows that have it, in order. -/
abbrev JoinIndex := List (String × List Row)

namespace JoinIndex

/-- Adds a row under the join key of a column, if it has one. -/
def add (column : String) (index : JoinIndex) (r : Row) : JoinIndex :=
  match r.joinKey? column with
  | some key => Entries.push key r index
  | none => index

def rows (index : JoinIndex) (key : Option String) : List Row :=
  (key.bind fun k => Entries.get? k index).getD []

end JoinIndex

/-- The targets, each with an index of the rows that were found for it.  What is found comes with
the place of its target. -/
def joinIndexes (targets : List RelationTarget) (found : List (Nat × List Row)) :
    List (RelationTarget × JoinIndex) :=
  found.foldl (fun joins (place, rows) =>
    joins.modify place fun (t, index) => (t, rows.foldl (JoinIndex.add t.key) index))
    (targets.map fun t => (t, []))

/-- A row with the rows it points to. -/
def resolveRow (joins : List (RelationTarget × JoinIndex)) (r : Row) : Resolved :=
  let entries := joins.flatMap fun (t, index) => t.columns.map fun column =>
    (column, index.rows (r.joinKey? column))
  ⟨r, Dictionary.ofEntries entries⟩

/-! ## Resolving -/

/-- The query of a target at its place among the targets: the gateway of its table and what rows
have to meet. -/
structure RelationQuery where
  target : RelationTarget
  place : Nat
  gateway : Gateway
  filter : Item

namespace RelationQuery

/-- The query of a target at a place. -/
def ofTarget (registry : Registry) (request : RelationRequest) (rows : List Row)
    (t : RelationTarget) (place : Nat) : Except Error RelationQuery :=
  (fun gateway => ⟨t, place, gateway, t.filter request ((t.data rows).map Value.ofDatum)⟩) <$>
    registry.byTable t.table

/-- The queries of some targets; a target of which no row holds a value needs none. -/
def ofTargets (registry : Registry) (request : RelationRequest) (rows : List Row)
    (targets : List RelationTarget) : Except Error (List RelationQuery) :=
  (targets.zipIdx.filter fun (t, _) => !(t.data rows).isEmpty).mapM fun (t, place) =>
    ofTarget registry request rows t place

/-- Runs queries, one after the other, and gives the rows found with the places of the targets. -/
def runAll (b : Backend) : List RelationQuery → Access Error (List (Nat × List Row))
  | [] => return []
  | q :: rest => do
    let rows ← q.gateway.find b [q.filter] {}
    let others ← runAll b rest
    return (q.place, rows) :: others

end RelationQuery

/-- Adds a warning for each table. -/
def warnUnreferenced : List String → Access Error Unit
  | [] => return ()
  | table :: rest => do
    .emit (.warn "no foreign key references requested table" (some table))
    warnUnreferenced rest

/-- A resolved row as an object of the row and of the rows it points to. -/
def Resolved.toJson (r : Resolved) : Json :=
  .object [("related", .object (r.related.map fun (column, rows) => (column, .ofRows rows))),
    ("row", r.row.toJson)]

namespace Gateway

/-- Resolves the relations of rows that the gateway has found. -/
def resolve (b : Backend) (g : Gateway) (registry : Registry) (request : RelationRequest)
    (rows : List Row) : Access Error (List Resolved) := do
  let fks := g.entity.foreignKeys
  warnUnreferenced (request.unreferenced fks)
  let targets := RelationTarget.ofKeys (request.wanted fks)
  let queries ← Access.ofExcept (RelationQuery.ofTargets registry request rows targets)
  let found ← RelationQuery.runAll b queries
  return rows.map (resolveRow (joinIndexes targets found))

def findResolved (b : Backend) (g : Gateway) (registry : Registry) (items : List Item) (p : Page)
    (request : RelationRequest) : Access Error (List Resolved) := do
  let rows ← g.find b items p
  g.resolve b registry request rows

end Gateway

end EntitySql
