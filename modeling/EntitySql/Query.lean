import EntitySql.Entity
import EntitySql.Error

/-!
# Queries

A query is SQL text with named parameters, each with its value and the column that the
value belongs to.  Binding it to an entity gives the statement that the backend is sent, in
which the type of every parameter is that of its column.

    ps.names.Nodup → p ∈ ps → ps.get? p.name = some p             (get?_of_mem)
    q.bind e = .ok s → s.sql = q.sql ∧ s.names = q.params.names   (names_bind)
-/

namespace EntitySql

/-! ## Parameters -/

/-- A parameter: its name, its value and the column that decides its type. -/
structure Param where
  name : String
  value : Value
  column : String
deriving DecidableEq

def Param.marker (p : Param) : String := "@" ++ p.name

/-- The parameters of a query, in the order in which they were added. -/
abbrev Params := List Param

namespace Params

def push (ps : Params) (p : Param) : Params := ps ++ [p]

def get? (ps : Params) (name : String) : Option Param := ps.find? (·.name = name)

def names (ps : Params) : List String := ps.map (·.name)

end Params

/-! ## Queries -/

/-- A query.  An empty text means that there is nothing to do. -/
structure Query where
  action : Action
  sql : String
  params : Params
deriving DecidableEq

def Query.empty (action : Action) : Query := ⟨action, "", []⟩

def Query.isEmpty (q : Query) : Bool := q.sql.isEmpty

/-! ## Statements -/

/-- A parameter as it is sent: its storage type and its datum. -/
structure BoundParam where
  name : String
  sqlType : SqlType
  datum : Datum
deriving DecidableEq

/-- What the backend is sent. -/
structure Statement where
  sql : String
  params : List BoundParam
deriving DecidableEq

namespace Statement

def param? (s : Statement) (name : String) : Option BoundParam :=
  s.params.find? (·.name = name)

def names (s : Statement) : List String := s.params.map (·.name)

end Statement

/-! ## Binding -/

/-- The datum of a parameter, of the type that the entity declares for its column. -/
def Param.bind (e : Entity) (action : Action) (p : Param) : Except Error BoundParam :=
  match e.sqlType? p.column with
  | none => refuse e.table action (.untypedColumn p.column)
  | some t =>
    match t.bind p.value with
    | .ok d => .ok ⟨p.name, t, d⟩
    | .error reason => refuse e.table action (.invalidBinding p.column reason)

/-- The data of all parameters; the first one that cannot be bound refuses the query. -/
def Params.bind (e : Entity) (action : Action) (ps : Params) : Except Error (List BoundParam) :=
  ps.mapM (Param.bind e action)

/-- The statement of a query on the table of an entity. -/
def Query.bind (q : Query) (e : Entity) : Except Error Statement :=
  (⟨q.sql, ·⟩) <$> q.params.bind e q.action

/-! ## Laws -/

/-- Where no name occurs twice, a parameter is found by its name. -/
theorem Params.get?_of_mem {ps : Params} (h : ps.names.Nodup) {p : Param} (hp : p ∈ ps) :
    ps.get? p.name = some p := by
  induction ps with
  | nil => simp at hp
  | cons q ps ih =>
    obtain ⟨hnew, hrest⟩ := List.nodup_cons.1 h
    rcases List.mem_cons.1 hp with rfl | hp
    · simp [get?]
    · have hne : q.name ≠ p.name := by
        intro heq
        refine hnew ?_
        show q.name ∈ Params.names ps
        rw [heq]
        exact List.mem_map_of_mem hp
      have hget := ih hrest hp
      simpa [get?, hne] using hget

theorem Param.name_bind {e : Entity} {action : Action} {p : Param} {b : BoundParam}
    (h : p.bind e action = .ok b) : b.name = p.name := by
  unfold Param.bind at h
  split at h
  · cases h
  · split at h
    · cases h; rfl
    · cases h

theorem Param.bind_of_untyped {e : Entity} {action : Action} {p : Param}
    (ht : e.sqlType? p.column = none) :
    p.bind e action = refuse e.table action (.untypedColumn p.column) := by
  simp only [bind, ht]

theorem Param.bind_eq_ok_iff {e : Entity} {action : Action} {p : Param} {t : SqlType}
    (ht : e.sqlType? p.column = some t) {b : BoundParam} :
    p.bind e action = .ok b ↔ ∃ d, t.bind p.value = .ok d ∧ b = ⟨p.name, t, d⟩ := by
  simp only [bind, ht]
  split
  · next d hd => simp [hd, eq_comm]
  · next reason hreason => simp [hreason, refuse]

theorem Params.names_bind {e : Entity} {action : Action} {ps : Params} {bs : List BoundParam}
    (h : ps.bind e action = .ok bs) : bs.map (·.name) = ps.names := by
  replace h := Outcome.mapM_eq_ok_iff.1 h
  induction ps generalizing bs with
  | nil => cases bs <;> simp_all [Params.names]
  | cons p rest ih =>
    cases bs with
    | nil => simp at h
    | cons b bs =>
      simp only [List.map_cons, List.cons.injEq] at h
      simpa [Params.names, Param.name_bind h.1] using ih h.2

/-- Binding changes neither the text nor the names of the parameters. -/
theorem Query.names_bind {q : Query} {e : Entity} {s : Statement} (h : q.bind e = .ok s) :
    s.sql = q.sql ∧ s.names = q.params.names := by
  unfold Query.bind at h
  obtain ⟨params, hp, h⟩ := Outcome.map_eq_ok_iff.1 h
  subst h
  exact ⟨rfl, Params.names_bind hp⟩

end EntitySql
