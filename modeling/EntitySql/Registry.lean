import EntitySql.Entries
import EntitySql.Gateway

/-!
# Registries

Gateways by the name of their entity, and the name of the entity that a table was last
registered for.  Registering an entity again replaces its gateway; a table that the entity
was on before keeps its name.
-/

namespace EntitySql

/-- Gateways by name, and names by table. -/
structure Registry where
  gateways : List (String × Gateway)
  tables : List (String × String)

namespace Registry

def empty : Registry := ⟨[], []⟩

/-- Registers a gateway under its entity and its table. -/
def register (r : Registry) (g : Gateway) : Registry :=
  ⟨Entries.set g.entity.name g r.gateways, Entries.set g.entity.table g.entity.name r.tables⟩

def get (r : Registry) (name : String) : Except Error Gateway :=
  match Entries.get? name r.gateways with
  | some g => .ok g
  | none => .error (.unknownEntity name)

/-- The gateway of the entity that a table was last registered for. -/
def byTable (r : Registry) (table : String) : Except Error Gateway :=
  match Entries.get? table r.tables with
  | some name => r.get name
  | none => .error (.unknownEntity table)

end Registry

end EntitySql
