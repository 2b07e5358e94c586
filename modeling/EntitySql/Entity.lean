import EntitySql.Entity.Column
import EntitySql.Entity.StorageName

/-!
# Entities

An entity is stored in a table and has columns, one of which identifies its rows.  A
`Declaration` leaves out what follows from the rest: the table name follows from the
description or else the name, and the primary key is the identifier.
-/

namespace EntitySql

/-- A column that holds keys of another table. -/
structure ForeignKey where
  column : String
  table : String
  key : String
deriving DecidableEq, Repr

structure Entity where
  name : String
  table : String
  identifier : String
  columns : List Column
  primaryKeys : List String
  uniqueKeys : List String
  foreignKeys : List ForeignKey
  description : String

namespace Entity

def column? (e : Entity) (name : String) : Option Column := e.columns.find? (·.name = name)

def hasColumn (e : Entity) (name : String) : Bool := (e.column? name).isSome

/-- The storage type of a column, if it is declared and has one. -/
def sqlType? (e : Entity) (name : String) : Option SqlType :=
  (e.column? name).bind (·.sqlType)

def columnNames (e : Entity) : List String := e.columns.map (·.name)

end Entity

/-- What is said of an entity. -/
structure Declaration where
  name : String
  table : Option String := none
  description : String := ""
  identifier : String := "id"
  columns : List Column := []
  primaryKeys : List String := []
  uniqueKeys : List String := []
  foreignKeys : List ForeignKey := []

def Declaration.entity (d : Declaration) : Entity :=
  { name := d.name
    table := d.table.getD (storageName (if d.description.isEmpty then d.name else d.description))
    identifier := d.identifier
    columns := d.columns
    primaryKeys := if d.primaryKeys.isEmpty then [d.identifier] else d.primaryKeys
    uniqueKeys := d.uniqueKeys
    foreignKeys := d.foreignKeys
    description := d.description }

end EntitySql
