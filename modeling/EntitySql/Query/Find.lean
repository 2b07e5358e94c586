import EntitySql.Condition
import EntitySql.Order

/-!
# Finding rows

The query for the rows that meet some item, in an order and by pages if that is asked for.
A page needs an order to be the same each time: where none is given, rows are sorted by the
default column of the options or, if the entity does not have it, by the identifier.
-/

namespace EntitySql

/-- The order and the page of a find.  Either bound of a page asks for one. -/
structure Page where
  order : List OrderTerm := []
  offset : Option Nat := none
  limit : Option Nat := none
deriving DecidableEq

namespace Page

def isBounded (p : Page) : Bool := p.offset.isSome || p.limit.isSome

/-- The column by which pages are sorted if no order is given. -/
def defaultColumn (e : Entity) (o : Options) : String :=
  if e.hasColumn o.defaultOrder then o.defaultOrder else e.identifier

/-- The order in effect.  Every column of an order has to be declared. -/
def terms (p : Page) (e : Entity) (o : Options) : Except Error (List OrderTerm) :=
  match p.order.find? fun t => !e.hasColumn t.column with
  | some t => refuse e.table .find (.invalidOrderColumn t.column)
  | none =>
    if p.order.isEmpty && p.isBounded then .ok [⟨defaultColumn e o, .ascending⟩]
    else .ok p.order

def orderText (terms : List OrderTerm) : String :=
  if terms.isEmpty then "" else " ORDER BY " ++ ", ".intercalate (terms.map OrderTerm.text)

def boundsText (p : Page) (o : Options) : String :=
  if p.isBounded then
    let offset := p.offset.getD 0
    let limit := p.limit.getD o.pageSize
    s!" OFFSET {offset} ROWS FETCH NEXT {limit} ROWS ONLY"
  else ""

end Page

def whereText : Option String → String
  | none => ""
  | some text => " WHERE " ++ text

/-- The query for the rows that meet some of the items; for no items, all rows. -/
def Query.find (e : Entity) (o : Options) (items : List Item) (p : Page) : Except Error Query := do
  let condition ← Condition.ofItems e o .find items
  let terms ← p.terms e o
  let text := "SELECT * FROM " ++ Sql.quoteIdentifier e.table ++ whereText condition.text? ++
    Page.orderText terms ++ p.boundsText o
  return ⟨.find, Sql.batch [text], condition.params⟩

end EntitySql
