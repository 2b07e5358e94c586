import EntitySql.Entries
import EntitySql.Item.Field
import EntitySql.Text.Order

/-!
# Items

An item maps columns to field values, in the order in which the columns were first set.  It
is what is written by an insert or an update, and what is matched by a find or a delete.
An `Input` is what callers supply: nothing, one item or several.

    (i.set c f).get? c = some f                             (get?_set_self)
    c ≠ d → (i.set c f).get? d = i.get? d                   (get?_set_of_ne)
    (i.erase c).get? c = none                               (get?_erase_self)
    c ≠ d → (i.erase c).get? d = i.get? d                   (get?_erase_of_ne)
    i.remove c = (i.get? c, i.erase c)                      (remove_eq)
-/

namespace EntitySql

/-! ## Items -/

/-- Columns with their field values, no column twice. -/
structure Item where
  entries : List (String × FieldValue)
  distinct : (entries.map Prod.fst).Nodup
deriving DecidableEq

namespace Item

def empty : Item := ⟨[], List.nodup_nil⟩

/-- Sets a column, in place where the item has it and at the end where it has not. -/
def set (i : Item) (column : String) (f : FieldValue) : Item :=
  ⟨Entries.set column f i.entries, Entries.nodup_keys_set i.distinct column f⟩

def get? (i : Item) (column : String) : Option FieldValue := Entries.get? column i.entries

def contains (i : Item) (column : String) : Bool := (i.get? column).isSome

def filter (i : Item) (keep : String → FieldValue → Bool) : Item :=
  ⟨i.entries.filter fun e => keep e.1 e.2, Entries.nodup_keys_filter i.distinct _⟩

def erase (i : Item) (column : String) : Item := i.filter fun c _ => c ≠ column

/-- Takes a column out: its field value, and the item that is left. -/
def remove (i : Item) (column : String) : Option FieldValue × Item :=
  ((Entries.remove column i.entries).1,
    ⟨(Entries.remove column i.entries).2, Entries.nodup_keys_remove i.distinct column⟩)

/-- The item of some entries, each of them set in turn. -/
def ofList (entries : List (String × FieldValue)) : Item :=
  entries.foldl (fun i e => i.set e.1 e.2) empty

def columns (i : Item) : List String := i.entries.map Prod.fst

def sortedColumns (i : Item) : List String := Text.sortNames i.columns

/-- Whether two items say the same of the same columns, in the same order. -/
def agrees (i j : Item) : Bool :=
  i.entries.isEqv j.entries fun (c, f) (d, g) => c = d && f.agrees g

def isEmpty (i : Item) : Bool := i.entries.isEmpty

def size (i : Item) : Nat := i.entries.length

/-! ## Laws -/

theorem ext {i j : Item} (h : i.entries = j.entries) : i = j := by
  cases i; cases j; cases h; rfl

@[simp] theorem get?_empty (column : String) : empty.get? column = none := rfl

theorem get?_set (i : Item) (column other : String) (f : FieldValue) :
    (i.set column f).get? other = if other = column then some f else i.get? other :=
  Entries.get?_set column other f i.entries

theorem get?_set_self (i : Item) (column : String) (f : FieldValue) :
    (i.set column f).get? column = some f := by
  simp [get?_set]

theorem get?_set_of_ne (i : Item) {column other : String} (h : other ≠ column) (f : FieldValue) :
    (i.set column f).get? other = i.get? other := by
  simp [get?_set, h]

theorem get?_filter (i : Item) (keep : String → FieldValue → Bool) (column : String) :
    (i.filter keep).get? column = (i.get? column).filter (keep column) :=
  Entries.get?_filter i.distinct keep column

theorem get?_erase_self (i : Item) (column : String) : (i.erase column).get? column = none := by
  simp [erase, get?_filter]

theorem get?_erase_of_ne (i : Item) {column other : String} (h : other ≠ column) :
    (i.erase column).get? other = i.get? other := by
  cases hf : i.get? other <;> simp [erase, get?_filter, h, hf, Option.filter]

theorem remove_eq (i : Item) (column : String) :
    i.remove column = (i.get? column, i.erase column) := by
  have hentries := Entries.remove_eq i.distinct column
  exact Prod.ext (congrArg (·.1) hentries) (ext (congrArg (·.2) hentries))

theorem columns_set (i : Item) (column : String) (f : FieldValue) :
    (i.set column f).columns =
      if column ∈ i.columns then i.columns else i.columns ++ [column] :=
  Entries.keys_set column f i.entries

end Item

/-! ## Inputs -/

/-- What a caller supplies. -/
inductive Input
  | none
  | one (item : Item)
  | many (items : List Item)
deriving DecidableEq

namespace Input

def items : Input → List Item
  | .none => []
  | .one item => [item]
  | .many items => items

/-- An item that may be missing. -/
def ofOption : Option Item → Input
  | some item => .one item
  | Option.none => .none

end Input

end EntitySql
