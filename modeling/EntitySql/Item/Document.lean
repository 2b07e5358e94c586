import EntitySql.Item
import EntitySql.Json

/-!
# Items from documents

An input may come as JSON: `null`, an object, or an array of objects, one item an object.
A field of an object is a column; its value is a scalar, an array of scalars, or an object
with an operator, a value and perhaps a pattern mode.  A failure says where in the document
it lies.
-/

namespace EntitySql

/-! ## Failures -/

inductive PathStep
  | column (name : String)
  | index (n : Nat)
deriving DecidableEq, Repr

def PathStep.text : PathStep → String
  | .column name => s!"column `{name}`"
  | .index n => s!"[{n}]"

/-- What is wrong with a part of a document. -/
inductive DocumentFault
  | notObject (json : Json)
  | notItems (json : Json)
  | operatorNotText
  | notScalar (json : Json)
  | unrecognized (word : Unrecognized)

/-- The wording of a fault; a part of the document is quoted in compact form. -/
def DocumentFault.message : DocumentFault → String
  | .notObject json => s!"expected an object of column values, got `{json.render}`"
  | .notItems json => s!"expected null, an object or an array of objects, got `{json.render}`"
  | .operatorNotText => "operator must be a string"
  | .notScalar json => s!"expected a scalar value, got `{json.render}`"
  | .unrecognized word => word.message

/-- A fault with the steps that lead to it, outermost first. -/
structure DocumentError where
  path : List PathStep
  fault : DocumentFault

/-- The wording of an error: the steps and the fault, with colons between them. -/
def DocumentError.message (e : DocumentError) : String :=
  ": ".intercalate (e.path.map PathStep.text ++ [e.fault.message])

/-- The outcome of a part, seen from one step further out. -/
def DocumentError.within {α : Type} (step : PathStep) :
    Except DocumentError α → Except DocumentError α
  | .ok a => .ok a
  | .error e => .error ⟨step :: e.path, e.fault⟩

/-- A fault at the place that is being read. -/
def DocumentFault.here {α : Type} (fault : DocumentFault) : Except DocumentError α :=
  .error ⟨[], fault⟩

/-! ## Reading -/

/-- The engine value of an integer: the narrowest of 64 bits with a sign, 64 bits without
one, and double precision. -/
def Value.ofInteger (n : Int) : Value :=
  if Int64.minValue.toInt ≤ n ∧ n ≤ Int64.maxValue.toInt then .bigInt (Int64.ofInt n)
  else if 0 ≤ n ∧ n < UInt64.size then .bigUnsigned (UInt64.ofNat n.toNat)
  else .double (.ofInt n)

/-- The engine value of a scalar. -/
def Value.ofJson : Json → Except DocumentError Value
  | .null => .ok .untypedNull
  | .bool b => .ok (.bool b)
  | .string s => .ok (.string s)
  | .integer n => .ok (.ofInteger n)
  | .float x => .ok (.double x)
  | json => (DocumentFault.notScalar json).here

/-- A word of a vocabulary at the place that is being read. -/
def recognize {α : Type} : Except Unrecognized α → Except DocumentError α
  | .ok a => .ok a
  | .error word => (DocumentFault.unrecognized word).here

/-- The operand of a query: null where the value is missing. -/
def Operand.ofJson : Option Json → Except DocumentError Operand
  | none => .ok (.scalar .untypedNull)
  | some (.array items) => .array <$> items.mapM Value.ofJson
  | some json => .scalar <$> Value.ofJson json

/-- The pattern mode of a query; anything but a text is passed over. -/
def LikeMode.ofJson : Option Json → Except DocumentError (Option LikeMode)
  | some (.string s) => some <$> recognize (LikeMode.parse s)
  | _ => .ok none

/-- The query of an object with an operator. -/
def FieldQuery.ofJson (operator : Json) (json : Json) : Except DocumentError FieldQuery := do
  let operator ← match operator with
    | .string s => recognize (Operator.parse s)
    | _ => DocumentFault.operatorNotText.here
  let operand ← Operand.ofJson (json.field? "value")
  let like ← LikeMode.ofJson (json.field? "like")
  return ⟨operator, operand, like⟩

def FieldValue.ofJson (json : Json) : Except DocumentError FieldValue :=
  match json with
  | .array items => .array <$> items.mapM Value.ofJson
  | json =>
    match json.field? "operator" with
    | some operator => .query <$> FieldQuery.ofJson operator json
    | none => .value <$> Value.ofJson json

/-- Sets the columns of an object's fields in turn. -/
def Item.setFields : Item → List (String × Json) → Except DocumentError Item
  | item, [] => .ok item
  | item, (column, json) :: rest => do
    let f ← DocumentError.within (.column column) (FieldValue.ofJson json)
    setFields (item.set column f) rest

def Item.ofJson : Json → Except DocumentError Item
  | .object fields => Item.empty.setFields fields
  | json => (DocumentFault.notObject json).here

/-- The items of an array, the first of them at position `n`. -/
def Input.itemsOfJson : (n : Nat) → List Json → Except DocumentError (List Item)
  | _, [] => .ok []
  | n, json :: rest => do
    let item ← DocumentError.within (.index n) (Item.ofJson json)
    let items ← itemsOfJson (n + 1) rest
    return item :: items

def Input.ofJson : Json → Except DocumentError Input
  | .null => .ok .none
  | .array items => .many <$> Input.itemsOfJson 0 items
  | .object fields => .one <$> Item.ofJson (.object fields)
  | json => (DocumentFault.notItems json).here

end EntitySql
