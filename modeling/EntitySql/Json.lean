import EntitySql.Number.Text
import EntitySql.Text.Order

/-!
# JSON documents

A document is a value whose objects list their fields in ascending order of names, one
field a name.  `render` writes the compact form: no blanks, short escapes where there are
any, and the fewest digits that read back as the same number.
-/

namespace EntitySql

inductive Json
  | null
  | bool (b : Bool)
  | integer (n : Int)
  | float (x : Binary64)
  | string (s : String)
  | array (items : List Json)
  | object (fields : List (String × Json))

namespace Json

/-- The object of some fields, the last one of every name. -/
def ofFields (fields : List (String × Json)) : Json := .object (Dictionary.ofEntries fields)

def field? (name : String) : Json → Option Json
  | .object fields => Dictionary.get? name fields
  | _ => none

def string? : Json → Option String
  | .string s => some s
  | _ => none

/-! ## Writing -/

/-- A character of a string, escaped where it must be. -/
def escapeChar (c : Char) : List Char :=
  if c = '"' then ['\\', '"']
  else if c = '\\' then ['\\', '\\']
  else if c = '\x08' then ['\\', 'b']
  else if c = '\t' then ['\\', 't']
  else if c = '\n' then ['\\', 'n']
  else if c = '\x0c' then ['\\', 'f']
  else if c = '\r' then ['\\', 'r']
  else if c.toNat < 0x20 then
    ['\\', 'u', '0', '0', Nat.digitChar (c.toNat / 16), Nat.digitChar (c.toNat % 16)]
  else [c]

def quote (s : String) : String :=
  String.ofList ('"' :: (s.toList.flatMap escapeChar ++ ['"']))

mutual

/-- The compact form of a value. -/
def render : Json → String
  | .null => "null"
  | .bool b => if b then "true" else "false"
  | .integer n => toString n
  | .float x => x.text .document
  | .string s => quote s
  | .array items => "[" ++ ",".intercalate (renderItems items) ++ "]"
  | .object fields => "\x7b" ++ ",".intercalate (renderFields fields) ++ "\x7d"

def renderItems : List Json → List String
  | [] => []
  | item :: rest => item.render :: renderItems rest

def renderFields : List (String × Json) → List String
  | [] => []
  | (name, item) :: rest => (quote name ++ ":" ++ item.render) :: renderFields rest

end

end Json

end EntitySql
