import EntitySql.Json
import EntitySql.Text.Hexadecimal

/-!
# Reading JSON

`Json.read?` reads a text that is one JSON value and blanks around it.  A numeral without a
point and an exponent is an integer where it fits 64 bits with or without a sign, and every
other numeral, minus zero among them, is the nearest number in double precision.
-/

namespace EntitySql

open EntitySql.Text

namespace Json

/-- The characters that may stand between tokens. -/
def isSpace (c : Char) : Bool := c = ' ' || c = '\t' || c = '\n' || c = '\r'

def skipSpace (s : List Char) : List Char := s.dropWhile isSpace

/-- The text after a word in front. -/
def afterWord? (word : List Char) (s : List Char) : Option (List Char) :=
  if s.take word.length = word then some (s.drop word.length) else none

/-! ## Numbers -/

/-- The number of an integer numeral. -/
def ofNumeral (negative : Bool) (n : Nat) : Json :=
  if negative then
    if n = 0 then .float (.ofDecimal true 0 0)
    else if n ≤ Nat.pow 2 63 then .integer (-(n : Int))
    else .float (.ofDecimal true n 0)
  else if n < UInt64.size then .integer n
  else .float (.ofDecimal false n 0)

/-- Reads the digits of a fraction after its point, at least one. -/
def readFraction? : List Char → Option (List Char × List Char)
  | '.' :: s =>
    let ds := s.takeWhile Char.isDigit
    if ds.isEmpty then none else some (ds, s.dropWhile Char.isDigit)
  | s => some ([], s)

/-- Reads an exponent of at least one digit, zero where there is none. -/
def readExponent? (s : List Char) : Option (Int × List Char) :=
  match s with
  | c :: r =>
    if c = 'e' ∨ c = 'E' then
      let (negative, r) := match r with
        | '-' :: r => (true, r)
        | '+' :: r => (false, r)
        | r => (false, r)
      let ds := r.takeWhile Char.isDigit
      if ds.isEmpty then none
      else
        let n : Int := value ds
        some (if negative then -n else n, r.dropWhile Char.isDigit)
    else some (0, s)
  | [] => some (0, s)

/-- Whether a fraction or an exponent follows the digits of a numeral. -/
def continuesNumeral : List Char → Bool
  | c :: _ => c = '.' || c = 'e' || c = 'E'
  | [] => false

/-- Reads a numeral; one of several digits does not start with zero, and one too large for
double precision is refused. -/
def readNumber? (s : List Char) : Option (Json × List Char) :=
  let (negative, s) := match s with
    | '-' :: r => (true, r)
    | s => (false, s)
  let ds := s.takeWhile Char.isDigit
  let rest := s.dropWhile Char.isDigit
  if ds.isEmpty || (ds.length != 1 && ds.head? == some '0') then none
  else if continuesNumeral rest then do
    let (fraction, afterFraction) ← readFraction? rest
    let (exponent, after) ← readExponent? afterFraction
    let x := Binary64.ofDecimal negative (value (ds ++ fraction)) (exponent - fraction.length)
    if x.isFinite then some (.float x, after) else none
  else some (ofNumeral negative (value ds), rest)

/-! ## Strings -/

def readHex4? : List Char → Option (Nat × List Char)
  | a :: b :: c :: d :: rest => (readHex? [a, b, c, d]).map fun n => (n, rest)
  | _ => none

/-- Reads the code point after a backslash and `u`; two halves of a surrogate pair make one
character, and a lone half makes none. -/
def readCodePoint? (s : List Char) : Option (Char × List Char) := do
  let (n, rest) ← readHex4? s
  if 0xd800 ≤ n ∧ n < 0xdc00 then
    match rest with
    | '\\' :: 'u' :: rest =>
      let (m, rest) ← readHex4? rest
      if 0xdc00 ≤ m ∧ m < 0xe000 then
        some (Char.ofNat (0x10000 + (n - 0xd800) * 0x400 + (m - 0xdc00)), rest)
      else none
    | _ => none
  else if 0xdc00 ≤ n ∧ n < 0xe000 then none
  else some (Char.ofNat n, rest)

def shortEscape? (c : Char) : Option Char :=
  if c = '"' ∨ c = '\\' ∨ c = '/' then some c
  else if c = 'b' then some '\x08'
  else if c = 'f' then some '\x0c'
  else if c = 'n' then some '\n'
  else if c = 'r' then some '\r'
  else if c = 't' then some '\t'
  else none

/-- Reads the rest of a string after its opening quote; `fuel` bounds the characters and
`read` holds those read, last first. -/
def readString? : (fuel : Nat) → (read : List Char) → List Char → Option (String × List Char)
  | 0, _, _ => none
  | _ + 1, _, [] => none
  | fuel + 1, read, c :: rest =>
    if c = '"' then some (String.ofList read.reverse, rest)
    else if c = '\\' then
      match rest with
      | [] => none
      | 'u' :: rest =>
        (readCodePoint? rest).bind fun (c, rest) => readString? fuel (c :: read) rest
      | e :: rest => (shortEscape? e).bind fun c => readString? fuel (c :: read) rest
    else if c.toNat < 0x20 then none
    else readString? fuel (c :: read) rest

/-! ## Values -/

mutual

/-- Reads a value after any blanks; `fuel` bounds the calls. -/
def readValue? : (fuel : Nat) → List Char → Option (Json × List Char)
  | 0, _ => none
  | fuel + 1, s =>
    match skipSpace s with
    | [] => none
    | '"' :: rest => (readString? fuel [] rest).map fun (s, rest) => (.string s, rest)
    | '[' :: rest =>
      match skipSpace rest with
      | ']' :: rest => some (.array [], rest)
      | rest => (readItems? fuel [] rest).map fun (items, rest) => (.array items, rest)
    | '\x7b' :: rest =>
      match skipSpace rest with
      | '\x7d' :: rest => some (.object [], rest)
      | rest => (readFields? fuel [] rest).map fun (fields, rest) => (.ofFields fields, rest)
    | 'n' :: rest => (afterWord? ['u', 'l', 'l'] rest).map fun rest => (.null, rest)
    | 't' :: rest => (afterWord? ['r', 'u', 'e'] rest).map fun rest => (.bool true, rest)
    | 'f' :: rest => (afterWord? ['a', 'l', 's', 'e'] rest).map fun rest => (.bool false, rest)
    | s => readNumber? s

/-- Reads the items of an array up to its end; `read` holds those read, last first. -/
def readItems? : (fuel : Nat) → (read : List Json) → List Char → Option (List Json × List Char)
  | 0, _, _ => none
  | fuel + 1, read, s =>
    (readValue? fuel s).bind fun (item, rest) =>
      match skipSpace rest with
      | ',' :: rest => readItems? fuel (item :: read) rest
      | ']' :: rest => some ((item :: read).reverse, rest)
      | _ => none

/-- Reads the fields of an object up to its end; `read` holds those read, last first. -/
def readFields? : (fuel : Nat) → (read : List (String × Json)) → List Char →
    Option (List (String × Json) × List Char)
  | 0, _, _ => none
  | fuel + 1, read, s =>
    match skipSpace s with
    | '"' :: rest =>
      (readString? fuel [] rest).bind fun (name, rest) =>
        match skipSpace rest with
        | ':' :: rest =>
          (readValue? fuel rest).bind fun (item, rest) =>
            match skipSpace rest with
            | ',' :: rest => readFields? fuel ((name, item) :: read) rest
            | '\x7d' :: rest => some (((name, item) :: read).reverse, rest)
            | _ => none
        | _ => none
    | _ => none

end

/-- The JSON value that a text writes.  A call takes a character or is the only one between
two characters, so twice the length of the text bounds the calls. -/
def read? (text : String) : Option Json :=
  let s := text.toList
  (readValue? (2 * s.length + 2) s).bind fun (json, rest) =>
    if (skipSpace rest).isEmpty then some json else none

end Json

end EntitySql
