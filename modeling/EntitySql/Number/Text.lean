import EntitySql.Number.Shortest
import EntitySql.Text.Digits

/-!
# Numbers as text

How a binary number is written, and which texts write one.  A `DecimalStyle` holds the
decisions of one way of writing; the digits come from `Decimal.shortest`.
-/

namespace EntitySql

open EntitySql.Text

/-! ## Writing -/

/-- The decisions of one way of writing a number.  The point stands `k` digits after the
start of the digits; `positional` says for which `k` it is written there and not by an
exponent, `fraction` whether a whole number gets `.0`. -/
structure DecimalStyle where
  tie : Tie
  positional : Int → Bool
  fraction : Bool

namespace DecimalStyle

/-- Always positional, and whole numbers without a point. -/
def plain : DecimalStyle := ⟨.up, fun _ => true, false⟩

/-- Positional from `0.00001` up to but not including `1e+16`, and whole numbers with `.0`. -/
def document : DecimalStyle := ⟨.even, fun k => -5 < k && k ≤ 16, true⟩

/-- The exponent of a number, always with its sign. -/
def exponentText (e : Int) : List Char :=
  'e' :: (if e < 0 then '-' else '+') :: Nat.toDigits 10 e.natAbs

def render (style : DecimalStyle) (d : Decimal) : List Char :=
  let ds := Nat.toDigits 10 d.digits
  let k := (ds.length : Int) + d.exponent
  if style.positional k then
    if 0 ≤ d.exponent then
      ds ++ List.replicate d.exponent.toNat '0' ++ (if style.fraction then ['.', '0'] else [])
    else if 0 < k then ds.take k.toNat ++ '.' :: ds.drop k.toNat
    else ['0', '.'] ++ List.replicate (-k).toNat '0' ++ ds
  else
    let point := if ds.length = 1 then [] else ['.']
    ds.take 1 ++ point ++ ds.drop 1 ++ exponentText (k - 1)

def renderKind (style : DecimalStyle) (f : FloatFormat) : FloatKind → String
  | .nan => "NaN"
  | .infinite negative => if negative then "-inf" else "inf"
  | .finite negative significand exponent =>
    String.ofList ((if negative then ['-'] else []) ++
      style.render (Decimal.shortest f style.tie significand exponent))

end DecimalStyle

def Binary32.text (style : DecimalStyle) (x : Binary32) : String :=
  style.renderKind .single x.kind

def Binary64.text (style : DecimalStyle) (x : Binary64) : String :=
  style.renderKind .double x.kind

/-! ## Reading -/

/-- The exponent after the digits of a number: none, or `e` and an integer. -/
def readExponent? : List Char → Option Int
  | [] => some 0
  | c :: rest => if c = 'e' ∨ c = 'E' then readInt? rest else none

/-- The number that digits, a point among them and an exponent write. -/
def readDecimal? (negative : Bool) (s : List Char) : Option Binary64 :=
  let whole := s.takeWhile Char.isDigit
  let rest := s.dropWhile Char.isDigit
  let (fraction, rest) := match rest with
    | '.' :: r => (r.takeWhile Char.isDigit, r.dropWhile Char.isDigit)
    | _ => ([], rest)
  if whole.isEmpty && fraction.isEmpty then none
  else (readExponent? rest).map fun e =>
    Binary64.ofDecimal negative (value (whole ++ fraction)) (e - fraction.length)

/-- The number that a text without a sign writes: infinity or no number by name in any
case, or a decimal. -/
def readUnsigned? (negative : Bool) (s : List Char) : Option Binary64 :=
  let name := String.ofList (s.map Char.toLower)
  if name = "inf" ∨ name = "infinity" then some (.infinity negative)
  else if name = "nan" then some .nan
  else readDecimal? negative s

/-- The number nearest to what a text writes. -/
def Binary64.read? : List Char → Option Binary64
  | '-' :: s => readUnsigned? true s
  | '+' :: s => readUnsigned? false s
  | s => readUnsigned? false s

end EntitySql
