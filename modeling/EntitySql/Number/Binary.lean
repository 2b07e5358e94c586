/-!
# Binary floating point

`Binary32` and `Binary64` hold the bits of an IEEE 754 number.  `FloatFormat.kind` reads
bits as an exact number, `FloatFormat.round` takes an exact quotient to the nearest number
of the format, a tie to the even significand.  Everything is computed in `Nat` and `Int`.
-/

namespace EntitySql

/-! ## Formats -/

/-- A binary format: the bits of a significand, its hidden one included, and the width of
the exponent field. -/
structure FloatFormat where
  precision : Nat
  exponentBits : Nat
deriving DecidableEq, Repr

def FloatFormat.single : FloatFormat := ⟨24, 8⟩

def FloatFormat.double : FloatFormat := ⟨53, 11⟩

/-- What bits stand for; a finite number is `significand * 2 ^ exponent`. -/
inductive FloatKind
  | nan
  | infinite (negative : Bool)
  | finite (negative : Bool) (significand : Nat) (exponent : Int)
deriving DecidableEq, Repr

/-- Whether two numbers of one format are equal: a zero equals the zero of the other sign,
and what is no number equals nothing, itself included. -/
def FloatKind.agrees : FloatKind → FloatKind → Bool
  | .nan, _ | _, .nan => false
  | .finite _ 0 _, .finite _ 0 _ => true
  | x, y => x = y

namespace FloatFormat

/-- The exponent of the numbers nearest to zero. -/
def minExponent (f : FloatFormat) : Int :=
  3 - Nat.pow 2 (f.exponentBits - 1) - f.precision

def infinity (f : FloatFormat) : Nat :=
  (Nat.pow 2 f.exponentBits - 1) * Nat.pow 2 (f.precision - 1)

def signBit (f : FloatFormat) (negative : Bool) : Nat :=
  if negative then Nat.pow 2 (f.precision - 1 + f.exponentBits) else 0

/-- The bits that stand for every number that is none. -/
def nan (f : FloatFormat) : Nat := f.infinity + Nat.pow 2 (f.precision - 2)

def kind (f : FloatFormat) (bits : Nat) : FloatKind :=
  let fraction := bits % Nat.pow 2 (f.precision - 1)
  let field := bits / Nat.pow 2 (f.precision - 1) % Nat.pow 2 f.exponentBits
  let negative := bits / Nat.pow 2 (f.precision - 1 + f.exponentBits) % 2 == 1
  if field = Nat.pow 2 f.exponentBits - 1 then
    if fraction = 0 then .infinite negative else .nan
  else if field = 0 then .finite negative fraction f.minExponent
  else .finite negative (Nat.pow 2 (f.precision - 1) + fraction) (f.minExponent + field - 1)

/-- The bits of `significand * 2 ^ exponent`, infinity where that is too large.  A
significand of one bit too many carries into the exponent. -/
def encode (f : FloatFormat) (negative : Bool) (significand : Nat) (exponent : Int) : Nat :=
  f.signBit negative +
    min f.infinity ((exponent - f.minExponent).toNat * Nat.pow 2 (f.precision - 1) + significand)

end FloatFormat

/-! ## Rounding -/

/-- The integer nearest to `n / d`, the even one of two equally near. -/
def roundHalfEven (n d : Nat) : Nat :=
  let m := n / d
  let r := n % d
  if d < 2 * r || (2 * r == d && m % 2 == 1) then m + 1 else m

/-- The quotient `n / (d * 2 ^ e)` as a pair of naturals. -/
def scaleDown (n d : Nat) (e : Int) : Nat × Nat :=
  if 0 ≤ e then (n, d * Nat.pow 2 e.toNat) else (n * Nat.pow 2 (-e).toNat, d)

/-- The greatest `e` with `2 ^ e ≤ n / d`, for positive `n` and `d`. -/
def floorLog2 (n d : Nat) : Int :=
  let e := (Nat.log2 n : Int) - Nat.log2 d
  let (a, b) := scaleDown n d e
  if b ≤ a then e else e - 1

/-- The bits of the number of a format that is nearest to `n / d`. -/
def FloatFormat.round (f : FloatFormat) (negative : Bool) (n d : Nat) : Nat :=
  if n = 0 then f.signBit negative
  else
    let e := max (floorLog2 n d - (f.precision - 1)) f.minExponent
    let (a, b) := scaleDown n d e
    f.encode negative (roundHalfEven a b) e

/-- The bits of the number nearest to `significand * 2 ^ exponent`. -/
def FloatFormat.roundBinary (f : FloatFormat) (negative : Bool) (significand : Nat)
    (exponent : Int) : Nat :=
  if 0 ≤ exponent then f.round negative (significand * Nat.pow 2 exponent.toNat) 1
  else f.round negative significand (Nat.pow 2 (-exponent).toNat)

/-- The bits of the number nearest to `digits * 10 ^ exponent`.  A number of so many digits
that it lies beyond every finite number, or nearer to zero than every other, is settled
without its power of ten. -/
def FloatFormat.roundDecimal (f : FloatFormat) (negative : Bool) (digits : Nat)
    (exponent : Int) : Nat :=
  let size := ((Nat.toDigits 10 digits).length : Int) + exponent
  if digits = 0 then f.signBit negative
  else if Nat.pow 2 (f.exponentBits - 1) < size then f.signBit negative + f.infinity
  else if size < -(Nat.pow 2 (f.exponentBits - 1) + f.precision : Int) then f.signBit negative
  else if 0 ≤ exponent then f.round negative (digits * Nat.pow 10 exponent.toNat) 1
  else f.round negative digits (Nat.pow 10 (-exponent).toNat)

def FloatFormat.convert (f : FloatFormat) : FloatKind → Nat
  | .nan => f.nan
  | .infinite negative => f.signBit negative + f.infinity
  | .finite negative significand exponent => f.roundBinary negative significand exponent

/-! ## The two widths -/

structure Binary32 where
  bits : UInt32
deriving DecidableEq, Repr

structure Binary64 where
  bits : UInt64
deriving DecidableEq, Repr

namespace Binary32

def kind (x : Binary32) : FloatKind := FloatFormat.single.kind x.bits.toNat

/-- The number of some bits; all that are no number are one. -/
def ofBits (bits : Nat) : Binary32 :=
  if FloatFormat.single.kind bits = .nan then ⟨UInt32.ofNat FloatFormat.single.nan⟩
  else ⟨UInt32.ofNat bits⟩

/-- The same number with one form for all that are no number. -/
def canonical (x : Binary32) : Binary32 := ofBits x.bits.toNat

/-- The number nearest to an integer. -/
def ofInt (n : Int) : Binary32 :=
  ofBits (FloatFormat.single.round (n < 0) n.natAbs 1)

end Binary32

namespace Binary64

def kind (x : Binary64) : FloatKind := FloatFormat.double.kind x.bits.toNat

/-- The number of some bits; all that are no number are one. -/
def ofBits (bits : Nat) : Binary64 :=
  if FloatFormat.double.kind bits = .nan then ⟨UInt64.ofNat FloatFormat.double.nan⟩
  else ⟨UInt64.ofNat bits⟩

def canonical (x : Binary64) : Binary64 := ofBits x.bits.toNat

def ofInt (n : Int) : Binary64 :=
  ofBits (FloatFormat.double.round (n < 0) n.natAbs 1)

def ofDecimal (negative : Bool) (digits : Nat) (exponent : Int) : Binary64 :=
  ofBits (FloatFormat.double.roundDecimal negative digits exponent)

def infinity (negative : Bool) : Binary64 :=
  ofBits (FloatFormat.double.signBit negative + FloatFormat.double.infinity)

def nan : Binary64 := ofBits FloatFormat.double.nan

/-- A number that is neither infinite nor missing. -/
def isFinite (x : Binary64) : Bool :=
  match x.kind with
  | .finite .. => true
  | _ => false

def toSingle (x : Binary64) : Binary32 :=
  Binary32.ofBits (FloatFormat.single.convert x.kind)

end Binary64

def Binary32.toDouble (x : Binary32) : Binary64 :=
  Binary64.ofBits (FloatFormat.double.convert x.kind)

end EntitySql
