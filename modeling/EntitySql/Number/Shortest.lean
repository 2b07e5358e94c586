import EntitySql.Number.Binary

/-!
# Shortest decimals

The decimal of fewest digits among those that round to a given binary number, and of these
the one nearest to it.  The numbers that round to `m * 2 ^ q` form an interval whose ends
belong to it exactly when `m` is even; for one digit, two digits and so on the two
neighbours of the number on the grid of that many digits are tried.
-/

namespace EntitySql

/-- The number `digits * 10 ^ exponent`. -/
structure Decimal where
  digits : Nat
  exponent : Int
deriving DecidableEq, Repr

/-- Which of two decimals equally near to a number is taken: the larger one or the one
whose last digit is even. -/
inductive Tie
  | up
  | even
deriving DecidableEq, Repr

namespace Decimal

/-- Drops the zeros at the end of the digits; `fuel` bounds how many. -/
def dropZeros : (fuel : Nat) → Decimal → Decimal
  | 0, d => d
  | fuel + 1, d =>
    if d.digits ≠ 0 && d.digits % 10 == 0 then dropZeros fuel ⟨d.digits / 10, d.exponent + 1⟩
    else d

/-- The numbers between `low * unit / denominator` and `high * unit / denominator`, and the
one at `middle` they are searched for. -/
structure Interval where
  low : Nat
  middle : Nat
  high : Nat
  unit : Nat
  denominator : Nat
  closed : Bool

/-- The interval of the numbers that round to `significand * 2 ^ exponent`.  Below a power
of two the neighbour is half as far away. -/
def Interval.around (f : FloatFormat) (significand : Nat) (exponent : Int) : Interval :=
  let narrow := significand == Nat.pow 2 (f.precision - 1) && f.minExponent < exponent
  { low := if narrow then 4 * significand - 1 else 4 * significand - 2
    middle := 4 * significand
    high := 4 * significand + 2
    unit := Nat.pow 2 (exponent - 2).toNat
    denominator := Nat.pow 2 (2 - exponent).toNat
    closed := significand % 2 == 0 }

/-- The grid position of `part * unit / denominator` for steps of `10 ^ grid`, as a pair. -/
def Interval.position (i : Interval) (grid : Int) (part : Nat) : Nat × Nat :=
  (part * i.unit * Nat.pow 10 (-grid).toNat, i.denominator * Nat.pow 10 grid.toNat)

/-- Whether `count` steps of `10 ^ grid` lie in the interval. -/
def Interval.contains (i : Interval) (grid : Int) (count : Nat) : Bool :=
  let (low, d) := i.position grid i.low
  let (high, _) := i.position grid i.high
  let n := count * d
  if i.closed then low ≤ n && n ≤ high else low < n && n < high

/-- The nearest of the two grid points around the middle that lie in the interval. -/
def Interval.candidate? (i : Interval) (tie : Tie) (grid : Int) : Option Nat :=
  let (n, d) := i.position grid i.middle
  let count := n / d
  let nearest := match compare (2 * n) ((2 * count + 1) * d) with
    | .lt => count
    | .gt => count + 1
    | .eq => if tie == .up || count % 2 == 1 then count + 1 else count
  match i.contains grid count, i.contains grid (count + 1) with
  | true, true => some nearest
  | true, false => some count
  | false, true => some (count + 1)
  | false, false => none

/-- How many of `fuel` tenfold steps leave `n / d` below one. -/
def leadingZeros : (fuel n d : Nat) → Nat
  | 0, _, _ => 0
  | fuel + 1, n, d => if 10 * n < d then leadingZeros fuel (10 * n) d + 1 else 0

/-- The least `k` with `n / d < 10 ^ k`, for positive `n` and `d`. -/
def magnitude (n d : Nat) : Int :=
  if d ≤ n then (Nat.toDigits 10 (n / d)).length else -(leadingZeros d n d : Int)

/-- The first grid with a candidate, from `size` digits on. -/
def searchFrom (i : Interval) (tie : Tie) (k : Int) : (fuel size : Nat) → Decimal
  | 0, size => ⟨i.middle * i.unit / i.denominator, k - size⟩
  | fuel + 1, size =>
    match i.candidate? tie (k - size) with
    | some count => ⟨count, k - size⟩
    | none => searchFrom i tie k fuel (size + 1)

/-- The shortest decimal that rounds to `significand * 2 ^ exponent`. -/
def shortest (f : FloatFormat) (tie : Tie) (significand : Nat) (exponent : Int) : Decimal :=
  if significand = 0 then ⟨0, 0⟩
  else
    let i := Interval.around f significand exponent
    let k := magnitude (i.middle * i.unit) i.denominator
    dropZeros 400 (searchFrom i tie k 20 1)

end Decimal

end EntitySql
