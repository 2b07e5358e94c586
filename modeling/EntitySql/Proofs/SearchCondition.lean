import EntitySql.Proofs.Truth

/-!
# Search conditions

The conditions of SQL as trees, and the truth value of a condition for a row.  How values that
are not null compare is left to a `Collation`; what is compared with a null is unknown.

    (conjoin cs).truth x = all (cs.map (·.truth x))         (truth_conjoin)
    (disjoin cs).truth x = any (cs.map (·.truth x))         (truth_disjoin)
-/

namespace EntitySql.Sql

/-! ## Syntax -/

inductive Comparator
  | eq
  | ne
  | lt
  | lte
  | gt
  | gte
deriving DecidableEq, Repr

/-- An operand of one token. -/
inductive Atom
  | column (name : String)
  | parameter (name : String)
  | number (n : Nat)
deriving DecidableEq, Repr

mutual

inductive Expression
  | atom (a : Atom)
  /-- `CASE WHEN test THEN yes ELSE no END`. -/
  | choice (test : SearchCondition) (yes no : Expression)

/-- A condition on a row. -/
inductive SearchCondition
  | compare (left : Expression) (c : Comparator) (right : Expression)
  | null (e : Expression) (negated : Bool)
  | like (e pattern : Expression) (escape : Option Char)
  | member (e : Expression) (negated : Bool) (list : List Atom)
  | between (e low high : Expression)
  | and (c d : SearchCondition)
  | or (c d : SearchCondition)

end

namespace SearchCondition

/-- The condition that all of some conditions hold. -/
def conjoin (c : SearchCondition) : List SearchCondition → SearchCondition
  | [] => c
  | d :: ds => .and c (conjoin d ds)

/-- The condition that one of some conditions holds. -/
def disjoin (c : SearchCondition) : List SearchCondition → SearchCondition
  | [] => c
  | d :: ds => .or c (disjoin d ds)

end SearchCondition

/-! ## Meaning -/

/-- How a database compares the values of a type, nulls aside.  Numbers that stand in the text
are equal as numbers. -/
structure Collation (α : Type) where
  equal : α → α → Bool
  less : α → α → Bool
  like : α → α → Option Char → Bool
  number : Nat → α
  equal_number : ∀ m n, equal (number m) (number n) = decide (m = n)

def Collation.naturals : Collation Nat where
  equal m n := decide (m = n)
  less m n := decide (m < n)
  like _ _ _ := false
  number := id
  equal_number _ _ := rfl

/-- What conditions are judged by: a row and the values of the parameters, where `none` is
null. -/
structure Context (α : Type) where
  collation : Collation α
  row : String → Option α
  parameter : String → Option α

variable {α : Type}

namespace Collation

def relates (k : Collation α) : Comparator → α → α → Bool
  | .eq, x, y => k.equal x y
  | .ne, x, y => !k.equal x y
  | .lt, x, y => k.less x y
  | .lte, x, y => k.less x y || k.equal x y
  | .gt, x, y => k.less y x
  | .gte, x, y => k.less y x || k.equal x y

/-- The comparison of two values, which may be null. -/
def compare (k : Collation α) (c : Comparator) : Option α → Option α → Truth
  | some x, some y => .ofBool (k.relates c x y)
  | _, _ => .unknown

/-- The match of a value with a pattern, which may be null. -/
def matchPattern (k : Collation α) (escape : Option Char) : Option α → Option α → Truth
  | some x, some p => .ofBool (k.like x p escape)
  | _, _ => .unknown

end Collation

def Atom.value (x : Context α) : Atom → Option α
  | .column c => x.row c
  | .parameter p => x.parameter p
  | .number n => some (x.collation.number n)

/-- Whether a value is one of some values, the negation of that where it is negated. -/
def Context.member (x : Context α) (negated : Bool) (y : Option α) (list : List Atom) : Truth :=
  .signed negated (.any (list.map fun a => x.collation.compare .eq y (a.value x)))

/-- Whether a value is null, the negation of that where it is negated. -/
def nullTruth (negated : Bool) (y : Option α) : Truth := .signed negated (.ofBool y.isNone)

mutual

def Expression.value (x : Context α) : Expression → Option α
  | .atom a => a.value x
  | .choice test yes no => if test.truth x = .holds then yes.value x else no.value x

def SearchCondition.truth (x : Context α) : SearchCondition → Truth
  | .compare left c right => x.collation.compare c (left.value x) (right.value x)
  | .null e negated => nullTruth negated (e.value x)
  | .like e pattern escape => x.collation.matchPattern escape (e.value x) (pattern.value x)
  | .member e negated list => x.member negated (e.value x) list
  | .between e low high =>
    (x.collation.compare .gte (e.value x) (low.value x)).and
      (x.collation.compare .lte (e.value x) (high.value x))
  | .and c d => (c.truth x).and (d.truth x)
  | .or c d => (c.truth x).or (d.truth x)

end

/-! ## Laws -/

/-- Values compare as unequal where they do not compare as equal, and with a null as neither. -/
theorem Collation.compare_ne (k : Collation α) (y z : Option α) :
    k.compare .ne y z = (k.compare .eq y z).not := by
  cases y with
  | none => rfl
  | some y =>
    cases z with
    | none => rfl
    | some z => exact (Truth.not_ofBool _).symm

/-- Values that all compare as unequal, or one of which compares as equal. -/
theorem Collation.joined_compare {β : Type} (k : Collation α) (negated : Bool) (y : Option α)
    (l : List β) (z : β → Option α) :
    Truth.joined negated (l.map fun b => k.compare (if negated then .ne else .eq) y (z b)) =
      Truth.signed negated (.any (l.map fun b => k.compare .eq y (z b))) := by
  rw [← Truth.joined_signed, List.map_map]
  refine congrArg _ (List.map_congr_left fun b _ => ?_)
  cases negated with
  | false => rfl
  | true => exact k.compare_ne y (z b)

namespace SearchCondition

theorem truth_conjoin (x : Context α) (c : SearchCondition) (cs : List SearchCondition) :
    (conjoin c cs).truth x = Truth.all ((c :: cs).map (·.truth x)) := by
  induction cs generalizing c with
  | nil => simp [conjoin]
  | cons d ds ih =>
    rw [conjoin, truth, ih]
    rfl

theorem truth_disjoin (x : Context α) (c : SearchCondition) (cs : List SearchCondition) :
    (disjoin c cs).truth x = Truth.any ((c :: cs).map (·.truth x)) := by
  induction cs generalizing c with
  | nil => simp [disjoin]
  | cons d ds ih =>
    rw [disjoin, truth, ih]
    rfl

end SearchCondition

end EntitySql.Sql
