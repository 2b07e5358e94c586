/-!
# Decimal digits

Writing a number with a fixed count of digits, and reading digits back.  Only the ten
digits of ASCII count as digits.

    value (fixed w n) = n % 10 ^ w                          (value_fixed)
    value (Nat.toDigits 10 n) = n                           (value_toDigits)
    value (ds ++ es) = value ds * 10 ^ |es| + value es      (value_append)
    takeDigits k (ds ++ r) = (ds, r)  for k digits ds       (takeDigits_append)
-/

namespace EntitySql.Text

/-- The digit that stands for `n % 10`. -/
def digit (n : Nat) : Char := Char.ofNat (48 + n % 10)

/-- The last `width` decimal digits of a number, zeros in front where it is shorter. -/
def fixed : (width : Nat) → Nat → List Char
  | 0, _ => []
  | width + 1, n => fixed width (n / 10) ++ [digit n]

/-- The number that a run of digits writes. -/
def value (ds : List Char) : Nat := ds.foldl (fun n c => 10 * n + (c.toNat - 48)) 0

/-- At most `limit` digits from the front, and what follows them. -/
def takeDigits : (limit : Nat) → List Char → List Char × List Char
  | 0, s => ([], s)
  | _ + 1, [] => ([], [])
  | limit + 1, c :: s =>
    if c.isDigit then
      let (ds, rest) := takeDigits limit s
      (c :: ds, rest)
    else ([], c :: s)

/-- The number that a text of digits alone writes. -/
def readNat? (s : List Char) : Option Nat :=
  if s.isEmpty || !s.all Char.isDigit then none else some (value s)

/-- The integer that an optional sign and digits write. -/
def readInt? : List Char → Option Int
  | '+' :: ds => (readNat? ds).map Int.ofNat
  | '-' :: ds => (readNat? ds).map fun n => -(n : Int)
  | ds => (readNat? ds).map Int.ofNat

/-! ## Laws -/

theorem toNat_bounds_of_isDigit {c : Char} (h : c.isDigit = true) :
    48 ≤ c.toNat ∧ c.toNat ≤ 57 := by
  simpa [Char.isDigit, UInt32.le_iff_toNat_le] using h

theorem isDigit_digit (n : Nat) : (digit n).isDigit = true := by
  have : ∀ k < 10, (Char.ofNat (48 + k)).isDigit = true := by decide
  exact this _ (Nat.mod_lt _ (by decide))

theorem digit_toNat (n : Nat) : (digit n).toNat - 48 = n % 10 := by
  have : ∀ k < 10, (Char.ofNat (48 + k)).toNat - 48 = k := by decide
  exact this _ (Nat.mod_lt _ (by decide))

@[simp] theorem length_fixed (w n : Nat) : (fixed w n).length = w := by
  induction w generalizing n with
  | zero => rfl
  | succ w ih => simp [fixed, ih]

theorem isDigit_of_mem_fixed {w n : Nat} {c : Char} (h : c ∈ fixed w n) : c.isDigit = true := by
  induction w generalizing n with
  | zero => simp [fixed] at h
  | succ w ih =>
    rcases List.mem_append.1 h with h | h
    · exact ih h
    · rw [List.mem_singleton.1 h]; exact isDigit_digit n

theorem value_append_singleton (ds : List Char) (c : Char) :
    value (ds ++ [c]) = 10 * value ds + (c.toNat - 48) := by
  simp [value, List.foldl_append]

/-- Digits behind a number put it so many places to the left. -/
theorem value_append (ds es : List Char) :
    value (ds ++ es) = value ds * Nat.pow 10 es.length + value es := by
  have hrun : ∀ n, es.foldl (fun n c => 10 * n + (c.toNat - 48)) n =
      n * Nat.pow 10 es.length + value es := by
    induction es with
    | nil => simp [value]
    | cons c es ih =>
      intro n
      have hpow : Nat.pow 10 (es.length + 1) = 10 * Nat.pow 10 es.length := Nat.mul_comm _ 10
      have hvalue : value (c :: es) = (c.toNat - 48) * Nat.pow 10 es.length + value es := by
        rw [value, List.foldl_cons, ih, Nat.mul_zero, Nat.zero_add]
      rw [List.foldl_cons, ih, hvalue, List.length_cons, hpow, Nat.add_mul, Nat.add_assoc,
        Nat.mul_comm 10 n, Nat.mul_assoc]
  rw [value, List.foldl_append, hrun]
  rfl

/-- Digits write a number that has no more of them. -/
theorem value_lt {ds : List Char} (h : ∀ c ∈ ds, c.isDigit = true) :
    value ds < Nat.pow 10 ds.length := by
  induction ds with
  | nil => decide
  | cons c ds ih =>
    obtain ⟨hc, hds⟩ := List.forall_mem_cons.1 h
    have hdigit : c.toNat - 48 ≤ 9 := by
      have hbounds := toNat_bounds_of_isDigit hc
      omega
    have hpow : Nat.pow 10 (ds.length + 1) = 10 * Nat.pow 10 ds.length := Nat.mul_comm _ 10
    have hvalue : value (c :: ds) = (c.toNat - 48) * Nat.pow 10 ds.length + value ds := by
      have hfirst := value_append [c] ds
      simpa [value] using hfirst
    have hlead := Nat.mul_le_mul_right (Nat.pow 10 ds.length) hdigit
    have hrest := ih hds
    rw [hvalue, List.length_cons, hpow]
    omega

theorem value_fixed (w n : Nat) : value (fixed w n) = n % Nat.pow 10 w := by
  induction w generalizing n with
  | zero => simp [fixed, value, Nat.mod_one]
  | succ w ih =>
    have hpow : Nat.pow 10 (w + 1) = 10 * Nat.pow 10 w := Nat.mul_comm _ 10
    rw [fixed, value_append_singleton, ih, digit_toNat, hpow, Nat.mod_mul, Nat.add_comm]

/-- All digits of a number write it. -/
theorem value_toDigits (n : Nat) : value (Nat.toDigits 10 n) = n := by
  have hvalue : value (Nat.toDigits 10 n) = Nat.ofDigitChars 10 (Nat.toDigits 10 n) 0 := rfl
  rw [hvalue, Nat.ofDigitChars_ten_toDigits]

/-- Digits in front of something else are taken whole. -/
theorem takeDigits_append {ds : List Char} (h : ∀ c ∈ ds, c.isDigit = true) (r : List Char) :
    takeDigits ds.length (ds ++ r) = (ds, r) := by
  induction ds with
  | nil => cases r <;> rfl
  | cons c ds ih =>
    have hc := h c (by simp)
    have hds := ih fun x hx => h x (by simp [hx])
    simp [takeDigits, hc, hds]

end EntitySql.Text
