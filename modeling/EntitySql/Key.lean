import EntitySql.Entity
import EntitySql.Item

/-!
# Keys

Which rows an item names by its key column, and when two key values name the same row: when
they are sent as the same datum, so that `1` and `'1'` are one key of an integer column.  A
value that cannot be sent stands for itself.

    f.keys? = some vs → vs = f.values                        (values_of_keys?)
    (distinctBy key l).map key is without repetition         (nodup_distinctBy)
    every key of `l` is a key of `distinctBy key l`          (mem_distinctBy)
-/

namespace EntitySql

/-! ## Distinct elements -/

/-- The elements of a list whose key is not among those seen, nor that of an earlier
element. -/
def distinctFrom {α κ : Type} [DecidableEq κ] (key : α → κ) : (seen : List κ) → List α → List α
  | _, [] => []
  | seen, a :: rest =>
    let k := key a
    if k ∈ seen then distinctFrom key seen rest else a :: distinctFrom key (k :: seen) rest

/-- The elements of a list whose key no earlier element has. -/
def distinctBy {α κ : Type} [DecidableEq κ] (key : α → κ) (l : List α) : List α :=
  distinctFrom key [] l

/-! ## Key values -/

/-- The values by which a field names rows: its own, or those of an equality or a
membership.  No other query names rows. -/
def FieldValue.keys? : FieldValue → Option (List Value)
  | .value v => some [v]
  | .array vs => some vs
  | .query q =>
    match q.operator with
    | .eq | .in_ => some q.operand.values
    | _ => none

/-- What two key values of one row have in common. -/
inductive KeyIdentity
  | bound (datum : Datum)
  | unbound (value : Value)
deriving DecidableEq

def keyIdentity (e : Entity) (column : String) (v : Value) : KeyIdentity :=
  match (e.sqlType? column).bind fun t => (t.bind v).toOption with
  | some d => .bound d.canonical
  | none => .unbound v.canonical

/-! ## Laws -/

/-- The values by which a field names rows are all that it carries. -/
theorem FieldValue.values_of_keys? {f : FieldValue} {keys : List Value} (h : f.keys? = some keys) :
    keys = f.values := by
  cases f with
  | value v =>
    cases h
    rfl
  | array vs =>
    cases h
    rfl
  | query q =>
    unfold FieldValue.keys? at h
    dsimp only at h
    split at h
    · cases h
      rfl
    · cases h
      rfl
    · cases h

/-- A field that is matched by a pattern names no rows. -/
theorem FieldValue.operator_ne_like_of_keys? {f : FieldValue} {keys : List Value}
    (h : f.keys? = some keys) : f.operator ≠ .like := by
  cases f with
  | value v => exact fun hop => by cases hop
  | array vs => exact fun hop => by cases hop
  | query q =>
    intro hop
    have hlike : q.operator = .like := hop
    rw [keys?, hlike] at h
    cases h

variable {α κ : Type} [DecidableEq κ] (key : α → κ)

theorem distinctFrom_sublist (seen : List κ) (l : List α) :
    (distinctFrom key seen l).Sublist l := by
  induction l generalizing seen with
  | nil => exact .slnil
  | cons a rest ih =>
    by_cases h : key a ∈ seen
    · simpa [distinctFrom, h] using (ih seen).cons a
    · simpa [distinctFrom, h] using ih (key a :: seen)

theorem mem_distinctFrom (seen : List κ) (l : List α) (k : κ) :
    k ∈ (distinctFrom key seen l).map key ↔ k ∈ l.map key ∧ k ∉ seen := by
  induction l generalizing seen with
  | nil => simp [distinctFrom]
  | cons a rest ih =>
    by_cases h : key a ∈ seen
    · simp only [distinctFrom, h, if_true, ih, List.map_cons, List.mem_cons]
      by_cases hk : k = key a <;> simp [hk, h]
    · simp only [distinctFrom, h, if_false, ih, List.map_cons, List.mem_cons]
      by_cases hk : k = key a <;> simp [hk, h]

theorem nodup_distinctFrom (seen : List κ) (l : List α) :
    ((distinctFrom key seen l).map key).Nodup := by
  induction l generalizing seen with
  | nil => exact List.nodup_nil
  | cons a rest ih =>
    by_cases h : key a ∈ seen
    · simpa [distinctFrom, h] using ih seen
    · simp only [distinctFrom, h, if_false, List.map_cons]
      refine List.nodup_cons.2 ⟨fun hmem => ?_, ih _⟩
      exact ((mem_distinctFrom key _ rest _).1 hmem).2 List.mem_cons_self

theorem distinctBy_sublist (l : List α) : (distinctBy key l).Sublist l :=
  distinctFrom_sublist key [] l

/-- No two elements are left with one key. -/
theorem nodup_distinctBy (l : List α) : ((distinctBy key l).map key).Nodup :=
  nodup_distinctFrom key [] l

/-- Every key is still there. -/
theorem mem_distinctBy (l : List α) (k : κ) :
    k ∈ (distinctBy key l).map key ↔ k ∈ l.map key := by
  simp [distinctBy, mem_distinctFrom]

end EntitySql
