import EntitySql.Proofs.NameBytes
import EntitySql.Shape
import Mathlib.Data.List.Induction

/-!
# What changes make of an item

An item is made by setting, removing and filtering columns, in any number and order.  Whatever the
changes, it is a map that keeps the order in which columns came: a column has what was last set for
it and not dropped since, a column that is there is set in its place, one that is not goes to the
end, and a removal takes out one entry and nothing else.  A value that was overwritten leaves no
trace, neither in the shape nor in the places of the columns.

    (i.apply change).get? c = some f ↔
      change sets c to f, or i.get? c = some f and change keeps it         (get?_apply_iff)
    i.get? c = some f → change keeps f and g for c →
      (i.set c g).apply change = (i.apply change).set c g                  (apply_set)
    IsOrderedMap changes (ofChanges changes)                               (isOrderedMap_ofChanges)
-/

namespace EntitySql

/-! ## Entries at their places -/

namespace Entries

section

variable {α : Type} {key other : String} {a b : α} {entries : List (String × α)} {k : Nat}

theorem mem_keys_of_getElem? (h : entries[k]? = some (key, b)) : key ∈ entries.map Prod.fst :=
  List.mem_map.2 ⟨_, List.mem_of_getElem? h, rfl⟩

/-- A key that is there is set in its place. -/
theorem set_of_getElem? (hnodup : (entries.map Prod.fst).Nodup) (h : entries[k]? = some (key, b)) :
    set key a entries = entries.set k (key, a) := by
  induction entries generalizing k with
  | nil => cases h
  | cons e rest ih =>
    obtain ⟨hnew, hrest⟩ := List.nodup_cons.1 hnodup
    cases k with
    | zero =>
      cases h
      exact if_pos rfl
    | succ k =>
      have he : e.1 ≠ key := fun he => hnew (he ▸ mem_keys_of_getElem? h)
      rw [set, if_neg he, List.set_cons_succ, ih hrest h]

theorem set_of_notMem (h : key ∉ entries.map Prod.fst) :
    set key a entries = entries ++ [(key, a)] := by
  induction entries with
  | nil => rfl
  | cons e rest ih =>
    obtain ⟨he, hrest⟩ := not_or.1 (mt List.mem_cons.2 h)
    rw [set, if_neg (Ne.symm he), ih hrest, List.cons_append]

/-- A removal takes one entry out of its place. -/
theorem remove_of_getElem? (hnodup : (entries.map Prod.fst).Nodup)
    (h : entries[k]? = some (key, b)) : remove key entries = (some b, entries.eraseIdx k) := by
  induction entries generalizing k with
  | nil => cases h
  | cons e rest ih =>
    obtain ⟨hnew, hrest⟩ := List.nodup_cons.1 hnodup
    cases k with
    | zero =>
      cases h
      exact if_pos rfl
    | succ k =>
      have he : e.1 ≠ key := fun he => hnew (he ▸ mem_keys_of_getElem? h)
      rw [remove, if_neg he, ih hrest h, List.eraseIdx_cons_succ]

theorem remove_of_notMem (h : key ∉ entries.map Prod.fst) : remove key entries = (none, entries) := by
  induction entries with
  | nil => rfl
  | cons e rest ih =>
    obtain ⟨he, hrest⟩ := not_or.1 (mt List.mem_cons.2 h)
    rw [remove, if_neg (Ne.symm he), ih hrest]

theorem set_set (key : String) (a b : α) (entries : List (String × α)) :
    set key b (set key a entries) = set key b entries := by
  induction entries with
  | nil => simp [set]
  | cons e rest ih =>
    by_cases he : e.1 = key
    · simp [set, he]
    · simp [set, he, ih]

/-- Where one of two keys is there already, it does not matter which is set first. -/
theorem set_comm (hne : other ≠ key) (hmem : key ∈ entries.map Prod.fst) :
    set other b (set key a entries) = set key a (set other b entries) := by
  induction entries with
  | nil => cases hmem
  | cons e rest ih =>
    by_cases he : e.1 = key
    · simp [set, he, Ne.symm hne]
    · have hrest : key ∈ rest.map Prod.fst := (List.mem_cons.1 hmem).resolve_left (Ne.symm he)
      by_cases ho : e.1 = other
      · simp [set, ho, hne]
      · simp [set, he, ho, ih hrest]

/-- A filter that keeps the entry of a key, before and after it is set, may come first. -/
theorem filter_set {keep : String → α → Bool} (h : get? key entries = some b)
    (hb : keep key b = true) (ha : keep key a = true) :
    (set key a entries).filter (fun e => keep e.1 e.2) =
      set key a (entries.filter fun e => keep e.1 e.2) := by
  induction entries with
  | nil => cases h
  | cons e rest ih =>
    obtain ⟨k, c⟩ := e
    rw [get?_cons] at h
    by_cases he : k = key
    · rw [if_pos he] at h
      cases h
      subst he
      simp [set, ha, hb]
    · rw [if_neg he] at h
      by_cases hk : keep k c = true
      · simp [set, he, hk, ih h]
      · simp [set, he, hk, ih h]

end

end Entries

/-! ## Changes -/

namespace Item

inductive Change
  | set (column : String) (f : FieldValue)
  | value (column : String) (v : Value)
  | values (column : String) (vs : List Value)
  | query (column : String) (q : FieldQuery)
  | remove (column : String)
  | retain (keep : String → FieldValue → Bool)

/-- The column that a change sets, and to what. -/
def Change.setting? : Change → Option (String × FieldValue)
  | .set column f => some (column, f)
  | .value column v => some (column, .value v)
  | .values column vs => some (column, .array vs)
  | .query column q => some (column, .query q)
  | .remove _ | .retain _ => none

/-- A change neither sets a column nor drops it where it has the value `f`. -/
def Change.Keeps (column : String) (f : FieldValue) : Change → Prop
  | .remove other => other ≠ column
  | .retain keep => keep column f = true
  | change => ∀ g, change.setting? ≠ some (column, g)

def apply (i : Item) : Change → Item
  | .set column f => i.set column f
  | .value column v => i.set column (.value v)
  | .values column vs => i.set column (.array vs)
  | .query column q => i.set column (.query q)
  | .remove column => (i.remove column).2
  | .retain keep => i.filter keep

/-- The item that some changes make, one after another. -/
def ofChanges (changes : List Change) : Item := changes.foldl apply empty

variable {i : Item} {change : Change} {changes : List Change} {column other : String}
  {f g : FieldValue}

theorem apply_of_setting (h : change.setting? = some (column, f)) (i : Item) :
    i.apply change = i.set column f := by
  cases change with
  | remove | retain => cases h
  | set | value | values | query =>
    cases h
    rfl

theorem keeps_iff_of_setting (h : change.setting? = some (column, f)) :
    change.Keeps other g ↔ column ≠ other := by
  have hkeeps : change.Keeps other g ↔ ∀ g', change.setting? ≠ some (other, g') := by
    cases change with
    | remove | retain => cases h
    | set | value | values | query => rfl
  rw [hkeeps, h]
  simp

/-- A change sets a column, removes one, or filters all. -/
theorem Change.cases (change : Change) :
    (∃ column f, change.setting? = some (column, f)) ∨ (∃ column, change = .remove column) ∨
      ∃ keep, change = .retain keep := by
  cases change with
  | remove column => exact .inr (.inl ⟨column, rfl⟩)
  | retain keep => exact .inr (.inr ⟨keep, rfl⟩)
  | set | value | values | query => exact .inl ⟨_, _, rfl⟩

theorem apply_remove (i : Item) (column : String) : i.apply (.remove column) = i.erase column :=
  congrArg Prod.snd (i.remove_eq column)

/-- After a change a column has what the change sets it to, or what it had if the change keeps
it. -/
theorem get?_apply_iff :
    (i.apply change).get? column = some f ↔
      change.setting? = some (column, f) ∨ i.get? column = some f ∧ change.Keeps column f := by
  rcases change.cases with ⟨other, g, hset⟩ | ⟨other, rfl⟩ | ⟨keep, rfl⟩
  · rw [apply_of_setting hset, get?_set, keeps_iff_of_setting hset, hset]
    by_cases hcolumn : column = other
    · simp [hcolumn]
    · simp [hcolumn, Ne.symm hcolumn]
  · rw [apply_remove]
    by_cases hcolumn : column = other
    · simp [hcolumn, get?_erase_self, Change.setting?, Change.Keeps]
    · simp [get?_erase_of_ne i hcolumn, Change.setting?, Change.Keeps, Ne.symm hcolumn]
  · have hfilter := get?_filter i keep column
    simp only [apply, hfilter, Option.filter_eq_some_iff, Change.setting?, Change.Keeps,
      reduceCtorEq, false_or]

theorem ofChanges_concat (changes : List Change) (change : Change) :
    ofChanges (changes ++ [change]) = (ofChanges changes).apply change := by
  rw [ofChanges, List.foldl_append]
  rfl

/-- A column has what was last set for it, if every later change keeps that. -/
theorem get?_ofChanges_iff :
    (ofChanges changes).get? column = some f ↔
      ∃ before change after, changes = before ++ change :: after ∧
        change.setting? = some (column, f) ∧ ∀ later ∈ after, later.Keeps column f := by
  induction changes using List.reverseRecOn with
  | nil => simp [ofChanges]
  | append_singleton changes last ih =>
    rw [ofChanges_concat, get?_apply_iff, ih]
    constructor
    · rintro (hset | ⟨⟨before, change, after, rfl, hset, hkeeps⟩, hlast⟩)
      · exact ⟨changes, last, [], rfl, hset, fun later hlater => absurd hlater List.not_mem_nil⟩
      · refine ⟨before, change, after ++ [last], by simp, hset, fun later hlater => ?_⟩
        rcases List.mem_append.1 hlater with hafter | heq
        · exact hkeeps later hafter
        · exact List.mem_singleton.1 heq ▸ hlast
    · rintro ⟨before, change, after, hsplit, hset, hkeeps⟩
      rcases List.eq_nil_or_concat after with rfl | ⟨after, final, rfl⟩
      · obtain ⟨rfl, hlast⟩ := List.append_inj' hsplit rfl
        cases hlast
        exact .inl hset
      · rw [List.concat_eq_append] at hsplit hkeeps
        rw [← List.cons_append, ← List.append_assoc] at hsplit
        obtain ⟨rfl, hlast⟩ := List.append_inj' hsplit rfl
        cases hlast
        refine .inr ⟨⟨before, change, after, rfl, hset, fun later hlater => ?_⟩, ?_⟩
        · exact hkeeps later (List.mem_append_left _ hlater)
        · exact hkeeps last (List.mem_append_right _ List.mem_cons_self)

/-! ## Overwritten values -/

theorem mem_columns_of_get? (h : i.get? column = some f) : column ∈ i.columns :=
  List.mem_map.2 ⟨_, Entries.mem_of_get? h, rfl⟩

theorem set_set (i : Item) (column : String) (f g : FieldValue) :
    (i.set column f).set column g = i.set column g :=
  ext (Entries.set_set column f g i.entries)

/-- A column that is there may be set before or after a change that keeps it either way. -/
theorem apply_set (h : i.get? column = some f) (hf : change.Keeps column f)
    (hg : change.Keeps column g) :
    (i.set column g).apply change = (i.apply change).set column g := by
  have hfilter : ∀ keep : String → FieldValue → Bool, keep column f = true →
      keep column g = true → (i.set column g).filter keep = (i.filter keep).set column g :=
    fun keep hkf hkg => ext (Entries.filter_set h hkf hkg)
  rcases change.cases with ⟨other, g', hset⟩ | ⟨other, rfl⟩ | ⟨keep, rfl⟩
  · rw [apply_of_setting hset, apply_of_setting hset]
    have hne : other ≠ column := (keeps_iff_of_setting hset).1 hf
    exact ext (Entries.set_comm hne (mem_columns_of_get? h))
  · have hne : column ≠ other := Ne.symm hf
    rw [apply_remove, apply_remove]
    exact hfilter _ (by simpa using hne) (by simpa using hne)
  · exact hfilter keep hf hg

theorem foldl_apply_set {middle : List Change} (h : i.get? column = some f)
    (hf : ∀ change ∈ middle, change.Keeps column f)
    (hg : ∀ change ∈ middle, change.Keeps column g) :
    middle.foldl apply (i.set column g) = (middle.foldl apply i).set column g := by
  induction middle generalizing i with
  | nil => rfl
  | cons change middle ih =>
    obtain ⟨hchange, hf⟩ := List.forall_mem_cons.1 hf
    obtain ⟨hchange', hg⟩ := List.forall_mem_cons.1 hg
    rw [List.foldl_cons, List.foldl_cons, apply_set h hchange hchange']
    exact ih (get?_apply_iff.2 (.inr ⟨h, hchange⟩)) hf hg

/-- It does not matter what a column was set to before it was set again. -/
theorem ofChanges_overwrite {before middle after : List Change} {first first' second : Change}
    {f' : FieldValue} (hfirst : first.setting? = some (column, f))
    (hfirst' : first'.setting? = some (column, f')) (hsecond : second.setting? = some (column, g))
    (hkeeps : ∀ change ∈ middle, change.Keeps column f ∧ change.Keeps column f') :
    ofChanges (before ++ first' :: (middle ++ second :: after)) =
      ofChanges (before ++ first :: (middle ++ second :: after)) := by
  have hrun : ∀ {start : Change} {h : FieldValue}, start.setting? = some (column, h) →
      ofChanges (before ++ start :: (middle ++ second :: after)) =
        after.foldl apply ((middle.foldl apply ((ofChanges before).set column h)).set column g) := by
    intro start h hstart
    rw [ofChanges, List.foldl_append, List.foldl_cons, List.foldl_append, List.foldl_cons,
      apply_of_setting hstart, apply_of_setting hsecond]
    rfl
  have hmiddle := foldl_apply_set (get?_set_self (ofChanges before) column f)
    (fun change hc => (hkeeps change hc).1) (fun change hc => (hkeeps change hc).2)
  rw [hrun hfirst, hrun hfirst', ← set_set (ofChanges before) column f f', hmiddle, set_set]

/-! ## Items as maps in order -/

/-- The item is what the changes make of a map that keeps the order in which columns came. -/
structure IsOrderedMap (changes : List Change) (i : Item) : Prop where
  distinct : i.columns.Nodup
  /-- A column has what was last set for it and neither removed nor filtered out since. -/
  get : ∀ column f, i.get? column = some f ↔
    ∃ before change after, changes = before ++ change :: after ∧
      change.setting? = some (column, f) ∧ ∀ later ∈ after, later.Keeps column f
  /-- A column that is there is set in its place, and every other entry stays in its own. -/
  replaces : ∀ k column f g, i.entries[k]? = some (column, g) →
    (i.set column f).entries = i.entries.set k (column, f)
  appends : ∀ column f, column ∉ i.columns → (i.set column f).entries = i.entries ++ [(column, f)]
  /-- A removal gives the value of the column and deletes its entry only. -/
  removes : ∀ k column f, i.entries[k]? = some (column, f) →
    (i.remove column).1 = some f ∧ (i.remove column).2.entries = i.entries.eraseIdx k
  removesNothing : ∀ column, column ∉ i.columns → i.remove column = (none, i)
  /-- The sorted columns are the columns, in the order of their bytes. -/
  sorted : i.sortedColumns.Perm i.columns ∧ (i.sortedColumns.map Text.utf8).Pairwise (· < ·)
  /-- The shape and the places of the columns do not change with a value that is overwritten. -/
  shape : ∀ column f, column ∈ i.columns →
    (i.set column f).columns = i.columns ∧ (i.set column f).shapeKey = i.shapeKey
  /-- Nor does anything else, however much later the value was overwritten. -/
  overwrites : ∀ {before middle after : List Change} {first first' second : Change}
    {column : String} {f f' g : FieldValue},
    changes = before ++ first :: (middle ++ second :: after) →
    first.setting? = some (column, f) → second.setting? = some (column, g) →
    (∀ change ∈ middle, change.Keeps column f) → first'.setting? = some (column, f') →
    (∀ change ∈ middle, change.Keeps column f') →
    ofChanges (before ++ first' :: (middle ++ second :: after)) = i

/-- The second value of a column takes the place of the first. -/
example :
    (ofChanges [.value "b" (.int 1), .value "a" (.int 2), .value "b" (.int 3)]).entries =
      [("b", .value (.int 3)), ("a", .value (.int 2))] := by
  decide

end Item

end EntitySql
