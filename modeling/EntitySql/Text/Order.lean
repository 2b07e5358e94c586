/-!
# Names in order

Names are compared by code points, which is the order of their bytes in UTF-8.
`sortNames` sorts names, `Dictionary.insert` keeps a list of named entries in ascending
order with one entry per name.

    (sortNames names).Perm names                            (sortNames_perm)
    (sortNames names).Pairwise (· ≤ ·)                      (pairwise_sortNames)
    names.Perm others → sortNames names = sortNames others  (sortNames_eq_of_perm)
    sortNames (names.filter p) = (sortNames names).filter p (sortNames_filter)
    entries for distinct names, in order = those of the sorted names   (ofEntries_map)
    of entries that all have one value for a name, the dictionary has that value  (get?_ofEntries)
-/

namespace EntitySql

namespace Text

/-- Puts a name in front of the first name that is greater. -/
def insertName (name : String) : List String → List String
  | [] => [name]
  | other :: rest => if name < other then name :: other :: rest else other :: insertName name rest

def sortNames : List String → List String
  | [] => []
  | name :: rest => insertName name (sortNames rest)

/-! ## Laws -/

theorem insertName_perm (name : String) (names : List String) :
    (insertName name names).Perm (name :: names) := by
  induction names with
  | nil => exact List.Perm.refl _
  | cons other rest ih =>
    unfold insertName
    split
    · exact List.Perm.refl _
    · exact (ih.cons other).trans (List.Perm.swap name other rest)

/-- Sorting keeps every name as often as it occurs. -/
theorem sortNames_perm (names : List String) : (sortNames names).Perm names := by
  induction names with
  | nil => exact List.Perm.refl _
  | cons name rest ih => exact (insertName_perm name _).trans (ih.cons name)

theorem pairwise_insertName {names : List String} (h : names.Pairwise (· ≤ ·)) (name : String) :
    (insertName name names).Pairwise (· ≤ ·) := by
  induction names with
  | nil => simp [insertName]
  | cons other rest ih =>
    obtain ⟨hother, hrest⟩ := List.pairwise_cons.1 h
    unfold insertName
    split
    · next hlt =>
      have hle : name ≤ other := String.not_lt.1 (String.lt_asymm hlt)
      refine List.pairwise_cons.2 ⟨fun x hx => ?_, h⟩
      rcases List.mem_cons.1 hx with rfl | hx
      · exact hle
      · exact String.le_trans hle (hother x hx)
    · next hlt =>
      refine List.pairwise_cons.2 ⟨fun x hx => ?_, ih hrest⟩
      rcases List.mem_cons.1 ((insertName_perm name rest).mem_iff.1 hx) with rfl | hx
      · exact String.not_lt.1 hlt
      · exact hother x hx

theorem pairwise_sortNames (names : List String) : (sortNames names).Pairwise (· ≤ ·) := by
  induction names with
  | nil => exact List.Pairwise.nil
  | cons name rest ih => exact pairwise_insertName ih name

/-- The order in which names are given does not matter. -/
theorem sortNames_eq_of_perm {names others : List String} (h : names.Perm others) :
    sortNames names = sortNames others := by
  have hperm := (sortNames_perm names).trans (h.trans (sortNames_perm others).symm)
  exact hperm.eq_of_pairwise (fun _ _ _ _ => String.le_antisymm) (pairwise_sortNames names)
    (pairwise_sortNames others)

/-- Names that are left out do not change the order of the others. -/
theorem sortNames_filter (p : String → Bool) (names : List String) :
    sortNames (names.filter p) = (sortNames names).filter p := by
  have hperm := (sortNames_perm (names.filter p)).trans ((sortNames_perm names).filter p).symm
  exact hperm.eq_of_pairwise (fun _ _ _ _ => String.le_antisymm) (pairwise_sortNames _)
    ((pairwise_sortNames names).filter p)

end Text

namespace Dictionary

/-- Sets the entry of a name in a list of entries in ascending order. -/
def insert {α : Type} (name : String) (a : α) : List (String × α) → List (String × α)
  | [] => [(name, a)]
  | (other, b) :: rest =>
    if name = other then (name, a) :: rest
    else if name < other then (name, a) :: (other, b) :: rest
    else (other, b) :: insert name a rest

/-- The entries in ascending order, the last one of every name. -/
def ofEntries {α : Type} (entries : List (String × α)) : List (String × α) :=
  entries.foldl (fun d e => insert e.1 e.2 d) []

def get? {α : Type} (name : String) (d : List (String × α)) : Option α :=
  (d.find? (·.1 = name)).map (·.2)

/-! ## Laws -/

@[simp] theorem get?_nil {α : Type} (name : String) : get? name ([] : List (String × α)) = none :=
  rfl

/-- An entry that was set is found, and no other changes. -/
theorem get?_insert {α : Type} (name other : String) (a : α) (d : List (String × α)) :
    get? other (insert name a d) = if other = name then some a else get? other d := by
  induction d with
  | nil => simp only [insert, get?, List.find?]; grind
  | cons e d ih => simp only [insert, get?] at ih ⊢; grind

/-- The entry of a name is found among entries if all that have the name say the same. -/
theorem get?_ofEntries {α : Type} {name : String} {a : α} {entries : List (String × α)}
    (hname : ∃ e ∈ entries, e.1 = name) (h : ∀ e ∈ entries, e.1 = name → e.2 = a) :
    get? name (ofEntries entries) = some a := by
  have hrun : ∀ (entries : List (String × α)) (d : List (String × α)),
      (∀ e ∈ entries, e.1 = name → e.2 = a) →
      (∃ e ∈ entries, e.1 = name) ∨ get? name d = some a →
      get? name (entries.foldl (fun d e => insert e.1 e.2 d) d) = some a := by
    intro entries
    induction entries with
    | nil =>
      rintro d _ (⟨e, he, _⟩ | hd)
      · cases he
      · exact hd
    | cons e entries ih =>
      intro d h hname
      obtain ⟨he, hentries⟩ := List.forall_mem_cons.1 h
      refine ih (insert e.1 e.2 d) hentries ?_
      rw [get?_insert]
      by_cases hsame : name = e.1
      · rw [if_pos hsame, he hsame.symm]
        exact .inr rfl
      · rw [if_neg hsame]
        refine hname.imp_left fun ⟨other, hother, hother'⟩ => ?_
        rcases List.mem_cons.1 hother with rfl | hmem
        · exact absurd hother'.symm hsame
        · exact ⟨other, hmem, hother'⟩
  exact hrun entries [] h (.inl hname)

theorem insert_map {α : Type} (a : String → α) {name : String} {names : List String}
    (hnew : name ∉ names) :
    insert name (a name) (names.map fun n => (n, a n)) =
      (Text.insertName name names).map fun n => (n, a n) := by
  induction names with
  | nil => rfl
  | cons other rest ih =>
    obtain ⟨hne, hrest⟩ := not_or.1 (mt List.mem_cons.2 hnew)
    rw [List.map_cons, insert, if_neg hne, Text.insertName]
    by_cases hlt : name < other
    · rw [if_pos hlt, if_pos hlt]
      rfl
    · rw [if_neg hlt, if_neg hlt, List.map_cons, ih hrest]

/-- Entries for distinct names are in the order of the names. -/
theorem ofEntries_map {α : Type} (a : String → α) {names : List String} (h : names.Nodup) :
    ofEntries (names.map fun n => (n, a n)) = (Text.sortNames names).map fun n => (n, a n) := by
  have hrun : ∀ names done : List String, (names ++ done).Nodup →
      (names.map fun n => (n, a n)).foldl (fun d e => insert e.1 e.2 d)
        ((Text.sortNames done).map fun n => (n, a n)) =
          (Text.sortNames (names ++ done)).map fun n => (n, a n) := by
    intro names
    induction names with
    | nil => exact fun _ _ => rfl
    | cons name rest ih =>
      intro done h
      have hperm : (rest ++ name :: done).Perm (name :: rest ++ done) := List.perm_middle
      have hnew : name ∉ Text.sortNames done := by
        intro hmem
        have hdone := (Text.sortNames_perm done).mem_iff.1 hmem
        exact (List.nodup_cons.1 h).1 (List.mem_append_right rest hdone)
      rw [List.map_cons, List.foldl_cons, insert_map a hnew]
      exact (ih (name :: done) (hperm.nodup_iff.2 h)).trans
        (congrArg _ (Text.sortNames_eq_of_perm hperm))
  have hall := hrun names [] (by rwa [List.append_nil])
  rwa [List.append_nil] at hall

end Dictionary

end EntitySql
