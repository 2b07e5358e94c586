import EntitySql.Entries
import EntitySql.Proofs.Distinct

/-!
# Groups of a list by a key

A list is grouped by going through it once: each element goes behind the others of its key, or
begins a group of its own behind all groups.  What comes out has no trace of the way: the distinct
keys in the order of the list, each with all elements that have it.

    Entries.push (key a) a (groupsBy key l) = groupsBy key (l ++ [a])      (push_groupsBy)
    a loop that adds each element in turn gives the groups of the list  (foldl_groupsBy)
    the elements of all groups, of one key = those of the list           (filter_flatMap_groupsBy)
    the elements of all groups are those of the list                    (perm_flatMap_groupsBy)
-/

namespace EntitySql

variable {α κ : Type} [DecidableEq κ]

/-! ## Groups -/

/-- The distinct keys of a list, each with the elements that have it. -/
def groupsBy (key : α → κ) (l : List α) : List (κ × List α) :=
  (distinctBy id (l.map key)).map fun k => (k, l.filter (key · = k))

/-! ## One element -/

theorem Entries.push_of_mem {ks : List κ} (hks : ks.Nodup) (members : κ → List α) {k : κ} (a : α)
    (hk : k ∈ ks) :
    Entries.push k a (ks.map fun l => (l, members l)) =
      ks.map fun l => (l, members l ++ if l = k then [a] else []) := by
  induction ks with
  | nil => simp at hk
  | cons l ks ih =>
    obtain ⟨hnew, hks⟩ := List.nodup_cons.1 hks
    by_cases hl : l = k
    · subst hl
      have hothers : ∀ m ∈ ks, (m, members m) = (m, members m ++ if m = l then [a] else []) := by
        intro m hm
        have hne : m ≠ l := fun h => hnew (h ▸ hm)
        rw [if_neg hne, List.append_nil]
      simp only [List.map_cons, Entries.push, if_true]
      rw [List.map_congr_left hothers]
    · have hrest : k ∈ ks := (List.mem_cons.1 hk).resolve_left (Ne.symm hl)
      simp only [List.map_cons, Entries.push, hl, if_false, ih hks hrest, List.append_nil]

theorem Entries.push_of_not_mem {ks : List κ} (members : κ → List α) {k : κ} (a : α)
    (hk : k ∉ ks) :
    Entries.push k a (ks.map fun l => (l, members l)) =
      (ks.map fun l => (l, members l)) ++ [(k, [a])] := by
  induction ks with
  | nil => rfl
  | cons l ks ih =>
    obtain ⟨hl, hks⟩ := not_or.1 (mt List.mem_cons.2 hk)
    simp only [List.map_cons, Entries.push, Ne.symm hl, if_false, ih hks, List.cons_append]

/-- One more element of the list is added to the group of its key. -/
theorem push_groupsBy (key : α → κ) (l : List α) (a : α) :
    Entries.push (key a) a (groupsBy key l) = groupsBy key (l ++ [a]) := by
  have hmembers : ∀ k, (l ++ [a]).filter (key · = k) =
      l.filter (key · = k) ++ if k = key a then [a] else [] := by
    intro k
    rw [List.filter_append]
    by_cases hk : k = key a
    · simp [hk]
    · simp [hk, Ne.symm hk]
  unfold groupsBy
  rw [List.map_append, List.map_singleton, distinctBy_concat, List.map_id,
    id_eq]
  by_cases hmem : key a ∈ l.map key
  · have hnodup : (distinctBy id (l.map key)).Nodup := by
      simpa using nodup_distinctBy id (l.map key)
    rw [if_pos hmem, Entries.push_of_mem hnodup _ a (mem_distinctBy_id.2 hmem)]
    simp only [hmembers]
  · have hnone : l.filter (key · = key a) = [] := by
      rw [List.filter_eq_nil_iff]
      intro b hb hkey
      exact hmem (of_decide_eq_true hkey ▸ List.mem_map_of_mem hb)
    have hnew : key a ∉ distinctBy id (l.map key) := fun h => hmem (mem_distinctBy_id.1 h)
    rw [if_neg hmem, Entries.push_of_not_mem _ a hnew, List.map_append, List.map_singleton, hmembers,
      hnone, if_pos rfl, List.nil_append]
    refine congrArg (· ++ [(key a, [a])]) (List.map_congr_left fun k hk => ?_)
    have hne : k ≠ key a := fun h => hnew (h ▸ hk)
    rw [hmembers, if_neg hne, List.append_nil]

/-! ## A whole list -/

/-- A loop whose every step adds an element to groups that stand for those of the elements before
it ends with what stands for the groups of the list. -/
theorem foldl_groupsBy {γ : Type} {key : α → κ} {step : α → List γ → List γ}
    (f : κ × List α → γ)
    (hstep : ∀ a l, step a ((groupsBy key l).map f) =
      (Entries.push (key a) a (groupsBy key l)).map f) (l : List α) :
    l.foldl (fun groups a => step a groups) [] = (groupsBy key l).map f := by
  have hrun : ∀ l done : List α, l.foldl (fun groups a => step a groups)
      ((groupsBy key done).map f) = (groupsBy key (done ++ l)).map f := by
    intro l
    induction l with
    | nil =>
      intro done
      rw [List.append_nil]
      rfl
    | cons a l ih =>
      intro done
      rw [List.foldl_cons, hstep, push_groupsBy, ih, List.append_assoc,
        List.singleton_append]
  exact hrun l []

/-! ## Laws -/

theorem mem_groupsBy {key : α → κ} {l : List α} {g : κ × List α} :
    g ∈ groupsBy key l ↔ g.1 ∈ l.map key ∧ g.2 = l.filter (key · = g.1) := by
  unfold groupsBy
  rw [List.mem_map]
  constructor
  · rintro ⟨k, hk, rfl⟩
    exact ⟨mem_distinctBy_id.1 hk, rfl⟩
  · rintro ⟨hkey, hmembers⟩
    exact ⟨g.1, mem_distinctBy_id.2 hkey, Prod.ext rfl hmembers.symm⟩

/-- No group is empty. -/
theorem ne_nil_of_mem_groupsBy {key : α → κ} {l : List α} {g : κ × List α}
    (hg : g ∈ groupsBy key l) : g.2 ≠ [] := by
  obtain ⟨hkey, hmembers⟩ := mem_groupsBy.1 hg
  obtain ⟨a, ha, hak⟩ := List.mem_map.1 hkey
  rw [hmembers]
  refine List.ne_nil_of_mem (a := a) (List.mem_filter.2 ⟨ha, ?_⟩)
  exact decide_eq_true hak

theorem filter_flatMap_filter (key : α → κ) (l : List α) {ks : List κ} (hks : ks.Nodup) (k : κ) :
    (ks.flatMap fun m => l.filter (key · = m)).filter (key · = k) =
      if k ∈ ks then l.filter (key · = k) else [] := by
  have hone : ∀ m, (l.filter (key · = m)).filter (key · = k) =
      if m = k then l.filter (key · = k) else [] := by
    intro m
    rw [List.filter_filter]
    by_cases hm : m = k
    · subst hm
      simp
    · rw [if_neg hm, List.filter_eq_nil_iff]
      intro a _
      by_cases hak : key a = k
      · simp [hak, Ne.symm hm]
      · simp [hak]
  induction ks with
  | nil => rfl
  | cons m ks ih =>
    obtain ⟨hnew, hks⟩ := List.nodup_cons.1 hks
    rw [List.flatMap_cons, List.filter_append, hone, ih hks]
    by_cases hm : m = k
    · subst hm
      simp [hnew]
    · simp [hm, Ne.symm hm]

/-- The elements of one key stand in the order of the list. -/
theorem filter_flatMap_groupsBy (key : α → κ) (l : List α) (k : κ) :
    ((groupsBy key l).flatMap Prod.snd).filter (key · = k) = l.filter (key · = k) := by
  have hnodup : (distinctBy id (l.map key)).Nodup := by
    simpa using nodup_distinctBy id (l.map key)
  rw [groupsBy, List.flatMap_map, filter_flatMap_filter key l hnodup]
  by_cases hk : k ∈ l.map key
  · rw [if_pos (mem_distinctBy_id.2 hk)]
  · rw [if_neg (mt mem_distinctBy_id.1 hk)]
    refine (List.filter_eq_nil_iff.2 fun a ha hak => hk ?_).symm
    exact of_decide_eq_true hak ▸ List.mem_map_of_mem ha

/-- Lists that have the same elements of each key have the same elements. -/
theorem perm_of_filter_eq [DecidableEq α] (key : α → κ) {l m : List α}
    (h : ∀ k, l.filter (key · = k) = m.filter (key · = k)) : l.Perm m := by
  refine List.perm_iff_count.2 fun a => ?_
  have hself : ∀ l : List α, (l.filter (key · = key a)).count a = l.count a := fun l =>
    List.count_filter (by simp)
  rw [← hself l, ← hself m, h]

/-- No element is lost, added or repeated. -/
theorem perm_flatMap_groupsBy [DecidableEq α] (key : α → κ) (l : List α) :
    ((groupsBy key l).flatMap Prod.snd).Perm l :=
  perm_of_filter_eq key (filter_flatMap_groupsBy key l)

end EntitySql
