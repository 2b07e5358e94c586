import EntitySql.Proofs.Targets

/-!
# Joining by nested loops

The rows that were found for a target are kept by their join keys and looked up for every row and
every foreign key.  What is found in this way is what two loops find: for each foreign key of a row,
all rows that were found for its reference are gone through, and those that have the key are kept.

    the rows under a key of an index = the rows that have the key          (rows_foldl_add)
    the index of a target holds what was found at its place                (joinIndexes_eq)
    a row resolved by the indexes has what each of its columns points to   (resolveRow_eq_ofEntries)
    a row resolved by the indexes = the row with what two loops find, where no column has two
      foreign keys                                                         (resolveRow_eq)
-/

namespace EntitySql

/-! ## Two loops -/

/-- The rows that a foreign key of a row points to: of the rows that were found for its reference,
those that have the value of the row for their key. -/
def pointedTo (found : List (RelationQuery × List Row)) (r : Row) (fk : ForeignKey) : List Row :=
  found.flatMap fun (q, others) => others.filter fun other =>
    q.target.reference = fk.reference ∧ r.joinKey? fk.column ≠ none ∧
      other.joinKey? fk.key = r.joinKey? fk.column

/-- A row with the rows that each of its foreign keys points to. -/
def nestedLoops (fks : List ForeignKey) (found : List (RelationQuery × List Row)) (r : Row) :
    Resolved :=
  ⟨r, (Text.sortNames (fks.map (·.column))).map fun c =>
    (c, (fks.filter (·.column = c)).flatMap (pointedTo found r))⟩

/-! ## Indexes -/

namespace JoinIndex

/-- A row is under its own join key and under no other. -/
theorem rows_add (column : String) (index : JoinIndex) (r : Row) (key : Option String) :
    rows (add column index r) key =
      rows index key ++ if key ≠ none ∧ r.joinKey? column = key then [r] else [] := by
  unfold add
  cases key with
  | none => simp [rows]
  | some k =>
    cases hr : r.joinKey? column with
    | none => simp
    | some own =>
      show (Entries.get? k (Entries.push own r index)).getD [] = _
      rw [Entries.get?_push]
      by_cases hk : k = own
      · simp [rows, hk]
      · simp [rows, hk, Ne.symm hk]

/-- The rows under a key are those that have it, in the order in which they were added. -/
theorem rows_foldl_add (column : String) (index : JoinIndex) (l : List Row)
    (key : Option String) :
    rows (l.foldl (add column) index) key =
      rows index key ++ l.filter fun r => key ≠ none ∧ r.joinKey? column = key := by
  induction l generalizing index with
  | nil => rw [List.filter_nil, List.append_nil, List.foldl_nil]
  | cons r l ih =>
    rw [List.foldl_cons, ih, rows_add, List.append_assoc, List.filter_cons]
    by_cases h : key ≠ none ∧ r.joinKey? column = key
    · rw [if_pos h, if_pos (decide_eq_true h), List.singleton_append]
    · rw [if_neg h, if_neg (by simpa using h), List.nil_append]

end JoinIndex

/-- The rows that were found at a place. -/
def foundAt (place : Nat) (found : List (Nat × List Row)) : List Row :=
  found.flatMap fun (n, rows) => if n = place then rows else []

/-- What is found at a place is added to the index of the target there. -/
theorem modify_joins (targets : List RelationTarget) (index : RelationTarget → Nat → JoinIndex)
    (place : Nat) (rows : List Row) :
    (targets.zipIdx.map fun (t, n) => (t, index t n)).modify place
        (fun (t, index) => (t, rows.foldl (JoinIndex.add t.key) index)) =
      targets.zipIdx.map fun (t, n) =>
        (t, (if place = n then rows else []).foldl (JoinIndex.add t.key) (index t n)) := by
  refine List.ext_getElem? fun k => ?_
  rw [List.getElem?_modify, List.getElem?_map, List.getElem?_map, List.getElem?_zipIdx, Nat.zero_add]
  cases targets[k]? with
  | none => rfl
  | some t => by_cases hk : place = k <;> simp [hk]

/-- The index of a target holds the rows that were found at its place. -/
theorem joinIndexes_eq (targets : List RelationTarget) (found : List (Nat × List Row)) :
    joinIndexes targets found = targets.zipIdx.map fun (t, n) =>
      (t, (foundAt n found).foldl (JoinIndex.add t.key) []) := by
  -- The indexes at the start are kept general, as every step changes one of them.
  have hrun : ∀ (found : List (Nat × List Row)) (index : RelationTarget → Nat → JoinIndex),
      found.foldl (fun joins (place, rows) =>
        joins.modify place fun (t, index) => (t, rows.foldl (JoinIndex.add t.key) index))
          (targets.zipIdx.map fun (t, n) => (t, index t n)) =
        targets.zipIdx.map fun (t, n) =>
          (t, (foundAt n found).foldl (JoinIndex.add t.key) (index t n)) := by
    intro found
    induction found with
    | nil => exact fun _ => rfl
    | cons p found ih =>
      intro index
      simp only [List.foldl_cons, modify_joins]
      rw [ih fun t n => (if p.1 = n then p.2 else []).foldl (JoinIndex.add t.key) (index t n)]
      refine List.map_congr_left fun (t, n) _ => ?_
      have hmore : foundAt n (p :: found) = (if p.1 = n then p.2 else []) ++ foundAt n found :=
        List.flatMap_cons
      rw [hmore, List.foldl_append]
  have hstart : targets.map (fun t => (t, ([] : JoinIndex))) =
      targets.zipIdx.map fun (t, _) => (t, []) := by
    conv_lhs => rw [← List.zipIdx_map_fst 0 targets, List.map_map]
    rfl
  rw [joinIndexes, hstart]
  exact hrun found fun _ _ => []

/-! ## Rows -/

theorem filter_column_eq {fks : List ForeignKey} (h : (fks.map (·.column)).Nodup)
    {fk : ForeignKey} (hfk : fk ∈ fks) : fks.filter (·.column = fk.column) = [fk] := by
  induction fks with
  | nil => simp at hfk
  | cons other fks ih =>
    obtain ⟨hnew, hrest⟩ := List.nodup_cons.1 h
    rcases List.mem_cons.1 hfk with rfl | hfk
    · have hnone : fks.filter (·.column = fk.column) = [] := by
        rw [List.filter_eq_nil_iff]
        intro other hother hcolumn
        refine hnew (List.mem_map.2 ⟨other, hother, ?_⟩)
        exact of_decide_eq_true hcolumn
      rw [List.filter_cons, if_pos (decide_eq_true rfl), hnone]
    · have hne : other.column ≠ fk.column := fun heq =>
        hnew (List.mem_map.2 ⟨fk, hfk, heq.symm⟩)
      rw [List.filter_cons, if_neg (by simpa using hne), ih hrest hfk]

section

variable {fks : List ForeignKey} {found : List (RelationQuery × List Row)}
  (hfound : ∀ p ∈ found, (p.1.target, p.1.place) ∈ (RelationTarget.ofKeys fks).zipIdx)

include hfound

/-- A query is at the place of a target if it has the reference of the target. -/
theorem place_eq_iff {t : RelationTarget} {n : Nat}
    (ht : (t, n) ∈ (RelationTarget.ofKeys fks).zipIdx) {p : RelationQuery × List Row}
    (hp : p ∈ found) : p.1.place = n ↔ p.1.target.reference = t.reference := by
  have htarget := List.mk_mem_zipIdx_iff_getElem?.1 ht
  have hquery := List.mk_mem_zipIdx_iff_getElem?.1 (hfound p hp)
  constructor
  · intro hn
    rw [hn, htarget] at hquery
    rw [Option.some.inj hquery]
  · -- No two targets have one reference, so the reference says which place it is.
    intro hreference
    have hplace : ((RelationTarget.ofKeys fks).map (·.reference))[p.1.place]? =
        ((RelationTarget.ofKeys fks).map (·.reference))[n]? := by
      rw [List.getElem?_map, List.getElem?_map, hquery, htarget, Option.map_some, Option.map_some,
        hreference]
    refine (List.getElem?_inj ?_ (RelationTarget.nodup_references fks)).1 hplace
    rw [List.length_map]
    exact (List.getElem?_eq_some_iff.1 hquery).1

/-- What is looked up for a column is what the foreign key of the column points to. -/
theorem rows_eq_pointedTo {fk : ForeignKey} {t : RelationTarget} {n : Nat}
    (ht : (t, n) ∈ (RelationTarget.ofKeys fks).zipIdx) (hreference : fk.reference = t.reference)
    (r : Row) :
    JoinIndex.rows ((foundAt n (found.map fun p => (p.1.place, p.2))).foldl
      (JoinIndex.add t.key) []) (r.joinKey? fk.column) = pointedTo found r fk := by
  have hkey : fk.key = t.key := congrArg Prod.snd hreference
  have hnone : JoinIndex.rows [] (r.joinKey? fk.column) = [] := by
    cases r.joinKey? fk.column <;> rfl
  rw [JoinIndex.rows_foldl_add, hnone, List.nil_append, foundAt, List.flatMap_map,
    List.filter_flatMap, pointedTo]
  refine List.flatMap_congr fun p hp => ?_
  have hplace := place_eq_iff hfound ht hp
  rw [← hreference] at hplace
  by_cases hn : p.1.place = n
  · have hp := hplace.1 hn
    simp [hn, hp, hkey]
  · have hp := mt hplace.2 hn
    simp [hn, hp]

/-- A row that is resolved by the indexes of the targets has what each of its columns points to. -/
theorem resolveRow_eq_ofEntries (r : Row) :
    resolveRow (joinIndexes (RelationTarget.ofKeys fks) (found.map fun p => (p.1.place, p.2))) r =
      ⟨r, Dictionary.ofEntries ((RelationTarget.ofKeys fks).flatMap fun t =>
        t.columns.map fun c => (c, pointedTo found r ⟨c, t.table, t.key⟩))⟩ := by
  refine congrArg (fun entries => Resolved.mk r (Dictionary.ofEntries entries)) ?_
  rw [joinIndexes_eq, List.flatMap_map]
  conv_rhs => rw [← List.zipIdx_map_fst 0 (RelationTarget.ofKeys fks), List.flatMap_map]
  refine List.flatMap_congr fun (t, n) ht => List.map_congr_left fun c _ => ?_
  have hreference : (ForeignKey.mk c t.table t.key).reference = t.reference := rfl
  exact congrArg (Prod.mk c) (rows_eq_pointedTo hfound ht hreference r)

/-- A row that is resolved by the indexes of the targets is the row that two loops give. -/
theorem resolveRow_eq (hcolumns : (fks.map (·.column)).Nodup) (r : Row) :
    resolveRow (joinIndexes (RelationTarget.ofKeys fks)
      (found.map fun p => (p.1.place, p.2))) r = nestedLoops fks found r := by
  have hlookup : ∀ t ∈ RelationTarget.ofKeys fks,
      (t.columns.map fun c => (c, pointedTo found r ⟨c, t.table, t.key⟩)) =
        t.columns.map fun c => (c, (fks.filter (·.column = c)).flatMap (pointedTo found r)) := by
    intro t ht
    refine List.map_congr_left fun c hc => ?_
    have hfk := RelationTarget.mk_mem_of_mem_columns ht hc
    rw [filter_column_eq hcolumns hfk, List.flatMap_singleton]
  -- The columns of all targets are distinct, so no entry replaces another.
  have hperm := RelationTarget.perm_columns fks
  have hrelated := Dictionary.ofEntries_map
    (fun c => (fks.filter (·.column = c)).flatMap (pointedTo found r)) (hperm.nodup_iff.2 hcolumns)
  rw [List.map_flatMap, Text.sortNames_eq_of_perm hperm] at hrelated
  rw [resolveRow_eq_ofEntries hfound, List.flatMap_congr hlookup]
  exact congrArg (Resolved.mk r) hrelated

end

end EntitySql
