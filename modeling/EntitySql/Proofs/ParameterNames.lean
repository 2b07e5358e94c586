import EntitySql.Condition
import EntitySql.Proofs.FieldForm
import EntitySql.Proofs.Spelling
import EntitySql.Proofs.WrittenRows
import Mathlib.Data.List.Nodup

/-!
# Names of parameters

A parameter is named after the places that lead to it, with underscores between their decimals,
behind a letter for what it is: `w` in a condition, `v` in a written row.  Different places give
different names, so within a query no name occurs twice.

    placeName k ms = placeName l ns → k = l ∧ ms = ns       (placeName_inj)
    Condition.ofItems e o a items = .ok c →
      NamedUnder 'w' [] c.params.names                      (Condition.namedUnder_ofItems)
    Values.ofGroups table a row groups = .ok vs →
      NamedUnder 'v' [] (the names of vs.flatMap Values.params)
                                                            (Values.namedUnder_ofGroups)
-/

namespace EntitySql

open EntitySql.Sql

/-! ## Names after places -/

/-- The name of the parameter that some places lead to. -/
def placeName (kind : Char) (places : List Nat) : String :=
  String.ofList (kind :: ['_'].intercalate (places.map (Nat.toDigits 10)))

theorem mem_or_mem_of_mem_intercalate {α : Type} {sep : List α} {ls : List (List α)} {a : α}
    (h : a ∈ sep.intercalate ls) : a ∈ sep ∨ ∃ l ∈ ls, a ∈ l := by
  induction ls with
  | nil => simp at h
  | cons l ls ih =>
    cases ls with
    | nil => exact .inr ⟨l, List.mem_cons_self, by simpa using h⟩
    | cons m ls =>
      rw [List.intercalate_cons_cons, List.append_assoc, List.mem_append, List.mem_append] at h
      rcases h with h | h | h
      · exact .inr ⟨l, List.mem_cons_self, h⟩
      · exact .inl h
      · exact (ih h).imp id fun ⟨n, hn, ha⟩ => ⟨n, List.mem_cons_of_mem l hn, ha⟩

theorem intercalate_concat {α : Type} (sep a : List α) {ls : List (List α)} (h : ls ≠ []) :
    sep.intercalate (ls ++ [a]) = sep.intercalate ls ++ sep ++ a := by
  induction ls with
  | nil => exact absurd rfl h
  | cons l ls ih =>
    cases ls with
    | nil => simp [List.intercalate]
    | cons m ls =>
      have hrest := ih (List.cons_ne_nil m ls)
      rw [List.cons_append, List.cons_append, List.intercalate_cons_cons, ← List.cons_append,
        hrest, List.intercalate_cons_cons]
      simp only [List.append_assoc]

theorem isWord_placeName {kind : Char} (h : isWordChar kind = true) (places : List Nat) :
    IsWord (placeName kind places) := by
  intro c hc
  rw [placeName, String.toList_ofList, List.mem_cons] at hc
  rcases hc with rfl | hc
  · exact h
  · rcases mem_or_mem_of_mem_intercalate hc with hc | ⟨digits, hdigits, hc⟩
    · rw [List.mem_singleton.1 hc]
      decide
    · obtain ⟨n, _, rfl⟩ := List.mem_map.1 hdigits
      have hdigit : c.isDigit = true := Nat.isDigit_of_mem_toDigits (by decide) (by decide) hc
      simp [isWordChar, Char.isAlphanum, hdigit]

/-- Places with their decimals and the letter in front can be told from the name. -/
theorem placeName_inj {k l : Char} {ms ns : List Nat} (hm : ms ≠ []) (hn : ns ≠ [])
    (h : placeName k ms = placeName l ns) : k = l ∧ ms = ns := by
  have hchars := String.ofList_inj.1 h
  obtain ⟨hkind, hplaces⟩ := List.cons.inj hchars
  have hread : ∀ ps : List Nat, ps ≠ [] →
      (['_'].intercalate (ps.map (Nat.toDigits 10))).splitOn '_' = ps.map (Nat.toDigits 10) := by
    intro ps hps
    refine List.splitOn_intercalate '_' ?_ (by simpa using hps)
    intro digits hdigits
    obtain ⟨n, _, rfl⟩ := List.mem_map.1 hdigits
    exact Nat.underscore_not_in_toDigits
  have hdigits : ms.map (Nat.toDigits 10) = ns.map (Nat.toDigits 10) := by
    rw [← hread ms hm, ← hread ns hn, hplaces]
  have hinjective : ∀ m n, Nat.toDigits 10 m = Nat.toDigits 10 n → m = n := by
    intro m n hmn
    rw [← Nat.ofDigitChars_ten_toDigits (n := m), hmn, Nat.ofDigitChars_ten_toDigits]
  exact ⟨hkind, (List.map_inj_right hinjective).1 hdigits⟩

/-- One more place goes behind the name. -/
theorem placeName_concat (kind : Char) {places : List Nat} (h : places ≠ []) (n : Nat) :
    placeName kind places ++ "_" ++ toString n = placeName kind (places ++ [n]) := by
  apply String.toList_inj.1
  have hmap : places.map (Nat.toDigits 10) ≠ [] := by simpa using h
  rw [placeName, placeName, List.map_append, List.map_singleton, intercalate_concat _ _ hmap]
  simp [toString]

/-! ## Names under a place -/

/-- The names are distinct, and the places of each begin with the given ones. -/
structure NamedUnder (kind : Char) (places : List Nat) (names : List String) : Prop where
  nodup : names.Nodup
  under : ∀ n ∈ names, ∃ rest, n = placeName kind (places ++ rest)

namespace NamedUnder

variable {kind : Char} {places : List Nat}

theorem words (hkind : isWordChar kind = true) {names : List String}
    (h : NamedUnder kind places names) {n : String} (hn : n ∈ names) : IsWord n := by
  obtain ⟨rest, rfl⟩ := h.under n hn
  exact isWord_placeName hkind _

theorem nil : NamedUnder kind places [] := ⟨List.nodup_nil, fun n hn => by simp at hn⟩

theorem singleton (kind : Char) (places : List Nat) :
    NamedUnder kind places [placeName kind places] := by
  refine ⟨List.nodup_singleton _, fun n hn => ⟨[], ?_⟩⟩
  rw [List.append_nil]
  exact List.mem_singleton.1 hn

/-- Lists of names under consecutive places are distinct together. -/
theorem flatten {lists : List (List String)} (start : Nat)
    (h : ∀ k (hk : k < lists.length), NamedUnder kind (places ++ [start + k]) lists[k]) :
    NamedUnder kind places lists.flatten := by
  refine ⟨List.nodup_flatten.2 ⟨?_, ?_⟩, ?_⟩
  · intro l hl
    obtain ⟨k, hk, rfl⟩ := List.getElem_of_mem hl
    exact (h k hk).nodup
  · refine List.pairwise_iff_getElem.2 fun j k hj hk hjk => ?_
    intro n hnj hnk
    obtain ⟨restj, hj⟩ := (h j hj).under n hnj
    obtain ⟨restk, hk⟩ := (h k hk).under n hnk
    have hplaces := (placeName_inj (by simp) (by simp) (hj.symm.trans hk)).2
    rw [List.append_assoc, List.append_assoc] at hplaces
    have hcons := List.append_cancel_left hplaces
    simp only [List.cons_append, List.cons.injEq] at hcons
    omega
  · intro n hn
    obtain ⟨l, hl, hn⟩ := List.mem_flatten.1 hn
    obtain ⟨k, hk, rfl⟩ := List.getElem_of_mem hl
    obtain ⟨rest, hrest⟩ := (h k hk).under n hn
    exact ⟨(start + k) :: rest, by rw [hrest, List.append_assoc, List.singleton_append]⟩

end NamedUnder

/-! ## Conditions -/

abbrev slotNames (slots : List Slot) : List String := slots.map (·.name)

namespace Predicate

theorem namedUnder_numbered (kind : Char) {places : List Nat} (h : places ≠ [])
    (values : List Value) :
    NamedUnder kind places (slotNames (numbered (placeName kind places) values)) := by
  have hnames : slotNames (numbered (placeName kind places) values) =
      (values.zipIdx.map fun v => [placeName kind (places ++ [v.2])]).flatten := by
    rw [slotNames, numbered, List.map_map, ← List.flatMap_def, List.map_eq_flatMap]
    refine congrArg (List.flatMap · values.zipIdx) (funext fun v => ?_)
    exact congrArg (fun name => [name]) (placeName_concat kind h v.2)
  rw [hnames]
  refine NamedUnder.flatten 0 fun k hk => ?_
  simpa using NamedUnder.singleton kind (places ++ [k])

theorem namedUnder_chunkSlots (kind : Char) {places : List Nat} (h : places ≠ []) (size : Nat)
    (values : List Value) :
    NamedUnder kind places
      (slotNames (chunkSlots (placeName kind places) size values).flatten) := by
  rw [slotNames, List.map_flatten]
  refine NamedUnder.flatten 0 fun k hk => ?_
  have hbase := placeName_concat kind h k
  have hplaces : places ++ [k] ≠ [] := by simp
  have hchunk := namedUnder_numbered kind hplaces
  simpa [chunkSlots, ← hbase, toString] using hchunk _

theorem namedUnder_slotsOf (kind : Char) {places : List Nat} (h : places ≠ [])
    (operand : Operand) :
    NamedUnder kind places (slotNames (slotsOf (placeName kind places) operand)) := by
  cases operand with
  | scalar v => exact NamedUnder.singleton kind places
  | array vs => exact namedUnder_numbered kind h vs

/-- The base name of a field is named after its item and its place in the item. -/
theorem baseName_eq_placeName (item field : Nat) :
    baseName item field = placeName 'w' [item, field] := by
  apply String.toList_inj.1
  simp [baseName, placeName, toString]

/-- The predicate of a field keeps to the field's part of the names. -/
theorem namedUnder_ofField {e : Entity} {o : Options} {a : Action} {item field : Nat}
    {column : String} {f : FieldValue} {p : Predicate}
    (h : ofField e o a item field column f = .ok p) :
    NamedUnder 'w' [item, field] (slotNames p.slots) := by
  have hplaces : [item, field] ≠ [] := List.cons_ne_nil item [field]
  have hform := fieldForm_ofField h
  rw [baseName_eq_placeName] at hform
  generalize f.operator = operator at hform
  cases hform with
  | always operator holds => exact .nil
  | null operator negated => exact .nil
  | compare comparison nonempty => exact namedUnder_slotsOf 'w' hplaces _
  | like nonempty => exact namedUnder_slotsOf 'w' hplaces _
  | between low high =>
    have hnumbered := namedUnder_numbered 'w' hplaces [low, high]
    have hzero : ("_" ++ toString 0 : String) = "_0" := by decide
    have hone : ("_" ++ toString 1 : String) = "_1" := by decide
    rw [slots, ← hzero, ← hone, ← String.append_assoc, ← String.append_assoc]
    exact hnumbered
  | member negated nonempty => exact namedUnder_chunkSlots 'w' hplaces _ _

end Predicate

theorem FieldPredicate.names_params (p : FieldPredicate) :
    p.params.names = slotNames p.predicate.slots := by
  simp [params, Params.names]

theorem Params.names_flatMap {β : Type} (l : List β) (params : β → Params) :
    Params.names (l.flatMap params) = (l.map fun b => (params b).names).flatten := by
  simp [names, List.flatMap_def, Function.comp_def]

namespace Condition

variable {e : Entity} {o : Options} {a : Action}

theorem namedUnder_ofItem {i : Item} {item : Nat} {g : List FieldPredicate}
    (h : ofItem e o a i item = .ok g) :
    NamedUnder 'w' [item] (Params.names (g.flatMap FieldPredicate.params)) := by
  rw [Params.names_flatMap]
  refine NamedUnder.flatten 0 fun k hk => ?_
  rw [List.length_map] at hk
  obtain ⟨hl, hfield⟩ := Outcome.getElem_of_mapM h hk
  obtain ⟨p, hp, hpk⟩ := Outcome.map_eq_ok_iff.1 hfield
  rw [List.getElem_map, ← hpk, FieldPredicate.names_params]
  simpa using Predicate.namedUnder_ofField hp

/-- No two parameters of a condition have one name. -/
theorem namedUnder_ofItems {items : List Item} {c : Condition}
    (h : ofItems e o a items = .ok c) : NamedUnder 'w' [] c.params.names := by
  rw [params, Params.names_flatMap]
  refine NamedUnder.flatten 0 fun k hk => ?_
  rw [List.length_map] at hk
  obtain ⟨hl, hitem⟩ := Outcome.getElem_of_mapM h hk
  rw [List.getElem_map]
  simpa using namedUnder_ofItem hitem

end Condition

/-! ## Written rows -/

theorem cellName_eq_placeName (row place : Nat) :
    cellName row place = placeName 'v' [row, place] := by
  apply String.toList_inj.1
  simp [cellName, placeName, toString]

/-- The cells of a row are named after consecutive places. -/
theorem names_cellsFrom {row place : Nat} {i : Item} {columns : List String} {ps : Params}
    (h : cellsFrom row i place columns = (ps, none)) :
    ps.names = (List.range' place columns.length).map (cellName row) := by
  induction columns generalizing place ps with
  | nil =>
    cases h
    rfl
  | cons column rest ih =>
    rw [cellsFrom] at h
    split at h
    · cases h
    · next v hv =>
      obtain ⟨hps, hrefused⟩ := Prod.mk.inj h
      have hrest := ih (Prod.ext rfl hrefused : cellsFrom row i (place + 1) rest = (_, none))
      rw [← hps, List.length_cons, List.range'_succ, List.map_cons, ← hrest]
      rfl

theorem namedUnder_cells {table : String} {action : Action} {row : Nat} {columns : List String}
    {i : Item} {ps : Params} (h : cells table action row columns i = .ok ps) :
    NamedUnder 'v' [row] ps.names := by
  have hcells := cellsFrom_of_cells h
  have hnames : ps.names =
      ((List.range' 0 columns.length).map fun n => [placeName 'v' [row, n]]).flatten := by
    rw [names_cellsFrom hcells, ← List.flatMap_def, List.map_eq_flatMap]
    simp only [cellName_eq_placeName]
  rw [hnames]
  refine NamedUnder.flatten 0 fun k hk => ?_
  simpa using NamedUnder.singleton 'v' [row, k]

namespace Values

/-- The rows of all statements of a batch are counted through. -/
theorem namedUnder_rows {table : String} {action : Action} {row : Nat} {groups : List ShapeGroup}
    {vs : List Values} (h : ofGroups table action row groups = .ok vs) (k : Nat)
    (hk : k < (vs.flatMap Values.rows).length) :
    NamedUnder 'v' [row + k] (Params.names (vs.flatMap Values.rows)[k]) := by
  induction groups generalizing row vs k with
  | nil =>
    cases h
    simp at hk
  | cons g rest ih =>
    obtain ⟨rows, hrows, h⟩ := Outcome.bind_eq_ok_iff.1 h
    obtain ⟨others, hothers, h⟩ := Outcome.bind_eq_ok_iff.1 h
    cases h
    have hlength : rows.length = g.items.length := by
      have hmap := congrArg List.length (Outcome.mapM_eq_ok_iff.1 hrows)
      simpa using hmap.symm
    simp only [List.flatMap_cons, List.length_append] at hk
    simp only [List.flatMap_cons, List.getElem_append]
    split
    · next hlt =>
      obtain ⟨hl, hcells⟩ := Outcome.getElem_of_mapM hrows hlt
      rw [List.getElem_zipIdx] at hcells
      exact namedUnder_cells hcells
    · next hge =>
      have hrest := ih hothers (k - rows.length) (by omega)
      have hrow : row + g.items.length + (k - rows.length) = row + k := by
        rw [hlength] at hge ⊢
        omega
      rwa [hrow] at hrest

/-- No two parameters of written rows have one name. -/
theorem namedUnder_ofGroups {table : String} {action : Action} {row : Nat}
    {groups : List ShapeGroup} {vs : List Values} (h : ofGroups table action row groups = .ok vs) :
    NamedUnder 'v' [] (Params.names (vs.flatMap Values.params)) := by
  have hparams : vs.flatMap Values.params = (vs.flatMap Values.rows).flatMap id := by
    rw [List.flatMap_assoc]
    exact congrArg (List.flatMap · vs) (funext fun v => List.flatten_eq_flatMap)
  rw [hparams, Params.names_flatMap]
  refine NamedUnder.flatten row fun k hk => ?_
  rw [List.length_map] at hk
  rw [List.getElem_map]
  exact namedUnder_rows h k hk

end Values

end EntitySql
