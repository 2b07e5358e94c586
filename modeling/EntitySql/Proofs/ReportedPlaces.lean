import EntitySql.Proofs.ConditionText
import EntitySql.Proofs.Validation
import Mathlib.Data.List.Flatten
import Mathlib.Data.List.Nodup
import Mathlib.Data.List.Perm.Basic

/-!
# Places of violations

A violation says which field of which item fails, and why.  The validation reports every field that
fails once, in order, with the fault of its first value that has one.  The places, though, are
counted among the items that are left and not among those that the caller gave: an item that holds
nothing but nulls moves all items behind it to the front.

    the place that is reported for an item = the number of items left in front of it   (found_eq)
    c.ReportsFaults items ↔ every item in front of a fault is left      (reportsFaults_iff)
-/

namespace EntitySql

/-! ## Faults of the caller's items -/

/-- What is left of an item without its bare nulls. -/
def Item.remainder (i : Item) : Item := i.filter fun _ f => !f.isRawNull

/-- Where a violation is: the place of its item, and the field. -/
def Violation.place (v : Violation) : Nat × String := (v.item, v.field)

/-- All fields of some items, with the places of the items, in order. -/
def fieldPlaces (items : List Item) : List (Nat × String) :=
  items.zipIdx.flatMap fun (i, place) => i.columns.map (place, ·)

namespace Call

/-- The column refuses the field, and the fault is that of the first value that has one. -/
def FirstFault (c : Call) (column : Column) (f : FieldValue) (fault : ColumnFault) : Prop :=
  ∃ before v after, f.values = before ++ v :: after ∧
    c.valueFault? column f.operator v = some fault ∧
    ∀ w ∈ before, c.valueFault? column f.operator w = none

/-- The violation names an item by its place in the list of the caller, and a field that is left of
the item with its fault. -/
def FaultAt (c : Call) (items : List Item) (v : Violation) : Prop :=
  ∃ i, items[v.item]? = some i ∧ ∃ f, (v.field, f) ∈ i.remainder.entries ∧
    ∃ column, c.entity.column? v.field = some column ∧ c.FirstFault column f v.fault

/-- The validation lets the items pass, as they are left, if none of them has a fault.  Otherwise it
refuses them and reports every fault once, in order, at its place in the list of the caller. -/
structure ReportsFaults (c : Call) (items : List Item) : Prop where
  passes : (∀ v, ¬ c.FaultAt items v) → c.validate items = .ok (presentItems items)
  fails : (∃ v, c.FaultAt items v) → ∃ vs,
    c.validate items = refuse c.entity.table c.action (.validationFailed vs) ∧
      (∀ v, v ∈ vs ↔ c.FaultAt items v) ∧ (vs.map Violation.place).Sublist (fieldPlaces items)

/-! ## Faults of one item -/

def faults (c : Call) (i : Item) : List (String × ColumnFault) :=
  i.entries.filterMap fun (name, f) =>
    ((c.entity.column? name).bind fun column => c.fieldFault? column f).map (name, ·)

/-- Faults as violations of the item at a place. -/
def violationsAt (faults : List (String × ColumnFault)) (place : Nat) : List Violation :=
  faults.map fun (name, fault) => ⟨place, name, fault⟩

variable {c : Call} {i : Item} {items : List Item}

theorem violations_eq (place : Nat) : c.violations i place = violationsAt (c.faults i) place := by
  rw [violationsAt, faults, List.map_filterMap]
  refine List.filterMap_congr fun entry _ => ?_
  dsimp only
  rw [Option.map_map]
  rfl

theorem fieldFault?_eq_some_iff {column : Column} {f : FieldValue} {fault : ColumnFault} :
    c.fieldFault? column f = some fault ↔ c.FirstFault column f fault :=
  List.findSome?_eq_some_iff

theorem mem_faults_iff {name : String} {fault : ColumnFault} :
    (name, fault) ∈ c.faults i ↔ ∃ f, (name, f) ∈ i.entries ∧
      ∃ column, c.entity.column? name = some column ∧ c.FirstFault column f fault := by
  simp only [faults, List.mem_filterMap, ← fieldFault?_eq_some_iff]
  constructor
  · rintro ⟨⟨other, f⟩, hf, h⟩
    obtain ⟨fault', hfault, heq⟩ := Option.map_eq_some_iff.1 h
    cases heq
    exact ⟨f, hf, Option.bind_eq_some_iff.1 hfault⟩
  · rintro ⟨f, hf, h⟩
    exact ⟨(name, f), hf, Option.map_eq_some_iff.2 ⟨fault, Option.bind_eq_some_iff.2 h, rfl⟩⟩

/-- The fields that fail are fields of the item, in order. -/
theorem fields_faults_sublist : ((c.faults i).map Prod.fst).Sublist i.columns := by
  unfold faults Item.columns
  induction i.entries with
  | nil => exact .slnil
  | cons entry rest ih =>
    rw [List.filterMap_cons, List.map_cons]
    split
    · exact ih.cons _
    · next pair hpair =>
      obtain ⟨fault, _, rfl⟩ := Option.map_eq_some_iff.1 hpair
      exact ih.cons_cons _

theorem places_violationsAt (faults : List (String × ColumnFault)) (place : Nat) :
    (violationsAt faults place).map Violation.place = (faults.map Prod.fst).map (place, ·) := by
  rw [violationsAt, List.map_map, List.map_map]
  rfl

/-! ## All faults -/

/-- The violations of the items that are left, at their places in the list of the caller. -/
def report (c : Call) (items : List Item) : List Violation :=
  items.zipIdx.flatMap fun (i, place) => violationsAt (c.faults i.remainder) place

/-- The violations of the items that are left, as the validation finds them. -/
def found (c : Call) (items : List Item) : List Violation :=
  (presentItems items).zipIdx.flatMap fun (i, place) => c.violations i place

theorem mem_report_iff {v : Violation} : v ∈ c.report items ↔ c.FaultAt items v := by
  rw [report, List.mem_flatMap]
  constructor
  · rintro ⟨⟨i, place⟩, hi, hv⟩
    obtain ⟨⟨name, fault⟩, hfault, rfl⟩ := List.mem_map.1 hv
    exact ⟨i, List.mk_mem_zipIdx_iff_getElem?.1 hi, mem_faults_iff.1 hfault⟩
  · rintro ⟨i, hi, hfault⟩
    exact ⟨(i, v.item), List.mk_mem_zipIdx_iff_getElem?.2 hi,
      List.mem_map.2 ⟨(v.field, v.fault), mem_faults_iff.2 hfault, rfl⟩⟩

theorem report_eq_nil_iff : c.report items = [] ↔ ∀ v, ¬ c.FaultAt items v := by
  rw [List.eq_nil_iff_forall_not_mem]
  exact forall_congr' fun v => not_congr mem_report_iff

theorem places_report : (c.report items).map Violation.place = items.zipIdx.flatMap
    fun (i, place) => ((c.faults i.remainder).map Prod.fst).map (place, ·) := by
  rw [report, List.map_flatMap]
  exact List.flatMap_congr fun p _ => places_violationsAt _ _

/-- The report is in the order of the fields of the items. -/
theorem places_report_sublist :
    ((c.report items).map Violation.place).Sublist (fieldPlaces items) := by
  rw [places_report]
  refine List.Sublist.flatMap_right _ fun p _ => List.Sublist.map _ ?_
  have hremainder : p.1.remainder.columns.Sublist p.1.columns := List.filter_sublist.map _
  exact fields_faults_sublist.trans hremainder

/-- No field has two places. -/
theorem nodup_fieldPlaces (items : List Item) : (fieldPlaces items).Nodup := by
  rw [fieldPlaces, List.nodup_flatMap]
  constructor
  · intro p _
    exact p.1.distinct.map fun _ _ h => (Prod.mk.inj h).2
  · have hplaces : (items.zipIdx.map Prod.snd).Nodup := by
      rw [List.zipIdx_map_snd]
      exact List.nodup_range'
    refine (List.pairwise_map.1 hplaces).imp fun {p q} hne => ?_
    intro place hp hq
    obtain ⟨name, _, rfl⟩ := List.mem_map.1 hp
    obtain ⟨other, _, heq⟩ := List.mem_map.1 hq
    exact hne (Prod.mk.inj heq).1.symm

theorem presentItems_singleton (i : Item) :
    presentItems [i] = if i.remainder.isEmpty then [] else [i.remainder] := by
  show [i.remainder].filter (!·.isEmpty) = _
  cases h : i.remainder.isEmpty <;> simp [h]

theorem faults_of_isEmpty (h : i.isEmpty = true) : c.faults i = [] := by
  rw [faults, List.isEmpty_iff.1 h]
  rfl

/-- The place that is reported for an item is the number of items that are left in front of it. -/
theorem found_eq : c.found items = items.zipIdx.flatMap fun (i, place) =>
    violationsAt (c.faults i.remainder) (presentItems (items.take place)).length := by
  induction items using List.reverseRecOn with
  | nil => rfl
  | append_singleton items i ih =>
    have hbefore : ∀ p ∈ items.zipIdx, (items ++ [i]).take p.2 = items.take p.2 := by
      intro p hp
      obtain ⟨_, hlt, _⟩ := List.mem_zipIdx hp
      exact List.take_append_of_le_length (by omega)
    have hlast : ((presentItems [i]).zipIdx (presentItems items).length).flatMap
        (fun p => c.violations p.1 p.2) =
          violationsAt (c.faults i.remainder) (presentItems items).length := by
      rw [presentItems_singleton]
      split
      · next hempty =>
        rw [faults_of_isEmpty hempty]
        rfl
      · exact (List.flatMap_singleton _ _).trans (violations_eq _)
    rw [found, presentItems_append, List.zipIdx_append, List.zipIdx_append, List.flatMap_append,
      List.flatMap_append, ← found, ih, Nat.zero_add, Nat.zero_add, hlast]
    congr 1
    · refine List.flatMap_congr fun p hp => ?_
      dsimp only
      rw [hbefore p hp]
    · simp

/-! ## What is reported -/

theorem validate_eq (hkey : c.needsKey = true → ∀ i ∈ presentItems items, i.contains c.key = true) :
    c.validate items = if c.found items = [] then .ok (presentItems items)
      else refuse c.entity.table c.action (.validationFailed (c.found items)) := by
  have hkeys : (c.needsKey && (presentItems items).any (!·.contains c.key)) = false := by
    revert hkey
    cases c.needsKey <;> simp
  unfold validate
  dsimp only
  rw [hkeys, if_neg Bool.false_ne_true]
  split
  · next hnil => exact (if_pos hnil).symm
  · next hsome => exact (if_neg hsome).symm

/-- As many items are left as there are just if all of them are left. -/
theorem length_presentItems_iff : (presentItems items).length = items.length ↔
    ∀ i ∈ items, i.remainder.isEmpty = false := by
  have hlength : (items.map Item.remainder).length = items.length := List.length_map _
  have hfilter := List.length_filter_eq_length_iff (l := items.map Item.remainder)
    (p := (!·.isEmpty))
  rw [hlength, List.forall_mem_map] at hfilter
  refine hfilter.trans ?_
  simp

/-- What is made of the elements of a list, as long of each of them, is equal for each. -/
theorem eq_of_flatMap_eq {α β : Type} {f g : α → List β} {l : List α}
    (hlength : ∀ a ∈ l, (f a).length = (g a).length) (h : l.flatMap f = l.flatMap g) :
    ∀ a ∈ l, f a = g a := by
  induction l with
  | nil => nofun
  | cons b l ih =>
    rw [List.flatMap_cons, List.flatMap_cons] at h
    obtain ⟨hb, hl⟩ := List.append_inj h (hlength b List.mem_cons_self)
    rw [List.forall_mem_cons]
    exact ⟨hb, ih (fun a ha => hlength a (List.mem_cons_of_mem b ha)) hl⟩

/-- Two reports of the same faults, each in order, have them at the same places. -/
theorem places_eq_of_mem_iff {vs ws : List Violation} (h : ∀ v, v ∈ vs ↔ v ∈ ws)
    (hv : (vs.map Violation.place).Sublist (fieldPlaces items))
    (hw : (ws.map Violation.place).Sublist (fieldPlaces items)) :
    vs.map Violation.place = ws.map Violation.place := by
  have hnodup := nodup_fieldPlaces items
  refine (hnodup.perm_iff_eq_of_sublist hv hw).1 ?_
  refine (List.perm_ext_iff_of_nodup (hnodup.sublist hv) (hnodup.sublist hw)).2 fun place => ?_
  rw [List.mem_map, List.mem_map]
  exact exists_congr fun v => and_congr_left fun _ => h v

section

variable (hkey : c.needsKey = true → ∀ i ∈ presentItems items, i.contains c.key = true)

include hkey

/-- Where the faults are reported at the places of the caller, all items in front of them are
left. -/
theorem left_of_reportsFaults (h : c.ReportsFaults items) {v : Violation}
    (hv : c.FaultAt items v) : ∀ i ∈ items.take v.item, i.remainder.isEmpty = false := by
  obtain ⟨vs, hvalidate, hmem, hsublist⟩ := h.fails ⟨v, hv⟩
  have hfound : c.found items = vs := by
    rw [validate_eq hkey] at hvalidate
    split at hvalidate
    · cases hvalidate
    · cases hvalidate
      rfl
  have hplaces : (c.found items).map Violation.place = (c.report items).map Violation.place := by
    rw [hfound]
    exact places_eq_of_mem_iff (fun w => (hmem w).trans mem_report_iff.symm) hsublist
      places_report_sublist
  rw [found_eq, List.map_flatMap, report, List.map_flatMap] at hplaces
  obtain ⟨i, hi, f, hf, hfault⟩ := hv
  have hitem := eq_of_flatMap_eq (fun p _ => by simp [violationsAt]) hplaces (i, v.item)
    (List.mk_mem_zipIdx_iff_getElem?.2 hi)
  have hname : v.field ∈ (c.faults i.remainder).map Prod.fst :=
    List.mem_map.2 ⟨(v.field, v.fault), mem_faults_iff.2 ⟨f, hf, hfault⟩, rfl⟩
  dsimp only at hitem
  rw [places_violationsAt, places_violationsAt] at hitem
  have hplace : (presentItems (items.take v.item)).length = v.item :=
    (Prod.mk.inj (List.map_inj_left.1 hitem v.field hname)).1
  rw [← length_presentItems_iff, hplace, List.length_take]
  have hlt : v.item < items.length := (List.getElem?_eq_some_iff.1 hi).1
  omega

/-- Where all items in front of faults are left, the faults are reported at their places. -/
theorem reportsFaults_of_left
    (h : ∀ v, c.FaultAt items v → ∀ i ∈ items.take v.item, i.remainder.isEmpty = false) :
    c.ReportsFaults items := by
  have hfound : c.found items = c.report items := by
    rw [found_eq, report]
    refine List.flatMap_congr fun p hp => ?_
    dsimp only
    cases hfaults : c.faults p.1.remainder with
    | nil => rfl
    | cons pair rest =>
      have hpair : pair ∈ c.faults p.1.remainder := hfaults ▸ List.mem_cons_self
      have hp := List.mk_mem_zipIdx_iff_getElem?.1 hp
      have hleft : ∀ i ∈ items.take p.2, i.remainder.isEmpty = false :=
        h ⟨p.2, pair.1, pair.2⟩ ⟨p.1, hp, mem_faults_iff.1 hpair⟩
      have hlt : p.2 < items.length := (List.getElem?_eq_some_iff.1 hp).1
      have hplace : (presentItems (items.take p.2)).length = p.2 := by
        rw [length_presentItems_iff.2 hleft, List.length_take]
        omega
      rw [hplace]
  constructor
  · intro hnone
    rw [validate_eq hkey, hfound, if_pos (report_eq_nil_iff.2 hnone)]
  · rintro ⟨v, hv⟩
    have hsome : c.report items ≠ [] := fun hnil => report_eq_nil_iff.1 hnil v hv
    exact ⟨c.report items, by rw [validate_eq hkey, hfound, if_neg hsome],
      fun w => mem_report_iff, places_report_sublist⟩

end

/-- Where every item that is left has the key that is needed, the validation reports the faults of
the items at their places in the list of the caller just if no item in front of a fault is left
empty. -/
theorem reportsFaults_iff
    (hkey : c.needsKey = true → ∀ i ∈ presentItems items, i.contains c.key = true) :
    c.ReportsFaults items ↔
      ∀ v, c.FaultAt items v → ∀ i ∈ items.take v.item, i.remainder.isEmpty = false :=
  ⟨fun h _ hv => left_of_reportsFaults hkey h hv, reportsFaults_of_left hkey⟩

end Call

/-- The new names of two people, one of them none and the key of the other no number. -/
def renamedPeople : List Item :=
  [.ofList [("id", .value (.int 1)), ("name", .value (.null .string))],
   .ofList [("id", .value (.string "x")), ("name", .value (.string "b"))]]

theorem Call.reportsFaults_iff_people :
    (∀ i ∈ presentItems renamedPeople, i.contains "id" = true) ∧
      ReportsFaults ⟨people, .update, "id"⟩ renamedPeople := by
  have hkey : ∀ i ∈ presentItems renamedPeople, i.contains "id" = true := by decide
  have hleft : ∀ i ∈ renamedPeople, i.remainder.isEmpty = false := by decide
  refine ⟨hkey, (reportsFaults_iff fun _ => hkey).2 fun v _ i hi => ?_⟩
  exact hleft i (List.mem_of_mem_take hi)

/-- Two people, of one of whom nothing is known; the key of the other is no number. -/
def unknownPeople : List Item :=
  [.ofList [("name", .value (.null .string))], .ofList [("id", .value (.string "x"))]]

/-- The second person is reported as the first. -/
theorem Call.not_reportsFaults_people :
    ¬ ReportsFaults ⟨people, .insert, "id"⟩ unknownPeople := by
  intro h
  have hreport : (⟨1, "id", .unbindable (.notIntegerText "x")⟩ : Violation) ∈
      report ⟨people, .insert, "id"⟩ unknownPeople := by
    decide +kernel
  have hleft := left_of_reportsFaults (by decide) h (mem_report_iff.1 hreport) _ List.mem_cons_self
  exact absurd hleft (by decide)

end EntitySql
