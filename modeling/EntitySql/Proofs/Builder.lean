import EntitySql.Proofs.Deletion

/-!
# Builders and what their queries carry

The four builders under one name, and where the values of their parameters come from.  A value
that a query carries was given by an item for the column that the parameter has; a find may carry
the pattern of such a value instead.  The values that nobody gave are nulls.

    b.build e o items = .ok q → q.action = b.action                   (action_of_build)
    b.build e o items = .ok q → p ∈ q.params →
      Supplied o b.action items p.column p.value                      (supplied_of_build)
-/

namespace EntitySql

/-! ## Builders -/

/-- A builder of queries, with what it takes beside items. -/
inductive Builder
  | find (page : Page)
  | insert
  | update (key : String)
  | delete
deriving DecidableEq

namespace Builder

def action : Builder → Action
  | .find _ => .find
  | .insert => .insert
  | .update _ => .update
  | .delete => .delete

def build (b : Builder) (e : Entity) (o : Options) (items : List Item) : Except Error Query :=
  match b with
  | .find page => Query.find e o items page
  | .insert => Query.insert e o items
  | .update key => Query.update e o items key
  | .delete => Query.delete e o items

end Builder

/-! ## Values that are carried -/

/-- The values that the predicate of a field carries, if it carries any. -/
def FieldValue.carried (o : Options) (f : FieldValue) : List Value :=
  if f.operator = .like then
    f.values.map (Predicate.patternOf (f.likeMode?.getD o.likeMode) o.likeEscape)
  else f.values

/-- Where a value for a column comes from. -/
inductive Supplied (o : Options) (a : Action) (items : List Item) (column : String) :
    Value → Prop
  /-- A null, which stands for a value that is not given. -/
  | null {v : Value} (h : v.isNull = true) : Supplied o a items column v
  /-- A value that an item gives for the column. -/
  | value {i : Item} (hi : i ∈ items) {f : FieldValue} (hf : (column, f) ∈ i.entries)
      (hop : f.operator ≠ .like) {v : Value} (hv : v ∈ f.values) : Supplied o a items column v
  /-- The pattern that a find makes of a value that an item gives for the column. -/
  | pattern (hfind : a = .find) {i : Item} (hi : i ∈ items) {f : FieldValue}
      (hf : (column, f) ∈ i.entries) (hop : f.operator = .like) {v : Value} (hv : v ∈ f.values) :
      Supplied o a items column
        (Predicate.patternOf (f.likeMode?.getD o.likeMode) o.likeEscape v)

namespace Predicate

variable {e : Entity} {o : Options} {a : Action} {base column : String}

theorem slotValues_ofValues {mode : LikeMode} {operator : Operator} (operand : Operand) :
    slotValues (ofValues o base column mode operator operand).slots =
      if operator = .like then operand.values.map (patternOf mode o.likeEscape)
      else operand.values := by
  cases operator with
  | in_ => exact slotValues_chunkSlots base o.chunkSize operand.values
  | notIn => exact slotValues_chunkSlots base o.chunkSize operand.values
  | like => exact (slotValues_slotsOf base _).trans (values_patternOperand mode o.likeEscape operand)
  | eq => exact slotValues_slotsOf base operand
  | ne => exact slotValues_slotsOf base operand
  | lt => exact slotValues_slotsOf base operand
  | lte => exact slotValues_slotsOf base operand
  | gt => exact slotValues_slotsOf base operand
  | gte => exact slotValues_slotsOf base operand
  | between => exact slotValues_slotsOf base operand

theorem eq_array_of_bounds? {operand : Operand} {low high : Value}
    (h : bounds? operand = some (low, high)) : operand = .array [low, high] := by
  unfold bounds? at h
  split at h
  · cases h
    rfl
  · cases h

theorem slotValues_ofUsable {f : FieldValue} {p : Predicate}
    (h : ofUsable e o a base column f = .ok p) :
    slotValues p.slots = [] ∨ slotValues p.slots = f.carried o := by
  unfold ofUsable at h
  split at h
  · next hop =>
    split at h
    · next low high hbounds =>
      cases h
      refine .inr ?_
      rw [FieldValue.carried, hop, if_neg (by decide), FieldValue.values,
        eq_array_of_bounds? hbounds]
      rfl
    · cases h
  · cases h
    unfold ofOperand
    split
    · exact .inl rfl
    · exact .inl rfl
    · exact .inr (slotValues_ofValues f.operand)

/-- The predicate of a field carries all values that the field has, or none. -/
theorem slotValues_ofField {item field : Nat} {f : FieldValue} {p : Predicate}
    (h : ofField e o a item field column f = .ok p) :
    slotValues p.slots = [] ∨ slotValues p.slots = f.carried o := by
  unfold ofField at h
  split at h
  · exact slotValues_ofUsable h
  · split at h
    · cases h
      exact .inl rfl
    · cases h
    · exact slotValues_ofUsable h

end Predicate

/-! ## Values of queries -/

section

variable {e : Entity} {o : Options} {a : Action} {items : List Item} {column : String}

theorem supplied_of_mem_slots {i : Item} (hi : i ∈ items) {f : FieldValue}
    (hf : (column, f) ∈ i.entries) (hlike : f.operator = .like → a = .find) {item field : Nat}
    {p : Predicate} (h : Predicate.ofField e o a item field column f = .ok p) {s : Slot}
    (hs : s ∈ p.slots) : Supplied o a items column s.value := by
  have hmem : s.value ∈ Predicate.slotValues p.slots := List.mem_map_of_mem hs
  rcases Predicate.slotValues_ofField h with hvalues | hvalues
  · rw [hvalues] at hmem
    cases hmem
  · rw [hvalues, FieldValue.carried] at hmem
    by_cases hop : f.operator = .like
    · rw [if_pos hop] at hmem
      obtain ⟨v, hv, hpattern⟩ := List.mem_map.1 hmem
      rw [← hpattern]
      exact .pattern (hlike hop) hi hf hop hv
    · rw [if_neg hop] at hmem
      exact .value hi hf hop hmem

theorem supplied_of_cell? {i : Item} (hi : i ∈ items) {v : Value}
    (h : i.cell? column = some v) : Supplied o a items column v := by
  unfold Item.cell? at h
  split at h
  · cases h
    exact .null rfl
  · next w hf =>
    cases h
    exact .value hi (Entries.mem_of_get? hf) nofun (List.mem_singleton.2 rfl)
  · cases h
  · cases h

theorem supplied_of_keys? {i : Item} (hi : i ∈ items) {f : FieldValue}
    (hf : i.get? column = some f) {keys : List Value} (hkeys : f.keys? = some keys) {v : Value}
    (hv : v ∈ keys) : Supplied o a items column v := by
  rw [FieldValue.values_of_keys? hkeys] at hv
  exact .value hi (Entries.mem_of_get? hf) (FieldValue.operator_ne_like_of_keys? hkeys) hv

/-! ### Conditions -/

theorem supplied_of_ofItems {c : Condition} (h : Condition.ofItems e o .find items = .ok c)
    {p : Param} (hp : p ∈ c.params) : Supplied o .find items p.column p.value := by
  obtain ⟨g, hg, hp⟩ := List.mem_flatMap.1 hp
  obtain ⟨q, hq, hp⟩ := List.mem_flatMap.1 hp
  obtain ⟨s, hs, rfl⟩ := List.mem_map.1 hp
  obtain ⟨i, hi, item, field, f, hf, hfield⟩ := Condition.exists_ofField h hg hq
  exact supplied_of_mem_slots hi hf (fun _ => rfl) hfield hs

theorem supplied_of_delete {q : Query} (h : Query.delete e o items = .ok q) {p : Param}
    (hp : p ∈ q.params) : Supplied o a items p.column p.value := by
  obtain ⟨keys, predicate, hkeys, _, hfield, rfl⟩ := Query.delete_eq_ok h
  obtain ⟨s, hs, rfl⟩ := List.mem_map.1 hp
  have hcarried : (FieldValue.array keys).carried o = keys := if_neg nofun
  have hmem : s.value ∈ Predicate.slotValues predicate.slots := List.mem_map_of_mem hs
  rcases Predicate.slotValues_ofField hfield with hvalues | hvalues
  · rw [hvalues] at hmem
    cases hmem
  · rw [hvalues, hcarried] at hmem
    obtain ⟨i, hi, f, vs, hf, hvs, hv, _⟩ := mem_deletedKeys hkeys hmem
    exact supplied_of_keys? hi hf hvs hv

/-! ### Written rows -/

theorem supplied_of_insertedItems {i : Item} (hi : i ∈ insertedItems e o items) {v : Value}
    (h : i.cell? column = some v) : Supplied o a items column v := by
  have hi := (List.mem_filter.1 hi).1
  split at hi
  · exact supplied_of_cell? hi h
  · obtain ⟨j, hj, rfl⟩ := List.mem_map.1 hi
    by_cases hcolumn : column = e.identifier
    · rw [Item.cell?, hcolumn, Item.get?_erase_self] at h
      cases h
      exact .null rfl
    · rw [Item.cell?, Item.get?_erase_of_ne j hcolumn, ← Item.cell?] at h
      exact supplied_of_cell? hj h

theorem supplied_of_keyed {key : String} {i : Item} (hi : i ∈ items) {rows : List Item}
    (hrows : i.keyed e key = .ok rows) {r : Item} (hr : r ∈ rows) {v : Value}
    (h : r.cell? column = some v) : Supplied o a items column v := by
  unfold Item.keyed at hrows
  split at hrows
  · cases hrows
  next f hf =>
  split at hrows
  · cases hrows
  next keys hkeys =>
  cases hrows
  obtain ⟨w, hw, rfl⟩ := List.mem_map.1 hr
  by_cases hcolumn : column = key
  · rw [Item.cell?, hcolumn, Item.get?_set_self] at h
    cases h
    rw [hcolumn]
    exact supplied_of_keys? hi hf hkeys ((distinctBy_sublist _ keys).subset hw)
  · rw [Item.cell?, Item.get?_set_of_ne i hcolumn, ← Item.cell?] at h
    exact supplied_of_cell? hi h

theorem mem_of_mem_ofItems {g : ShapeGroup} (hg : g ∈ ShapeGroup.ofItems items) {i : Item}
    (hi : i ∈ g.items) : i ∈ items :=
  (ShapeGroup.perm_flatMap_ofItems items).mem_iff.1 (List.mem_flatMap.2 ⟨g, hg, hi⟩)

theorem supplied_of_insert {q : Query} (h : Query.insert e o items = .ok q) {p : Param}
    (hp : p ∈ q.params) : Supplied o a items p.column p.value := by
  obtain ⟨vs, hvs, rfl, _⟩ := Query.stated_insert h
  obtain ⟨piece, hpiece, i, hi, hcell⟩ := Values.exists_cell_of_mem_ofGroups hvs hp
  obtain ⟨g, hg, hpiece⟩ := List.mem_flatMap.1 hpiece
  obtain ⟨chunk, hchunk, rfl⟩ := List.mem_map.1 hpiece
  have hmem : i ∈ g.items := by
    rw [← flatten_chunks o.maxInsertRows g.items]
    exact List.mem_flatten.2 ⟨chunk, hchunk, hi⟩
  exact supplied_of_insertedItems (mem_of_mem_ofItems hg hmem) hcell

theorem supplied_of_update {key : String} {q : Query} (h : Query.update e o items key = .ok q)
    {p : Param} (hp : p ∈ q.params) : Supplied o a items p.column p.value := by
  obtain ⟨rows, vs, hrows, hvs, rfl, _⟩ := Query.stated_update h
  obtain ⟨g, hg, r, hr, hcell⟩ := Values.exists_cell_of_mem_ofGroups hvs hp
  have hmem := mem_of_mem_ofItems (List.mem_filter.1 hg).1 hr
  obtain ⟨l, hl, hr⟩ := List.mem_flatten.1 hmem
  obtain ⟨i, hi, hkeyed⟩ := Outcome.mem_of_mapM hrows hl
  exact supplied_of_keyed hi hkeyed hr hcell

end

/-! ## All builders -/

namespace Builder

variable {b : Builder} {e : Entity} {o : Options} {items : List Item} {q : Query}

/-- A query is for the action of its builder. -/
theorem action_of_build (h : b.build e o items = .ok q) : q.action = b.action := by
  cases b with
  | find page =>
    obtain ⟨c, _, h⟩ := Outcome.bind_eq_ok_iff.1 h
    obtain ⟨terms, _, h⟩ := Outcome.bind_eq_ok_iff.1 h
    cases h
    rfl
  | insert =>
    obtain ⟨vs, _, rfl⟩ := Outcome.map_eq_ok_iff.1 h
    rfl
  | update key =>
    obtain ⟨rows, vs, _, _, rfl, _⟩ := Query.stated_update h
    rfl
  | delete =>
    obtain ⟨keys, p, _, _, _, rfl⟩ := Query.delete_eq_ok h
    rfl

/-- Every value that a query carries was supplied for the column of its parameter. -/
theorem supplied_of_build (h : b.build e o items = .ok q) {p : Param} (hp : p ∈ q.params) :
    Supplied o b.action items p.column p.value := by
  cases b with
  | find page =>
    obtain ⟨c, hc, h⟩ := Outcome.bind_eq_ok_iff.1 h
    obtain ⟨terms, _, h⟩ := Outcome.bind_eq_ok_iff.1 h
    cases h
    exact supplied_of_ofItems hc hp
  | insert => exact supplied_of_insert h hp
  | update key => exact supplied_of_update h hp
  | delete => exact supplied_of_delete h hp

end Builder

end EntitySql
