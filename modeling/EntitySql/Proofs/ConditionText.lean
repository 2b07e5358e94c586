import EntitySql.Proofs.FieldForm
import EntitySql.Proofs.ParameterNames
import EntitySql.Proofs.PredicateText

/-!
# The text of a condition

The text of a condition is read back as the disjunction over its groups of the conjunction of
their predicates: no `AND` or `OR` of a predicate gets out of it.

    ofField e o a item field column f = .ok p → p.Readable            (readable_ofField)
    Condition.ofItems e o a items = .ok c → c.text? is read as a tree whose truth value is
      itemsTruth x e o a items                                        (condition_reads)
-/

namespace EntitySql

open EntitySql.Sql

/-! ## Patterns that can be spelled -/

/-- No field of the item is matched by patterns that a quote escapes.  The text of such a field is
no condition of SQL. -/
def Options.CanSpell (o : Options) (i : Item) : Prop :=
  ∀ entry ∈ i.entries, entry.2.operator = .like → o.likeEscape ≠ some '\''

/-- Options that are not refused can spell every item. -/
theorem Options.canSpell_of_check {o : Options} (ho : o.check = .ok ()) (i : Item) :
    o.CanSpell i :=
  fun _ _ _ => ((check_eq_ok_iff o).1 ho).2.2

/-! ## Readable predicates -/

namespace Predicate

theorem length_numbered (base : String) (values : List Value) :
    (numbered base values).length = values.length := by
  simp [numbered]

theorem slotsOf_ne_nil (base : String) {operand : Operand} (h : operand.values ≠ []) :
    slotsOf base operand ≠ [] := by
  cases operand with
  | scalar v => exact List.cons_ne_nil _ _
  | array vs =>
    intro hnil
    have hlength : (numbered base vs).length = vs.length := length_numbered base vs
    rw [show numbered base vs = [] from hnil] at hlength
    exact h (List.eq_nil_of_length_eq_zero hlength.symm)

theorem chunkSlots_ne_nil (base : String) (size : Nat) {values : List Value} (h : values ≠ []) :
    chunkSlots base size values ≠ [] := by
  intro hnil
  have hchunks : chunks size values = [] := by simpa [chunkSlots] using hnil
  have hflatten := flatten_chunks size values
  rw [hchunks] at hflatten
  exact h hflatten.symm

theorem ne_nil_of_mem_chunkSlots {base : String} {size : Nat} {values : List Value}
    {chunk : List Slot} (h : chunk ∈ chunkSlots base size values) : chunk ≠ [] := by
  obtain ⟨⟨vs, c⟩, hmem, rfl⟩ := List.mem_map.1 h
  have hvs : vs ≠ [] := (mem_chunks (List.fst_mem_of_mem_zipIdx hmem)).1
  intro hnil
  have hlength := length_numbered s!"{base}_{c}" vs
  rw [show numbered s!"{base}_{c}" vs = [] from hnil] at hlength
  exact hvs (List.eq_nil_of_length_eq_zero hlength.symm)

/-- The predicate of a field can be read back, unless a pattern is escaped by a quote. -/
theorem readable_ofField {e : Entity} {o : Options} {a : Action} {item field : Nat}
    {column : String} {f : FieldValue} {p : Predicate}
    (h : ofField e o a item field column f = .ok p)
    (hescape : f.operator = .like → o.likeEscape ≠ some '\'') : p.Readable := by
  have hform := fieldForm_ofField h
  have hnames := namedUnder_ofField h
  have hword : ∀ s ∈ p.slots, IsWord s.name := by
    intro s hs
    exact hnames.words (by decide) (List.mem_map_of_mem hs)
  generalize f.operator = operator at hform hescape
  cases hform with
  | always operator holds => exact .always holds
  | null operator negated => exact .null column negated
  | compare comparison nonempty =>
    exact .compare column comparison (slotsOf_ne_nil _ nonempty) hword
  | like nonempty => exact .like column (hescape rfl) (slotsOf_ne_nil _ nonempty) hword
  | between low high =>
    exact .between column (hword _ List.mem_cons_self)
      (hword _ (List.mem_cons_of_mem _ List.mem_cons_self))
  | member negated nonempty =>
    refine .member column negated (chunkSlots_ne_nil _ _ nonempty)
      (fun chunk hc => ne_nil_of_mem_chunkSlots hc) (fun chunk hc s hs => ?_)
    exact hword s (List.mem_flatten.2 ⟨chunk, hc, hs⟩)

end Predicate

/-! ## Groups -/

def groupTokens (g : List FieldPredicate) : List Token :=
  if g = [] then (Predicate.always true).tokens
  else [.keyword .and].intercalate (g.map (·.predicate.tokens))

def groupTree : List FieldPredicate → SearchCondition
  | [] => constantTree true
  | p :: ps => .conjoin p.predicate.tree (ps.map (·.predicate.tree))

def ReadableGroup (g : List FieldPredicate) : Prop := ∀ p ∈ g, p.predicate.Readable

theorem ReadableGroup.spells {g : List FieldPredicate} (h : ReadableGroup g) :
    Spells (Sql.conjunction (g.map (·.predicate.text))) (groupTokens g) := by
  cases g with
  | nil => exact spells_always true
  | cons p ps => exact spells_intercalate glue_and fun q hq => (h q hq).spells

theorem ReadableGroup.readsConjunction {g : List FieldPredicate} (h : ReadableGroup g) :
    ReadsConjunction (groupTokens g) (groupTree g) := by
  cases g with
  | nil => exact readsConjunction_of_factor (Predicate.Readable.always true).readsFactor
  | cons p ps => exact conjunction_of_factors fun q hq => (h q hq).readsFactor

theorem filled_groupTokens {g : List FieldPredicate} (h : ReadableGroup g) :
    Filled (groupTokens g) := by
  cases g with
  | nil => exact (Predicate.Readable.always true).filled
  | cons p ps =>
    refine (Filled.keyword .and).intercalate (by simp) ?_
    intro part hpart
    obtain ⟨q, hq, rfl⟩ := List.mem_map.1 hpart
    exact (h q hq).filled

theorem truth_groupTree {α : Type} (x : Context α) (g : List FieldPredicate) :
    (groupTree g).truth x = .all (g.map fun p => p.predicate.truth x) := by
  cases g with
  | nil => exact truth_constantTree x true
  | cons p ps =>
    rw [groupTree, SearchCondition.truth_conjoin]
    show Truth.all (((p :: ps).map (·.predicate.tree)).map (·.truth x)) = _
    rw [List.map_map]
    exact congrArg _ (List.map_congr_left fun q _ => q.predicate.truth_tree x)

/-! ## Conditions -/

namespace Condition

def tokens : Condition → List Token
  | [g] => groupTokens g
  | c => [.keyword .or].intercalate (c.map fun g => .symbol '(' :: (groupTokens g ++ [.symbol ')']))

def tree (g : List FieldPredicate) (gs : Condition) : SearchCondition :=
  .disjoin (groupTree g) (gs.map groupTree)

def Readable (c : Condition) : Prop := ∀ g ∈ c, ReadableGroup g

variable {g : List FieldPredicate} {gs : Condition}

/-- The text of a condition of at least one group. -/
theorem text?_cons (g : List FieldPredicate) (gs : Condition) :
    ∃ text, text? (g :: gs) = some text ∧
      (Readable (g :: gs) → Spells text (tokens (g :: gs))) := by
  cases gs with
  | nil =>
    refine ⟨_, rfl, fun h => ?_⟩
    exact (h g List.mem_cons_self).spells
  | cons h hs =>
    have htext : text? (g :: h :: hs) = some (" OR ".intercalate ((g :: h :: hs).map fun k =>
        parenthesized (Sql.conjunction (k.map (·.predicate.text))))) := by
      simp [text?, texts, alternatives, Function.comp_def]
    exact ⟨_, htext, fun hread => spells_intercalate glue_or fun k hk =>
      spells_parenthesized (hread k hk).spells⟩

theorem Readable.readsCondition (h : Readable (g :: gs)) :
    ReadsCondition (tokens (g :: gs)) (tree g gs) := by
  cases gs with
  | nil => exact readsCondition_of_conjunction (h g List.mem_cons_self).readsConjunction
  | cons k ks =>
    refine condition_of_conjunctions fun l hl => ?_
    refine readsConjunction_of_factor (readsFactor_enclosed ?_)
    exact readsCondition_of_conjunction (h l hl).readsConjunction

theorem truth_tree {α : Type} (x : Context α) : (tree g gs).truth x = truth x (g :: gs) := by
  rw [tree, SearchCondition.truth_disjoin]
  show Truth.any (((g :: gs).map groupTree).map (·.truth x)) = _
  rw [List.map_map]
  exact congrArg _ (List.map_congr_left fun k _ => truth_groupTree x k)

/-- No parentheses of a condition are empty. -/
theorem Readable.filled (h : Readable (g :: gs)) : Filled (tokens (g :: gs)) := by
  have hgroup : ∀ k ∈ g :: gs, Filled (groupTokens k) := fun k hk => filled_groupTokens (h k hk)
  cases gs with
  | nil => exact hgroup g List.mem_cons_self
  | cons k ks =>
    refine (Filled.keyword .or).intercalate (by simp) ?_
    intro part hpart
    obtain ⟨l, hl, rfl⟩ := List.mem_map.1 hpart
    exact (hgroup l hl).enclosed

/-- The condition on some items can be read back, unless a quote escapes a pattern in it. -/
theorem readable_of_canSpell {e : Entity} {o : Options} {a : Action} {items : List Item}
    (hitems : ∀ i ∈ items, o.CanSpell i) {c : Condition} (hc : ofItems e o a items = .ok c) :
    Readable c := by
  intro g hg p hp
  obtain ⟨i, hi, item, field, f, hf, hfield⟩ := exists_ofField hc hg hp
  exact Predicate.readable_ofField hfield (hitems i hi _ hf)

/-- The condition on some items can be read back, under options that are not refused. -/
theorem readable_ofItems {e : Entity} {o : Options} {a : Action} (ho : o.check = .ok ())
    {items : List Item} {c : Condition} (hc : ofItems e o a items = .ok c) : Readable c :=
  readable_of_canSpell (fun i _ => Options.canSpell_of_check ho i) hc

end Condition

/-- The text of the condition on some items is read back, as a tree that has the truth value of
the alternatives that the items are, whatever the row and the parameters.  Its parts are read as
factors of their own, and no parentheses in it are empty. -/
theorem condition_reads {e : Entity} {o : Options} {a : Action} (ho : o.check = .ok ())
    {items : List Item} (hne : items ≠ []) {c : Condition}
    (hc : Condition.ofItems e o a items = .ok c) :
    ∃ text t, c.text? = some text ∧ SearchCondition.read? text = some t ∧
      (∀ (α : Type) (x : Context α), t.truth x = itemsTruth x e o a items) ∧
      ¬ emptyPair <:+: Sql.tokens text ∧
      ∀ g ∈ c, ∀ p ∈ g, ∃ u, SearchCondition.readFactor? p.predicate.text = some u ∧
        ∀ (α : Type) (x : Context α), u.truth x = p.predicate.truth x := by
  have hread := Condition.readable_ofItems ho hc
  obtain ⟨g, gs, rfl⟩ : ∃ g gs, c = g :: gs := by
    refine List.exists_cons_of_ne_nil fun hnil => hne ?_
    have hlength := congrArg List.length (Outcome.mapM_eq_ok_iff.1 hc)
    simpa [hnil] using hlength
  obtain ⟨text, htext, hspells⟩ := Condition.text?_cons g gs
  have htokens := (hspells hread).tokens_eq
  refine ⟨text, Condition.tree g gs, htext,
    SearchCondition.read?_eq_some htokens hread.readsCondition, ?_, ?_, ?_⟩
  · intro α x
    rw [Condition.truth_tree, Condition.truth_ofItems x hc]
  · rw [htokens]
    exact hread.filled.not_emptyPair
  · intro k hk p hp
    have hp := hread k hk p hp
    exact ⟨_, SearchCondition.readFactor?_eq_some hp.spells.tokens_eq hp.readsFactor,
      fun α x => p.predicate.truth_tree x⟩

def people : Entity :=
  Declaration.entity
    { name := "person", table := some "people"
      columns := [.typed "id" .int, .typed "name" .nVarChar] }

/-- Three alternatives: a list and a range, a list that has to differ, and nothing. -/
def peopleItems : List Item :=
  [.ofList [("name", .array [.string "a", .string "b"]),
     ("id", .query (.between (.int 9) (.int 1)))],
   .ofList [("name", .query (.compareAny .ne [.string "c", .string "d"]))],
   .empty]

theorem condition_reads_people :
    ∃ c text t, Condition.ofItems people {} .find peopleItems = .ok c ∧ c.text? = some text ∧
      text = "([name] IN (@w0_0_0_0, @w0_0_0_1) AND [id] BETWEEN " ++
        "(CASE WHEN @w0_1_0 <= @w0_1_1 THEN @w0_1_0 ELSE @w0_1_1 END) AND " ++
        "(CASE WHEN @w0_1_0 <= @w0_1_1 THEN @w0_1_1 ELSE @w0_1_0 END)) OR " ++
        "(([name] != @w1_0_0 AND [name] != @w1_0_1)) OR (1=1)" ∧
      SearchCondition.read? text = some t ∧
      (∀ (α : Type) (x : Context α), t.truth x = itemsTruth x people {} .find peopleItems) ∧
      ¬ emptyPair <:+: Sql.tokens text := by
  obtain ⟨c, hc⟩ : ∃ c, Condition.ofItems people {} .find peopleItems = .ok c := ⟨_, rfl⟩
  obtain ⟨text, t, htext, hread, htruth, hpairs, _⟩ :=
    condition_reads (by decide) (by decide : peopleItems ≠ []) hc
  refine ⟨c, text, t, hc, htext, ?_, hread, htruth, hpairs⟩
  cases hc
  rw [← Option.some.inj htext]
  decide +kernel

end EntitySql
