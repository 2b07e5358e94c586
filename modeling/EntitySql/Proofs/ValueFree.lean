import EntitySql.Proofs.AlikeRows
import EntitySql.Proofs.Builder

/-!
# No value reaches the text

Two lists of items that differ in values alone have queries that differ in the values of their
parameters alone: the texts are the same, and so are the names and the columns of the parameters;
or both are refused for the same reason.  Only two things are seen of the values: which of those
that stand alone are nulls, and which of those that name rows for an update or a delete are nulls
or name the same row.

    b.SameShape e items others →
      Alike Query.SameText (b.build e o items) (b.build e o others)              (sameText_build)
-/

namespace EntitySql

open List (Forall₂)

/-! ## Items of one form -/

/-- Two items of one form: they have the same columns in the same order, and for each of them a
value, a list or a query on both sides.  The values that stand alone are nulls on both sides or on
neither, lists are of one length, and queries have one operator and one pattern mode. -/
def Item.SameForm (i j : Item) : Prop := i.Alike (fun _ _ => True) j

/-- The values by which an item names rows, if it names any. -/
def Item.namedKeys (key : String) (i : Item) : List Value :=
  ((i.get? key).bind FieldValue.keys?).getD []

/-- Two lists of key values that cannot be told apart: nulls stand at the same places, and so do
values that name the same row. -/
structure KeysAlike (e : Entity) (key : String) (vs ws : List Value) : Prop where
  nulls : Forall₂ (fun v w => v.isNull = w.isNull) vs ws
  equal : ∀ p ∈ vs.zip ws, ∀ q ∈ vs.zip ws,
    keyIdentity e key p.1 = keyIdentity e key q.1 ↔ keyIdentity e key p.2 = keyIdentity e key q.2

/-- Two lists of items that differ in values alone, as far as a builder sees.  An update looks at
the key values of each item, a delete at those of all items together. -/
def Builder.SameShape (e : Entity) (items others : List Item) : Builder → Prop
  | .find _ | .insert => Forall₂ Item.SameForm items others
  | .update key =>
    Forall₂ (fun i j => i.SameForm j ∧ KeysAlike e key (i.namedKeys key) (j.namedKeys key))
      items others
  | .delete =>
    Forall₂ Item.SameForm items others ∧
      KeysAlike e e.identifier (items.flatMap (Item.namedKeys e.identifier))
        (others.flatMap (Item.namedKeys e.identifier))

/-- Two queries that differ in the values of their parameters alone. -/
structure Query.SameText (q r : Query) : Prop where
  action : q.action = r.action
  sql : q.sql = r.sql
  names : q.params.names = r.params.names
  columns : q.params.map (·.column) = r.params.map (·.column)

theorem Query.sameText_of_params {a : Action} {sql other : String} {ps qs : Params}
    (hsql : sql = other) (h : Forall₂ Param.Alike ps qs) :
    Query.SameText ⟨a, sql, ps⟩ ⟨a, other, qs⟩ where
  action := rfl
  sql := hsql
  names := map_eq_of_forall₂ (h.imp fun _ _ hpq => hpq.1)
  columns := map_eq_of_forall₂ (h.imp fun _ _ hpq => hpq.2)

/-! ## Keys -/

theorem FieldValue.Alike.keys? {V : Value → Value → Prop} {f g : FieldValue} (h : f.Alike V g) :
    Option.Rel (Forall₂ V) f.keys? g.keys? := by
  cases h with
  | value hnull h => exact .some (.cons h .nil)
  | array h => exact .some h
  | query operator like h =>
    cases operator with
    | eq | in_ => exact .some h.values
    | _ => exact .none

theorem mem_zip_of_filter {α β : Type} {p : α → Bool} {q : β → Bool} {l : List α} {m : List β}
    (h : Forall₂ (fun a b => p a = q b) l m) {x : α × β}
    (hx : x ∈ (l.filter p).zip (m.filter q)) : x ∈ l.zip m := by
  induction h with
  | nil => exact hx
  | @cons a b l m hab _ ih =>
    rw [List.zip_cons_cons]
    cases hq : q b with
    | true =>
      rw [List.filter_cons_of_pos (hab.trans hq), List.filter_cons_of_pos hq, List.zip_cons_cons,
        List.mem_cons] at hx
      exact List.mem_cons.2 (hx.imp_right ih)
    | false =>
      rw [List.filter_cons_of_neg (by simp [hab, hq]), List.filter_cons_of_neg (by simp [hq])] at hx
      exact List.mem_cons_of_mem _ (ih hx)

section

variable {e : Entity} {o : Options} {key : String}

/-- Without nulls, key values that cannot be told apart still cannot. -/
theorem KeysAlike.filter {vs ws : List Value} (h : KeysAlike e key vs ws) :
    KeysAlike e key (vs.filter (!·.isNull)) (ws.filter (!·.isNull)) := by
  have hpresent : Forall₂ (fun v w : Value => (!v.isNull) = !w.isNull) vs ws :=
    h.nulls.imp fun v w hvw => congrArg Bool.not hvw
  refine ⟨forall₂_filter h.nulls fun v w hvw => congrArg Bool.not hvw, fun p hp q hq => ?_⟩
  exact h.equal p (mem_zip_of_filter hpresent hp) q (mem_zip_of_filter hpresent hq)

theorem KeysAlike.distinctBy {vs ws : List Value} (h : KeysAlike e key vs ws) :
    Forall₂ (fun v w => v.isNull = w.isNull) (distinctBy (keyIdentity e key) vs)
      (distinctBy (keyIdentity e key) ws) :=
  forall₂_distinctBy h.nulls h.equal

theorem sameForm_of_keyed {i j : Item} (h : i.SameForm j)
    (hkeys : KeysAlike e key (i.namedKeys key) (j.namedKeys key)) :
    Outcome.Alike (Forall₂ Item.SameForm) (i.keyed e key) (j.keyed e key) := by
  have hget := h.get? key
  unfold Item.namedKeys at hkeys
  unfold Item.keyed
  generalize i.get? key = x, j.get? key = y at hget hkeys
  cases hget with
  | none => exact .error _
  | @some f g hfields =>
    have hnamed := hfields.keys?
    dsimp only [Option.bind_some] at hkeys ⊢
    generalize f.keys? = x, g.keys? = y at hnamed hkeys
    cases hnamed with
    | none => exact .error _
    | some _ =>
      refine .ok (forall₂_map hkeys.distinctBy fun v w hvw => ?_)
      exact h.set key (.value hvw trivial)

theorem eq_namedKeys_of_deleted {i : Item} {keys : List Value} (h : i.deleted e = .ok keys) :
    keys = (i.namedKeys e.identifier).filter (!·.isNull) := by
  unfold Item.deleted at h
  unfold Item.namedKeys
  split at h
  · next hnone =>
    cases h
    rw [hnone]
    rfl
  · next f hf =>
    rw [hf, Option.bind_some]
    split at h
    · cases h
    · next vs hvs =>
      cases h
      rw [hvs]
      rfl

theorem flatten_deleted {items : List Item} {lists : List (List Value)}
    (h : items.mapM (Item.deleted e) = .ok lists) :
    lists.flatten = (items.flatMap (Item.namedKeys e.identifier)).filter (!·.isNull) := by
  have hlists : lists.map id =
      items.map fun i => (i.namedKeys e.identifier).filter (!·.isNull) :=
    Outcome.map_of_mapM h fun i _ keys hkeys => eq_namedKeys_of_deleted hkeys
  rw [List.map_id] at hlists
  rw [hlists, List.filter_flatMap, List.flatMap_def]

theorem alike_deleted {i j : Item} (h : i.SameForm j) :
    Outcome.Alike (fun _ _ => True) (i.deleted e) (j.deleted e) := by
  have hget := h.get? e.identifier
  unfold Item.deleted
  generalize i.get? e.identifier = x, j.get? e.identifier = y at hget
  cases hget with
  | none => exact .ok trivial
  | @some f g hfields =>
    have hkeys := hfields.keys?
    dsimp only
    generalize f.keys? = x, g.keys? = y at hkeys
    cases hkeys with
    | none => exact .error _
    | some _ => exact .ok trivial

/-- As many keys are left of the one list as of the other. -/
theorem alike_deletedKeys {items others : List Item} (h : Forall₂ Item.SameForm items others)
    (hkeys : KeysAlike e e.identifier (items.flatMap (Item.namedKeys e.identifier))
      (others.flatMap (Item.namedKeys e.identifier))) :
    Outcome.Alike (Forall₂ fun v w => v.isNull = w.isNull) (deletedKeys e items)
      (deletedKeys e others) := by
  have hlists : Outcome.Alike (Forall₂ fun _ _ => True) (items.mapM (Item.deleted e))
      (others.mapM (Item.deleted e)) := .mapM h fun i j hij => alike_deleted hij
  unfold deletedKeys
  generalize hx : items.mapM (Item.deleted e) = x, hy : others.mapM (Item.deleted e) = y at hlists
  cases hlists with
  | error _ => exact .error _
  | ok _ =>
    refine .ok ?_
    dsimp only
    rw [flatten_deleted hx, flatten_deleted hy]
    exact hkeys.filter.distinctBy

end

/-! ## Builders -/

section

variable {e : Entity} {o : Options} {items others : List Item}

theorem alike_condition {a : Action} (h : Forall₂ Item.SameForm items others) :
    Outcome.Alike (Condition.Alike fun s t => s.name = t.name) (Condition.ofItems e o a items)
      (Condition.ofItems e o a others) :=
  Condition.alike_ofItems (fun _ _ _ _ _ => trivial) (fun _ _ _ _ _ _ => rfl) h

theorem sameText_find (h : Forall₂ Item.SameForm items others) (page : Page) :
    Outcome.Alike Query.SameText (Query.find e o items page) (Query.find e o others page) := by
  refine (alike_condition h).bind fun c d hcd => ?_
  cases page.terms e o with
  | error refusal => exact .error refusal
  | ok terms =>
    refine .ok (Query.sameText_of_params ?_ hcd.params)
    rw [hcd.text?_eq]

theorem sameText_ofValues (a : Action) {text : Values → String}
    (htext : ∀ v w : Values, v.Alike w → text v = text w) {vs ws : List Values}
    (h : Forall₂ Values.Alike vs ws) :
    Query.SameText (.ofValues a text vs) (.ofValues a text ws) := by
  refine Query.sameText_of_params ?_ (List.rel_flatMap h fun v w hvw => hvw.params)
  rw [map_eq_of_forall₂ (h.imp htext)]

theorem sameForm_insertedItems (h : Forall₂ Item.SameForm items others) :
    Forall₂ Item.SameForm (insertedItems e o items) (insertedItems e o others) := by
  have hitems : Forall₂ Item.SameForm
      (if o.insertIdentifier then items else items.map (·.erase e.identifier))
      (if o.insertIdentifier then others else others.map (·.erase e.identifier)) := by
    split
    · exact h
    · exact forall₂_map h fun i j hij => hij.erase e.identifier
  exact forall₂_filter hitems fun i j hij => congrArg Bool.not (Item.Alike.isEmpty_eq hij)

theorem sameText_insert (h : Forall₂ Item.SameForm items others) :
    Outcome.Alike Query.SameText (Query.insert e o items) (Query.insert e o others) := by
  have hpieces := List.rel_flatMap (ShapeGroup.alike_ofItems (sameForm_insertedItems (e := e)
    (o := o) h)) fun g k hgk => hgk.split o.maxInsertRows
  refine (Values.alike_ofGroups hpieces e.table .insert 0).map fun vs ws hvw => ?_
  refine sameText_ofValues .insert (fun v w hvw => ?_) hvw
  unfold insertText
  rw [hvw.columnsText_eq, hvw.rowsText_eq]

theorem sameText_update {key : String}
    (h : Forall₂ (fun i j => i.SameForm j ∧
      KeysAlike e key (i.namedKeys key) (j.namedKeys key)) items others) :
    Outcome.Alike Query.SameText (Query.update e o items key) (Query.update e o others key) := by
  have hrows : Outcome.Alike (Forall₂ (Forall₂ Item.SameForm)) (items.mapM (Item.keyed e key))
      (others.mapM (Item.keyed e key)) := .mapM h fun i j hij => sameForm_of_keyed hij.1 hij.2
  unfold Query.update
  dsimp only
  split
  · exact .error _
  refine hrows.bind fun rows rows' hrows => ?_
  have hgroups := ShapeGroup.alike_ofItems (List.rel_flatten hrows)
  have hchanged : Forall₂ (ShapeGroup.Alike fun _ _ => True)
      ((ShapeGroup.ofItems rows.flatten).filter fun g => !(g.changed key).isEmpty)
      ((ShapeGroup.ofItems rows'.flatten).filter fun g => !(g.changed key).isEmpty) := by
    refine forall₂_filter hgroups fun g k hgk => ?_
    simp only [ShapeGroup.changed, hgk.1]
  have htext : ∀ v w : Values, v.Alike w → updateText e key v = updateText e key w := by
    intro v w hvw
    unfold updateText
    rw [hvw.columnsText_eq, hvw.rowsText_eq, hvw.1]
  refine (Values.alike_ofGroups hchanged e.table .update 0).map fun vs ws hvw => ?_
  exact sameText_ofValues .update htext hvw

theorem sameText_delete (h : Forall₂ Item.SameForm items others)
    (hkeys : KeysAlike e e.identifier (items.flatMap (Item.namedKeys e.identifier))
      (others.flatMap (Item.namedKeys e.identifier))) :
    Outcome.Alike Query.SameText (Query.delete e o items) (Query.delete e o others) := by
  refine (alike_deletedKeys h hkeys).bind fun ks ls hkl => ?_
  have hempty : ks.isEmpty = ls.isEmpty := by
    rw [Bool.eq_iff_iff, List.isEmpty_iff_length_eq_zero, List.isEmpty_iff_length_eq_zero,
      hkl.length_eq]
  have hitem : (Item.empty.set e.identifier (.array ks)).SameForm
      (Item.empty.set e.identifier (.array ls)) :=
    (Item.alike_refl (fun _ => trivial) Item.empty).set e.identifier
      (.array (hkl.imp fun _ _ _ => trivial))
  dsimp only
  rw [hempty]
  split
  · exact .error _
  refine (alike_condition (.cons hitem .nil)).bind fun c d hcd => ?_
  refine .ok (Query.sameText_of_params ?_ hcd.params)
  rw [hcd.text?_eq]

end

/-- Whatever the builder, items that differ in values alone are refused for one reason, or have one
text and parameters of the same names for the same columns. -/
theorem sameText_build {e : Entity} {o : Options} {b : Builder} {items others : List Item}
    (h : b.SameShape e items others) :
    Outcome.Alike Query.SameText (b.build e o items) (b.build e o others) := by
  cases b with
  | find page => exact sameText_find h page
  | insert => exact sameText_insert h
  | update key => exact sameText_update h
  | delete => exact sameText_delete h.1 h.2

/-- An update of two people, one of whom is named twice. -/
def namedPeople (first again other : Value) (name : String) : List Item :=
  [.ofList [("id", .array [first, again, other]), ("name", .value (.string name))]]

/-- The numbers are given in different ways and the name holds SQL, but the text is the same. -/
theorem sameText_build_people :
    ∃ q r,
      (Builder.update "id").build people {}
        (namedPeople (.int 1) (.string "1") (.int 2) "a") = .ok q ∧
      (Builder.update "id").build people {}
        (namedPeople (.string "7") (.bigInt 7) (.string "8") "'; DROP TABLE [people]; --") = .ok r ∧
      q.SameText r ∧ q.params ≠ r.params := by
  obtain ⟨q, hq⟩ : ∃ q, (Builder.update "id").build people {}
      (namedPeople (.int 1) (.string "1") (.int 2) "a") = .ok q := ⟨_, rfl⟩
  have hkeys : KeysAlike people "id" [.int 1, .string "1", .int 2]
      [.string "7", .bigInt 7, .string "8"] :=
    ⟨.cons rfl (.cons rfl (.cons rfl .nil)), by decide +kernel⟩
  have hlist : Forall₂ (fun _ _ : Value => True) [.int 1, .string "1", .int 2]
      [.string "7", .bigInt 7, .string "8"] := hkeys.nulls.imp fun _ _ _ => trivial
  have hshape : (Builder.update "id").SameShape people
      (namedPeople (.int 1) (.string "1") (.int 2) "a")
      (namedPeople (.string "7") (.bigInt 7) (.string "8") "'; DROP TABLE [people]; --") :=
    .cons ⟨.cons ⟨rfl, .array hlist⟩ (.cons ⟨rfl, .value rfl trivial⟩ .nil), hkeys⟩ .nil
  obtain ⟨r, hr, hsame⟩ := (sameText_build (o := {}) hshape).exists_ok hq
  refine ⟨q, r, hq, hr, hsame, ?_⟩
  cases hq
  cases hr
  decide +kernel

end EntitySql
