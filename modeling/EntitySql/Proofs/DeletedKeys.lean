import EntitySql.Proofs.Deletion
import EntitySql.Proofs.Rebinding
import Mathlib.Data.List.Perm.Basic

/-!
# The keys that a delete is sent

A delete is sent every key that its items supply, and every one once.  Keys that are sent as one
datum are one key, whichever of them it is sent for and whatever carries them: a value, a list or a
query, in one item or in several.  So the data depend on the data of the keys alone, except for
their order.  Numbers that are no number are one key, though they are sent in many forms.

    deletedKeys e items = .ok keys → keys have the identities of the supplied keys, each once
                                                            (identities_deletedKeys)
    a delete is sent data ↔ its keys, of which there is one, are bound to them   (delete_bind_iff)
    a delete that is bound is sent the data of the supplied keys, each once, and the same data for
      the same keys in other items                          (sends_supplied_keys)
-/

namespace EntitySql

variable {e : Entity} {o : Options} {items : List Item}

/-! ## Keys of items -/

/-- What every item gives for the identifier names rows. -/
def NameRows (e : Entity) (items : List Item) : Prop :=
  ∀ i ∈ items, ∀ f, i.get? e.identifier = some f → f.keys?.isSome = true

theorem mem_deleted_iff {i : Item} {keys : List Value} (h : i.deleted e = .ok keys) {v : Value} :
    v ∈ keys ↔ ∃ f, i.get? e.identifier = some f ∧ v ∈ f.values ∧ v.isNull = false := by
  constructor
  · intro hv
    obtain ⟨f, vs, hf, hvs, hmem, hnull⟩ := mem_deleted h hv
    rw [FieldValue.values_of_keys? hvs] at hmem
    exact ⟨f, hf, hmem, hnull⟩
  · rintro ⟨f, hf, hmem, hnull⟩
    cases hvs : f.keys? with
    | none =>
      simp only [Item.deleted, hf, hvs] at h
      cases h
    | some vs =>
      simp only [Item.deleted, hf, hvs] at h
      cases h
      rw [FieldValue.values_of_keys? hvs]
      exact List.mem_filter.2 ⟨hmem, by rw [hnull]; rfl⟩

theorem exists_deleted {i : Item}
    (h : ∀ f, i.get? e.identifier = some f → f.keys?.isSome = true) :
    ∃ keys, i.deleted e = .ok keys := by
  rw [Item.deleted]
  cases hf : i.get? e.identifier with
  | none => exact ⟨_, rfl⟩
  | some f =>
    obtain ⟨vs, hvs⟩ := Option.isSome_iff_exists.1 (h f hf)
    exact ⟨vs.filter (!·.isNull), by simp only [hvs]⟩

/-- Items that name rows have keys. -/
theorem NameRows.exists_deletedKeys (h : NameRows e items) :
    ∃ keys, deletedKeys e items = .ok keys := by
  obtain ⟨lists, hlists⟩ := Outcome.exists_mapM_iff.2 fun i hi => exists_deleted (h i hi)
  exact ⟨_, Outcome.map_eq_ok_iff.2 ⟨lists, hlists, rfl⟩⟩

theorem mem_lists_iff {lists : List (List Value)} (h : items.mapM (Item.deleted e) = .ok lists)
    {v : Value} : v ∈ lists.flatten ↔ SuppliedKey e items v := by
  rw [List.mem_flatten]
  constructor
  · rintro ⟨keys, hkeys, hv⟩
    obtain ⟨i, hi, hdeleted⟩ := Outcome.mem_of_mapM h hkeys
    exact ⟨i, hi, (mem_deleted_iff hdeleted).1 hv⟩
  · rintro ⟨i, hi, hv⟩
    have hmem := List.mem_map_of_mem (f := Item.deleted e) hi
    rw [Outcome.mapM_eq_ok_iff.1 h] at hmem
    obtain ⟨keys, hkeys, hdeleted⟩ := List.mem_map.1 hmem
    exact ⟨keys, hkeys, (mem_deleted_iff hdeleted.symm).2 hv⟩

/-- The keys of a delete have the identities of the supplied keys, and no identity twice. -/
theorem identities_deletedKeys {keys : List Value} (h : deletedKeys e items = .ok keys) :
    (keys.map (keyIdentity e e.identifier)).Nodup ∧
      ∀ k, k ∈ keys.map (keyIdentity e e.identifier) ↔
        ∃ v, SuppliedKey e items v ∧ keyIdentity e e.identifier v = k := by
  obtain ⟨lists, hlists, rfl⟩ := Outcome.map_eq_ok_iff.1 h
  refine ⟨nodup_distinctBy _ _, fun k => ?_⟩
  rw [mem_distinctBy, List.mem_map]
  exact exists_congr fun v => and_congr_left' (mem_lists_iff hlists)

/-! ## Data of keys -/

def Statement.data (s : Statement) : List Datum := s.params.map (·.datum)

section

variable {t : SqlType} {column : String} {q : Query}

theorem mapM_of_bind (ht : e.sqlType? column = some t) {a : Action} {ps : Params}
    (hcolumn : ∀ p ∈ ps, p.column = column) {bs : List BoundParam} (h : ps.bind e a = .ok bs) :
    (ps.map (·.value)).mapM t.bind = .ok (bs.map (·.datum)) := by
  rw [Outcome.mapM_eq_ok_iff, List.map_map, List.map_map]
  refine (Outcome.map_of_mapM h fun p hp b hb => ?_).symm
  rw [← hcolumn p hp] at ht
  obtain ⟨d, hd, rfl⟩ := (Param.bind_eq_ok_iff ht).1 hb
  exact hd.symm

/-- Parameters of one column are bound to data just if their values are. -/
theorem data_bind_iff (ht : e.sqlType? column = some t) (hcolumn : ∀ p ∈ q.params, p.column = column)
    {data : List Datum} :
    (∃ s, q.bind e = .ok s ∧ s.data = data) ↔
      (q.params.map (·.value)).mapM t.bind = .ok data := by
  constructor
  · rintro ⟨s, hs, rfl⟩
    obtain ⟨bs, hbs, rfl⟩ := Outcome.map_eq_ok_iff.1 hs
    exact mapM_of_bind ht hcolumn hbs
  · intro hdata
    have hbinds : ∀ p ∈ q.params, ∃ b, p.bind e q.action = .ok b := by
      intro p hp
      obtain ⟨d, hd⟩ := Outcome.exists_mapM_iff.1 ⟨data, hdata⟩ p.value (List.mem_map_of_mem hp)
      rw [← hcolumn p hp] at ht
      exact ⟨_, (Param.bind_eq_ok_iff ht).2 ⟨d, hd, rfl⟩⟩
    obtain ⟨bs, hbs⟩ := Outcome.exists_mapM_iff.2 hbinds
    refine ⟨⟨q.sql, bs⟩, Outcome.map_eq_ok_iff.2 ⟨bs, hbs, rfl⟩, ?_⟩
    exact Except.ok.inj ((mapM_of_bind ht hcolumn hbs).symm.trans hdata)

/-- The values of some keys are the parameters of their condition. -/
theorem exists_keysPredicate (hdeclared : e.hasColumn e.identifier = true) {keys : List Value}
    (hne : keys ≠ []) :
    ∃ p, Predicate.ofField e o .delete 0 0 e.identifier (.array keys) = .ok p ∧
      (FieldPredicate.mk e.identifier p).params.map (·.value) = keys := by
  have hop : (FieldValue.array keys).operator ∈ Predicate.memberships := by
    show Operator.in_ ∈ Predicate.memberships
    decide
  obtain ⟨v, vs, rfl⟩ := List.exists_cons_of_ne_nil hne
  refine ⟨.member e.identifier false (Predicate.chunkSlots (Predicate.baseName 0 0) o.chunkSize
    (v :: vs)), Predicate.ofField_of_membership (.inl hdeclared) hop, ?_⟩
  rw [FieldPredicate.params, List.map_map]
  exact Predicate.slotValues_chunkSlots _ _ _

/-- The delete of some keys, by their condition. -/
theorem delete_of_keys {keys : List Value} (hkeys : deletedKeys e items = .ok keys)
    (hne : keys ≠ []) {p : Predicate}
    (hp : Predicate.ofField e o .delete 0 0 e.identifier (.array keys) = .ok p) :
    Query.delete e o items = .ok ⟨.delete,
      Sql.batch ["DELETE FROM " ++ Sql.quoteIdentifier e.table ++ " WHERE " ++ p.text],
      (FieldPredicate.mk e.identifier p).params⟩ := by
  have hcondition := Query.ofItems_single (e := e) (o := o) .delete e.identifier (.array keys)
  rw [hp] at hcondition
  obtain ⟨v, vs, rfl⟩ := List.exists_cons_of_ne_nil hne
  refine Outcome.bind_eq_ok_iff.2 ⟨v :: vs, hkeys, ?_⟩
  refine Outcome.bind_eq_ok_iff.2 ⟨_, hcondition, congrArg Except.ok ?_⟩
  simp [Condition.params, Condition.text?, Condition.texts, Sql.alternatives, Sql.conjunction]

/-- On a declared identifier, a delete is sent the data of its keys, and refused if it has none. -/
theorem delete_bind_iff (ht : e.sqlType? e.identifier = some t) {data : List Datum} :
    (∃ q s, Query.delete e o items = .ok q ∧ q.bind e = .ok s ∧ s.data = data) ↔
      ∃ keys, deletedKeys e items = .ok keys ∧ keys ≠ [] ∧ keys.mapM t.bind = .ok data := by
  obtain ⟨declaration, hdeclaration, _⟩ := Option.bind_eq_some_iff.1 ht
  have hdeclared : e.hasColumn e.identifier = true :=
    Option.isSome_iff_exists.2 ⟨declaration, hdeclaration⟩
  have hcolumn : ∀ p, ∀ x ∈ (FieldPredicate.mk e.identifier p).params, x.column = e.identifier := by
    simp [FieldPredicate.params]
  constructor
  · rintro ⟨q, s, hq, hs⟩
    obtain ⟨keys, p, hkeys, hne, hp, rfl⟩ := Query.delete_eq_ok hq
    obtain ⟨p', hp', hvalues⟩ := exists_keysPredicate (o := o) hdeclared hne
    cases hp.symm.trans hp'
    have hdata := (data_bind_iff ht (hcolumn p)).1 ⟨s, hs⟩
    rw [hvalues] at hdata
    exact ⟨keys, hkeys, hne, hdata⟩
  · rintro ⟨keys, hkeys, hne, hdata⟩
    obtain ⟨p, hp, hvalues⟩ := exists_keysPredicate (o := o) hdeclared hne
    rw [← hvalues] at hdata
    have hq := delete_of_keys hkeys hne hp
    obtain ⟨s, hs⟩ := (data_bind_iff (q := ⟨_, _, _⟩) ht (hcolumn p)).2 hdata
    exact ⟨_, s, hq, hs⟩

end

/-! ## Every key once -/

/-- Data of the type are floating-point numbers, which have many forms for what is no number. -/
def SqlType.IsFloating (t : SqlType) : Prop := t.datumKind = .float ∨ t.datumKind = .double

instance (t : SqlType) : Decidable t.IsFloating := inferInstanceAs (Decidable (_ ∨ _))

theorem canonical_of_bind {t : SqlType} (ht : ¬ t.IsFloating) {v : Value} {d : Datum}
    (h : t.bind v = .ok d) : d.canonical = d := by
  have hkind := SqlType.kind_of_bind h
  cases d with
  | float x => exact absurd (.inl hkind.symm) ht
  | double x => exact absurd (.inr hkind.symm) ht
  | _ => rfl

/-- Some data, seen through `form`, are those that the supplied keys are bound to, each once. -/
structure SentOnce (form : Datum → Datum) (e : Entity) (t : SqlType) (items : List Item)
    (data : List Datum) : Prop where
  bound : ∀ v, SuppliedKey e items v → ∃ d, t.bind v = .ok d
  distinct : (data.map form).Nodup
  mem_iff : ∀ k, k ∈ data.map form ↔ ∃ v, SuppliedKey e items v ∧ form <$> t.bind v = .ok k

/-- Keys of other items are bound to the same data as those of some items, seen through `form`. -/
def SameKeys (form : Datum → Datum) (e : Entity) (t : SqlType) (items others : List Item) : Prop :=
  ∀ k, (∃ v, SuppliedKey e others v ∧ form <$> t.bind v = k) ↔
    ∃ v, SuppliedKey e items v ∧ form <$> t.bind v = k

/-- Some data are those of the supplied keys, and a delete of the same keys in other items, in
whatever order and however often, is sent the same data. -/
structure SendsKeys (form : Datum → Datum) (e : Entity) (o : Options) (t : SqlType)
    (items : List Item) (data : List Datum) : Prop extends SentOnce form e t items data where
  alike : ∀ others, NameRows e others → SameKeys form e t items others →
    ∃ q s, Query.delete e o others = .ok q ∧ q.bind e = .ok s ∧
      (s.data.map form).Perm (data.map form)

section

variable {t : SqlType} {form : Datum → Datum} {v : Value} {keys : List Value} {data : List Datum}
  (ht : e.sqlType? e.identifier = some t)
  (hform : ∀ v d, t.bind v = .ok d → form d = d.canonical)
include ht hform

/-- Keys are told apart by the data that they are sent as. -/
theorem keyIdentity_eq_bound_iff {k : Datum} :
    keyIdentity e e.identifier v = .bound k ↔ form <$> t.bind v = .ok k := by
  rw [Outcome.map_eq_ok_iff]
  cases hd : t.bind v with
  | ok d => simp [keyIdentity, ht, hd, Except.toOption, hform v d hd]
  | error reason => simp [keyIdentity, ht, hd, Except.toOption]

theorem sentOnce_of_keys (hkeys : deletedKeys e items = .ok keys)
    (hdata : keys.mapM t.bind = .ok data) : SentOnce form e t items data := by
  obtain ⟨hnodup, hmem⟩ := identities_deletedKeys hkeys
  have hidentities : (data.map form).map .bound = keys.map (keyIdentity e e.identifier) := by
    rw [List.map_map]
    refine Outcome.map_of_mapM hdata fun v _ d hd => ?_
    exact ((keyIdentity_eq_bound_iff ht hform).2 (by rw [hd]; rfl)).symm
  rw [← hidentities] at hnodup hmem
  refine ⟨fun v hv => ?_, List.Nodup.of_map _ hnodup, fun k => ?_⟩
  · -- Some key that is sent has the identity of `v`, which is therefore bound as well.
    obtain ⟨k, _, hk⟩ := List.mem_map.1 ((hmem _).2 ⟨v, hv, rfl⟩)
    have hbound := (keyIdentity_eq_bound_iff ht hform).1 hk.symm
    obtain ⟨d, hd, _⟩ := Outcome.map_eq_ok_iff.1 hbound
    exact ⟨d, hd⟩
  · have hbound : k ∈ data.map form ↔ .bound k ∈ (data.map form).map KeyIdentity.bound := by
      simp
    rw [hbound, hmem]
    exact exists_congr fun v => and_congr_right fun _ => keyIdentity_eq_bound_iff ht hform

/-- The same keys in other items are sent as the same data. -/
theorem exists_delete_of_sameKeys (h : SentOnce form e t items data) (hne : data ≠ [])
    {others : List Item} (hrows : NameRows e others) (hsame : SameKeys form e t items others) :
    ∃ q s, Query.delete e o others = .ok q ∧ q.bind e = .ok s ∧
      (s.data.map form).Perm (data.map form) := by
  obtain ⟨keys, hkeys⟩ := hrows.exists_deletedKeys
  have hsupplied : keys ≠ [] := by
    obtain ⟨d, hd⟩ := List.exists_mem_of_ne_nil data hne
    obtain ⟨v, hv⟩ := (h.mem_iff _).1 (List.mem_map_of_mem hd)
    obtain ⟨w, hw, _⟩ := (hsame _).2 ⟨v, hv⟩
    have hidentity := ((identities_deletedKeys hkeys).2 _).2 ⟨w, hw, rfl⟩
    rintro rfl
    cases hidentity
  have hbinds : ∀ w ∈ keys, ∃ d, t.bind w = .ok d := by
    intro w hw
    obtain ⟨v, hv, heq⟩ := (hsame _).1 ⟨w, supplied_of_mem_deletedKeys hkeys hw, rfl⟩
    obtain ⟨d, hd⟩ := h.bound v hv
    rw [hd] at heq
    obtain ⟨d', hd', _⟩ := Outcome.map_eq_ok_iff.1 heq.symm
    exact ⟨d', hd'⟩
  obtain ⟨found, hfound⟩ := Outcome.exists_mapM_iff.2 hbinds
  have hothers := sentOnce_of_keys ht hform hkeys hfound
  obtain ⟨q, s, hq, hs, rfl⟩ := (delete_bind_iff ht).2 ⟨keys, hkeys, hsupplied, hfound⟩
  refine ⟨q, s, hq, hs, (List.perm_ext_iff_of_nodup hothers.distinct h.distinct).2 fun k => ?_⟩
  rw [hothers.mem_iff, h.mem_iff]
  exact hsame (.ok k)

theorem sendsKeys_of_delete {q : Query} (h : Query.delete e o items = .ok q) {s : Statement}
    (hs : q.bind e = .ok s) : SendsKeys form e o t items s.data := by
  obtain ⟨keys, hkeys, hne, hdata⟩ := (delete_bind_iff ht).1 ⟨q, s, h, hs, rfl⟩
  have hsent := sentOnce_of_keys ht hform hkeys hdata
  have hsome : s.data ≠ [] := by
    intro hnil
    rw [hnil] at hdata
    exact hne (List.map_eq_nil_iff.1 (Outcome.mapM_eq_ok_iff.1 hdata))
  exact ⟨hsent, fun others => exists_delete_of_sameKeys ht hform hsent hsome⟩

end

/-- On a declared identifier, a delete that is bound is sent the data of the supplied keys, each of
them once, and what it is sent depends on these data only.  So it is for floating-point types as
well, where all that is no number is one key. -/
theorem sends_supplied_keys {t : SqlType} (ht : e.sqlType? e.identifier = some t) {q : Query}
    (h : Query.delete e o items = .ok q) {s : Statement} (hs : q.bind e = .ok s) :
    SendsKeys .canonical e o t items s.data ∧
      (¬ t.IsFloating → SendsKeys id e o t items s.data) := by
  refine ⟨sendsKeys_of_delete ht (fun _ _ _ => rfl) h hs, fun hfloating => ?_⟩
  exact sendsKeys_of_delete ht (fun _ _ hd => (canonical_of_bind hfloating hd).symm) h hs

/-- Keys of one integer column in three items, of many widths and in all forms. -/
def peopleKeys : List Item :=
  [.ofList [("id", .array [.int 1, .null .int, .bigInt 2])],
   .ofList [("name", .value (.string "a")), ("id", .value (.string " +1"))],
   .ofList [("id", .query (.compareAny .in_ [.tinyUnsigned 2, .string "3"]))]]

theorem sends_supplied_keys_people :
    ∃ q s, Query.delete people { chunkSize := 2 } peopleKeys = .ok q ∧ q.bind people = .ok s ∧
      s.data = [.int32 1, .int32 2, .int32 3] ∧
      SendsKeys id people { chunkSize := 2 } .int peopleKeys s.data := by
  obtain ⟨q, hq⟩ : ∃ q, Query.delete people { chunkSize := 2 } peopleKeys = .ok q := ⟨_, rfl⟩
  have hbind : Statement.data <$> q.bind people = .ok [.int32 1, .int32 2, .int32 3] := by
    cases hq
    decide +kernel
  obtain ⟨s, hs, hdata⟩ := Outcome.map_eq_ok_iff.1 hbind
  exact ⟨q, s, hq, hs, hdata, (sends_supplied_keys rfl hq hs).2 (by decide)⟩

end EntitySql
