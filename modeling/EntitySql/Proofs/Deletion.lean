import EntitySql.Proofs.Membership
import EntitySql.Proofs.QueryText

/-!
# What a delete deletes

A delete deletes the rows whose identifier equals some key value of its items, and no others.
The condition that says so is lost in one case: where the entity does not declare its identifier
and conditions on such columns are ignored, the delete is of all rows.

    Query.delete e o items = .ok q →
      (DeletesOnlyKeys e items q ↔ e declares its identifier or columns are not ignored)
                                                            (deletesOnlyKeys_iff)
-/

namespace EntitySql

open EntitySql.Sql

/-! ## Keys -/

/-- A value that is not null and that some item gives for the identifier. -/
def SuppliedKey (e : Entity) (items : List Item) (v : Value) : Prop :=
  ∃ i ∈ items, ∃ f, i.get? e.identifier = some f ∧ v ∈ f.values ∧ v.isNull = false

/-- The text is a delete with a condition, and every row that the condition accepts has an
identifier equal to a supplied key.  It accepts a row if it is true, not if it is unknown. -/
def DeletesOnlyKeys (e : Entity) (items : List Item) (q : Query) : Prop :=
  ∃ condition, readBatch? q.sql = some [.delete e.table (some condition)] ∧
    ∀ (α : Type) (k : Collation α) (row : String → Option α) (denote : Value → Option α),
      condition.truth (q.params.context k row denote) = .holds →
        ∃ v, SuppliedKey e items v ∧ k.compare .eq (row e.identifier) (denote v) = .holds

/-- The keys of an item that is not refused are those by which its identifier names rows, and not
null. -/
theorem mem_deleted {e : Entity} {i : Item} {keys : List Value} (h : i.deleted e = .ok keys)
    {v : Value} (hv : v ∈ keys) :
    ∃ f vs, i.get? e.identifier = some f ∧ f.keys? = some vs ∧ v ∈ vs ∧ v.isNull = false := by
  unfold Item.deleted at h
  split at h
  · cases h
    simp at hv
  · next f hf =>
    split at h
    · cases h
    · next vs hvs =>
      cases h
      obtain ⟨hmem, hnull⟩ := List.mem_filter.1 hv
      exact ⟨f, vs, hf, hvs, hmem, by simpa using hnull⟩

theorem mem_deletedKeys {e : Entity} {items : List Item} {keys : List Value}
    (h : deletedKeys e items = .ok keys) {v : Value} (hv : v ∈ keys) :
    ∃ i ∈ items, ∃ f vs, i.get? e.identifier = some f ∧ f.keys? = some vs ∧ v ∈ vs ∧
      v.isNull = false := by
  obtain ⟨lists, hlists, rfl⟩ := Outcome.map_eq_ok_iff.1 h
  have hmem := (distinctBy_sublist (keyIdentity e e.identifier) lists.flatten).subset hv
  obtain ⟨keys, hkeys, hv⟩ := List.mem_flatten.1 hmem
  obtain ⟨i, hi, hdeleted⟩ := Outcome.mem_of_mapM hlists hkeys
  exact ⟨i, hi, mem_deleted hdeleted hv⟩

theorem supplied_of_mem_deletedKeys {e : Entity} {items : List Item} {keys : List Value}
    (h : deletedKeys e items = .ok keys) {v : Value} (hv : v ∈ keys) : SuppliedKey e items v := by
  obtain ⟨i, hi, f, vs, hf, hvs, hmem, hnull⟩ := mem_deletedKeys h hv
  rw [FieldValue.values_of_keys? hvs] at hmem
  exact ⟨i, hi, f, hf, hmem, hnull⟩

/-! ## Conditions -/

section

variable {e : Entity} {o : Options} {items : List Item} {q : Query}

/-- On an identifier that may be used, the condition accepts a row for a supplied key only. -/
theorem deletesOnlyKeys_of_usable
    (husable : e.hasColumn e.identifier = true ∨ o.columnMode = .off)
    (h : Query.delete e o items = .ok q) : DeletesOnlyKeys e items q := by
  obtain ⟨keys, p, hkeys, hne, hp, hparams, hstated⟩ := Query.stated_delete h
  refine ⟨p.tree, hstated.read, fun α k row denote hholds => ?_⟩
  have hnames := hstated.names
  rw [hparams] at hholds hnames
  have hop : (FieldValue.array keys).operator ∈ Predicate.memberships := by
    show Operator.in_ ∈ Predicate.memberships
    decide
  rw [Predicate.ofField_of_membership husable hop] at hp
  cases hp
  rw [Predicate.truth_tree, Predicate.truth_ofOperand _ denote hop fun s hs =>
    Params.parameter_context k row denote hnames (List.mem_map_of_mem hs)] at hholds
  have hany : Truth.any (keys.map fun v => k.compare .eq (row e.identifier) (denote v)) =
      .holds := hholds
  obtain ⟨v, hv, hequal⟩ := List.mem_map.1 ((Truth.any_eq_holds_iff _).1 hany)
  exact ⟨v, supplied_of_mem_deletedKeys hkeys hv, hequal⟩

/-- Where conditions on the identifier are ignored, the condition accepts every row. -/
theorem not_deletesOnlyKeys_of_ignored (hundeclared : e.hasColumn e.identifier = false)
    (hmode : o.columnMode = .ignore) (h : Query.delete e o items = .ok q) :
    ¬ DeletesOnlyKeys e items q := by
  obtain ⟨keys, p, hkeys, hne, hp, hparams, hstated⟩ := Query.stated_delete h
  have halways : p = .always true := by
    rw [Predicate.ofField, hundeclared, hmode] at hp
    cases hp
    rfl
  rintro ⟨condition, hread, hrows⟩
  have hcondition : condition = p.tree := by
    have heq := hread.symm.trans hstated.read
    simpa using heq
  -- A row without an identifier equals no key, yet it is accepted.
  obtain ⟨v, _, hequal⟩ := hrows Nat .naturals (fun _ => none) (fun _ => none) (by
    rw [hcondition, halways]
    exact truth_constantTree _ true)
  cases hequal

/-- A delete deletes no rows but those that its items name, unless the entity does not declare
its identifier and such columns are ignored. -/
theorem deletesOnlyKeys_iff (h : Query.delete e o items = .ok q) :
    DeletesOnlyKeys e items q ↔
      e.hasColumn e.identifier = true ∨ o.columnMode ≠ .ignore := by
  constructor
  · intro hdeletes
    by_contra hignored
    obtain ⟨hundeclared, hmode⟩ := not_or.1 hignored
    exact not_deletesOnlyKeys_of_ignored (by simpa using hundeclared) (not_not.1 hmode) h hdeletes
  · intro hcolumn
    refine deletesOnlyKeys_of_usable ?_ h
    obtain ⟨keys, p, hkeys, hne, hp, hparams, hstated⟩ := Query.stated_delete h
    cases hdeclared : e.hasColumn e.identifier with
    | true => exact .inl rfl
    | false =>
      -- A column mode that rejects the identifier would have refused the delete.
      rw [Predicate.ofField, hdeclared] at hp
      cases hmode : o.columnMode with
      | off => exact .inr rfl
      | ignore => simp [hdeclared, hmode] at hcolumn
      | reject =>
        rw [hmode] at hp
        cases hp

end

/-- People by a declared identifier, with one key given twice and a null. -/
theorem deletesOnlyKeys_iff_people :
    ∃ q, Query.delete people { columnMode := .ignore }
        [.ofList [("id", .array [.int 1, .null .int])], .ofList [("id", .value (.string "1"))]] =
          .ok q ∧
      q.sql = "DELETE FROM [people] WHERE [id] IN (@w0_0_0_0);" ∧
      (DeletesOnlyKeys people
        [.ofList [("id", .array [.int 1, .null .int])], .ofList [("id", .value (.string "1"))]] q ↔
          people.hasColumn "id" = true ∨ ColumnMode.ignore ≠ .ignore) := by
  obtain ⟨q, hq⟩ : ∃ q, Query.delete people { columnMode := .ignore }
      [.ofList [("id", .array [.int 1, .null .int])], .ofList [("id", .value (.string "1"))]] =
        .ok q := ⟨_, rfl⟩
  refine ⟨q, hq, ?_, deletesOnlyKeys_iff hq⟩
  cases hq
  decide +kernel

/-- People by an identifier that is not declared: the delete is of all of them. -/
theorem deletes_all_people :
    ∃ q, Query.delete { people with identifier := "code" } { columnMode := .ignore }
        [.ofList [("code", .value (.int 1))]] = .ok q ∧
      q.sql = "DELETE FROM [people] WHERE 1=1;" ∧
      ¬ DeletesOnlyKeys { people with identifier := "code" }
        [.ofList [("code", .value (.int 1))]] q := by
  obtain ⟨q, hq⟩ : ∃ q, Query.delete { people with identifier := "code" }
      { columnMode := .ignore } [.ofList [("code", .value (.int 1))]] = .ok q := ⟨_, rfl⟩
  refine ⟨q, hq, ?_, not_deletesOnlyKeys_of_ignored (by decide) rfl hq⟩
  cases hq
  decide +kernel

end EntitySql
