import EntitySql.Proofs.Builder
import EntitySql.Proofs.Validation

/-!
# What the validation spares the binding

The validation looks at what callers give, and the binding at what comes out of a builder.  Once
items have passed the validation, their query is bound unless a column has no storage type: every
value that is sent was looked at before, or is a null.  Only patterns are made after that, so the
columns of a find that are matched by patterns have to take texts.

    c.validate items = .ok kept → b.build e o kept = .ok q → patterns are texts for text columns →
      q is bound, or a column of q has no storage type                (bind_validated)
-/

namespace EntitySql

/-! ## Parameters that can be bound -/

theorem Param.bind_of_fits {e : Entity} {a : Action} {p : Param} (h : e.Fits p.column p.value)
    {t : SqlType} (ht : e.sqlType? p.column = some t) : ∃ b, p.bind e a = .ok b := by
  obtain ⟨d, hd⟩ := h t ht
  refine ⟨⟨p.name, t, d⟩, ?_⟩
  simp only [bind, ht, hd]

/-- Parameters whose values are of the types of their columns are bound, unless a column has no
type. -/
theorem Params.bind_of_fits {e : Entity} {a : Action} {ps : Params}
    (h : ∀ p ∈ ps, e.Fits p.column p.value) :
    (∃ bs, ps.bind e a = .ok bs) ∨
      ∃ p ∈ ps, e.sqlType? p.column = none ∧
        ps.bind e a = refuse e.table a (.untypedColumn p.column) := by
  induction ps with
  | nil => exact .inl ⟨[], rfl⟩
  | cons p ps ih =>
    have hbind : Params.bind e a (p :: ps) = (do
        let b ← p.bind e a
        let bs ← Params.bind e a ps
        return b :: bs) := List.mapM_cons
    rw [hbind]
    cases ht : e.sqlType? p.column with
    | none =>
      refine .inr ⟨p, List.mem_cons_self, ht, ?_⟩
      rw [Param.bind_of_untyped ht]
      rfl
    | some t =>
      obtain ⟨b, hb⟩ := Param.bind_of_fits (a := a) (h p List.mem_cons_self) ht
      rw [hb]
      rcases ih fun q hq => h q (List.mem_cons_of_mem p hq) with ⟨bs, hbs⟩ | ⟨q, hq, hnone, hbs⟩
      · rw [hbs]
        exact .inl ⟨b :: bs, rfl⟩
      · rw [hbs]
        exact .inr ⟨q, List.mem_cons_of_mem p hq, hnone, rfl⟩

/-! ## Patterns -/

/-- A field can be matched by patterns: its column, if it has a storage type, is of character data,
and its values are texts and nulls. -/
structure Entity.TakesPatterns (e : Entity) (column : String) (f : FieldValue) : Prop where
  isText : ∀ t, e.sqlType? column = some t → t.isText = true
  texts : ∀ v ∈ f.values, v.isNull = true ∨ ∃ s, v = .string s

/-- Every text can be sent to a column of character data. -/
theorem SqlType.bind_string {t : SqlType} (h : t.isText = true) (s : String) :
    ∃ d, t.bind (.string s) = .ok d := by
  cases t with
  | char | nChar | varChar | nVarChar | text | uniqueIdentifier => exact ⟨.str s, rfl⟩
  | _ => cases h

theorem Entity.TakesPatterns.fits {e : Entity} {column : String} {f : FieldValue}
    (h : e.TakesPatterns column f) {v : Value} (hv : v ∈ f.values) (mode : LikeMode)
    (escape : Option Char) : e.Fits column (Predicate.patternOf mode escape v) := by
  rcases h.texts v hv with hnull | ⟨s, rfl⟩
  · obtain ⟨k, rfl⟩ := Value.isNull_iff.1 hnull
    exact fits_of_isNull rfl
  · exact fun t ht => SqlType.bind_string (h.isText t ht) _

/-! ## Queries -/

/-- The query on items that passed the validation of its action is bound, unless some column has no
storage type; no value of it is refused.  The fields that a find matches by patterns have to be
texts for columns of character data. -/
theorem bind_validated {e : Entity} {o : Options} {b : Builder} {key : String}
    {items kept : List Item} {q : Query} (hkept : (Call.mk e b.action key).validate items = .ok kept)
    (hpatterns : b.action = .find → ∀ i ∈ kept, ∀ entry ∈ i.entries, entry.2.operator = .like →
      e.TakesPatterns entry.1 entry.2)
    (h : b.build e o kept = .ok q) :
    (∃ s, q.bind e = .ok s) ∨
      ∃ p ∈ q.params, e.sqlType? p.column = none ∧
        q.bind e = refuse e.table b.action (.untypedColumn p.column) := by
  have hfits : ∀ p ∈ q.params, e.Fits p.column p.value := by
    intro p hp
    have hsupplied := b.supplied_of_build h hp
    generalize p.value = v at hsupplied
    cases hsupplied with
    | null hnull => exact Entity.fits_of_isNull hnull
    | value hi hf hop hv => exact Call.fits_of_validate hkept hi hf hop hv
    | pattern hfind hi hf hop hv => exact (hpatterns hfind _ hi _ hf hop).fits hv _ _
  rw [Query.bind, Builder.action_of_build h]
  rcases Params.bind_of_fits (a := b.action) hfits with ⟨bs, hbs⟩ | ⟨p, hp, hnone, hbs⟩
  · rw [hbs]
    exact .inl ⟨⟨q.sql, bs⟩, rfl⟩
  · rw [hbs]
    exact .inr ⟨p, hp, hnone, rfl⟩

/-- A pattern for the name, and a number among the keys that is given as a text. -/
def soughtPerson : Item :=
  .ofList [("name", .query ⟨.like, .scalar (.string "a"), some .contains⟩),
    ("id", .array [.string "1", .null .int])]

theorem bind_validated_people :
    (Call.mk people .find "id").validate
        [soughtPerson, .ofList [("name", .value (.null .string))]] = .ok [soughtPerson] ∧
      ∃ q, (Builder.find {}).build people {} [soughtPerson] = .ok q ∧
        ∃ s, q.bind people = .ok s := by
  have hkept : (Call.mk people (Builder.find {}).action "id").validate
      [soughtPerson, .ofList [("name", .value (.null .string))]] = .ok [soughtPerson] := rfl
  obtain ⟨q, hq⟩ : ∃ q, (Builder.find {}).build people {} [soughtPerson] = .ok q := ⟨_, rfl⟩
  have hpattern : people.TakesPatterns "name"
      (.query ⟨.like, .scalar (.string "a"), some .contains⟩) := by
    refine ⟨fun t ht => ?_, fun v hv => .inr ⟨"a", List.mem_singleton.1 hv⟩⟩
    cases ht
    rfl
  have htyped : ∀ p ∈ q.params, people.sqlType? p.column ≠ none := by
    cases hq
    decide
  refine ⟨hkept, q, hq, ?_⟩
  have hbind := bind_validated hkept (fun _ i hi entry hentry hop => by
    rw [List.mem_singleton.1 hi] at hentry
    have hentries : soughtPerson.entries =
        [("name", .query ⟨.like, .scalar (.string "a"), some .contains⟩),
          ("id", .array [.string "1", .null .int])] := rfl
    rw [hentries, List.mem_pair] at hentry
    rcases hentry with rfl | rfl
    · exact hpattern
    · cases hop) hq
  rcases hbind with hbound | ⟨p, hp, hnone, _⟩
  · exact hbound
  · exact absurd hnone (htyped p hp)

end EntitySql
