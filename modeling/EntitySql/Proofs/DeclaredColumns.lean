import EntitySql.Proofs.Builder

/-!
# The columns that a query names

Where conditions may not use columns that are not declared, a query that can be bound names only
declared columns: in its condition, in the columns that it writes and sets, and in the key that it
joins by.  The order of a find is the exception.  A page without an order is sorted by the
identifier if the entity does not have the default column, and nobody asks whether the identifier
is declared.

    ofField e o a item field column f = .ok p → o.columnMode ≠ .off →
      the columns of p.tree are declared                              (declared_tree)
    b.build e o items = .ok q → q.bind e = .ok s → o.columnMode ≠ .off →
      (NamesOnlyDeclared e q ↔ no page falls back to a column that is not declared)
                                                                      (namesOnlyDeclared_iff)
-/

namespace EntitySql

namespace Sql

/-! ## Columns of commands -/

mutual

def Expression.columns : Expression → List String
  | .atom a => (Expression.atom a).column?.toList
  | .choice test yes no => test.columns ++ (yes.columns ++ no.columns)

/-- The columns that a condition names, in order.  A list of values names none. -/
def SearchCondition.columns : SearchCondition → List String
  | .compare left _ right => left.columns ++ right.columns
  | .null e _ => e.columns
  | .like e pattern _ => e.columns ++ pattern.columns
  | .member e _ list => e.columns ++ list.flatMap fun a => (Expression.atom a).column?.toList
  | .between e low high => e.columns ++ (low.columns ++ high.columns)
  | .and c d => c.columns ++ d.columns
  | .or c d => c.columns ++ d.columns

end

def Command.columns : Command → List String
  | .select _ condition order _ =>
    condition.toList.flatMap SearchCondition.columns ++ order.map (·.column)
  | .insert _ columns _ => columns
  | .merge _ _ columns join assignments =>
    columns ++ (join :: assignments).flatMap fun l => [l.target, l.source]
  | .delete _ condition => condition.toList.flatMap SearchCondition.columns

theorem columns_conjoin (c : SearchCondition) (cs : List SearchCondition) :
    (SearchCondition.conjoin c cs).columns = (c :: cs).flatMap SearchCondition.columns := by
  induction cs generalizing c with
  | nil => simp [SearchCondition.conjoin]
  | cons d ds ih =>
    rw [SearchCondition.conjoin, SearchCondition.columns, ih]
    rfl

theorem columns_disjoin (c : SearchCondition) (cs : List SearchCondition) :
    (SearchCondition.disjoin c cs).columns = (c :: cs).flatMap SearchCondition.columns := by
  induction cs generalizing c with
  | nil => simp [SearchCondition.disjoin]
  | cons d ds ih =>
    rw [SearchCondition.disjoin, SearchCondition.columns, ih]
    rfl

end Sql

open EntitySql.Sql

/-! ## Conditions -/

def Entity.Declares (e : Entity) (columns : List String) : Prop :=
  ∀ c ∈ columns, e.hasColumn c = true

theorem columns_constantTree (holds : Bool) : (constantTree holds).columns = [] := rfl

theorem columns_joinedTree (negated : Bool) (trees : List SearchCondition) :
    (joinedTree negated trees).columns = trees.flatMap SearchCondition.columns := by
  cases trees with
  | nil => rfl
  | cons c cs =>
    cases negated with
    | false => exact columns_disjoin c cs
    | true => exact columns_conjoin c cs

/-- A predicate names no column but that of its field. -/
theorem Predicate.columns_tree {o : Options} {base column : String} {operator : Operator}
    {p : Predicate} (h : FieldForm o base column operator p) : ∀ c ∈ p.tree.columns, c = column := by
  intro c hc
  cases h with
  | always operator holds => cases (columns_constantTree holds ▸ hc)
  | null operator negated => exact List.mem_singleton.1 hc
  | compare comparison nonempty =>
    rw [tree, columns_joinedTree, List.flatMap_map] at hc
    obtain ⟨s, _, hc⟩ := List.mem_flatMap.1 hc
    exact List.mem_singleton.1 hc
  | like nonempty =>
    rw [tree, columns_joinedTree, List.flatMap_map] at hc
    obtain ⟨s, _, hc⟩ := List.mem_flatMap.1 hc
    exact List.mem_singleton.1 hc
  | between low high => exact List.mem_singleton.1 hc
  | member negated nonempty =>
    rw [tree, columns_joinedTree, List.flatMap_map] at hc
    obtain ⟨chunk, _, hc⟩ := List.mem_flatMap.1 hc
    simpa [SearchCondition.columns, Expression.columns, Expression.column?, List.flatMap_map]
      using hc

theorem columns_groupTree (g : List FieldPredicate) :
    (groupTree g).columns = g.flatMap (·.predicate.tree.columns) := by
  cases g with
  | nil => rfl
  | cons p ps =>
    rw [groupTree, columns_conjoin]
    show ((p :: ps).map (·.predicate.tree)).flatMap SearchCondition.columns = _
    rw [List.flatMap_map]

theorem columns_tree? (c : Condition) :
    (c.tree?.map Prod.snd).toList.flatMap SearchCondition.columns =
      c.flatten.flatMap (·.predicate.tree.columns) := by
  cases c with
  | nil => rfl
  | cons g gs =>
    show (Condition.tree g gs).columns ++ [] = _
    rw [List.append_nil, Condition.tree, columns_disjoin]
    show ((g :: gs).map groupTree).flatMap SearchCondition.columns = _
    rw [List.flatMap_map, List.flatten_eq_flatMap, List.flatMap_assoc]
    exact congrArg (List.flatMap · (g :: gs)) (funext columns_groupTree)

section

variable {e : Entity} {o : Options} {a : Action} (hmode : o.columnMode ≠ .off)

include hmode

/-- A field puts a condition on a declared column, or on no column at all. -/
theorem Predicate.declared_tree {item field : Nat} {column : String} {f : FieldValue}
    {p : Predicate} (h : ofField e o a item field column f = .ok p) : e.Declares p.tree.columns := by
  intro c hc
  cases hdeclared : e.hasColumn column with
  | true => rwa [columns_tree (fieldForm_ofField h) c hc]
  | false =>
    rw [ofField, hdeclared] at h
    cases hcolumns : o.columnMode with
    | off => exact absurd hcolumns hmode
    | reject =>
      rw [hcolumns] at h
      cases h
    | ignore =>
      rw [hcolumns] at h
      cases h
      cases (columns_constantTree true ▸ hc)

theorem declared_tree? {items : List Item} {c : Condition}
    (h : Condition.ofItems e o a items = .ok c) :
    e.Declares ((c.tree?.map Prod.snd).toList.flatMap SearchCondition.columns) := by
  intro column hcolumn
  rw [columns_tree?] at hcolumn
  obtain ⟨p, hp, hcolumn⟩ := List.mem_flatMap.1 hcolumn
  obtain ⟨g, hg, hp⟩ := List.mem_flatten.1 hp
  obtain ⟨_, _, item, field, f, _, hfield⟩ := Condition.exists_ofField h hg hp
  exact Predicate.declared_tree hmode hfield column hcolumn

end

/-! ## Orders -/

/-- The order of a page is of declared columns, unless it falls back to a column that is not
declared. -/
theorem declared_terms {e : Entity} {o : Options} {page : Page} {terms : List OrderTerm}
    (h : page.terms e o = .ok terms) :
    e.Declares (terms.map (·.column)) ↔
      (page.order = [] → page.isBounded = true →
        e.hasColumn o.defaultOrder = true ∨ e.hasColumn e.identifier = true) := by
  have hdefault : e.hasColumn (Page.defaultColumn e o) = true ↔
      e.hasColumn o.defaultOrder = true ∨ e.hasColumn e.identifier = true := by
    unfold Page.defaultColumn
    split
    · next hcolumn => exact ⟨fun _ => .inl hcolumn, fun _ => hcolumn⟩
    · next hcolumn => exact ⟨.inr, fun hor => hor.resolve_left hcolumn⟩
  unfold Page.terms at h
  split at h
  · cases h
  next hnone =>
  split at h
  · next hbounded =>
    cases h
    obtain ⟨hempty, hbounded⟩ := Bool.and_eq_true_iff.1 hbounded
    rw [← hdefault]
    constructor
    · exact fun hterms _ _ => hterms _ List.mem_cons_self
    · intro hcolumn c hc
      rw [List.mem_singleton.1 hc]
      exact hcolumn (List.isEmpty_iff.1 hempty) hbounded
  · next hunbounded =>
    cases h
    refine ⟨fun _ hempty hbounded => ?_, fun _ c hc => ?_⟩
    · rw [hempty, hbounded] at hunbounded
      exact absurd rfl hunbounded
    · obtain ⟨t, ht, rfl⟩ := List.mem_map.1 hc
      simpa using List.find?_eq_none.1 hnone t ht

/-! ## Written columns -/

/-- The columns of parameters that can be bound are declared. -/
theorem declared_of_bind {e : Entity} {q : Query} {s : Statement} (h : q.bind e = .ok s) :
    e.Declares (q.params.map (·.column)) := by
  intro c hc
  obtain ⟨p, hp, rfl⟩ := List.mem_map.1 hc
  obtain ⟨bs, hbs, _⟩ := Outcome.map_eq_ok_iff.1 h
  obtain ⟨b, hb⟩ := Outcome.exists_mapM_iff.1 ⟨bs, hbs⟩ p hp
  cases ht : e.sqlType? p.column with
  | none =>
    rw [Param.bind_of_untyped ht] at hb
    cases hb
  | some t =>
    obtain ⟨column, hcolumn, _⟩ := Option.bind_eq_some_iff.1 ht
    exact Option.isSome_iff_exists.2 ⟨column, hcolumn⟩

/-- The columns of written rows are those of their parameters. -/
theorem declared_of_ofGroups {e : Entity} {table : String} {a : Action} {row : Nat}
    {groups : List ShapeGroup} (hgroups : ∀ g ∈ groups, g.items ≠ []) {vs : List Values}
    (h : Values.ofGroups table a row groups = .ok vs)
    (hparams : e.Declares ((vs.flatMap Values.params).map (·.column))) {v : Values} (hv : v ∈ vs) :
    e.Declares v.columns := by
  intro c hc
  obtain ⟨g, hg, hwritten⟩ := Values.written_of_mem_ofGroups h hv
  obtain ⟨cells, hcells⟩ := List.exists_mem_of_ne_nil _ (hwritten.rows_ne_nil (hgroups g hg))
  rw [← hwritten.cells cells hcells] at hc
  obtain ⟨p, hp, rfl⟩ := List.mem_map.1 hc
  refine hparams _ (List.mem_map_of_mem (List.mem_flatMap.2 ⟨v, hv, ?_⟩))
  exact List.mem_flatten.2 ⟨cells, hcells, hp⟩

theorem declared_of_insert {e : Entity} {o : Options} {items : List Item} {q : Query}
    (h : Query.insert e o items = .ok q) (hparams : e.Declares (q.params.map (·.column))) :
    ∃ commands, q.Stated commands ∧ ∀ command ∈ commands, e.Declares command.columns := by
  obtain ⟨vs, hvs, rfl, hstated⟩ := Query.stated_insert h
  refine ⟨_, hstated, fun command hcommand => ?_⟩
  obtain ⟨v, hv, rfl⟩ := List.mem_map.1 hcommand
  refine declared_of_ofGroups (fun piece hpiece => ?_) hvs hparams hv
  obtain ⟨g, hg, hpiece⟩ := List.mem_flatMap.1 hpiece
  exact (ShapeGroup.fromItems_split (ShapeGroup.fromItems_of_mem_ofItems hg) hpiece).nonempty

/-- The key of an update is declared where columns have to be. -/
theorem hasColumn_of_update {e : Entity} {o : Options} {items : List Item} {key : String} {q : Query}
    (hmode : o.columnMode ≠ .off) (h : Query.update e o items key = .ok q) :
    e.hasColumn key = true := by
  by_contra hkey
  unfold Query.update at h
  rw [if_pos ⟨hmode, by simpa using hkey⟩] at h
  cases h

theorem declared_of_update {e : Entity} {o : Options} {items : List Item} {key : String} {q : Query}
    (hmode : o.columnMode ≠ .off) (h : Query.update e o items key = .ok q)
    (hparams : e.Declares (q.params.map (·.column))) :
    ∃ commands, q.Stated commands ∧ ∀ command ∈ commands, e.Declares command.columns := by
  have hkey := hasColumn_of_update hmode h
  obtain ⟨rows, vs, hrows, hvs, rfl, hstated⟩ := Query.stated_update h
  refine ⟨_, hstated, fun command hcommand => ?_⟩
  obtain ⟨v, hv, rfl⟩ := List.mem_map.1 hcommand
  have hcolumns : e.Declares v.columns := by
    refine declared_of_ofGroups (fun g hg => ?_) hvs hparams hv
    exact (ShapeGroup.fromItems_of_mem_ofItems (List.mem_filter.1 hg).1).nonempty
  intro c hc
  rcases List.mem_append.1 hc with hc | hc
  · exact hcolumns c hc
  · obtain ⟨link, hlink, hc⟩ := List.mem_flatMap.1 hc
    have hsame : ∃ d, e.hasColumn d = true ∧ link = ⟨d, d⟩ := by
      rcases List.mem_cons.1 hlink with rfl | hlink
      · exact ⟨key, hkey, rfl⟩
      · obtain ⟨d, hd, rfl⟩ := List.mem_map.1 hlink
        exact ⟨d, hcolumns d (List.mem_filter.1 hd).1, rfl⟩
    obtain ⟨d, hd, rfl⟩ := hsame
    rcases List.mem_pair.1 hc with rfl | rfl
    · exact hd
    · exact hd

/-! ## Queries -/

/-- The text is read as commands that name no column but declared ones. -/
def NamesOnlyDeclared (e : Entity) (q : Query) : Prop :=
  ∃ commands, readBatch? q.sql = some commands ∧ ∀ command ∈ commands, e.Declares command.columns

theorem namesOnlyDeclared_iff_of_stated {e : Entity} {q : Query} {commands : List Command}
    (h : q.Stated commands) :
    NamesOnlyDeclared e q ↔ ∀ command ∈ commands, e.Declares command.columns := by
  constructor
  · rintro ⟨others, hread, hdeclared⟩
    have hsame : commands = others := Option.some.inj (h.read.symm.trans hread)
    rwa [hsame]
  · exact fun hdeclared => ⟨commands, h.read, hdeclared⟩

theorem namesOnlyDeclared_find {e : Entity} {o : Options} {items : List Item} {page : Page}
    {q : Query} (ho : o.check = .ok ()) (hmode : o.columnMode ≠ .off)
    (h : Query.find e o items page = .ok q) :
    NamesOnlyDeclared e q ↔
      (page.order = [] → page.isBounded = true →
        e.hasColumn o.defaultOrder = true ∨ e.hasColumn e.identifier = true) := by
  obtain ⟨c, terms, hc, hterms, _, hstated⟩ := Query.stated_find ho h
  rw [namesOnlyDeclared_iff_of_stated hstated, ← declared_terms hterms, List.forall_mem_singleton]
  constructor
  · exact fun hdeclared column hcolumn => hdeclared column (List.mem_append_right _ hcolumn)
  · intro hdeclared column hcolumn
    rcases List.mem_append.1 hcolumn with hcolumn | hcolumn
    · exact declared_tree? hmode hc column hcolumn
    · exact hdeclared column hcolumn

theorem namesOnlyDeclared_delete {e : Entity} {o : Options} {items : List Item} {q : Query}
    (hmode : o.columnMode ≠ .off) (h : Query.delete e o items = .ok q) : NamesOnlyDeclared e q := by
  obtain ⟨keys, p, _, _, hfield, _, hstated⟩ := Query.stated_delete h
  refine ⟨_, hstated.read, fun command hcommand => ?_⟩
  rw [List.mem_singleton.1 hcommand]
  show e.Declares (p.tree.columns ++ [])
  rw [List.append_nil]
  exact Predicate.declared_tree hmode hfield

/-- A query that can be bound names only declared columns, where conditions may not use others.  The
one exception is a page without an order, of an entity that declares neither the default column nor
its identifier. -/
theorem namesOnlyDeclared_iff {e : Entity} {o : Options} {b : Builder} {items : List Item} {q : Query}
    {s : Statement} (ho : o.check = .ok ()) (hmode : o.columnMode ≠ .off)
    (h : b.build e o items = .ok q) (hbind : q.bind e = .ok s) :
    NamesOnlyDeclared e q ↔
      ∀ page, b = .find page → page.order = [] → page.isBounded = true →
        e.hasColumn o.defaultOrder = true ∨ e.hasColumn e.identifier = true := by
  have hparams := declared_of_bind hbind
  cases b with
  | find page =>
    rw [namesOnlyDeclared_find ho hmode h]
    constructor
    · rintro hpage _ ⟨⟩
      exact hpage
    · exact fun hpage => hpage page rfl
  | insert =>
    obtain ⟨commands, hstated, hdeclared⟩ := declared_of_insert h hparams
    exact ⟨fun _ => nofun, fun _ => ⟨commands, hstated.read, hdeclared⟩⟩
  | update key =>
    obtain ⟨commands, hstated, hdeclared⟩ := declared_of_update hmode h hparams
    exact ⟨fun _ => nofun, fun _ => ⟨commands, hstated.read, hdeclared⟩⟩
  | delete =>
    exact ⟨fun _ => nofun, fun _ => namesOnlyDeclared_delete hmode h⟩

/-- A page of people by their identifier, which is declared, and one of those with some names. -/
theorem namesOnlyDeclared_iff_people :
    ∃ q s, (Builder.find { limit := some 5 }).build people {} peopleItems = .ok q ∧
      q.bind people = .ok s ∧ NamesOnlyDeclared people q := by
  obtain ⟨q, hq⟩ : ∃ q, (Builder.find { limit := some 5 }).build people {} peopleItems = .ok q :=
    ⟨_, rfl⟩
  obtain ⟨s, hs⟩ : ∃ s, q.bind people = .ok s := by
    cases hq
    exact ⟨_, rfl⟩
  refine ⟨q, s, hq, hs, (namesOnlyDeclared_iff (by decide) (by decide) hq hs).2 ?_⟩
  exact fun _ _ _ _ => .inr (by decide)

def tags : Entity :=
  Declaration.entity { name := "tag", table := some "tags", columns := [.typed "name" .nVarChar] }

/-- A page of tags is sorted by a column that the table does not have. -/
theorem not_namesOnlyDeclared_tags :
    ∃ q s, (Builder.find { limit := some 5 }).build tags {} [] = .ok q ∧ q.bind tags = .ok s ∧
      s.sql = "SELECT * FROM [tags] ORDER BY [id] ASC OFFSET 0 ROWS FETCH NEXT 5 ROWS ONLY;" ∧
      tags.hasColumn "id" = false ∧ ¬ NamesOnlyDeclared tags q := by
  obtain ⟨q, hq⟩ : ∃ q, (Builder.find { limit := some 5 }).build tags {} [] = .ok q := ⟨_, rfl⟩
  obtain ⟨s, hs⟩ : ∃ s, q.bind tags = .ok s := by
    cases hq
    exact ⟨_, rfl⟩
  refine ⟨q, s, hq, hs, ?_, by decide, fun hnames => ?_⟩
  · cases hq
    cases hs
    decide +kernel
  · have hdeclared := (namesOnlyDeclared_find (by decide) (by decide) hq).1 hnames rfl rfl
    revert hdeclared
    decide

end EntitySql
