import EntitySql.Proofs.Coverage
import EntitySql.Proofs.Membership
import EntitySql.Proofs.Resolution

/-!
# Keys that no row has

The values of a foreign key are looked up by a find on the gateway of the table that it points to.
A value that no row has for its key is no error: the row that holds it is given no rows, and what
the other rows are given does not depend on it.  The find validates the values, though, as that of
any other caller: a value that the key column refuses, which can be no key, makes all of it fail.

    what a row is given depends on the row and on the tables alone      (resolved_eq)
    a find by keys succeeds if the key column accepts all of them, and only then
                                    (succeeds_find_keyItem, acceptsAll_of_find_keyItem)
    g.ToleratesUnmatched registry request rows ↔ the key columns take all values that are asked for
                                                            (toleratesUnmatched_iff)
-/

namespace EntitySql

/-! ## Tables and keys -/

/-- The gateway of a table takes a datum for a key: the column that it declares accepts it. -/
def Registry.Takes (registry : Registry) (table key : String) (d : Datum) : Prop :=
  ∃ gateway column, registry.byTable table = .ok gateway ∧
    gateway.entity.column? key = some column ∧ column.validate (Value.ofDatum d) true = .ok ()

/-- What the row holds for the foreign key denotes no key: the key column takes no datum that has
its join key. -/
def Registry.DenotesNone (registry : Registry) (fk : ForeignKey) (r : Row) : Prop :=
  ∀ d, d.joinKey? ≠ none → d.joinKey? = r.joinKey? fk.column →
    ¬ registry.Takes fk.table fk.key d

/-- The foreign key points to a column with a storage type, in a table that is registered with a
gateway without hooks. -/
def Registry.Serves (registry : Registry) (fk : ForeignKey) : Prop :=
  ∃ gateway, registry.byTable fk.table = .ok gateway ∧ gateway.hooks = .empty ∧
    (gateway.entity.sqlType? fk.key).isSome = true

/-- The column accepts some data, nulls aside. -/
def Column.AcceptsAll (column : Column) (ds : List Datum) : Prop :=
  ∀ d ∈ ds, (Value.ofDatum d).isNull = false → column.validate (Value.ofDatum d) true = .ok ()

/-- An item that asks for some keys. -/
def keyItem (key : String) (ds : List Datum) : Item :=
  Item.empty.set key (.array (ds.map Value.ofDatum))

namespace Backend

/-- The backend has a connection and an answer for every query. -/
structure NeverFails (b : Backend) : Prop where
  acquire : ∀ past, ∃ c, b.acquire past = .ok c
  query : ∀ c s past, ∃ rows, b.query c s past = .ok rows

/-- The backend holds tables: the key columns take the keys of their rows, and a find by keys finds
all rows that have one of them. -/
structure Holds (b : Backend) (registry : Registry) (fks : List ForeignKey)
    (stored : String → List Row) : Prop where
  keys : ∀ fk ∈ fks, ∀ r ∈ stored fk.table, ∀ d, r.get? fk.key = some d →
    d.joinKey? ≠ none → registry.Takes fk.table fk.key d
  finds : ∀ fk ∈ fks, ∀ gateway, registry.byTable fk.table = .ok gateway →
    ∀ ds past found events,
      gateway.find b [keyItem fk.key ds] {} past = (.ok found, events) →
        ∀ d ∈ ds, d.joinKey? ≠ none →
          found.filter (·.joinKey? fk.key = d.joinKey?) =
            (stored fk.table).filter (·.joinKey? fk.key = d.joinKey?)

end Backend

/-- Values that match nothing are no error. -/
structure Gateway.ToleratesUnmatched (g : Gateway) (registry : Registry)
    (request : RelationRequest) (rows : List Row) : Prop where
  /-- Resolving succeeds with every backend that never fails. -/
  resolves : ∀ b : Backend, b.NeverFails → (g.resolve b registry request rows).Succeeds
  /-- A row is given no rows for a value that denotes no key. -/
  own : ∀ (b : Backend) (stored : String → List Row),
    b.Holds registry (request.wanted g.entity.foreignKeys) stored →
    ∀ past resolved events, g.resolve b registry request rows past = (.ok resolved, events) →
      ∀ x ∈ resolved, ∀ fk ∈ request.wanted g.entity.foreignKeys,
        (∀ other ∈ request.wanted g.entity.foreignKeys, other.column = fk.column →
          registry.DenotesNone other x.row) →
        Dictionary.get? fk.column x.related = some []
  /-- What a row is given is the same whatever another row holds. -/
  others : ∀ (b : Backend) (stored : String → List Row),
    b.Holds registry (request.wanted g.entity.foreignKeys) stored →
    ∀ past resolved events, g.resolve b registry request rows past = (.ok resolved, events) →
      ∀ i r past' resolved' events',
        g.resolve b registry request (rows.set i r) past' = (.ok resolved', events') →
          ∀ j ≠ i, resolved'[j]? = resolved[j]?

/-! ## What rows are given -/

/-- A row with the rows of some tables that its foreign keys point to. -/
def relatedIn (fks : List ForeignKey) (stored : String → List Row) (r : Row) : Resolved :=
  ⟨r, Dictionary.ofEntries ((RelationTarget.ofKeys fks).flatMap fun t => t.columns.map fun c =>
    (c, (stored t.table).filter fun other =>
      r.joinKey? c ≠ none ∧ other.joinKey? t.key = r.joinKey? c))⟩

/-- Of a list without repetition of keys, what is made of one element is all that is made of those
with its key. -/
theorem flatMap_eq_of_nodup {α β κ : Type} {key : α → κ} {f : α → List β} {l : List α}
    (hnodup : (l.map key).Nodup) {a : α} (ha : a ∈ l)
    (hf : ∀ b ∈ l, key b ≠ key a → f b = []) : l.flatMap f = f a := by
  induction l with
  | nil => cases ha
  | cons b l ih =>
    obtain ⟨hnew, hrest⟩ := List.nodup_cons.1 hnodup
    rw [List.flatMap_cons]
    rcases List.mem_cons.1 ha with rfl | hmem
    · have hnone : l.flatMap f = [] := by
        rw [List.flatMap_eq_nil_iff]
        intro c hc
        refine hf c (List.mem_cons_of_mem _ hc) fun hkey => hnew ?_
        exact hkey ▸ List.mem_map_of_mem hc
      rw [hnone, List.append_nil]
    · have hne : key b ≠ key a := fun hkey => hnew (hkey ▸ List.mem_map_of_mem hmem)
      rw [hf b List.mem_cons_self hne, List.nil_append]
      exact ih hrest hmem fun c hc => hf c (List.mem_cons_of_mem b hc)

section

variable {b : Backend} {past events : List Event} {queries : List RelationQuery}
  {answers : List (List Row)}

theorem Answered.length_eq (h : Answered b past queries answers events) :
    answers.length = queries.length := by
  induction h with
  | nil => rfl
  | cons _ _ ih => rw [List.length_cons, List.length_cons, ih]

theorem Answered.map_fst (h : Answered b past queries answers events) :
    (queries.zip answers).map Prod.fst = queries :=
  List.map_fst_zip (Nat.le_of_eq h.length_eq.symm)

/-- Every answer is what the find of its query gives. -/
theorem Answered.exists_find (h : Answered b past queries answers events)
    {p : RelationQuery × List Row} (hp : p ∈ queries.zip answers) :
    ∃ past own, p.1.gateway.find b [p.1.filter] {} past = (.ok p.2, own) := by
  induction h with
  | nil => cases hp
  | cons first _ ih =>
    rcases List.mem_cons.1 hp with rfl | hp
    · exact ⟨_, _, first⟩
    · exact ih hp

end

section

variable {registry : Registry} {request : RelationRequest} {rows : List Row}
  {fks : List ForeignKey} {queries : List RelationQuery} {stored : String → List Row}
  {b : Backend}

theorem RelationTarget.filter_eq (hfilters : request.filters = []) (t : RelationTarget)
    (ds : List Datum) : t.filter request (ds.map Value.ofDatum) = keyItem t.key ds := by
  rw [RelationTarget.filter, hfilters]
  rfl

/-- Of the answers, one is to the reference of a foreign key for which a row has a value, and what
the row points to is found in it. -/
theorem exists_answer
    (hqueries : RelationQuery.ofTargets registry request rows (RelationTarget.ofKeys fks) =
      .ok queries) {past events : List Event} {answers : List (List Row)}
    (hanswered : Answered b past queries answers events) {fk : ForeignKey} (hfk : fk ∈ fks)
    {r : Row} (hr : r ∈ rows) {k : String} (hkey : r.joinKey? fk.column = some k) :
    ∃ p ∈ queries.zip answers, p.1.target.reference = fk.reference ∧
      pointedTo (queries.zip answers) r fk = p.2.filter (·.joinKey? fk.key = some k) := by
  have hreference := (mem_references_iff hqueries).2
    ⟨fk, hfk, rfl, r, hr, by rw [hkey]; exact Option.some_ne_none k⟩
  have hnodup := RelationQuery.nodup_map_reference hqueries
  have hfst : (queries.zip answers).map (·.1.target.reference) =
      queries.map (·.target.reference) := by
    conv_rhs => rw [← hanswered.map_fst, List.map_map]
    rfl
  rw [← hfst] at hreference hnodup
  obtain ⟨p, hp, hreference⟩ := List.mem_map.1 hreference
  refine ⟨p, hp, hreference, ?_⟩
  refine (flatMap_eq_of_nodup hnodup hp fun q _ hne => ?_).trans ?_
  · rw [hreference] at hne
    simp [hne]
  · simp [hreference, hkey]

/-- A foreign key of a row points to the rows of its table that have the value of the row. -/
theorem pointedTo_eq (hfilters : request.filters = [])
    (hqueries : RelationQuery.ofTargets registry request rows (RelationTarget.ofKeys fks) =
      .ok queries) (hholds : b.Holds registry fks stored) {past events : List Event}
    {answers : List (List Row)} (hanswered : Answered b past queries answers events)
    {fk : ForeignKey} (hfk : fk ∈ fks) {r : Row} (hr : r ∈ rows) :
    pointedTo (queries.zip answers) r fk = (stored fk.table).filter fun other =>
      r.joinKey? fk.column ≠ none ∧ other.joinKey? fk.key = r.joinKey? fk.column := by
  cases hkey : r.joinKey? fk.column with
  | none => simp [pointedTo, hkey]
  | some k =>
    obtain ⟨p, hp, hreference, hone⟩ := exists_answer hqueries hanswered hfk hr hkey
    obtain ⟨past, own, hfind⟩ := hanswered.exists_find hp
    have hq := (List.of_mem_zip hp).1
    obtain ⟨hgateway, hfilter⟩ := RelationQuery.of_mem_ofTargets hqueries hq
    obtain ⟨htarget, _⟩ :=
      (RelationQuery.mem_map_target_iff hqueries).1 (List.mem_map_of_mem (f := (·.target)) hq)
    have htable : p.1.target.table = fk.table := congrArg Prod.fst hreference
    have hkeys : p.1.target.key = fk.key := congrArg Prod.snd hreference
    -- The value of the row is among those that the query asks for.
    have hcolumn := (RelationTarget.mem_columns htarget).2 ⟨fk, hfk, hreference.symm, rfl⟩
    obtain ⟨d, hd, hdkey⟩ :=
      List.mem_map.1 (RelationTarget.some_mem_data.2 ⟨fk.column, hcolumn, r, hr, hkey⟩)
    rw [hfilter, RelationTarget.filter_eq hfilters, hkeys] at hfind
    rw [htable] at hgateway
    have hstored := hholds.finds fk hfk p.1.gateway hgateway _ _ _ _ hfind d hd
      (by rw [hdkey]; exact Option.some_ne_none k)
    rw [hdkey] at hstored
    rw [hone, hstored]
    simp

/-- The gateway of a target and the column that it has for the key. -/
theorem Registry.exists_column (hserved : ∀ fk ∈ fks, registry.Serves fk) {t : RelationTarget}
    (ht : t ∈ RelationTarget.ofKeys fks) :
    ∃ gateway column, registry.byTable t.table = .ok gateway ∧ gateway.hooks = .empty ∧
      gateway.entity.column? t.key = some column ∧ column.sqlType.isSome = true := by
  obtain ⟨fk, hfk, hreference⟩ := RelationTarget.exists_reference_iff.1 ⟨t, ht, rfl⟩
  obtain ⟨gateway, hgateway, hooks, htype⟩ := hserved fk hfk
  have htable : fk.table = t.table := congrArg Prod.fst hreference
  have hkey : fk.key = t.key := congrArg Prod.snd hreference
  rw [htable] at hgateway
  obtain ⟨sqlType, htype⟩ := Option.isSome_iff_exists.1 htype
  rw [hkey] at htype
  obtain ⟨column, hcolumn, htype⟩ := Option.bind_eq_some_iff.1 htype
  exact ⟨gateway, column, hgateway, hooks, hcolumn, by rw [htype]; rfl⟩

theorem exists_queries (hserved : ∀ fk ∈ fks, registry.Serves fk) (request : RelationRequest)
    (rows : List Row) :
    ∃ queries, RelationQuery.ofTargets registry request rows (RelationTarget.ofKeys fks) =
      .ok queries := by
  refine RelationQuery.exists_ofTargets fun t ht _ => ?_
  obtain ⟨gateway, _, hgateway, _⟩ := Registry.exists_column hserved ht
  exact ⟨gateway, hgateway⟩

variable {g : Gateway}

/-- What resolving gives for a row depends on the row and on the tables alone. -/
theorem resolved_eq (hfilters : request.filters = [])
    (hserved : ∀ fk ∈ request.wanted g.entity.foreignKeys, registry.Serves fk)
    (hholds : b.Holds registry (request.wanted g.entity.foreignKeys) stored)
    {past events : List Event} {resolved : List Resolved}
    (h : g.resolve b registry request rows past = (.ok resolved, events)) :
    resolved = rows.map (relatedIn (request.wanted g.entity.foreignKeys) stored) := by
  obtain ⟨queries, hqueries⟩ := exists_queries hserved request rows
  obtain ⟨answers, own, hanswered, _, rfl⟩ := (resolve_eq_ok_iff_lookup hqueries).1 h
  refine List.map_congr_left fun r hr => ?_
  have hplaces : ∀ p ∈ queries.zip answers, (p.1.target, p.1.place) ∈
      (RelationTarget.ofKeys (request.wanted g.entity.foreignKeys)).zipIdx := fun p hp =>
    RelationQuery.mem_zipIdx_of_mem_ofTargets hqueries (List.of_mem_zip hp).1
  rw [resolveRow_eq_ofEntries hplaces, relatedIn]
  refine congrArg (fun entries => Resolved.mk r (Dictionary.ofEntries entries)) ?_
  refine List.flatMap_congr fun t ht => List.map_congr_left fun c hc => ?_
  have hfk := RelationTarget.mk_mem_of_mem_columns ht hc
  exact congrArg (Prod.mk c) (pointedTo_eq hfilters hqueries hholds hanswered hfk hr)

/-- A row whose value denotes no key is given no rows for it. -/
theorem get?_relatedIn {fk : ForeignKey} (hholds : b.Holds registry fks stored) (hfk : fk ∈ fks)
    {r : Row} (hnone : ∀ other ∈ fks, other.column = fk.column → registry.DenotesNone other r) :
    Dictionary.get? fk.column (relatedIn fks stored r).related = some [] := by
  refine Dictionary.get?_ofEntries ?_ fun entry hentry hcolumn => ?_
  · obtain ⟨t, ht, hreference⟩ := RelationTarget.exists_reference_iff.2 ⟨fk, hfk, rfl⟩
    have hcolumn := (RelationTarget.mem_columns ht).2 ⟨fk, hfk, hreference.symm, rfl⟩
    exact ⟨_, List.mem_flatMap.2 ⟨t, ht, List.mem_map_of_mem hcolumn⟩, rfl⟩
  · obtain ⟨t, ht, hentry⟩ := List.mem_flatMap.1 hentry
    obtain ⟨c, hc, rfl⟩ := List.mem_map.1 hentry
    have hother := RelationTarget.mk_mem_of_mem_columns ht hc
    refine List.filter_eq_nil_iff.2 fun row hrow hmatches => ?_
    obtain ⟨hheld, hkey⟩ := of_decide_eq_true hmatches
    obtain ⟨k, hk⟩ := Option.ne_none_iff_exists'.1 hheld
    obtain ⟨d, hd, hdkey⟩ := Row.joinKey?_eq_some_iff.1 (hkey.trans hk)
    have hsome : d.joinKey? ≠ none := by rw [hdkey]; exact Option.some_ne_none k
    exact hnone _ hother hcolumn d hsome (hdkey.trans hk.symm)
      (hholds.keys _ hother row hrow d hd hsome)

end

/-! ## Finds by keys -/

theorem entries_keyItem (key : String) (ds : List Datum) :
    (keyItem key ds).entries = [(key, .array (ds.map Value.ofDatum))] := rfl

section

variable {e : Entity} {key : String} {column : Column} {ds : List Datum}
  (hcolumn : e.column? key = some column)

include hcolumn

/-- The validation of a find lets keys pass if the column accepts all of them, nulls aside. -/
theorem validate_keyItem_iff {identifier : String} {kept : List Item} :
    (Call.mk e .find identifier).validate [keyItem key ds] = .ok kept ↔
      kept = [keyItem key ds] ∧ column.AcceptsAll ds := by
  have hpresent : presentItems [keyItem key ds] = [keyItem key ds] := rfl
  have hfault : ∀ v, (Call.mk e .find identifier).valueFault? column .in_ v = none ↔
      (v.isNull = false → column.validate v true = .ok ()) := by
    intro v
    unfold Call.valueFault?
    cases v.isNull with
    | true => simp [Call.writes]
    | false =>
      rw [Bool.false_and, if_neg Bool.false_ne_true]
      cases hv : column.validate v true <;> simp [hv]
  have hadmits : (Call.mk e .find identifier).Admits (keyItem key ds) ↔ column.AcceptsAll ds := by
    have hfield : (Call.mk e .find identifier).Admits (keyItem key ds) ↔
        (Call.mk e .find identifier).fieldFault? column (.array (ds.map Value.ofDatum)) = none := by
      simp [Call.Admits, entries_keyItem, hcolumn]
    rw [hfield, Call.fieldFault?, List.findSome?_eq_none_iff]
    exact List.forall_mem_map.trans (forall₂_congr fun d _ => hfault _)
  rw [Call.validate_eq_ok_iff, hpresent]
  constructor
  · rintro ⟨rfl, _, h⟩
    exact ⟨rfl, hadmits.1 (h _ List.mem_cons_self)⟩
  · rintro ⟨rfl, h⟩
    refine ⟨rfl, nofun, fun i hi => ?_⟩
    rw [List.mem_singleton.1 hi]
    exact hadmits.2 h

/-- There is a query for keys. -/
theorem exists_find_keyItem (o : Options) :
    ∃ q, Query.find e o [keyItem key ds] {} = .ok q := by
  have hhas : e.hasColumn key = true := by rw [Entity.hasColumn, hcolumn]; rfl
  have hcondition : ∃ c, Condition.ofItems e o .find [keyItem key ds] = .ok c := by
    refine Outcome.exists_mapM_iff.2 fun (i, item) hi => ?_
    refine Outcome.exists_mapM_iff.2 fun ((name, f), field) hf => ?_
    have hi : i = keyItem key ds := List.mem_singleton.1 (List.fst_mem_of_mem_zipIdx hi)
    have hf : (name, f) ∈ i.entries := List.fst_mem_of_mem_zipIdx hf
    rw [hi, entries_keyItem] at hf
    obtain ⟨rfl, rfl⟩ := Prod.mk.inj (List.mem_singleton.1 hf)
    exact ⟨_, Outcome.map_eq_ok_iff.2 ⟨_, Predicate.ofField_of_ne_between (.inl hhas) nofun, rfl⟩⟩
  obtain ⟨c, hc⟩ := hcondition
  exact ⟨_, Outcome.bind_eq_ok_iff.2 ⟨c, hc, rfl⟩⟩

/-- Keys that the column accepts can be sent. -/
theorem exists_bind_keyItem {o : Options} (htype : column.sqlType.isSome = true)
    (hds : column.AcceptsAll ds) {q : Query} (hq : Query.find e o [keyItem key ds] {} = .ok q) :
    ∃ s, q.bind e = .ok s := by
  obtain ⟨c, hc, hq⟩ := Outcome.bind_eq_ok_iff.1 hq
  cases hq
  obtain ⟨t, ht⟩ := Option.isSome_iff_exists.1 htype
  have htyped : e.sqlType? key = some t := Option.bind_eq_some_iff.2 ⟨column, hcolumn, ht⟩
  have hbind : ∃ bs, Params.bind e .find c.params = .ok bs := by
    refine Outcome.exists_mapM_iff.2 fun p hp => ?_
    obtain ⟨g, hg, hp⟩ := List.mem_flatMap.1 hp
    obtain ⟨fp, hfp, hp⟩ := List.mem_flatMap.1 hp
    obtain ⟨slot, hslot, rfl⟩ := List.mem_map.1 hp
    obtain ⟨i, hi, item, field, f, hf, hfield⟩ := Condition.exists_ofField hc hg hfp
    rw [List.mem_singleton.1 hi, entries_keyItem] at hf
    obtain ⟨hname, rfl⟩ := Prod.mk.inj (List.mem_singleton.1 hf)
    have hvalue : slot.value ∈ ds.map Value.ofDatum := by
      have hmem : slot.value ∈ Predicate.slotValues fp.predicate.slots := List.mem_map_of_mem hslot
      rcases Predicate.slotValues_ofField hfield with hvalues | hvalues
      · rw [hvalues] at hmem
        cases hmem
      · have hcarried : (FieldValue.array (ds.map Value.ofDatum)).carried o =
            ds.map Value.ofDatum := if_neg (show ¬ Operator.in_ = .like by decide)
        rw [hvalues, hcarried] at hmem
        exact hmem
    obtain ⟨d, hd, hvalue⟩ := List.mem_map.1 hvalue
    refine Param.bind_of_fits (t := t) ?_ (by rw [hname, htyped])
    show e.Fits fp.column slot.value
    rw [hname, ← hvalue]
    cases hnull : (Value.ofDatum d).isNull with
    | true => exact Entity.fits_of_isNull hnull
    | false =>
      intro t' ht'
      rw [htyped] at ht'
      cases ht'
      exact column.bind_of_validate hnull (hds d hd hnull) ht
  obtain ⟨bs, hbs⟩ := hbind
  exact ⟨_, Outcome.map_eq_ok_iff.2 ⟨bs, hbs, rfl⟩⟩

end

namespace Backend

variable {b : Backend}

/-- A backend that answers every query with the same rows. -/
def listing (rows : List Row) : Backend where
  acquire _ := .ok ⟨0⟩
  begin? := none
  query _ _ _ := .ok rows
  exec _ _ _ := .ok 0
  commit _ _ := .ok ()
  rollback _ _ := .ok ()

theorem neverFails_listing (rows : List Row) : (listing rows).NeverFails :=
  ⟨fun _ => ⟨⟨0⟩, rfl⟩, fun _ _ _ => ⟨rows, rfl⟩⟩

theorem NeverFails.connect (hb : b.NeverFails) : b.connect.Succeeds := by
  intro past
  obtain ⟨c, hc⟩ := hb.acquire (past ++ [.acquire])
  exact ⟨c, [.acquire], Prod.ext hc rfl⟩

theorem NeverFails.fetch (hb : b.NeverFails) (c : Connection) (s : Statement) :
    (b.fetch c s).Succeeds := by
  intro past
  obtain ⟨rows, hrows⟩ := hb.query c s (past ++ [.query c s])
  exact ⟨rows, [.query c s], Prod.ext hrows rfl⟩

end Backend

namespace Gateway

variable {g : Gateway}

theorem prepare_of_empty (hooks : g.hooks = .empty) (c : Call) (items : List Item) :
    g.prepare c items = .ofExcept (c.validate items) := by
  rw [prepare, hooks]
  rfl

theorem succeeds_connect {b : Backend} (hb : b.NeverFails) : (g.connect b).Succeeds := by
  unfold connect
  cases g.session with
  | pooled => exact hb.connect.mapError _
  | bound c => exact Access.succeeds_pure c

theorem succeeds_finish (hooks : g.hooks = .empty) (c : Call) (result : CallResult) :
    (g.finish c result).Succeeds := by
  rw [finish, hooks]
  exact Access.succeeds_pure ()

variable {key : String} {column : Column} {ds : List Datum} {b : Backend}

/-- A find by keys that the column accepts succeeds, if the backend never fails. -/
theorem succeeds_find_keyItem (hooks : g.hooks = .empty)
    (hcolumn : g.entity.column? key = some column) (htype : column.sqlType.isSome = true)
    (hb : b.NeverFails) (hds : column.AcceptsAll ds) :
    (g.find b [keyItem key ds] {}).Succeeds := by
  have hvalidate : (g.call .find none).validate [keyItem key ds] = .ok [keyItem key ds] :=
    (validate_keyItem_iff hcolumn).2 ⟨rfl, hds⟩
  have hquery : ∃ q, Query.find g.entity g.options [keyItem key ds] {} = .ok q :=
    exists_find_keyItem hcolumn _
  obtain ⟨q, hq⟩ := hquery
  obtain ⟨s, hs⟩ := exists_bind_keyItem hcolumn htype hds hq
  unfold find
  dsimp only
  rw [prepare_of_empty hooks, hvalidate, Access.ofExcept_ok, pure_bind, hq, Access.ofExcept_ok,
    pure_bind, hs, Access.ofExcept_ok, pure_bind]
  refine (succeeds_connect hb).bind fun c => ((hb.fetch c s).mapError _).bind fun rows => ?_
  exact (succeeds_finish hooks _ _).bind fun _ => Access.succeeds_pure rows

/-- A find is given the rows that the backend answers with. -/
theorem eq_of_find_listing {rows found : List Row} {items : List Item} {page : Page}
    {past events : List Event}
    (h : g.find (.listing rows) items page past = (.ok found, events)) : found = rows := by
  obtain ⟨kept, _, _, _, h, _⟩ := Access.bind_eq_ok_iff.1 h
  obtain ⟨q, _, _, _, h, _⟩ := Access.bind_eq_ok_iff.1 h
  obtain ⟨s, _, _, _, h, _⟩ := Access.bind_eq_ok_iff.1 h
  obtain ⟨c, _, _, _, h, _⟩ := Access.bind_eq_ok_iff.1 h
  obtain ⟨answer, _, _, hfetch, h, _⟩ := Access.bind_eq_ok_iff.1 h
  obtain ⟨_, _, _, _, h, _⟩ := Access.bind_eq_ok_iff.1 h
  cases hfetch
  exact (Access.pure_eq_ok_iff.1 h).1

/-- The column accepts the keys of a find that succeeds. -/
theorem acceptsAll_of_find_keyItem (hooks : g.hooks = .empty)
    (hcolumn : g.entity.column? key = some column) {past events : List Event} {rows : List Row}
    (h : g.find b [keyItem key ds] {} past = (.ok rows, events)) : column.AcceptsAll ds := by
  obtain ⟨kept, _, _, hprepare, _⟩ := Access.bind_eq_ok_iff.1 h
  rw [prepare_of_empty hooks] at hprepare
  obtain ⟨hvalidate, _⟩ := Access.ofExcept_eq_ok_iff.1 hprepare
  exact ((validate_keyItem_iff hcolumn).1 hvalidate).2

end Gateway

/-! ## Resolving -/

section

variable {registry : Registry} {request : RelationRequest} {rows : List Row} {g : Gateway}
  {b : Backend} {fks : List ForeignKey}

theorem RelationQuery.succeeds_runAll {queries : List RelationQuery}
    (h : ∀ q ∈ queries, (q.gateway.find b [q.filter] {}).Succeeds) :
    (RelationQuery.runAll b queries).Succeeds := by
  induction queries with
  | nil => exact Access.succeeds_pure []
  | cons q queries ih =>
    refine (h q List.mem_cons_self).bind fun found => ?_
    refine (ih fun other hother => h other (List.mem_cons_of_mem q hother)).bind fun others => ?_
    exact Access.succeeds_pure _

/-- Resolving succeeds where the key columns take all values that are asked for. -/
theorem succeeds_of_takes (hfilters : request.filters = [])
    (hserved : ∀ fk ∈ request.wanted g.entity.foreignKeys, registry.Serves fk)
    (htakes : ∀ t ∈ RelationTarget.ofKeys (request.wanted g.entity.foreignKeys),
      ∀ d ∈ t.data rows, registry.Takes t.table t.key d) (hb : b.NeverFails) :
    (g.resolve b registry request rows).Succeeds := by
  obtain ⟨queries, hqueries⟩ := exists_queries hserved request rows
  have hfinds : ∀ q ∈ queries, (q.gateway.find b [q.filter] {}).Succeeds := by
    intro q hq
    obtain ⟨hgateway, hfilter⟩ := RelationQuery.of_mem_ofTargets hqueries hq
    obtain ⟨ht, _⟩ := (RelationQuery.mem_map_target_iff hqueries).1 (List.mem_map_of_mem hq)
    obtain ⟨gateway, column, hgateway', hooks, hcolumn, htype⟩ := Registry.exists_column hserved ht
    cases hgateway.symm.trans hgateway'
    rw [hfilter, RelationTarget.filter_eq hfilters]
    refine Gateway.succeeds_find_keyItem hooks hcolumn htype hb fun d hd _ => ?_
    obtain ⟨other, column', hother, hcolumn', hvalidate⟩ := htakes _ ht d hd
    cases hgateway.symm.trans hother
    cases hcolumn.symm.trans hcolumn'
    exact hvalidate
  have hwarn : (warnUnreferenced (request.unreferenced g.entity.foreignKeys)).Succeeds :=
    fun past => ⟨(), _, request.warn_eq g.entity.foreignKeys past⟩
  unfold Gateway.resolve
  dsimp only
  rw [hqueries, Access.ofExcept_ok]
  refine hwarn.bind fun _ => ?_
  rw [pure_bind]
  exact (RelationQuery.succeeds_runAll hfinds).bind fun _ => Access.succeeds_pure _

/-- Where resolving succeeds, the key columns take all values that are asked for. -/
theorem takes_of_resolve (hfilters : request.filters = [])
    (hserved : ∀ fk ∈ request.wanted g.entity.foreignKeys, registry.Serves fk)
    {past events : List Event} {resolved : List Resolved}
    (h : g.resolve b registry request rows past = (.ok resolved, events)) :
    ∀ t ∈ RelationTarget.ofKeys (request.wanted g.entity.foreignKeys), ∀ d ∈ t.data rows,
      registry.Takes t.table t.key d := by
  intro t ht d hd
  obtain ⟨queries, hqueries⟩ := exists_queries hserved request rows
  obtain ⟨answers, own, hanswered, _⟩ := (resolve_eq_ok_iff_lookup hqueries).1 h
  obtain ⟨q, hq, rfl⟩ := List.mem_map.1
    ((RelationQuery.mem_map_target_iff hqueries).2 ⟨ht, List.ne_nil_of_mem hd⟩)
  obtain ⟨hgateway, hfilter⟩ := RelationQuery.of_mem_ofTargets hqueries hq
  rw [← hanswered.map_fst] at hq
  obtain ⟨p, hp, rfl⟩ := List.mem_map.1 hq
  obtain ⟨past, own, hfind⟩ := hanswered.exists_find hp
  rw [hfilter, RelationTarget.filter_eq hfilters] at hfind
  obtain ⟨gateway, column, hgateway', hooks, hcolumn, _⟩ := Registry.exists_column hserved ht
  cases hgateway.symm.trans hgateway'
  refine ⟨_, column, hgateway, hcolumn, ?_⟩
  exact Gateway.acceptsAll_of_find_keyItem hooks hcolumn hfind d hd
    (RelationTarget.exists_of_mem_data hd).1

/-- With gateways without hooks, and typed key columns, values that match nothing are tolerated
just if the key columns take all values that are asked for. -/
theorem Gateway.toleratesUnmatched_iff (hfilters : request.filters = [])
    (hserved : ∀ fk ∈ request.wanted g.entity.foreignKeys, registry.Serves fk) :
    g.ToleratesUnmatched registry request rows ↔
      ∀ t ∈ RelationTarget.ofKeys (request.wanted g.entity.foreignKeys), ∀ d ∈ t.data rows,
        registry.Takes t.table t.key d := by
  constructor
  · intro h
    obtain ⟨resolved, events, hresolve⟩ := h.resolves (.listing []) (Backend.neverFails_listing []) []
    exact takes_of_resolve hfilters hserved hresolve
  · intro htakes
    constructor
    · exact fun b hb => succeeds_of_takes hfilters hserved htakes hb
    · intro b stored hholds past resolved events hresolve x hx fk hfk hnone
      rw [resolved_eq hfilters hserved hholds hresolve] at hx
      obtain ⟨r, _, rfl⟩ := List.mem_map.1 hx
      exact get?_relatedIn hholds hfk hnone
    · intro b stored hholds past resolved events hresolve i r past' resolved' events' hother j hj
      rw [resolved_eq hfilters hserved hholds hresolve,
        resolved_eq hfilters hserved hholds hother, List.getElem?_map, List.getElem?_map,
        List.getElem?_set_ne (Ne.symm hj)]

end

theorem points_to_authors : ∀ fk ∈ RelationRequest.wanted {} posts.entity.foreignKeys,
    fk.table = "authors" ∧ fk.key = "id" := by
  decide

theorem serves_authors : ∀ fk ∈ RelationRequest.wanted {} posts.entity.foreignKeys,
    authors.Serves fk := by
  intro fk hfk
  obtain ⟨htable, hkey⟩ := points_to_authors fk hfk
  unfold Registry.Serves
  rw [htable, hkey]
  exact ⟨_, rfl, rfl, rfl⟩

/-- The authors of two posts are looked up by integers of two widths, some of which may be those of
no author; a backend that lists two authors holds tables for them. -/
theorem Gateway.toleratesUnmatched_posts : posts.ToleratesUnmatched authors {} postRows ∧
    (Backend.listing [authorRow 3, authorRow 1]).Holds authors
      (RelationRequest.wanted {} posts.entity.foreignKeys) fun _ => [authorRow 3, authorRow 1] := by
  constructor
  · refine (toleratesUnmatched_iff rfl serves_authors).2 fun t ht d hd => ?_
    have hpoints :
        ∀ t ∈ RelationTarget.ofKeys (RelationRequest.wanted {} posts.entity.foreignKeys),
          t.table = "authors" ∧ t.key = "id" ∧ ∀ d ∈ t.data postRows,
            (Column.typed "id" .int).validate (Value.ofDatum d) true = .ok () := by
      decide +kernel
    obtain ⟨htable, hkey, hvalidate⟩ := hpoints t ht
    rw [htable, hkey]
    exact ⟨_, _, rfl, rfl, hvalidate d hd⟩
  · constructor
    · intro fk hfk r hr d hd _
      obtain ⟨htable, hkey⟩ := points_to_authors fk hfk
      rw [hkey] at hd
      rw [htable, hkey]
      refine ⟨_, _, rfl, rfl, ?_⟩
      have hvalidate : ∀ r ∈ [authorRow 3, authorRow 1], ∀ d ∈ r.get? "id",
          (Column.typed "id" .int).validate (Value.ofDatum d) true = .ok () := by
        decide +kernel
      exact hvalidate r hr d hd
    · intro fk _ gateway _ ds past found events hfind d _ _
      rw [eq_of_find_listing hfind]

/-- A post whose editor is out of the range of the keys, and one with an editor. -/
def misedited : List Row :=
  [⟨"", [⟨"editor", .int64 3000000000⟩]⟩, ⟨"", [⟨"editor", .int64 1⟩]⟩]

/-- The first post keeps the second one from its editor. -/
theorem Gateway.not_toleratesUnmatched_posts :
    ¬ posts.ToleratesUnmatched authors {} misedited := by
  intro h
  obtain ⟨resolved, events, hresolve⟩ := h.resolves (.listing []) (Backend.neverFails_listing []) []
  have htakes := takes_of_resolve rfl serves_authors hresolve
    ⟨"authors", "id", ["author", "editor"]⟩ (by decide) (.int64 3000000000) (by decide +kernel)
  obtain ⟨gateway, column, hgateway, hcolumn, hvalidate⟩ := htakes
  cases hgateway
  cases hcolumn
  have hrefuses : (Column.typed "id" .int).validate (.bigInt 3000000000) true ≠ .ok () := by
    decide +kernel
  exact hrefuses hvalidate

end EntitySql
