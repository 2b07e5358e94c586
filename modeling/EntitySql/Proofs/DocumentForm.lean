import EntitySql.Item.Document
import EntitySql.Proofs.Alike
import EntitySql.Proofs.ItemHistory
import EntitySql.Proofs.Vocabulary
import EntitySql.Proofs.WellFormedJson

/-!
# The form of input documents

The language of the documents that are taken for inputs, and the input that each of them stands
for.  A document is null, an object or an array of objects; what an object says of a column is a
scalar, an array of scalars, or a query: an object with an operator, perhaps with a value, and
perhaps with a pattern mode, which may also be null.  What the reader accepts is this language and
more: a mode that is neither null nor a text is passed over, where the language has no such query.

    Documented json input ↔ ofJson json = .ok input ∧ json.PlainModes       (documented_iff)
    Documented json input → input.toJson? = some of a document that stands for the input
                                                                            (exists_toJson?)
    ReadsAsDocumented json ↔ (json is accepted → json.PlainModes)           (readsAsDocumented_iff)
-/

namespace EntitySql

open List (Forall₂)

/-! ## The language -/

/-- A scalar stands for a value.  An integer stands for itself: with a sign where it has 64 bits
with one, and without a sign only where it has not. -/
inductive Value.Documented : Json → Value → Prop
  | null : Documented .null .untypedNull
  | bool (b : Bool) : Documented (.bool b) (.bool b)
  | string (s : String) : Documented (.string s) (.string s)
  | double (x : Binary64) : Documented (.float x) (.double x)
  | signed (n : Int64) : Documented (.integer n.toInt) (.bigInt n)
  | unsigned {n : UInt64} (large : Int64.maxValue.toInt < n.toNat) :
      Documented (.integer n.toNat) (.bigUnsigned n)

/-- The value of a query, or none, stands for an operand. -/
inductive Operand.Documented : Option Json → Operand → Prop
  | absent : Documented none (.scalar .untypedNull)
  | scalar {json : Json} {v : Value} (h : v.Documented json) : Documented (some json) (.scalar v)
  | array {items : List Json} {vs : List Value} (h : Forall₂ Value.Documented items vs) :
      Documented (some (.array items)) (.array vs)

/-- The mode of a query, or none, stands for a pattern mode, or none. -/
inductive LikeMode.Documented : Option Json → Option LikeMode → Prop
  | absent : Documented none none
  | null : Documented (some .null) none
  | named {s : String} {m : LikeMode} (h : m.Names s) : Documented (some (.string s)) (some m)

/-- What an object says of a column stands for a field value. -/
inductive FieldValue.Documented : Json → FieldValue → Prop
  | value {json : Json} {v : Value} (h : v.Documented json) : Documented json (.value v)
  | array {items : List Json} {vs : List Value} (h : Forall₂ Value.Documented items vs) :
      Documented (.array items) (.array vs)
  | query {json : Json} {s : String} {o : Operator} {operand : Operand} {like : Option LikeMode}
      (named : json.field? "operator" = some (.string s)) (spells : o.Spells s)
      (value : operand.Documented (json.field? "value"))
      (mode : LikeMode.Documented (json.field? "like") like) :
      Documented json (.query ⟨o, operand, like⟩)

/-- An object stands for an item: its fields for the entries, in order and under the same names. -/
inductive Item.Documented : Json → Item → Prop
  | object {fields : List (String × Json)} {i : Item}
      (h : Forall₂ (fun f e => f.1 = e.1 ∧ e.2.Documented f.2) fields i.entries) :
      Documented (.object fields) i

inductive Input.Documented : Json → Input → Prop
  | none : Documented .null .none
  | one {json : Json} {i : Item} (h : i.Documented json) : Documented json (.one i)
  | many {items : List Json} {is : List Item} (h : Forall₂ Item.Documented items is) :
      Documented (.array items) (.many is)

/-! ## What is passed over -/

/-- A pattern mode is left out, or it is null or a text. -/
def LikeMode.IsPlain (like : Option Json) : Prop :=
  ∀ json ∈ like, json = .null ∨ ∃ s, json = .string s

namespace Json

/-- An object with an operator has a plain mode. -/
def HasPlainMode (json : Json) : Prop :=
  json.field? "operator" ≠ none → LikeMode.IsPlain (json.field? "like")

def fields : Json → List (String × Json)
  | .object fields => fields
  | _ => []

/-- The items of an array, or the document itself. -/
def items : Json → List Json
  | .array items => items
  | json => [json]

/-- Every query that a document has for a column has a plain mode. -/
def PlainModes (json : Json) : Prop := ∀ item ∈ json.items, ∀ f ∈ item.fields, f.2.HasPlainMode

end Json

/-! ## What is read -/

theorem Value.documented_iff {json : Json} (hjson : json.WellFormed) {v : Value} :
    Documented json v ↔ ofJson json = .ok v := by
  constructor
  · intro h
    cases h with
    | signed n =>
      have hlow : Int64.minValue.toInt ≤ n.toInt := n.minValue_le_toInt
      have hhigh : n.toInt ≤ Int64.maxValue.toInt := n.toInt_le
      rw [ofJson, ofInteger, if_pos ⟨hlow, hhigh⟩, Int64.ofInt_toInt]
    | @unsigned n large =>
      have hword : (0 : Int) ≤ n.toNat ∧ (n.toNat : Int) < UInt64.size :=
        ⟨Int.natCast_nonneg _, Int.ofNat_lt.2 n.toNat_lt_size⟩
      rw [ofJson, ofInteger, if_neg (fun h => by omega), if_pos hword, Int.toNat_natCast,
        UInt64.ofNat_toNat]
    | _ => rfl
  · intro h
    cases hjson with
    | @integer n hn =>
      cases h
      rw [ofInteger]
      by_cases hsigned : Int64.minValue.toInt ≤ n ∧ n ≤ Int64.maxValue.toInt
      · have hn' : (Int64.ofInt n).toInt = n :=
          Option.some.inj (integer?_of_ofInteger? (k := .bigInt) (if_pos hsigned))
        rw [if_pos hsigned]
        have h := Documented.signed (Int64.ofInt n)
        rwa [hn'] at h
      · have hunsigned := hn.resolve_left hsigned
        have hlarge : Int64.maxValue.toInt < n := by
          have hmin : Int64.minValue.toInt ≤ 0 := by decide
          omega
        have hn' : ((UInt64.ofNat n.toNat).toNat : Int) = n :=
          Option.some.inj (integer?_of_ofInteger? (k := .bigUnsigned) (if_pos hunsigned))
        rw [if_neg hsigned, if_pos hunsigned]
        have h := Documented.unsigned (hn'.symm ▸ hlarge)
        rwa [hn'] at h
    | array | object => cases h
    | null => cases h; exact .null
    | bool => cases h; exact .bool _
    | float => cases h; exact .double _
    | string => cases h; exact .string _

theorem Value.forall₂_documented_iff {items : List Json} (hitems : ∀ item ∈ items, item.WellFormed)
    {vs : List Value} : Forall₂ Documented items vs ↔ items.mapM ofJson = .ok vs := by
  rw [Outcome.forall₂_mapM_iff]
  exact forall₂_congr_mem fun item hitem v => documented_iff (hitems item hitem)

theorem Operand.documented_iff {json : Option Json} (hjson : ∀ inner ∈ json, inner.WellFormed)
    {operand : Operand} : Documented json operand ↔ ofJson json = .ok operand := by
  constructor
  · intro h
    cases h with
    | absent => rfl
    | @scalar json v h =>
      have hscalar : ofJson (some json) = scalar <$> Value.ofJson json := by
        cases h <;> rfl
      rw [hscalar, (Value.documented_iff (hjson json rfl)).1 h]
      rfl
    | array h =>
      rw [ofJson, (Value.forall₂_documented_iff (Json.wellFormed_array.1 (hjson _ rfl))).1 h]
      rfl
  · intro h
    unfold ofJson at h
    split at h
    · cases h
      exact .absent
    · obtain ⟨vs, hvs, rfl⟩ := Outcome.map_eq_ok_iff.1 h
      exact .array ((Value.forall₂_documented_iff (Json.wellFormed_array.1 (hjson _ rfl))).2 hvs)
    · obtain ⟨v, hv, rfl⟩ := Outcome.map_eq_ok_iff.1 h
      exact .scalar ((Value.documented_iff (hjson _ rfl)).2 hv)

theorem recognize_eq_ok_iff {α : Type} {word : Except Unrecognized α} {a : α} :
    recognize word = .ok a ↔ word = .ok a := by
  cases word <;> simp [recognize, DocumentFault.here]

/-- A mode is read as the language has it, but for those that are not plain. -/
theorem LikeMode.documented_iff {json : Option Json} {like : Option LikeMode} :
    Documented json like ↔ ofJson json = .ok like ∧ IsPlain json := by
  constructor
  · intro h
    cases h with
    | absent => exact ⟨rfl, by simp [IsPlain]⟩
    | null => exact ⟨rfl, by simp [IsPlain]⟩
    | named h =>
      rw [ofJson, recognize_eq_ok_iff.2 (parse_eq_ok_iff.2 h)]
      exact ⟨rfl, by simp [IsPlain]⟩
  · rintro ⟨h, hplain⟩
    cases json with
    | none =>
      cases h
      exact .absent
    | some json =>
      rcases hplain json rfl with rfl | ⟨s, rfl⟩
      · cases h
        exact .null
      · obtain ⟨m, hm, rfl⟩ := Outcome.map_eq_ok_iff.1 h
        exact .named (parse_eq_ok_iff.1 (recognize_eq_ok_iff.1 hm))

theorem FieldQuery.ofJson_eq_ok_iff {operator json : Json} {q : FieldQuery} :
    ofJson operator json = .ok q ↔ ∃ s, operator = .string s ∧ q.operator.Spells s ∧
      Operand.ofJson (json.field? "value") = .ok q.operand ∧
      LikeMode.ofJson (json.field? "like") = .ok q.like := by
  unfold ofJson
  cases operator with
  | string s =>
    simp only [Outcome.bind_eq_ok_iff, recognize_eq_ok_iff, Operator.parse_eq_ok_iff]
    constructor
    · rintro ⟨o, ho, operand, hoperand, like, hlike, h⟩
      cases h
      exact ⟨s, rfl, ho, hoperand, hlike⟩
    · rintro ⟨t, ht, ho, hoperand, hlike⟩
      cases ht
      exact ⟨_, ho, _, hoperand, _, hlike, rfl⟩
  | _ => simp [DocumentFault.here, Bind.bind, Except.bind]

theorem FieldValue.documented_iff {json : Json} (hjson : json.WellFormed) {f : FieldValue} :
    Documented json f ↔ ofJson json = .ok f ∧ json.HasPlainMode := by
  have hmember : ∀ name, ∀ inner ∈ json.field? name, inner.WellFormed := fun _ _ h =>
    hjson.of_field? h
  constructor
  · intro h
    cases h with
    | @value _ v h =>
      -- No scalar is an array or has an operator, so it is read as a value.
      have hscalar : ofJson json = value <$> Value.ofJson json ∧ json.field? "operator" = none := by
        cases h <;> exact ⟨rfl, rfl⟩
      rw [hscalar.1, (Value.documented_iff hjson).1 h]
      exact ⟨rfl, fun hsome => absurd hscalar.2 hsome⟩
    | array h =>
      rw [ofJson, (Value.forall₂_documented_iff (Json.wellFormed_array.1 hjson)).1 h]
      exact ⟨rfl, fun hsome => absurd rfl hsome⟩
    | @query _ s o operand like hoperator hspells hvalue hmode =>
      obtain ⟨hlike, hplain⟩ := LikeMode.documented_iff.1 hmode
      have hoperand := (Operand.documented_iff (hmember "value")).1 hvalue
      have hquery : FieldQuery.ofJson (.string s) json = .ok ⟨o, operand, like⟩ :=
        FieldQuery.ofJson_eq_ok_iff.2 ⟨s, rfl, hspells, hoperand, hlike⟩
      refine ⟨?_, fun _ => hplain⟩
      cases json with
      | object fields =>
        simp only [ofJson, hoperator, hquery]
        rfl
      | _ => cases hoperator
  · rintro ⟨h, hplain⟩
    unfold ofJson at h
    split at h
    · obtain ⟨vs, hvs, rfl⟩ := Outcome.map_eq_ok_iff.1 h
      exact .array ((Value.forall₂_documented_iff (Json.wellFormed_array.1 hjson)).2 hvs)
    · split at h
      · next operator hoperator =>
        obtain ⟨q, hq, rfl⟩ := Outcome.map_eq_ok_iff.1 h
        obtain ⟨s, rfl, hspells, hvalue, hlike⟩ := FieldQuery.ofJson_eq_ok_iff.1 hq
        have hmode := hplain (by simp [hoperator])
        exact .query hoperator hspells ((Operand.documented_iff (hmember "value")).2 hvalue)
          (LikeMode.documented_iff.2 ⟨hlike, hmode⟩)
      · obtain ⟨v, hv, rfl⟩ := Outcome.map_eq_ok_iff.1 h
        exact .value ((Value.documented_iff hjson).2 hv)

theorem DocumentError.within_eq_ok_iff {α : Type} {step : PathStep}
    {x : Except DocumentError α} {a : α} : within step x = .ok a ↔ x = .ok a := by
  cases x <;> simp [within]

/-- Fields under new names are set behind the columns that are there. -/
theorem Item.setFields_eq_ok_iff {fields : List (String × Json)} {i j : Item}
    (hnames : (i.columns ++ fields.map Prod.fst).Nodup) :
    i.setFields fields = .ok j ↔ ∃ entries, j.entries = i.entries ++ entries ∧
      Forall₂ (fun f e => f.1 = e.1 ∧ FieldValue.ofJson f.2 = .ok e.2) fields entries := by
  induction fields generalizing i with
  | nil =>
    rw [setFields]
    constructor
    · rintro h
      cases h
      exact ⟨[], (List.append_nil _).symm, .nil⟩
    · rintro ⟨entries, hentries, h⟩
      cases h
      exact congrArg _ (ext (hentries.trans (List.append_nil _)).symm)
  | cons f fields ih =>
    obtain ⟨column, json⟩ := f
    -- The names ahead are new to the item, so every field goes behind what is set already.
    have hnew : column ∉ i.columns := fun hmem =>
      (List.nodup_append.1 hnames).2.2 column hmem column List.mem_cons_self rfl
    have hset : ∀ value, (i.set column value).entries = i.entries ++ [(column, value)] :=
      fun value => Entries.set_of_notMem hnew
    have hrest : ∀ value, ((i.set column value).columns ++ fields.map Prod.fst).Nodup := by
      intro value
      rw [columns, hset, List.map_append, List.append_assoc]
      exact hnames
    rw [setFields, Outcome.bind_eq_ok_iff]
    simp only [DocumentError.within_eq_ok_iff, List.forall₂_cons_left_iff]
    constructor
    · rintro ⟨value, hvalue, h⟩
      obtain ⟨entries, hentries, hfields⟩ := (ih (hrest value)).1 h
      refine ⟨(column, value) :: entries, ?_, (column, value), entries, ⟨rfl, hvalue⟩, hfields, rfl⟩
      rw [hentries, hset, List.append_assoc]
      rfl
    · rintro ⟨_, hentries, ⟨name, value⟩, entries, ⟨rfl, hvalue⟩, hfields, rfl⟩
      refine ⟨value, hvalue, (ih (hrest value)).2 ⟨entries, ?_, hfields⟩⟩
      rw [hentries, hset, List.append_assoc]
      rfl

theorem Item.documented_iff {json : Json} (hjson : json.WellFormed) {i : Item} :
    Documented json i ↔ ofJson json = .ok i ∧ ∀ f ∈ json.fields, f.2.HasPlainMode := by
  cases hjson with
  | @object fields hascending hfields =>
    have hnames : (empty.columns ++ fields.map Prod.fst).Nodup := hascending.nodup
    have hread : ofJson (.object fields) = .ok i ↔
        Forall₂ (fun f e => f.1 = e.1 ∧ FieldValue.ofJson f.2 = .ok e.2) fields i.entries := by
      rw [ofJson, setFields_eq_ok_iff hnames]
      constructor
      · rintro ⟨entries, hentries, h⟩
        rwa [hentries]
      · exact fun h => ⟨i.entries, rfl, h⟩
    have hdocumented : Documented (.object fields) i ↔
        Forall₂ (fun f e => f.1 = e.1 ∧ e.2.Documented f.2) fields i.entries :=
      ⟨fun h => by cases h; assumption, .object⟩
    rw [hdocumented, hread, and_comm, Json.fields, ← List.forall₂_and_left]
    refine forall₂_congr_mem fun f hf e => ?_
    rw [FieldValue.documented_iff (hfields f hf)]
    constructor
    · rintro ⟨hname, hvalue, hplain⟩
      exact ⟨hplain, hname, hvalue⟩
    · rintro ⟨hplain, hname, hvalue⟩
      exact ⟨hname, hvalue, hplain⟩
  | _ => exact ⟨fun h => (by cases h), fun h => (by cases h.1)⟩

theorem Input.itemsOfJson_eq_ok_iff {items : List Json} {n : Nat} {is : List Item} :
    itemsOfJson n items = .ok is ↔ Forall₂ (fun json i => Item.ofJson json = .ok i) items is := by
  induction items generalizing n is with
  | nil =>
    rw [itemsOfJson, List.forall₂_nil_left_iff]
    exact ⟨fun h => (Except.ok.inj h).symm, fun h => h ▸ rfl⟩
  | cons json items ih =>
    simp only [itemsOfJson, Outcome.bind_eq_ok_iff, DocumentError.within_eq_ok_iff, ih,
      List.forall₂_cons_left_iff]
    constructor
    · rintro ⟨i, hi, is, his, h⟩
      exact ⟨i, is, hi, his, (Except.ok.inj h).symm⟩
    · rintro ⟨i, is, hi, his, rfl⟩
      exact ⟨i, hi, is, his, rfl⟩

theorem Item.forall₂_documented_iff {items : List Json} (hitems : ∀ item ∈ items, item.WellFormed)
    {is : List Item} : Forall₂ Documented items is ↔
      Forall₂ (fun json i => ofJson json = .ok i) items is ∧
        ∀ item ∈ items, ∀ f ∈ item.fields, f.2.HasPlainMode := by
  rw [and_comm, ← List.forall₂_and_left]
  exact forall₂_congr_mem fun item hitem i => (documented_iff (hitems item hitem)).trans and_comm

/-- What a document is read as is what it stands for, if no query of it has a mode that is passed
over; and if one has, it stands for nothing. -/
theorem Input.documented_iff {json : Json} (hjson : json.WellFormed) {input : Input} :
    Documented json input ↔ ofJson json = .ok input ∧ json.PlainModes := by
  constructor
  · intro h
    cases h with
    | none => exact ⟨rfl, by simp [Json.PlainModes, Json.items, Json.fields]⟩
    | one h =>
      obtain ⟨hi, hplain⟩ := (Item.documented_iff hjson).1 h
      cases h with
      | object =>
        rw [ofJson, hi]
        exact ⟨rfl, by simpa [Json.PlainModes, Json.items] using hplain⟩
    | many h =>
      obtain ⟨his, hplain⟩ := (Item.forall₂_documented_iff (Json.wellFormed_array.1 hjson)).1 h
      rw [ofJson, itemsOfJson_eq_ok_iff.2 his]
      exact ⟨rfl, hplain⟩
  · rintro ⟨h, hplain⟩
    unfold ofJson at h
    split at h
    · cases h
      exact .none
    · obtain ⟨is, his, rfl⟩ := Outcome.map_eq_ok_iff.1 h
      exact .many ((Item.forall₂_documented_iff (Json.wellFormed_array.1 hjson)).2
        ⟨itemsOfJson_eq_ok_iff.1 his, hplain⟩)
    · obtain ⟨i, hi, rfl⟩ := Outcome.map_eq_ok_iff.1 h
      exact .one ((Item.documented_iff hjson).2 ⟨hi, hplain _ List.mem_cons_self⟩)
    · cases h

/-! ## Rendering -/

/-- The scalar of a value, for the kinds that scalars stand for. -/
def Value.toJson? : Value → Option Json
  | .null .string => some .null
  | .bool b => some (.bool b)
  | .bigInt n => some (.integer n.toInt)
  | .bigUnsigned n => some (.integer n.toNat)
  | .double x => some (.float x)
  | .string s => some (.string s)
  | _ => none

def Operand.toJson? : Operand → Option Json
  | .scalar v => v.toJson?
  | .array vs => .array <$> vs.mapM Value.toJson?

/-- The object of a query, with a mode where the query has one. -/
def FieldQuery.toJson? (q : FieldQuery) : Option Json := do
  let value ← q.operand.toJson?
  let mode := (q.like.map fun m => ("like", Json.string m.name)).toList
  some (.ofFields ([("operator", .string q.operator.sql), ("value", value)] ++ mode))

def FieldValue.toJson? : FieldValue → Option Json
  | .value v => v.toJson?
  | .array vs => .array <$> vs.mapM Value.toJson?
  | .query q => q.toJson?

def Item.toJson? (i : Item) : Option Json :=
  .ofFields <$> i.entries.mapM fun e => (e.1, ·) <$> e.2.toJson?

def Input.toJson? : Input → Option Json
  | .none => some .null
  | .one i => i.toJson?
  | .many is => .array <$> is.mapM Item.toJson?

theorem Value.Documented.toJson?_eq {json : Json} {v : Value} (h : v.Documented json) :
    v.toJson? = some json := by
  cases h <;> rfl

theorem Value.mapM_toJson?_of_documented {items : List Json} {vs : List Value}
    (h : Forall₂ Documented items vs) : vs.mapM toJson? = some items :=
  Outcome.forall₂_mapM?_iff.2 (h.flip.imp fun _ _ hv => hv.toJson?_eq)

/-- The value of a query is rendered as one that stands for it; null stands for a missing one. -/
theorem Operand.Documented.exists_toJson? {json : Option Json} {operand : Operand}
    (h : operand.Documented json) (hjson : ∀ inner ∈ json, inner.WellFormed) :
    ∃ value, operand.toJson? = some value ∧ value.WellFormed ∧ operand.Documented (some value) := by
  cases h with
  | absent => exact ⟨.null, rfl, .null, .scalar .null⟩
  | scalar h => exact ⟨_, h.toJson?_eq, hjson _ rfl, .scalar h⟩
  | array h =>
    rw [Operand.toJson?, Value.mapM_toJson?_of_documented h]
    exact ⟨_, rfl, hjson _ rfl, .array h⟩

/-- A query is rendered as an object that stands for it. -/
theorem FieldQuery.exists_toJson? {q : FieldQuery} {value : Json}
    (hvalue : q.operand.toJson? = some value) (hwell : value.WellFormed)
    (hoperand : q.operand.Documented (some value)) :
    ∃ json, q.toJson? = some json ∧ json.WellFormed ∧ (FieldValue.query q).Documented json := by
  obtain ⟨o, operand, like⟩ := q
  have hfind : ∀ (fields : List (String × Json)) (name : String),
      (Json.ofFields fields).field? name = Dictionary.get? name (Dictionary.ofEntries fields) :=
    fun _ _ => rfl
  rw [toJson?, hvalue]
  refine ⟨_, rfl, Json.wellFormed_ofFields ?_, ?_⟩
  · cases like <;> simp [hwell, Json.WellFormed.string]
  · cases like with
    | none =>
      refine .query (s := o.sql) ?_ (Operator.spells_sql o) ?_ ?_ <;>
        simp [hfind, Dictionary.ofEntries, Dictionary.get?_insert, hoperand,
          LikeMode.Documented.absent]
    | some m =>
      have hmode := LikeMode.Documented.named (LikeMode.names_name m)
      refine .query (s := o.sql) ?_ (Operator.spells_sql o) ?_ ?_ <;>
        simp [hfind, Dictionary.ofEntries, Dictionary.get?_insert, hoperand, hmode]

theorem FieldValue.Documented.exists_toJson? {json : Json} {f : FieldValue} (h : f.Documented json)
    (hjson : json.WellFormed) :
    ∃ json, f.toJson? = some json ∧ json.WellFormed ∧ f.Documented json := by
  cases h with
  | value h => exact ⟨_, h.toJson?_eq, hjson, .value h⟩
  | array h =>
    rw [FieldValue.toJson?, Value.mapM_toJson?_of_documented h]
    exact ⟨_, rfl, hjson, .array h⟩
  | query _ _ hvalue hmode =>
    obtain ⟨value, hrender, hwell, hdocumented⟩ :=
      hvalue.exists_toJson? fun _ hinner => hjson.of_field? hinner
    exact FieldQuery.exists_toJson? hrender hwell hdocumented

/-- The columns of an item are the names of its object, and so in ascending order. -/
theorem Item.Documented.columns_ascending {json : Json} {i : Item} (h : i.Documented json)
    (hjson : json.WellFormed) : Dictionary.Ascending i.entries := by
  cases h with
  | object h =>
    cases hjson with
    | object hascending _ =>
      have hnames := map_eq_of_forall₂ (h.imp fun _ _ hf => hf.1)
      rwa [Dictionary.Ascending, ← hnames]

theorem Item.Documented.exists_toJson? {json : Json} {i : Item} (h : i.Documented json)
    (hjson : json.WellFormed) :
    ∃ json, i.toJson? = some json ∧ json.WellFormed ∧ i.Documented json := by
  have hascending := h.columns_ascending hjson
  cases h with
  | @object fields _ h =>
    have hentries : ∀ e ∈ i.entries, ∃ f : String × Json, f.1 = e.1 ∧ e.2.toJson? = some f.2 ∧
        f.2.WellFormed ∧ e.2.Documented f.2 := by
      intro e he
      obtain ⟨f, hf, -, hvalue⟩ := exists_of_forall₂ h.flip he
      obtain ⟨json, hrender⟩ := hvalue.exists_toJson? ((Json.wellFormed_object.1 hjson).2 f hf)
      exact ⟨(e.1, json), rfl, hrender⟩
    obtain ⟨fields, hfields⟩ := exists_forall₂ hentries
    have hrender : (i.entries.mapM fun e => (e.1, ·) <$> e.2.toJson?) = some fields :=
      Outcome.forall₂_mapM?_iff.2 (hfields.imp fun e f ⟨hname, hf, _⟩ => by rw [hf, ← hname]; rfl)
    have hnames : fields.map Prod.fst = i.entries.map Prod.fst :=
      map_eq_of_forall₂ (hfields.flip.imp fun _ _ hf => hf.1)
    -- The columns ascend, so the object lists the rendered fields in the order of the entries.
    rw [Dictionary.Ascending, ← hnames] at hascending
    refine ⟨.object fields, ?_, .object hascending fun f hf => ?_, .object ?_⟩
    · rw [Item.toJson?, hrender]
      exact congrArg (some ∘ Json.object) (Dictionary.ofEntries_of_ascending hascending)
    · obtain ⟨_, _, hwell⟩ := exists_of_forall₂ hfields.flip hf
      exact hwell.2.2.1
    · exact hfields.flip.imp fun _ _ hf => ⟨hf.1, hf.2.2.2⟩

theorem Input.Documented.columns_ascending {json : Json} {input : Input} (h : input.Documented json)
    (hjson : json.WellFormed) : ∀ i ∈ input.items, Dictionary.Ascending i.entries := by
  cases h with
  | none => exact fun i hi => absurd hi List.not_mem_nil
  | one h =>
    intro i hi
    cases List.mem_singleton.1 hi
    exact h.columns_ascending hjson
  | many h =>
    intro i hi
    obtain ⟨item, hitem, hdocumented⟩ := exists_of_forall₂ h.flip hi
    exact hdocumented.columns_ascending (Json.wellFormed_array.1 hjson item hitem)

/-- An input that a document stands for is rendered as such a document. -/
theorem Input.Documented.exists_toJson? {json : Json} {input : Input} (h : input.Documented json)
    (hjson : json.WellFormed) :
    ∃ json, input.toJson? = some json ∧ json.WellFormed ∧ input.Documented json := by
  cases h with
  | none => exact ⟨.null, rfl, .null, .none⟩
  | one h =>
    obtain ⟨json, hrender, hwell, hdocumented⟩ := h.exists_toJson? hjson
    exact ⟨json, hrender, hwell, .one hdocumented⟩
  | @many items is h =>
    have his : ∀ i ∈ is, ∃ json, i.toJson? = some json ∧ json.WellFormed ∧ i.Documented json := by
      intro i hi
      obtain ⟨item, hitem, hdocumented⟩ := exists_of_forall₂ h.flip hi
      exact hdocumented.exists_toJson? (Json.wellFormed_array.1 hjson item hitem)
    obtain ⟨items, hitems⟩ := exists_forall₂ his
    have hrender : is.mapM Item.toJson? = some items :=
      Outcome.forall₂_mapM?_iff.2 (hitems.imp fun _ _ hi => hi.1)
    refine ⟨.array items, ?_, .array fun item hitem => ?_, .many ?_⟩
    · rw [toJson?, hrender]
      rfl
    · obtain ⟨_, _, hi⟩ := exists_of_forall₂ hitems.flip hitem
      exact hi.2.1
    · exact hitems.flip.imp fun _ _ hi => hi.2.2

/-! ## Reading the language -/

/-- Just the documents of the language are accepted, each as the input that it stands for, whose
items have their columns in ascending order; and the input is rendered as a document that is read as
this input again. -/
structure ReadsAsDocumented (json : Json) : Prop where
  accepts : ∀ input, Input.ofJson json = .ok input ↔ input.Documented json
  ascending : ∀ input, Input.ofJson json = .ok input →
    ∀ i ∈ input.items, Dictionary.Ascending i.entries
  rendered : ∀ input, Input.ofJson json = .ok input →
    ∃ json, input.toJson? = some json ∧ json.WellFormed ∧ Input.ofJson json = .ok input

/-- The reader takes the language as it is, but for the documents with a query whose pattern mode is
neither null nor a text: these it accepts as though the mode had been left out. -/
theorem readsAsDocumented_iff {json : Json} (hjson : json.WellFormed) :
    ReadsAsDocumented json ↔ ∀ input, Input.ofJson json = .ok input → json.PlainModes := by
  constructor
  · intro h input hread
    exact ((Input.documented_iff hjson).1 ((h.accepts input).1 hread)).2
  · intro hplain
    have haccepts : ∀ input, Input.ofJson json = .ok input ↔ input.Documented json := fun input =>
      ⟨fun hread => (Input.documented_iff hjson).2 ⟨hread, hplain input hread⟩,
        fun h => ((Input.documented_iff hjson).1 h).1⟩
    refine ⟨haccepts, fun input hread => ((haccepts input).1 hread).columns_ascending hjson,
      fun input hread => ?_⟩
    obtain ⟨rendered, hrender, hwell, hdocumented⟩ :=
      ((haccepts input).1 hread).exists_toJson? hjson
    exact ⟨rendered, hrender, hwell, ((Input.documented_iff hwell).1 hdocumented).1⟩

/-- Two objects; the second has a query whose mode is null, and whose operator is in lower case with
needless blanks. -/
def searchDocument : Json :=
  .array [.object [("id", .integer 18446744073709551615), ("tags", .array [.string "a", .null])],
    .object [("age", .object [("like", .null), ("operator", .string "\tnot  in "),
      ("value", .array [.integer (-1), .bool true])])]]

theorem readsAsDocumented_iff_searchDocument :
    searchDocument.WellFormed ∧
      (ReadsAsDocumented searchDocument ↔
        ∀ input, Input.ofJson searchDocument = .ok input → searchDocument.PlainModes) ∧
      Input.ofJson searchDocument = .ok (.many
        [.ofList [("id", .value (.bigUnsigned 18446744073709551615)),
          ("tags", .array [.string "a", .untypedNull])],
         .ofList [("age", .query ⟨.notIn, .array [.bigInt (-1), .bool true], none⟩)]]) := by
  have hwell : searchDocument.WellFormed := by
    have hnames : ["id", "tags"].Pairwise (· < ·) ∧
        ["like", "operator", "value"].Pairwise (· < ·) := by decide +kernel
    have hinteger : Json.IsInteger (-1) := .inl (by decide)
    simp only [searchDocument, Json.wellFormed_array, Json.wellFormed_object,
      Json.wellFormed_integer, Dictionary.Ascending, List.forall_mem_cons, List.map_cons,
      List.map_nil, hnames, hinteger]
    simp [Json.WellFormed.null, Json.WellFormed.bool, Json.WellFormed.string, Json.IsInteger]
  exact ⟨hwell, readsAsDocumented_iff hwell,
    Outcome.toOption_eq_some_iff.1 (by decide +kernel)⟩

/-- A query with a number for its mode. -/
def numberedMode : Json :=
  .object [("name", .object
    [("like", .integer 5), ("operator", .string "LIKE"), ("value", .string "a")])]

/-- A query with a number for its mode is accepted, as though it had none. -/
theorem not_readsAsDocumented_numberedMode :
    numberedMode.WellFormed ∧
      Input.ofJson numberedMode = .ok (.one
        (.ofList [("name", .query ⟨.like, .scalar (.string "a"), none⟩)])) ∧
      ¬ ReadsAsDocumented numberedMode := by
  have hwell : numberedMode.WellFormed := by
    have hnames : ["like", "operator", "value"].Pairwise (· < ·) := by decide +kernel
    have hinteger : Json.IsInteger 5 := .inl (by decide)
    simp only [numberedMode, Json.wellFormed_object, Json.wellFormed_integer,
      Dictionary.Ascending, List.forall_mem_cons, List.map_cons, List.map_nil, hnames, hinteger]
    simp [Json.WellFormed.string]
  have hread : Input.ofJson numberedMode = .ok (.one
      (.ofList [("name", .query ⟨.like, .scalar (.string "a"), none⟩)])) := Outcome.toOption_eq_some_iff.1 (by decide +kernel)
  refine ⟨hwell, hread, fun h => ?_⟩
  have hplain := ((Input.documented_iff hwell).1 ((h.accepts _).1 hread)).2
  have hmode := hplain _ List.mem_cons_self _ List.mem_cons_self (by decide)
  simpa using hmode (.integer 5) rfl

end EntitySql
