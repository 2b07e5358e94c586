import EntitySql.Proofs.Uses
import EntitySql.Proofs.WrittenRows
import EntitySql.Query.Find
import Mathlib.Tactic.Choose

/-!
# The text of a statement

The text of every kind of statement is read back as a command, and it names the parameters of
the command's uses in order.

    select, with its clauses          (states_select)
    delete, with its condition        (states_delete)
    insert of some rows               (states_insert)
    merge of some rows by a key       (states_update)
    any of them in a batch            (states_batch)
-/

namespace EntitySql

open EntitySql.Sql

/-! ## Batches -/

/-- A text states a command: it is read as the command, and it names the parameters of the
command's uses in order. -/
def States (text : String) (command : Command) : Prop :=
  ∃ ts, Spells text ts ∧ ReadsCommand ts command ∧
    markersOf ts = command.uses.map Prod.fst

theorem intercalate_close {α : Type} (sep : List α) {parts : List (List α)} (h : parts ≠ []) :
    sep.intercalate parts ++ sep = parts.flatMap (· ++ sep) := by
  induction parts with
  | nil => exact absurd rfl h
  | cons part parts ih =>
    cases parts with
    | nil => simp
    | cons other parts =>
      have hrest := ih (List.cons_ne_nil other parts)
      rw [List.intercalate_cons_cons, List.append_assoc, hrest]
      rfl

theorem spells_batch {β : Type} {l : List β} {text : β → String} {ts : β → List Token}
    (h : ∀ b ∈ l, Spells (text b) (ts b)) :
    Spells (Sql.batch (l.map text)) (l.flatMap fun b => ts b ++ [.symbol ';']) := by
  have hbetween : Glue ";\n" [.symbol ';'] := Opens.glue (fun _ => rfl) (by decide)
  have hend : Glue ";" [.symbol ';'] := Opens.glue (fun _ => rfl) (by decide)
  by_cases hnil : l = []
  · subst hnil
    exact fun _ _ => rfl
  · have hall := (spells_intercalate hbetween h).close hend
    rw [intercalate_close _ (by simpa using hnil), List.flatMap_map] at hall
    rw [Sql.batch, if_neg (by simpa using hnil)]
    exact hall

/-- Texts that state commands are read as those commands in a batch, which names the parameters
of their uses in order. -/
theorem states_batch {l : List (String × Command)} (h : ∀ s ∈ l, States s.1 s.2) :
    readBatch? (Sql.batch (l.map Prod.fst)) = some (l.map Prod.snd) ∧
      markers (Sql.batch (l.map Prod.fst)) = (l.flatMap (·.2.uses)).map Prod.fst := by
  choose! ts hspells hreads hmarkers using h
  have htokens := (spells_batch hspells).tokens_eq
  refine ⟨?_, ?_⟩
  · have hcommands : ∀ c ∈ l.map fun s => (ts s, s.2), ReadsCommand c.1 c.2 := by
      intro c hc
      obtain ⟨s, hs, rfl⟩ := List.mem_map.1 hc
      exact hreads s hs
    rw [readBatch?_eq_some (by rw [htokens, List.flatMap_map]) hcommands, List.map_map]
    rfl
  · rw [markers, htokens, markersOf_flatMap, List.map_flatMap]
    refine List.flatMap_congr fun s hs => ?_
    rw [markersOf_append, hmarkers s hs]
    exact List.append_nil _

/-! ## Names and numbers -/

/-- Digits are no keyword. -/
theorem ofWord_toDigits (n : Nat) :
    Token.ofWord (Nat.toDigits 10 n) = .word (Nat.toDigits 10 n) := by
  have hkeyword : ∀ k ∈ Keyword.all, k.spelling.toList ≠ Nat.toDigits 10 n := by
    intro k hk hdigits
    have hletter : ∀ k ∈ Keyword.all, k.spelling.toList.all Char.isDigit = false := by decide
    have hdigit : (Nat.toDigits 10 n).all Char.isDigit = true := List.all_eq_true.2 fun c hc =>
      Nat.isDigit_of_mem_toDigits (by decide) (by decide) hc
    rw [← hdigits, hletter k hk] at hdigit
    cases hdigit
  have hnone : Keyword.all.find? (·.spelling.toList = Nat.toDigits 10 n) = none := by
    simpa using hkeyword
  rw [Token.ofWord, hnone]

theorem spells_number (n : Nat) : Spells (toString n) [.word (Nat.toDigits 10 n)] := by
  have hchars : (toString n).toList = Nat.toDigits 10 n := Nat.toList_repr
  have hword : IsWord (toString n) := by
    intro c hc
    rw [hchars] at hc
    have hdigit : c.isDigit = true := Nat.isDigit_of_mem_toDigits (by decide) (by decide) hc
    simp [isWordChar, Char.isAlphanum, hdigit]
  have hne : toString n ≠ "" := by
    intro hempty
    rw [hempty] at hchars
    exact Nat.toDigits_ne_nil hchars.symm
  have hspells := spells_word hne hword
  rwa [hchars, ofWord_toDigits] at hspells

theorem spells_list {β : Type} {token : String → Token} {text name : β → String} {l : List β}
    (h : ∀ b ∈ l, Spells (text b) [token (name b)]) :
    Spells (parenthesized (", ".intercalate (l.map text))) (listTokens token (l.map name)) := by
  have hlist := spells_parenthesized (spells_intercalate glue_comma h)
  rw [listTokens, List.map_map]
  exact hlist

/-! ## Clauses -/

namespace Condition

/-- The condition that is stated, unless there is no group. -/
def tree? : Condition → Option (List Token × SearchCondition)
  | [] => none
  | g :: gs => some (tokens (g :: gs), tree g gs)

theorem tail_whereText {c : Condition} (h : c.Readable) :
    Tail (whereText c.text?) (whereTokens (c.tree?.map Prod.fst)) := by
  cases c with
  | nil => exact .nil
  | cons g gs =>
    obtain ⟨text, htext, hspells⟩ := text?_cons g gs
    rw [htext]
    exact glue_where.tail (hspells h)

end Condition

theorem spells_direction (d : Direction) : Spells d.sql [.keyword (directionKeyword d)] := by
  cases d with
  | ascending => exact spells_word (by decide) (by decide)
  | descending => exact spells_word (by decide) (by decide)

theorem spells_termText (t : OrderTerm) : Spells t.text (termTokens t) := by
  have htext : t.text = quoteIdentifier t.column ++ (" " ++ t.direction.sql) := by
    apply String.toList_inj.1
    simp [OrderTerm.text, toString]
  rw [htext]
  exact (spells_quoteIdentifier t.column).glue glue_blank (spells_direction t.direction)

theorem tail_orderText (terms : List OrderTerm) :
    Tail (Page.orderText terms) (orderTokens terms) := by
  have horder : Glue " ORDER BY " [.keyword .order, .keyword .by_] :=
    Opens.glue (fun _ => rfl) (by decide)
  cases terms with
  | nil => exact .nil
  | cons t ts => exact horder.tail (spells_intercalate glue_comma fun u _ => spells_termText u)

/-- The window that a page asks for. -/
def Page.window (p : Page) (o : Options) : Option Window :=
  if p.isBounded then some ⟨p.offset.getD 0, p.limit.getD o.pageSize⟩ else none

theorem tail_boundsText (p : Page) (o : Options) :
    Tail (p.boundsText o) (windowTokens (p.window o)) := by
  have hoffset : Glue " OFFSET " [.keyword .offset] := Opens.glue (fun _ => rfl) (by decide)
  have hfetch : Glue " ROWS FETCH NEXT " [.keyword .rows, .keyword .fetch, .keyword .next] :=
    Opens.glue (fun _ => rfl) (by decide)
  have hrows : Glue " ROWS " [.keyword .rows] := Opens.glue (fun _ => rfl) (by decide)
  have honly : Spells "ONLY" [.keyword .only_] := spells_word (by decide) (by decide)
  cases hbounded : p.isBounded with
  | false =>
    rw [Page.boundsText, Page.window, hbounded]
    exact .nil
  | true =>
    have htext : p.boundsText o = " OFFSET " ++ (toString (p.offset.getD 0) ++
        (" ROWS FETCH NEXT " ++ (toString (p.limit.getD o.pageSize) ++ (" ROWS " ++ "ONLY")))) := by
      apply String.toList_inj.1
      simp [Page.boundsText, hbounded, toString]
    rw [htext, Page.window, hbounded]
    exact hoffset.tail ((spells_number (p.offset.getD 0)).glue hfetch
      ((spells_number (p.limit.getD o.pageSize)).glue hrows honly))

/-! ## Selects and deletes -/

theorem markersOf_whereTokens (c : Condition) :
    markersOf (whereTokens (c.tree?.map Prod.fst)) = c.uses.map Prod.fst := by
  cases c with
  | nil => rfl
  | cons g gs => exact Condition.markersOf_tokens (g :: gs)

theorem uses_tree? (c : Condition) :
    (c.tree?.map Prod.snd).toList.flatMap SearchCondition.uses = c.uses := by
  cases c with
  | nil => rfl
  | cons g gs => exact (List.append_nil _).trans Condition.uses_tree

theorem Condition.Readable.readsCondition_tree? {c : Condition} (h : c.Readable) :
    ∀ t ∈ c.tree?, ReadsCondition t.1 t.2 := by
  cases c with
  | nil => simp [Condition.tree?]
  | cons g gs =>
    rintro t ⟨⟩
    exact h.readsCondition

theorem markersOf_orderTokens (terms : List OrderTerm) : markersOf (orderTokens terms) = [] := by
  cases terms with
  | nil => rfl
  | cons t ts =>
    have hterms := markersOf_commas ((t :: ts).map termTokens)
    rw [List.flatMap_map] at hterms
    show markersOf ([.symbol ','].intercalate ((t :: ts).map termTokens)) = []
    rw [hterms]
    exact List.flatMap_eq_nil_iff.2 fun u _ => rfl

theorem states_select (e : Entity) (o : Options) (p : Page) {c : Condition} (h : c.Readable)
    (terms : List OrderTerm) :
    States ("SELECT * FROM " ++ quoteIdentifier e.table ++ whereText c.text? ++
      Page.orderText terms ++ p.boundsText o)
      (.select e.table (c.tree?.map Prod.snd) terms (p.window o)) := by
  have hselect : Opens "SELECT * FROM " [.keyword .select, .symbol '*', .keyword .from_] :=
    fun _ => rfl
  have hclauses := (Condition.tail_whereText h).append
    ((tail_orderText terms).append (tail_boundsText p o))
  have hspells := hselect.before ((spells_quoteIdentifier e.table).tail hclauses)
  have hwindow : markersOf (windowTokens (p.window o)) = [] := by
    cases p.window o <;> rfl
  simp only [← String.append_assoc] at hspells
  refine ⟨_, hspells, readsCommand_select e.table h.readsCondition_tree? terms (p.window o), ?_⟩
  simp [Command.uses, uses_tree?, markersOf_whereTokens, markersOf_orderTokens, hwindow,
    Token.marker?]

theorem states_delete (e : Entity) {p : Predicate} (h : p.Readable) :
    States ("DELETE FROM " ++ quoteIdentifier e.table ++ " WHERE " ++ p.text)
      (.delete e.table (some p.tree)) := by
  have hdelete : Opens "DELETE FROM " [.keyword .delete, .keyword .from_] := fun _ => rfl
  have hspells := hdelete.before ((spells_quoteIdentifier e.table).glue glue_where h.spells)
  have hreads := readsCondition_of_conjunction (readsConjunction_of_factor h.readsFactor)
  simp only [← String.append_assoc] at hspells
  refine ⟨_, hspells, readsCommand_delete e.table hreads, ?_⟩
  simp [Command.uses, Predicate.uses_tree, Predicate.markersOf_tokens, Token.marker?]

/-! ## Inserts and merges -/

/-- The rows of a statement as the names of their parameters. -/
def Values.names (v : Values) : List (List String) := v.rows.map Params.names

/-- Rows that can be read back: there is a column and a row, and every row has a cell for each
column. -/
structure Values.Readable (v : Values) : Prop where
  columns : v.columns ≠ []
  rows : v.rows ≠ []
  cells : ∀ row ∈ v.rows, row.map (·.column) = v.columns
  words : ∀ row ∈ v.rows, ∀ p ∈ row, IsWord p.name

theorem Values.spells_columns (v : Values) :
    Spells v.columnsText (listTokens .name v.columns) := by
  have hlist : Spells v.columnsText (listTokens .name (v.columns.map id)) :=
    spells_list fun c _ => spells_quoteIdentifier c
  rwa [List.map_id] at hlist

namespace Values.Readable

variable {v : Values}

theorem names_ne_nil (h : v.Readable) : v.names ≠ [] := by
  simpa [names] using h.rows

theorem ne_nil_of_mem_names (h : v.Readable) : ∀ row ∈ v.names, row ≠ [] := by
  intro names hnames hnil
  obtain ⟨row, hrow, rfl⟩ := List.mem_map.1 hnames
  have hempty : row = [] := List.map_eq_nil_iff.1 hnil
  have hcells := h.cells row hrow
  rw [hempty] at hcells
  exact h.columns hcells.symm

theorem spells_rows (h : v.Readable) : Spells v.rowsText (rowsTokens v.names) := by
  have hvalues : Opens "VALUES " [.keyword .values] := fun _ => rfl
  have hrow : ∀ row ∈ v.rows, Spells (rowText row) (listTokens .marker (Params.names row)) :=
    fun row hrow => spells_list fun p hp => spells_marker (h.words row hrow p hp)
  have hall := hvalues.before (spells_intercalate glue_comma hrow)
  rw [rowsTokens, names, List.map_map]
  exact hall

/-- Written parameters stand in the places of their columns. -/
theorem uses_names (h : v.Readable) :
    v.names.flatMap (·.zip v.columns) = v.params.map fun p => (p.name, p.column) := by
  rw [names, params, List.flatMap_map, List.map_flatten, ← List.flatMap_def]
  refine List.flatMap_congr fun row hrow => ?_
  rw [← h.cells row hrow, Params.names, List.zip_map']

end Values.Readable

theorem markersOf_listTokens (token : String → Token) (l : List String) :
    markersOf (listTokens token l) = l.flatMap fun s => (token s).marker?.toList := by
  rw [listTokens, markersOf_enclosed, markersOf_commas, List.flatMap_map]
  simp

theorem markersOf_columns (columns : List String) : markersOf (listTokens .name columns) = [] := by
  rw [markersOf_listTokens]
  exact List.flatMap_eq_nil_iff.2 fun c _ => rfl

theorem markersOf_rowsTokens (rows : List (List String)) :
    markersOf (rowsTokens rows) = rows.flatten := by
  have hrow : ∀ row : List String, markersOf (listTokens .marker row) = row := by
    intro row
    rw [markersOf_listTokens]
    exact List.flatMap_singleton' row
  rw [rowsTokens, markersOf_cons, markersOf_commas, List.flatMap_map]
  simp only [hrow, List.flatten_eq_flatMap]
  rfl

/-- The parameters of rows, by name and in order. -/
theorem Values.Readable.map_fst_uses {v : Values} (h : v.Readable) :
    (v.names.flatMap (·.zip v.columns)).map Prod.fst = v.names.flatten := by
  rw [h.uses_names, List.map_map, Values.names, Values.params, List.map_flatten]
  rfl

theorem states_insert (e : Entity) {v : Values} (h : v.Readable) :
    States (insertText e v) (.insert e.table v.columns v.names) := by
  have hinsert : Opens "INSERT INTO " [.keyword .insert, .keyword .into] := fun _ => rfl
  have hspells := hinsert.before ((spells_quoteIdentifier e.table).glue glue_blank
    (v.spells_columns.glue glue_blank h.spells_rows))
  simp only [← String.append_assoc] at hspells
  refine ⟨_, hspells,
    readsCommand_insert e.table h.columns h.names_ne_nil h.ne_nil_of_mem_names, ?_⟩
  simp [Command.uses, h.map_fst_uses, markersOf_columns, markersOf_rowsTokens, Token.marker?]

theorem spells_assignmentText (c : String) : Spells (assignmentText c) (linkTokens ⟨c, c⟩) := by
  have htarget : Opens "target." [.target, .symbol '.'] := fun _ => rfl
  have hsource : Glue " = source." [.operator ['='], .source, .symbol '.'] :=
    Opens.glue (fun _ => rfl) (by decide)
  have hall := htarget.before ((spells_quoteIdentifier c).glue hsource (spells_quoteIdentifier c))
  have htext : assignmentText c =
      "target." ++ (quoteIdentifier c ++ (" = source." ++ quoteIdentifier c)) := by
    apply String.toList_inj.1
    simp [assignmentText, toString]
  rw [htext]
  exact hall

/-- The command that an update is, for some rows and a key. -/
def mergeCommand (e : Entity) (key : String) (v : Values) : Command :=
  .merge e.table v.names v.columns ⟨key, key⟩
    ((v.columns.filter (· ≠ key)).map fun c => ⟨c, c⟩)

theorem states_update (e : Entity) (key : String) {v : Values} (h : v.Readable)
    (hchanged : v.columns.filter (· ≠ key) ≠ []) :
    States (updateText e key v) (mergeCommand e key v) := by
  have hmerge : Opens "MERGE INTO " [.keyword .merge, .keyword .into] := fun _ => rfl
  have husing : Glue " AS target USING " [.keyword .as_, .target, .keyword .using_] :=
    Opens.glue (fun _ => rfl) (by decide)
  have hsource : Glue " AS source " [.keyword .as_, .source] :=
    Opens.glue (fun _ => rfl) (by decide)
  have hjoin : Glue " ON " [.keyword .on_] := Opens.glue (fun _ => rfl) (by decide)
  have hset : Glue " WHEN MATCHED THEN UPDATE SET " [.keyword .when, .keyword .matched,
      .keyword .then_, .keyword .update, .keyword .set] := Opens.glue (fun _ => rfl) (by decide)
  have hassignments := spells_intercalate (l := v.columns.filter (· ≠ key)) glue_comma
    fun c _ => spells_assignmentText c
  have hspells := hmerge.before ((spells_quoteIdentifier e.table).glue husing
    ((spells_parenthesized h.spells_rows).glue hsource
      (v.spells_columns.glue hjoin
        ((spells_assignmentText key).glue hset hassignments))))
  have hlinks : (v.columns.filter (· ≠ key)).map (fun c => linkTokens ⟨c, c⟩) =
      ((v.columns.filter (· ≠ key)).map fun c => (⟨c, c⟩ : Link)).map linkTokens := by
    rw [List.map_map]
    rfl
  rw [hlinks] at hspells
  simp only [← String.append_assoc] at hspells
  refine ⟨_, hspells, readsCommand_merge e.table h.names_ne_nil h.ne_nil_of_mem_names h.columns
    ⟨key, key⟩ (by simpa using hchanged), ?_⟩
  have hassigned : ∀ links : List Link,
      markersOf ([.symbol ','].intercalate (links.map linkTokens)) = [] := by
    intro links
    rw [markersOf_commas, List.flatMap_map]
    exact List.flatMap_eq_nil_iff.2 fun l _ => rfl
  simp only [mergeCommand, Command.uses, h.map_fst_uses, markersOf_append, markersOf_enclosed,
    markersOf_rowsTokens, markersOf_columns, hassigned]
  simp [linkTokens, Token.marker?, Token.target, Token.source]

end EntitySql
