import EntitySql.Query.Find
import EntitySql.Query.Update
import EntitySql.Text.Search

/-!
# Quoted names

Whatever characters a name has, it is read back from between its brackets: the closing bracket that
ends it is the first one that no other follows, once those of the name are written twice.  So a
quoted name ends where it should in front of any text that does not begin with a closing bracket,
and the names of a list or a clause are read back by whoever knows what stands between them.

    readIdentifier s = some (n, r) ↔ s is n in quotes and then r, and r does not begin with `]`
                                                            (readIdentifier_eq_some_iff)
    quoteIdentifier m = quoteIdentifier n → m = n           (quoteIdentifier_injective)
    readList? sep s = some names ↔ s is the names in quotes with sep between any two
                                                            (readList?_eq_some_iff)
-/

namespace EntitySql.Sql

/-! ## One name -/

theorem quoteIdentifier_injective : Function.Injective quoteIdentifier := by
  intro m n h
  have hread : ∀ k, readIdentifier (quoteIdentifier k).toList = some (k.toList, []) := fun k => by
    have hk := readIdentifier_quote k (r := []) (by simp)
    rwa [List.append_nil] at hk
  have hm := hread m
  rw [h, hread n] at hm
  exact String.toList_inj.1 (Prod.mk.inj (Option.some.inj hm)).1.symm

/-- No name is over before its quotes are, whatever follows them: what is left of the text is at the
end of what follows. -/
theorem suffix_of_readIdentifier_quote {name : String} {r n rest : List Char}
    (h : readIdentifier ((quoteIdentifier name).toList ++ r) = some (n, rest)) :
    rest <:+ r ∧ name.toList <+: n := by
  have hread : readBracketed (doubleBrackets name.toList ++ ']' :: r) = some (n, rest) := by
    rw [← h]
    simp [readIdentifier]
  rw [readBracketed_doubleBrackets_append] at hread
  obtain ⟨⟨m, q⟩, hbracket, heq⟩ := Option.map_eq_some_iff.1 hread
  cases heq
  refine ⟨?_, List.prefix_append _ _⟩
  obtain ⟨hsplit, -⟩ := eq_of_readBracketed hbracket
  cases hm : doubleBrackets m with
  | nil =>
    rw [hm] at hsplit
    exact (List.cons.inj hsplit).2 ▸ List.suffix_refl _
  | cons c before =>
    rw [hm] at hsplit
    exact ⟨before ++ [']'], by simp [(List.cons.inj hsplit).2]⟩

/-- A name ends where its quotes do. -/
structure KeepsToQuotes (name : String) : Prop where
  /-- It is taken from its quotes, with nothing of what follows, unless that begins with a closing
  bracket. -/
  read : ∀ r : List Char, readIdentifier ((quoteIdentifier name).toList ++ r) =
    some (name.toList, r) ↔ r.head? ≠ some ']'
  /-- Nothing that follows makes it end in front of the bracket that closes its quotes. -/
  unbroken : ∀ r n rest : List Char,
    readIdentifier ((quoteIdentifier name).toList ++ r) = some (n, rest) →
      rest <:+ r ∧ name.toList <+: n

theorem keepsToQuotes (name : String) : KeepsToQuotes name where
  read r := by
    rw [readIdentifier_eq_some_iff, String.ofList_toList]
    exact and_iff_right rfl
  unbroken _ _ _ := suffix_of_readIdentifier_quote

/-! ## Names between other texts -/

theorem head?_append_ne {s r : List Char} {c : Char} (hs : s.head? ≠ some c)
    (hr : r.head? ≠ some c) : (s ++ r).head? ≠ some c := by
  cases s with
  | nil => exact hr
  | cons d s => exact hs

/-- A piece of SQL text: a name in quotes, or a text that stands there as it is and does not begin
with a closing bracket. -/
inductive Piece
  | name (name : String)
  | plain (text : String) (apart : text.toList.head? ≠ some ']')

namespace Piece

def textOf : List Piece → String
  | [] => ""
  | .name n :: ps => quoteIdentifier n ++ textOf ps
  | .plain text _ :: ps => text ++ textOf ps

def namesOf : List Piece → List String
  | [] => []
  | .name n :: ps => n :: namesOf ps
  | .plain _ _ :: ps => namesOf ps

def slot : Piece → Option String
  | .name _ => none
  | .plain text _ => some text

/-- Some pieces with a comma and a blank between any two. -/
def listed (parts : List (List Piece)) : List Piece :=
  [.plain ", " (by decide)].intercalate parts

@[simp] theorem textOf_append (ps qs : List Piece) : textOf (ps ++ qs) = textOf ps ++ textOf qs := by
  induction ps with
  | nil => simp [textOf]
  | cons p ps ih => cases p <;> simp [textOf, ih, String.append_assoc]

@[simp] theorem namesOf_append (ps qs : List Piece) :
    namesOf (ps ++ qs) = namesOf ps ++ namesOf qs := by
  induction ps with
  | nil => rfl
  | cons p ps ih => cases p <;> simp [namesOf, ih]

theorem listed_cons_cons (part other : List Piece) (parts : List (List Piece)) :
    listed (part :: other :: parts) =
      part ++ .plain ", " (by decide) :: listed (other :: parts) := by
  simp [listed]

theorem textOf_listed (parts : List (List Piece)) :
    textOf (listed parts) = ", ".intercalate (parts.map textOf) := by
  induction parts with
  | nil => rfl
  | cons part parts ih =>
    cases parts with
    | nil => simp [listed]
    | cons other parts =>
      rw [listed_cons_cons, textOf_append, textOf, ih]
      simp [String.intercalate_cons_cons, String.append_assoc]

theorem namesOf_listed (parts : List (List Piece)) :
    namesOf (listed parts) = parts.flatMap namesOf := by
  induction parts with
  | nil => rfl
  | cons part parts ih =>
    cases parts with
    | nil => simp [listed]
    | cons other parts =>
      rw [listed_cons_cons, namesOf_append, namesOf, ih, ← List.flatMap_cons]

/-- Pieces begin with a closing bracket only if they are empty and what follows them does. -/
theorem head?_textOf_append (ps : List Piece) {r : List Char} (hr : r.head? ≠ some ']') :
    ((textOf ps).toList ++ r).head? ≠ some ']' := by
  induction ps with
  | nil => simpa [textOf] using hr
  | cons p ps ih =>
    cases p with
    | name n => simp [textOf]
    | plain text hapart =>
      rw [textOf, String.toList_append, List.append_assoc]
      exact head?_append_ne hapart ih

end Piece

/-- Takes names from the front of a text in which one stands for every slot that is not filled,
and returns what follows the last slot. -/
def readSlots : List (Option String) → List Char → Option (List String × List Char)
  | [], s => some ([], s)
  | some text :: slots, s => (Text.afterStart? text.toList s).bind (readSlots slots)
  | none :: slots, s => do
    let (name, s) ← readIdentifier s
    let (names, r) ← readSlots slots s
    return (String.ofList name :: names, r)

/-- Names are read back from among the other pieces of a text. -/
theorem readSlots_textOf (ps : List Piece) {r : List Char} (hr : r.head? ≠ some ']') :
    readSlots (ps.map Piece.slot) ((Piece.textOf ps).toList ++ r) = some (Piece.namesOf ps, r) := by
  induction ps with
  | nil => rfl
  | cons p ps ih =>
    cases p with
    | name n =>
      have hread := readIdentifier_quote n (Piece.head?_textOf_append ps hr)
      rw [Piece.textOf, String.toList_append, List.append_assoc, List.map_cons, Piece.slot,
        readSlots, hread]
      simp [ih, Piece.namesOf]
    | plain text hapart =>
      have hafter : Text.afterStart? text.toList (text.toList ++ ((Piece.textOf ps).toList ++ r)) =
          some ((Piece.textOf ps).toList ++ r) := Text.afterStart?_eq_some_iff.2 rfl
      rw [Piece.textOf, String.toList_append, List.append_assoc, List.map_cons, Piece.slot,
        readSlots, hafter, Option.bind_some, ih, Piece.namesOf]

/-! ## Lists of names -/

/-- Reads names to the end of a text, at least one, with a separator between any two. -/
def readNames? (sep : String) (s : List Char) : Option (List String) :=
  match _ : readIdentifier s with
  | none => none
  | some (name, []) => some [String.ofList name]
  | some (name, c :: r) =>
    match _ : Text.afterStart? sep.toList (c :: r) with
    | none => none
    | some others => (readNames? sep others).map (String.ofList name :: ·)
termination_by s.length
decreasing_by
  have hread : readIdentifier s = some (name, c :: r) := ‹_›
  have hafter : Text.afterStart? sep.toList (c :: r) = some others := ‹_›
  have hs := congrArg List.length (readIdentifier_eq_some_iff.1 hread).1
  have hr := congrArg List.length (Text.afterStart?_eq_some_iff.1 hafter)
  simp only [List.length_append, toList_quoteIdentifier, List.length_cons] at hs hr
  omega

theorem readNames?_last {sep : String} {s name : List Char}
    (hread : readIdentifier s = some (name, [])) :
    readNames? sep s = some [String.ofList name] := by
  rw [readNames?]
  split <;> simp_all

theorem readNames?_next {sep : String} {s name r others : List Char}
    (hread : readIdentifier s = some (name, r)) (hne : r ≠ []) (hr : r = sep.toList ++ others) :
    readNames? sep s = (readNames? sep others).map (String.ofList name :: ·) := by
  have hafter : Text.afterStart? sep.toList r = some others := Text.afterStart?_eq_some_iff.2 hr
  rw [readNames?]
  split
  · simp_all
  · simp_all
  · split <;> simp_all

/-- Reads a list of names that may be empty, to the end of a text. -/
def readList? (sep : String) (s : List Char) : Option (List String) :=
  if s = [] then some [] else readNames? sep s

/-- The text of a list of names in quotes. -/
def listText (sep : String) (names : List String) : String :=
  sep.intercalate (names.map quoteIdentifier)

theorem toList_listText_singleton (sep name : String) :
    (listText sep [name]).toList = (quoteIdentifier name).toList ++ [] := by
  simp [listText]

theorem toList_listText_cons_cons (sep name other : String) (names : List String) :
    (listText sep (name :: other :: names)).toList =
      (quoteIdentifier name).toList ++ (sep.toList ++ (listText sep (other :: names)).toList) := by
  simp [listText, String.intercalate_cons_cons]

/-- A list of names begins with the bracket that opens the first one. -/
theorem head?_listText (sep name : String) (names : List String) :
    (listText sep (name :: names)).toList.head? = some '[' := by
  cases names with
  | nil => simp [toList_listText_singleton]
  | cons other names => simp [toList_listText_cons_cons]

theorem eq_listText_of_readNames? {sep : String} {s : List Char} {names : List String}
    (h : readNames? sep s = some names) : names ≠ [] ∧ s = (listText sep names).toList := by
  fun_induction readNames? sep s generalizing names with
  | case1 => cases h
  | case2 s name hread =>
    cases h
    refine ⟨List.cons_ne_nil _ _, ?_⟩
    rw [toList_listText_singleton]
    exact (readIdentifier_eq_some_iff.1 hread).1
  | case3 => cases h
  | case4 s name c r hread others hafter ih =>
    obtain ⟨rest, hothers, rfl⟩ := Option.map_eq_some_iff.1 h
    obtain ⟨hne, rfl⟩ := ih hothers
    obtain ⟨other, rest, rfl⟩ := List.exists_cons_of_ne_nil hne
    refine ⟨List.cons_ne_nil _ _, ?_⟩
    rw [toList_listText_cons_cons, ← Text.afterStart?_eq_some_iff.1 hafter]
    exact (readIdentifier_eq_some_iff.1 hread).1

theorem readNames?_listText {sep : String} (hsep : sep.toList.head? ≠ some ']') (name : String)
    (names : List String) :
    readNames? sep (listText sep (name :: names)).toList = some (name :: names) := by
  induction names generalizing name with
  | nil =>
    have hread := readIdentifier_quote name (r := []) (by simp)
    rw [toList_listText_singleton, readNames?_last hread, String.ofList_toList]
  | cons other names ih =>
    have hother := head?_listText sep other names
    have hhead : (sep.toList ++ (listText sep (other :: names)).toList).head? ≠ some ']' :=
      head?_append_ne hsep (by simp [hother])
    have hne : sep.toList ++ (listText sep (other :: names)).toList ≠ [] := by
      intro hnil
      rw [(List.append_eq_nil_iff.1 hnil).2] at hother
      cases hother
    rw [toList_listText_cons_cons, readNames?_next (readIdentifier_quote name hhead) hne rfl, ih,
      Option.map_some, String.ofList_toList]

/-- A text is read as a list of names just if it is the list of them. -/
theorem readList?_eq_some_iff {sep : String} (hsep : sep.toList.head? ≠ some ']') {s : List Char}
    {names : List String} :
    readList? sep s = some names ↔ s = (listText sep names).toList := by
  rw [readList?]
  cases names with
  | nil =>
    have hnames : readNames? sep s ≠ some [] := fun h => (eq_listText_of_readNames? h).1 rfl
    have htext : (listText sep []).toList = [] := by simp [listText]
    rw [htext]
    by_cases hs : s = []
    · simp only [hs, if_true]
    · simp only [hs, if_false, hnames]
  | cons name names =>
    have hne : (listText sep (name :: names)).toList ≠ [] := by
      intro hnil
      have hhead := head?_listText sep name names
      rw [hnil] at hhead
      cases hhead
    by_cases hs : s = []
    · rw [if_pos hs, hs]
      simp [Ne.symm hne]
    · rw [if_neg hs]
      exact ⟨fun h => (eq_listText_of_readNames? h).2,
        fun h => h ▸ readNames?_listText hsep name names⟩

end EntitySql.Sql

namespace EntitySql

open Sql

/-! ## Clauses -/

/-- The names are read back from the text by whoever knows the pieces but for the names, in front of
anything that does not begin with a closing bracket. -/
def ReadsBack (ps : List Piece) (text : String) (names : List String) : Prop :=
  ∀ r : List Char, r.head? ≠ some ']' →
    readSlots (ps.map Piece.slot) (text.toList ++ r) = some (names, r)

theorem readsBack_of_textOf {ps : List Piece} {text : String} {names : List String}
    (htext : Piece.textOf ps = text) (hnames : Piece.namesOf ps = names) :
    ReadsBack ps text names := by
  subst htext hnames
  exact fun r hr => readSlots_textOf ps hr

def columnPieces (columns : List String) : List Piece :=
  .plain "(" (by decide) ::
    (Piece.listed (columns.map fun c => [.name c]) ++ [.plain ")" (by decide)])

def assignmentPieces (column : String) : List Piece :=
  [.plain "target." (by decide), .name column, .plain " = source." (by decide), .name column]

def updatePieces (e : Entity) (key : String) (v : Values) : List Piece :=
  .plain "MERGE INTO " (by decide) :: .name e.table ::
    .plain (" AS target USING " ++ parenthesized v.rowsText ++ " AS source ")
      (by simp [String.toList_append]) ::
    (columnPieces v.columns ++ .plain " ON " (by decide) ::
      (assignmentPieces key ++ .plain " WHEN MATCHED THEN UPDATE SET " (by decide) ::
        Piece.listed ((v.columns.filter (· ≠ key)).map assignmentPieces)))

def OrderTerm.pieces (t : OrderTerm) : List Piece :=
  [.name t.column, .plain (" " ++ t.direction.sql) (by simp)]

def orderPieces : List OrderTerm → List Piece
  | [] => []
  | t :: terms => .plain " ORDER BY " (by decide) :: Piece.listed ((t :: terms).map OrderTerm.pieces)

theorem textOf_columnPieces (columns : List String) :
    Piece.textOf (columnPieces columns) = parenthesized (listText ", " columns) := by
  have hname : (Piece.textOf ∘ fun c : String => [.name c]) = quoteIdentifier := by
    funext c
    simp [Piece.textOf]
  simp [columnPieces, Piece.textOf, Piece.textOf_listed, hname, parenthesized, listText,
    String.append_assoc]

theorem namesOf_columnPieces (columns : List String) :
    Piece.namesOf (columnPieces columns) = columns := by
  simp [columnPieces, Piece.namesOf, Piece.namesOf_listed, List.flatMap_map]

theorem textOf_assignmentPieces (column : String) :
    Piece.textOf (assignmentPieces column) = assignmentText column := by
  apply String.toList_inj.1
  simp [assignmentPieces, Piece.textOf, assignmentText, toString]

theorem namesOf_assignmentPieces (column : String) :
    Piece.namesOf (assignmentPieces column) = [column, column] := rfl

theorem textOf_updatePieces (e : Entity) (key : String) (v : Values) :
    Piece.textOf (updatePieces e key v) = updateText e key v := by
  have hcolumns : parenthesized (listText ", " v.columns) = v.columnsText := rfl
  have hassignments : Piece.textOf ∘ assignmentPieces = assignmentText :=
    funext textOf_assignmentPieces
  unfold updatePieces updateText
  simp only [Piece.textOf, Piece.textOf_append, Piece.textOf_listed, List.map_map,
    textOf_columnPieces, textOf_assignmentPieces, hassignments, hcolumns]
  simp only [← String.append_assoc]

/-- The names in an update: the table, the columns, the key on both sides, and every changed column
on both sides of its assignment. -/
theorem namesOf_updatePieces (e : Entity) (key : String) (v : Values) :
    Piece.namesOf (updatePieces e key v) = e.table :: (v.columns ++ key :: key ::
      (v.columns.filter (· ≠ key)).flatMap fun c => [c, c]) := by
  simp [updatePieces, Piece.namesOf, Piece.namesOf_listed, List.flatMap_map,
    namesOf_columnPieces, namesOf_assignmentPieces]

theorem textOf_orderPieces (terms : List OrderTerm) :
    Piece.textOf (orderPieces terms) = Page.orderText terms := by
  have hterm : Piece.textOf ∘ OrderTerm.pieces = OrderTerm.text := by
    funext t
    apply String.toList_inj.1
    simp [OrderTerm.pieces, Piece.textOf, OrderTerm.text, toString]
  cases terms with
  | nil => rfl
  | cons t terms =>
    rw [orderPieces, Piece.textOf, Piece.textOf_listed, List.map_map, hterm]
    rfl

theorem namesOf_orderPieces (terms : List OrderTerm) :
    Piece.namesOf (orderPieces terms) = terms.map (·.column) := by
  cases terms with
  | nil => rfl
  | cons t terms =>
    rw [orderPieces, Piece.namesOf, Piece.namesOf_listed, List.flatMap_map]
    exact List.map_eq_flatMap.symm

/-- Names are read back from their quotes, whatever characters are in them.  A name is taken from its
quotes in front of whatever does not begin with a closing bracket, and never ends before they do;
the quotes of two names differ.  So names are read back from among any texts that stand between them
in this way, and a list of names from the text of the list, as it is in a list of columns, in an
update and in an order. -/
theorem reads_quoted_names :
    (∀ name, KeepsToQuotes name) ∧ Function.Injective quoteIdentifier ∧
      (∀ ps, ReadsBack ps (Piece.textOf ps) (Piece.namesOf ps)) ∧
      (∀ sep : String, sep.toList.head? ≠ some ']' → ∀ s names,
        readList? sep s = some names ↔ s = (listText sep names).toList) ∧
      (∀ v : Values, ReadsBack (columnPieces v.columns) v.columnsText v.columns) ∧
      (∀ (e : Entity) (key : String) (v : Values),
        ReadsBack (updatePieces e key v) (updateText e key v) (e.table :: (v.columns ++ key :: key ::
          (v.columns.filter (· ≠ key)).flatMap fun c => [c, c]))) ∧
      ∀ terms, ReadsBack (orderPieces terms) (Page.orderText terms)
        (terms.map OrderTerm.column) := by
  refine ⟨keepsToQuotes, quoteIdentifier_injective, fun ps => readsBack_of_textOf rfl rfl,
    fun sep hsep s names => readList?_eq_some_iff hsep, fun v => ?_, fun e key v => ?_,
    fun terms => ?_⟩
  · exact readsBack_of_textOf (textOf_columnPieces v.columns) (namesOf_columnPieces v.columns)
  · exact readsBack_of_textOf (textOf_updatePieces e key v) (namesOf_updatePieces e key v)
  · exact readsBack_of_textOf (textOf_orderPieces terms) (namesOf_orderPieces terms)

/-- A name may be of closing brackets, at either end and in a row. -/
example : readIdentifier "[]]]]a]]] = 1".toList = some ("]]a]".toList, " = 1".toList) := by decide

end EntitySql
