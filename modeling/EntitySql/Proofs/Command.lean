import EntitySql.Order
import EntitySql.Proofs.Reader

/-!
# Commands

The statements of SQL that queries are made of, and their reader.  A batch is read as its
commands, each of them ended by a semicolon.

    commands that are read one by one are read as a batch           (readBatch?_eq_some)
    items with commas between them are read as a list               (reads_separated)
-/

namespace EntitySql.Sql

open EntitySql.Text

/-! ## Syntax -/

/-- A column of the target that is compared with a column of the source, or set from it. -/
structure Link where
  target : String
  source : String
deriving DecidableEq, Repr

/-- The rows that a select skips, and the most that it returns. -/
structure Window where
  offset : Nat
  limit : Nat
deriving DecidableEq, Repr

/-- A statement.  A cell of a written row is a parameter. -/
inductive Command
  /-- `SELECT * FROM table WHERE … ORDER BY … OFFSET … FETCH NEXT …`. -/
  | select (table : String) (condition : Option SearchCondition) (order : List OrderTerm)
      (window : Option Window)
  /-- `INSERT INTO table (columns) VALUES rows`. -/
  | insert (table : String) (columns : List String) (rows : List (List String))
  /-- `MERGE INTO table USING (VALUES rows) (columns) ON … WHEN MATCHED THEN UPDATE SET …`. -/
  | merge (table : String) (rows : List (List String)) (columns : List String) (join : Link)
      (assignments : List Link)
  /-- `DELETE FROM table WHERE …`. -/
  | delete (table : String) (condition : Option SearchCondition)

/-! ## Parts -/

def Token.name? : Token → Option String
  | .name n => some n
  | _ => none

/-- What follows some tokens that have to come first. -/
def expectAll : List Token → List Token → Option (List Token)
  | [], us => some us
  | t :: ts, us => (expect t us).bind (expectAll ts)

/-- Items with commas between them. -/
def separated {β : Type} (p : Nat → List Token → Option (β × List Token)) :
    Nat → List Token → Option (List β × List Token)
  | n + 1, ts => do
    let (b, ts) ← p n ts
    match ts with
    | .symbol ',' :: ts =>
      let (bs, ts) ← separated p n ts
      return (b :: bs, ts)
    | ts => return ([b], ts)
  | 0, _ => none

def readColumns : List Token → Option (List String × List Token)
  | .symbol '(' :: ts => elements Token.name? ts
  | _ => none

/-- The parameters of a row, in parentheses. -/
def readRow (_ : Nat) : List Token → Option (List String × List Token)
  | .symbol '(' :: ts => elements Token.marker? ts
  | _ => none

/-- The name by which a merge calls the table that it changes. -/
def Token.target : Token := .word "target".toList

/-- The name by which a merge calls the rows that it changes the table by. -/
def Token.source : Token := .word "source".toList

/-- A column of the target, an equals sign and a column of the source. -/
def readLink (_ : Nat) : List Token → Option (Link × List Token)
  | t :: .symbol '.' :: .name a :: .operator ['='] :: s :: .symbol '.' :: .name b :: ts =>
    if t = .target ∧ s = .source then some (⟨a, b⟩, ts) else none
  | _ => none

def readTerm (_ : Nat) : List Token → Option (OrderTerm × List Token)
  | .name c :: .keyword .asc :: ts => some (⟨c, .ascending⟩, ts)
  | .name c :: .keyword .desc :: ts => some (⟨c, .descending⟩, ts)
  | _ => none

def readWhere (n : Nat) : List Token → Option (Option SearchCondition × List Token)
  | .keyword .where_ :: ts => (readCondition n ts).map fun (c, ts) => (some c, ts)
  | ts => some (none, ts)

def readOrder (n : Nat) : List Token → Option (List OrderTerm × List Token)
  | .keyword .order :: .keyword .by_ :: ts => separated readTerm n ts
  | ts => some ([], ts)

def readWindow : List Token → Option (Option Window × List Token)
  | .keyword .offset :: .word a :: .keyword .rows :: .keyword .fetch :: .keyword .next ::
      .word b :: .keyword .rows :: .keyword .only_ :: ts => do
    let offset ← readNat? a
    let limit ← readNat? b
    return (some ⟨offset, limit⟩, ts)
  | ts => some (none, ts)

/-! ## Commands -/

def readCommand (n : Nat) : List Token → Option (Command × List Token)
  | .keyword .select :: .symbol '*' :: .keyword .from_ :: .name table :: ts => do
    let (condition, ts) ← readWhere n ts
    let (order, ts) ← readOrder n ts
    let (window, ts) ← readWindow ts
    return (.select table condition order window, ts)
  | .keyword .insert :: .keyword .into :: .name table :: ts => do
    let (columns, ts) ← readColumns ts
    let ts ← expect (.keyword .values) ts
    let (rows, ts) ← separated readRow n ts
    return (.insert table columns rows, ts)
  | .keyword .merge :: .keyword .into :: .name table :: ts => do
    let ts ← expectAll [.keyword .as_, .target, .keyword .using_, .symbol '(',
      .keyword .values] ts
    let (rows, ts) ← separated readRow n ts
    let ts ← expectAll [.symbol ')', .keyword .as_, .source] ts
    let (columns, ts) ← readColumns ts
    let ts ← expect (.keyword .on_) ts
    let (join, ts) ← readLink n ts
    let ts ← expectAll [.keyword .when, .keyword .matched, .keyword .then_, .keyword .update,
      .keyword .set] ts
    let (assignments, ts) ← separated readLink n ts
    return (.merge table rows columns join assignments, ts)
  | .keyword .delete :: .keyword .from_ :: .name table :: ts => do
    let (condition, ts) ← readWhere n ts
    return (.delete table condition, ts)
  | _ => none

/-- Commands that a semicolon ends each, up to the end. -/
def readCommands : Nat → List Token → Option (List Command)
  | _, [] => some []
  | n + 1, ts => do
    let (command, ts) ← readCommand n ts
    let ts ← expect (.symbol ';') ts
    let commands ← readCommands n ts
    return command :: commands
  | 0, _ => none

def readBatch? (text : String) : Option (List Command) :=
  let ts := tokens text
  readCommands (5 * ts.length + 5) ts

/-! ## Tokens of commands -/

/-- Elements of one token each, in parentheses. -/
def listTokens (token : String → Token) (l : List String) : List Token :=
  .symbol '(' :: ([.symbol ','].intercalate (l.map fun s => [token s]) ++ [.symbol ')'])

def rowsTokens (rows : List (List String)) : List Token :=
  .keyword .values :: [.symbol ','].intercalate (rows.map (listTokens .marker))

def linkTokens (l : Link) : List Token :=
  [.target, .symbol '.', .name l.target, .operator ['='], .source, .symbol '.',
   .name l.source]

def directionKeyword : Direction → Keyword
  | .ascending => .asc
  | .descending => .desc

def termTokens (t : OrderTerm) : List Token :=
  [.name t.column, .keyword (directionKeyword t.direction)]

/-- The tokens of a clause for a condition with the given tokens, if there is one. -/
def whereTokens : Option (List Token) → List Token
  | none => []
  | some ts => .keyword .where_ :: ts

def orderTokens : List OrderTerm → List Token
  | [] => []
  | order => .keyword .order :: .keyword .by_ :: [.symbol ','].intercalate (order.map termTokens)

def windowTokens : Option Window → List Token
  | none => []
  | some w =>
    [.keyword .offset, .word (Nat.toDigits 10 w.offset), .keyword .rows, .keyword .fetch,
     .keyword .next, .word (Nat.toDigits 10 w.limit), .keyword .rows, .keyword .only_]

/-! ## What is read -/

/-- The tokens are a command, which a semicolon has to follow. -/
def ReadsCommand (ts : List Token) (command : Command) : Prop :=
  ts ≠ [] ∧ ∀ n rest, 5 * ts.length + 4 ≤ n →
    readCommand n (ts ++ .symbol ';' :: rest) = some (command, .symbol ';' :: rest)

/-! ### Parts -/

/-- Items with commas between them are read as a list. -/
theorem reads_separated {β γ : Type} {p : Nat → List Token → Option (γ × List Token)}
    {ts : β → List Token} {value : β → γ} {l : List β} (hne : l ≠ [])
    (hp : ∀ b ∈ l, Reads p 0 [] (ts b) (value b)) :
    Reads (separated p) 1 [.symbol ','] ([.symbol ','].intercalate (l.map ts)) (l.map value) := by
  induction l with
  | nil => exact absurd rfl hne
  | cons b bs ih =>
    have hb := hp b List.mem_cons_self
    cases bs with
    | nil =>
      refine reads_of_succ (by omega) fun n rest hn hstops => ?_
      simp only [List.map_cons, List.map_nil, List.intercalate_singleton] at hn ⊢
      have hitem := hb n rest (by omega) (by simp)
      have hcomma : rest.head? ≠ some (.symbol ',') := hstops _ (by simp)
      simp only [separated, hitem, Option.bind_eq_bind, Option.bind_some]
      split
      · exact absurd rfl hcomma
      · rfl
    | cons c cs =>
      have hrest := ih (List.cons_ne_nil c cs) fun d hd => hp d (List.mem_cons_of_mem b hd)
      rw [List.map_cons, List.map_cons, List.intercalate_cons_cons, ← List.map_cons,
        List.append_assoc]
      refine reads_of_succ (by omega) fun n rest hn hstops => ?_
      simp only [List.length_append, List.length_singleton] at hn
      generalize [Token.symbol ','].intercalate ((c :: cs).map ts) = us at hrest hn ⊢
      have hitem := hb n (.symbol ',' :: (us ++ rest)) (by omega) (by simp)
      have htail := hrest n rest (by omega) hstops
      simp [separated, hitem, htail]

theorem elements_list {element? : Token → Option String} {token : String → Token}
    (h : ∀ s, element? (token s) = some s) {l : List String} (hne : l ≠ []) (rest : List Token) :
    elements element? ([.symbol ','].intercalate (l.map fun s => [token s]) ++
      .symbol ')' :: rest) = some (l, rest) := by
  obtain ⟨s, l, rfl⟩ := List.exists_cons_of_ne_nil hne
  have hlist : elements element? ([.symbol ','].intercalate ((s :: l).map fun s => [token s]) ++
      .symbol ')' :: rest) = some ((s :: l).map id, rest) := elements_intercalate h s l rest
  rwa [List.map_id] at hlist

theorem readColumns_listTokens {columns : List String} (hne : columns ≠ []) (rest : List Token) :
    readColumns (listTokens .name columns ++ rest) = some (columns, rest) := by
  rw [listTokens, List.cons_append, List.append_assoc]
  exact elements_list (fun _ => rfl) hne rest

theorem reads_row {row : List String} (hne : row ≠ []) :
    Reads readRow 0 [] (listTokens .marker row) row := by
  intro n rest _ _
  rw [listTokens, List.cons_append, List.append_assoc]
  exact elements_list (fun _ => rfl) hne rest

theorem reads_link (l : Link) : Reads readLink 0 [] (linkTokens l) l := by
  intro n rest _ _
  simp [readLink, linkTokens]

theorem reads_term (t : OrderTerm) : Reads readTerm 0 [] (termTokens t) t := by
  intro n rest _ _
  obtain ⟨c, d⟩ := t
  cases d <;> rfl

theorem reads_rows {rows : List (List String)} (hne : rows ≠ []) (hrow : ∀ row ∈ rows, row ≠ []) :
    Reads (separated readRow) 1 [.symbol ',']
      ([.symbol ','].intercalate (rows.map (listTokens .marker))) rows := by
  have hrows := reads_separated hne fun row hmem => reads_row (hrow row hmem)
  rwa [List.map_id'] at hrows

theorem reads_links {links : List Link} (hne : links ≠ []) :
    Reads (separated readLink) 1 [.symbol ',']
      ([.symbol ','].intercalate (links.map linkTokens)) links := by
  have hlinks := reads_separated hne fun l _ => reads_link l
  rwa [List.map_id'] at hlinks

theorem readNat?_toDigits (n : Nat) : readNat? (Nat.toDigits 10 n) = some n := by
  have hdigits : ∀ c ∈ Nat.toDigits 10 n, c.isDigit = true := fun c hc =>
    Nat.isDigit_of_mem_toDigits (by decide) (by decide) hc
  simp [readNat?, value_toDigits, List.all_eq_true.2 hdigits, Nat.toDigits_ne_nil]

/-! ### Commands -/

theorem readsCommand_insert (table : String) {columns : List String} (hcolumns : columns ≠ [])
    {rows : List (List String)} (hrows : rows ≠ []) (hrow : ∀ row ∈ rows, row ≠ []) :
    ReadsCommand (.keyword .insert :: .keyword .into :: .name table ::
      (listTokens .name columns ++ rowsTokens rows)) (.insert table columns rows) := by
  refine ⟨List.cons_ne_nil _ _, fun n rest hn => ?_⟩
  rw [rowsTokens] at hn ⊢
  simp only [List.length_cons, List.length_append] at hn
  have hcolumns := readColumns_listTokens hcolumns (.keyword .values ::
    ([.symbol ','].intercalate (rows.map (listTokens .marker)) ++ .symbol ';' :: rest))
  have hrows := reads_rows hrows hrow n (.symbol ';' :: rest) (by omega) (by simp)
  simp [readCommand, hcolumns, hrows]

theorem readsCommand_merge (table : String) {rows : List (List String)} (hrows : rows ≠ [])
    (hrow : ∀ row ∈ rows, row ≠ []) {columns : List String} (hcolumns : columns ≠ []) (join : Link)
    {assignments : List Link} (hassignments : assignments ≠ []) :
    ReadsCommand (.keyword .merge :: .keyword .into :: .name table ::
      ([.keyword .as_, .target, .keyword .using_] ++
        ((.symbol '(' :: (rowsTokens rows ++ [.symbol ')'])) ++ ([.keyword .as_, .source] ++
          (listTokens .name columns ++ ([.keyword .on_] ++ (linkTokens join ++
            ([.keyword .when, .keyword .matched, .keyword .then_, .keyword .update,
              .keyword .set] ++
              [.symbol ','].intercalate (assignments.map linkTokens)))))))))
      (.merge table rows columns join assignments) := by
  refine ⟨List.cons_ne_nil _ _, fun n rest hn => ?_⟩
  rw [rowsTokens] at hn ⊢
  simp only [List.length_cons, List.length_append] at hn
  have hassignments := reads_links hassignments n (.symbol ';' :: rest) (by omega) (by simp)
  simp only [List.cons_append, List.append_assoc, List.nil_append]
  generalize [Token.symbol ','].intercalate (assignments.map linkTokens) ++ .symbol ';' :: rest =
    afterSet at hassignments ⊢
  have hjoin := reads_link join n (.keyword .when :: .keyword .matched :: .keyword .then_ ::
    .keyword .update :: .keyword .set :: afterSet) (by omega) (by simp)
  have hcolumns := readColumns_listTokens hcolumns (.keyword .on_ :: (linkTokens join ++
    .keyword .when :: .keyword .matched :: .keyword .then_ :: .keyword .update ::
      .keyword .set :: afterSet))
  have hrows := reads_rows hrows hrow n (.symbol ')' :: .keyword .as_ ::
    .source :: (listTokens .name columns ++ .keyword .on_ :: (linkTokens join ++
      .keyword .when :: .keyword .matched :: .keyword .then_ :: .keyword .update ::
        .keyword .set :: afterSet))) (by omega) (by simp)
  simp [readCommand, expectAll, hrows, hcolumns, hjoin, hassignments]

/-- A clause for a condition, if there is one. -/
theorem readWhere_whereTokens {condition : Option (List Token × SearchCondition)}
    (h : ∀ c ∈ condition, ReadsCondition c.1 c.2) {n : Nat} {rest : List Token}
    (hn : ∀ c ∈ condition, 5 * c.1.length + 4 ≤ n)
    (hrest : ∀ k ∈ [Keyword.where_, .escape, .and, .or], rest.head? ≠ some (.keyword k)) :
    readWhere n (whereTokens (condition.map Prod.fst) ++ rest) =
      some (condition.map Prod.snd, rest) := by
  cases condition with
  | none =>
    have hwhere := hrest .where_ (by simp)
    show readWhere n rest = some (none, rest)
    unfold readWhere
    split
    · exact absurd rfl hwhere
    · rfl
  | some c =>
    have hcondition := h c rfl n rest (hn c rfl) (by simp [hrest])
    simp [whereTokens, readWhere, hcondition]

/-- A clause for an order, if there is one. -/
theorem readOrder_orderTokens (order : List OrderTerm) {n : Nat} {rest : List Token}
    (hn : 5 * (orderTokens order).length ≤ n)
    (hrest : rest.head? ≠ some (.keyword .order) ∧ rest.head? ≠ some (.symbol ',')) :
    readOrder n (orderTokens order ++ rest) = some (order, rest) := by
  cases order with
  | nil =>
    show readOrder n rest = some ([], rest)
    unfold readOrder
    split
    · exact absurd rfl hrest.1
    · rfl
  | cons t ts =>
    have hterms := reads_separated (List.cons_ne_nil t ts) fun u _ => reads_term u
    rw [List.map_id'] at hterms
    have hlength : (orderTokens (t :: ts)).length =
        ([.symbol ','].intercalate ((t :: ts).map termTokens)).length + 2 := rfl
    exact hterms n rest (by omega) (by simp [hrest.2])

/-- A clause for a window, if there is one. -/
theorem readWindow_windowTokens (window : Option Window) {rest : List Token}
    (hrest : rest.head? ≠ some (.keyword .offset)) :
    readWindow (windowTokens window ++ rest) = some (window, rest) := by
  cases window with
  | none =>
    show readWindow rest = some (none, rest)
    unfold readWindow
    split
    · exact absurd rfl hrest
    · rfl
  | some w => simp [windowTokens, readWindow, readNat?_toDigits]

theorem readsCommand_delete (table : String) {ts : List Token} {c : SearchCondition}
    (h : ReadsCondition ts c) :
    ReadsCommand (.keyword .delete :: .keyword .from_ :: .name table :: whereTokens (some ts))
      (.delete table (some c)) := by
  refine ⟨List.cons_ne_nil _ _, fun n rest hn => ?_⟩
  simp only [List.length_cons, whereTokens] at hn
  have hwhere : readWhere n (whereTokens (some ts) ++ .symbol ';' :: rest) =
      some (some c, .symbol ';' :: rest) := by
    have hcondition := h n (.symbol ';' :: rest) (by omega) (by simp)
    simp [whereTokens, readWhere, hcondition]
  simp [readCommand, hwhere]

theorem readsCommand_select (table : String) {condition : Option (List Token × SearchCondition)}
    (h : ∀ c ∈ condition, ReadsCondition c.1 c.2) (order : List OrderTerm)
    (window : Option Window) :
    ReadsCommand (.keyword .select :: .symbol '*' :: .keyword .from_ :: .name table ::
      (whereTokens (condition.map Prod.fst) ++ (orderTokens order ++ windowTokens window)))
      (.select table (condition.map Prod.snd) order window) := by
  refine ⟨List.cons_ne_nil _ _, fun n rest hn => ?_⟩
  simp only [List.length_cons, List.length_append] at hn
  have hlength : ∀ c ∈ condition, 5 * c.1.length + 4 ≤ n := by
    rintro c rfl
    simp only [Option.map_some, whereTokens, List.length_cons] at hn
    omega
  -- No clause begins like the ones that stand in front of it.
  have hbehindWhere : ∀ k ∈ [Keyword.where_, .escape, .and, .or],
      (orderTokens order ++ (windowTokens window ++ .symbol ';' :: rest)).head? ≠
        some (.keyword k) := by
    cases order <;> cases window <;> simp [orderTokens, windowTokens]
  have hbehindOrder :
      (windowTokens window ++ .symbol ';' :: rest).head? ≠ some (.keyword .order) ∧
        (windowTokens window ++ .symbol ';' :: rest).head? ≠ some (.symbol ',') := by
    cases window <;> simp [windowTokens]
  have hwhere := readWhere_whereTokens h hlength hbehindWhere
  have horder := readOrder_orderTokens order (n := n) (by omega) hbehindOrder
  have hwindow : readWindow (windowTokens window ++ .symbol ';' :: rest) =
      some (window, .symbol ';' :: rest) := readWindow_windowTokens window (by simp)
  simp [readCommand, hwhere, horder, hwindow]

/-! ### Batches -/

theorem readCommands_flatMap {ls : List (List Token × Command)}
    (h : ∀ l ∈ ls, ReadsCommand l.1 l.2) {n : Nat}
    (hn : 5 * (ls.flatMap fun l => l.1 ++ [.symbol ';']).length + 5 ≤ n) :
    readCommands n (ls.flatMap fun l => l.1 ++ [.symbol ';']) = some (ls.map Prod.snd) := by
  induction ls generalizing n with
  | nil => simp [readCommands]
  | cons l ls ih =>
    obtain ⟨n, rfl⟩ : ∃ m, n = m + 1 := ⟨n - 1, by omega⟩
    obtain ⟨hne, hread⟩ := h l List.mem_cons_self
    obtain ⟨t, ts, hl⟩ := List.exists_cons_of_ne_nil hne
    simp only [List.flatMap_cons, List.length_append, List.length_singleton] at hn
    have hrest := ih (fun k hk => h k (List.mem_cons_of_mem l hk)) (n := n) (by omega)
    have hcommand := hread n (ls.flatMap fun k => k.1 ++ [.symbol ';']) (by omega)
    rw [List.flatMap_cons, List.append_assoc, List.singleton_append]
    rw [hl] at hcommand ⊢
    rw [List.cons_append] at hcommand ⊢
    simp [readCommands, hcommand, hrest]

/-- Commands that are read one by one are read as a batch. -/
theorem readBatch?_eq_some {text : String} {ls : List (List Token × Command)}
    (htext : tokens text = ls.flatMap fun l => l.1 ++ [.symbol ';'])
    (h : ∀ l ∈ ls, ReadsCommand l.1 l.2) : readBatch? text = some (ls.map Prod.snd) := by
  rw [readBatch?, htext]
  exact readCommands_flatMap h (Nat.le_refl _)

end EntitySql.Sql
