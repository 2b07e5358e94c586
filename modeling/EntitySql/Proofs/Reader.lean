import EntitySql.Proofs.SearchCondition
import EntitySql.Proofs.Token
import EntitySql.Text.Digits

/-!
# Reading search conditions

The reader of conditions, by recursive descent: `AND` binds tighter than `OR`, a `BETWEEN`
takes the next `AND` for its own, and parentheses override.  Every level reads what it can from
the front of the tokens and returns the rest.  The levels call each other, so they count down a
number that `read?` sets from the length of the text; what each level needs is in its law.

    factors joined by AND are read as their conjunction     (conjunction_of_factors)
    conjunctions joined by OR are read as their disjunction (condition_of_conjunctions)
-/

namespace EntitySql.Sql

open EntitySql.Text

/-! ## Single tokens -/

/-- The comparison that an operator spells. -/
def Comparator.ofSigns? : List Char → Option Comparator
  | ['='] => some .eq
  | ['!', '='] => some .ne
  | ['<', '>'] => some .ne
  | ['<'] => some .lt
  | ['<', '='] => some .lte
  | ['>'] => some .gt
  | ['>', '='] => some .gte
  | _ => none

/-- The operand that a token is. -/
def Atom.ofToken? : Token → Option Atom
  | .name n => some (.column n)
  | .marker m => some (.parameter m)
  | .word w => (readNat? w).map .number
  | _ => none

/-- What follows a token that has to come first. -/
def expect (t : Token) : List Token → Option (List Token)
  | u :: ts => if u = t then some ts else none
  | [] => none

/-- The escape character of a pattern, where one is named. -/
def escapeClause : List Token → Option Char × List Token
  | .keyword .escape :: .literal [c] :: ts => (some c, ts)
  | ts => (none, ts)

/-- Elements of one token each, with commas between them, up to a closing parenthesis. -/
def elements {α : Type} (element? : Token → Option α) : List Token → Option (List α × List Token)
  | t :: .symbol ',' :: ts => do
    let a ← element? t
    let (as, ts) ← elements element? ts
    return (a :: as, ts)
  | t :: .symbol ')' :: ts => do
    let a ← element? t
    return ([a], ts)
  | _ => none

/-! ## Conditions -/

mutual

/-- An operand from the front of some tokens. -/
def readExpression : Nat → List Token → Option (Expression × List Token)
  | n + 1, .symbol '(' :: ts => do
    let (e, ts) ← readExpression n ts
    let ts ← expect (.symbol ')') ts
    return (e, ts)
  | n + 1, .keyword .case :: .keyword .when :: ts => do
    let (test, ts) ← readCondition n ts
    let ts ← expect (.keyword .then_) ts
    let (yes, ts) ← readExpression n ts
    let ts ← expect (.keyword .else_) ts
    let (no, ts) ← readExpression n ts
    let ts ← expect (.keyword .end_) ts
    return (.choice test yes no, ts)
  | _ + 1, t :: ts => (Atom.ofToken? t).map fun a => (.atom a, ts)
  | _, _ => none

/-- What is said of an operand. -/
def readStatement (e : Expression) : Nat → List Token → Option (SearchCondition × List Token)
  | n + 1, .operator signs :: ts => do
    let c ← Comparator.ofSigns? signs
    let (right, ts) ← readExpression n ts
    return (.compare e c right, ts)
  | _ + 1, .keyword .is :: .keyword .null :: ts => some (.null e false, ts)
  | _ + 1, .keyword .is :: .keyword .not :: .keyword .null :: ts => some (.null e true, ts)
  | n + 1, .keyword .like :: ts => do
    let (pattern, ts) ← readExpression n ts
    let (escape, ts) := escapeClause ts
    return (.like e pattern escape, ts)
  | _ + 1, .keyword .in_ :: .symbol '(' :: ts => do
    let (list, ts) ← elements Atom.ofToken? ts
    return (.member e false list, ts)
  | _ + 1, .keyword .not :: .keyword .in_ :: .symbol '(' :: ts => do
    let (list, ts) ← elements Atom.ofToken? ts
    return (.member e true list, ts)
  | n + 1, .keyword .between :: ts => do
    let (low, ts) ← readExpression n ts
    let ts ← expect (.keyword .and) ts
    let (high, ts) ← readExpression n ts
    return (.between e low high, ts)
  | _, _ => none

/-- A condition in parentheses. -/
def readEnclosed : Nat → List Token → Option (SearchCondition × List Token)
  | n + 1, .symbol '(' :: ts => do
    let (c, ts) ← readCondition n ts
    let ts ← expect (.symbol ')') ts
    return (c, ts)
  | _, _ => none

/-- An operand and what is said of it. -/
def readPredicate : Nat → List Token → Option (SearchCondition × List Token)
  | n + 1, ts => do
    let (e, ts) ← readExpression n ts
    readStatement e n ts
  | _, _ => none

/-- A condition without a conjunction or a disjunction outside of parentheses. -/
def readFactor : Nat → List Token → Option (SearchCondition × List Token)
  | n + 1, ts => (readEnclosed n ts).or (readPredicate n ts)
  | _, _ => none

/-- Factors with `AND` between them. -/
def readConjunction : Nat → List Token → Option (SearchCondition × List Token)
  | n + 1, ts => do
    let (c, ts) ← readFactor n ts
    match ts with
    | .keyword .and :: ts =>
      let (d, ts) ← readConjunction n ts
      return (.and c d, ts)
    | ts => return (c, ts)
  | _, _ => none

/-- Conjunctions with `OR` between them. -/
def readCondition : Nat → List Token → Option (SearchCondition × List Token)
  | n + 1, ts => do
    let (c, ts) ← readConjunction n ts
    match ts with
    | .keyword .or :: ts =>
      let (d, ts) ← readCondition n ts
      return (.or c d, ts)
    | ts => return (c, ts)
  | _, _ => none

end

namespace SearchCondition

/-- The condition that a text states, if it is one as a whole. -/
def read? (text : String) : Option SearchCondition :=
  let ts := tokens text
  match readCondition (5 * ts.length + 4) ts with
  | some (c, []) => some c
  | _ => none

/-- The condition that a text states as one factor, which no `AND` or `OR` around it can take
apart. -/
def readFactor? (text : String) : Option SearchCondition :=
  let ts := tokens text
  match readFactor (5 * ts.length + 2) ts with
  | some (c, []) => some c
  | _ => none

end SearchCondition

/-! ## What is read -/

/-- A level of the reader takes exactly the given tokens, where none of the tokens `stops`
follows.  `level` is what the level needs beyond five for each token. -/
def Reads {β : Type} (p : Nat → List Token → Option (β × List Token)) (level : Nat)
    (stops : List Token) (ts : List Token) (b : β) : Prop :=
  ∀ n rest, 5 * ts.length + level ≤ n → (∀ t ∈ stops, rest.head? ≠ some t) →
    p n (ts ++ rest) = some (b, rest)

abbrev ReadsExpression : List Token → Expression → Prop := Reads readExpression 0 []

/-- The tokens say something of an operand. -/
abbrev ReadsStatement (e : Expression) : List Token → SearchCondition → Prop :=
  Reads (readStatement e) 0 [.keyword .escape]

abbrev ReadsFactor : List Token → SearchCondition → Prop :=
  Reads readFactor 2 [.keyword .escape]

abbrev ReadsConjunction : List Token → SearchCondition → Prop :=
  Reads readConjunction 3 [.keyword .escape, .keyword .and]

abbrev ReadsCondition : List Token → SearchCondition → Prop :=
  Reads readCondition 4 [.keyword .escape, .keyword .and, .keyword .or]

@[simp] theorem expect_self (t : Token) (ts : List Token) : expect t (t :: ts) = some ts := by
  simp [expect]

/-- Every level counts down by one before it reads anything. -/
theorem reads_of_succ {β : Type} {p : Nat → List Token → Option (β × List Token)} {level : Nat}
    {stops : List Token} {ts : List Token} {b : β} (hpos : 0 < 5 * ts.length + level)
    (h : ∀ n rest, 5 * ts.length + level ≤ n + 1 →
      (∀ t ∈ stops, rest.head? ≠ some t) → p (n + 1) (ts ++ rest) = some (b, rest)) :
    Reads p level stops ts b := by
  intro n rest hn hstops
  obtain ⟨m, rfl⟩ : ∃ m, n = m + 1 := ⟨n - 1, by omega⟩
  exact h m rest hn hstops

/-! ### Operands -/

theorem readsExpression_atom {t : Token} {a : Atom} (h : Atom.ofToken? t = some a) :
    ReadsExpression [t] (.atom a) := by
  refine reads_of_succ (by simp) fun n rest _ _ => ?_
  cases t with
  | name c => simp [readExpression, h]
  | marker m => simp [readExpression, h]
  | word w => simp [readExpression, h]
  | keyword k => cases h
  | literal v => cases h
  | operator o => cases h
  | symbol c => cases h

theorem readsExpression_enclosed {ts : List Token} {e : Expression} (h : ReadsExpression ts e) :
    ReadsExpression (.symbol '(' :: (ts ++ [.symbol ')'])) e := by
  refine reads_of_succ (by simp) fun n rest hn _ => ?_
  simp only [List.length_cons, List.length_append, List.length_nil] at hn
  have hinner := h n (.symbol ')' :: rest) (by omega) (by simp)
  simp [readExpression, hinner]

theorem readsExpression_choice {ts us vs : List Token} {c : SearchCondition} {y z : Expression}
    (hc : ReadsCondition ts c) (hy : ReadsExpression us y) (hz : ReadsExpression vs z) :
    ReadsExpression (.keyword .case :: .keyword .when :: (ts ++ .keyword .then_ ::
      (us ++ .keyword .else_ :: (vs ++ [.keyword .end_])))) (.choice c y z) := by
  refine reads_of_succ (by simp) fun n rest hn _ => ?_
  simp only [List.length_cons, List.length_append, List.length_nil] at hn
  have htest := hc n (.keyword .then_ :: (us ++ .keyword .else_ :: (vs ++ .keyword .end_ :: rest)))
    (by omega) (by simp)
  have hyes := hy n (.keyword .else_ :: (vs ++ .keyword .end_ :: rest)) (by omega) (by simp)
  have hno := hz n (.keyword .end_ :: rest) (by omega) (by simp)
  simp [readExpression, htest, hyes, hno]

/-- A list of elements, none of which is missing, is read to its end. -/
theorem elements_intercalate {α β : Type} {element? : Token → Option α} {token : β → Token}
    {element : β → α} (h : ∀ b, element? (token b) = some (element b)) (b : β) (bs : List β)
    (rest : List Token) :
    elements element? ([.symbol ','].intercalate ((b :: bs).map fun c => [token c]) ++
      .symbol ')' :: rest) = some ((b :: bs).map element, rest) := by
  induction bs generalizing b with
  | nil => simp [elements, h]
  | cons c cs ih =>
    have hrest := ih c
    rw [List.map_cons] at hrest
    rw [List.map_cons, List.map_cons, List.intercalate_cons_cons, List.append_assoc,
      List.append_assoc, List.singleton_append, List.singleton_append, elements, hrest, h]
    rfl

/-! ### Statements -/

variable {e f g : Expression} {ts us : List Token}

theorem readsStatement_compare {signs : List Char} {c : Comparator}
    (hc : Comparator.ofSigns? signs = some c) (hf : ReadsExpression ts f) :
    ReadsStatement e (.operator signs :: ts) (.compare e c f) := by
  refine reads_of_succ (by simp) fun n rest hn _ => ?_
  simp only [List.length_cons] at hn
  have hright := hf n rest (by omega) (by simp)
  simp [readStatement, hc, hright]

theorem readsStatement_null (negated : Bool) :
    ReadsStatement e (if negated then [.keyword .is, .keyword .not, .keyword .null]
      else [.keyword .is, .keyword .null]) (.null e negated) := by
  cases negated with
  | false => exact reads_of_succ (by simp) fun n rest _ _ => by simp [readStatement]
  | true => exact reads_of_succ (by simp) fun n rest _ _ => by simp [readStatement]

def escapeTokens : Option Char → List Token
  | none => []
  | some c => [.keyword .escape, .literal [c]]

theorem escapeClause_escapeTokens (escape : Option Char) {rest : List Token}
    (h : rest.head? ≠ some (.keyword .escape)) :
    escapeClause (escapeTokens escape ++ rest) = (escape, rest) := by
  cases escape with
  | some c => rfl
  | none =>
    unfold escapeTokens escapeClause
    split
    · next heq =>
      rw [List.nil_append] at heq
      simp [heq] at h
    · rfl

theorem readsStatement_like (escape : Option Char) (hf : ReadsExpression ts f) :
    ReadsStatement e (.keyword .like :: (ts ++ escapeTokens escape)) (.like e f escape) := by
  refine reads_of_succ (by simp) fun n rest hn hstops => ?_
  simp only [List.length_cons, List.length_append] at hn
  have hpattern := hf n (escapeTokens escape ++ rest) (by omega) (by simp)
  have hescape := escapeClause_escapeTokens escape (hstops _ (by simp))
  simp [readStatement, hpattern, hescape]

theorem readsStatement_member {β : Type} (negated : Bool) {token : β → Token} {atom : β → Atom}
    (h : ∀ b, Atom.ofToken? (token b) = some (atom b)) {l : List β} (hne : l ≠ []) :
    ReadsStatement e ((if negated then [.keyword .not, .keyword .in_] else [.keyword .in_]) ++
      .symbol '(' :: ([.symbol ','].intercalate (l.map fun b => [token b]) ++ [.symbol ')']))
      (.member e negated (l.map atom)) := by
  obtain ⟨b, bs, rfl⟩ := List.exists_cons_of_ne_nil hne
  have hlist := elements_intercalate h b bs
  generalize [Token.symbol ','].intercalate ((b :: bs).map fun c => [token c]) = list at hlist
  cases negated with
  | false => exact reads_of_succ (by simp) fun n rest _ _ => by simp [readStatement, hlist]
  | true => exact reads_of_succ (by simp) fun n rest _ _ => by simp [readStatement, hlist]

theorem readsStatement_between (hf : ReadsExpression ts f) (hg : ReadsExpression us g) :
    ReadsStatement e (.keyword .between :: (ts ++ .keyword .and :: us)) (.between e f g) := by
  refine reads_of_succ (by simp) fun n rest hn _ => ?_
  simp only [List.length_cons, List.length_append] at hn
  have hlow := hf n (.keyword .and :: (us ++ rest)) (by omega) (by simp)
  have hhigh := hg n rest (by omega) (by simp)
  simp [readStatement, hlow, hhigh]

/-! ### Factors -/

variable {c d : SearchCondition}

/-- What is said of an operand of one token is a factor. -/
theorem readsFactor_of_statement {t : Token} {a : Atom} (ht : Atom.ofToken? t = some a)
    (h : ReadsStatement (.atom a) ts c) : ReadsFactor (t :: ts) c := by
  refine reads_of_succ (by simp) fun n rest hn hstops => ?_
  simp only [List.length_cons] at hn
  obtain ⟨n, rfl⟩ : ∃ m, n = m + 1 := ⟨n - 1, by omega⟩
  have henclosed : readEnclosed (n + 1) (t :: (ts ++ rest)) = none := by
    unfold readEnclosed
    split
    · next heq =>
      cases heq
      cases ht
    · rfl
  have hsubject := readsExpression_atom ht n (ts ++ rest) (by simp; omega) (by simp)
  rw [List.singleton_append] at hsubject
  have hstatement := h n rest (by omega) hstops
  simp [readFactor, henclosed, readPredicate, hsubject, hstatement]

/-- A condition in parentheses is a factor. -/
theorem readsFactor_enclosed (h : ReadsCondition ts c) :
    ReadsFactor (.symbol '(' :: (ts ++ [.symbol ')'])) c := by
  refine reads_of_succ (by simp) fun n rest hn _ => ?_
  simp only [List.length_cons, List.length_append, List.length_nil] at hn
  obtain ⟨n, rfl⟩ : ∃ m, n = m + 1 := ⟨n - 1, by omega⟩
  have hinner := h n (.symbol ')' :: rest) (by omega) (by simp)
  simp [readFactor, readEnclosed, hinner]

/-! ### Conjunctions and disjunctions -/

theorem readsConjunction_of_factor (h : ReadsFactor ts c) : ReadsConjunction ts c := by
  refine reads_of_succ (by simp) fun n rest hn hstops => ?_
  have hfactor := h n rest (by omega) fun k hk => hstops k (by simp at hk ⊢; simp [hk])
  have hand : rest.head? ≠ some (.keyword .and) := hstops _ (by simp)
  simp only [readConjunction, hfactor, Option.bind_eq_bind, Option.bind_some]
  split
  · exact absurd rfl hand
  · rfl

theorem readsConjunction_and (hc : ReadsFactor ts c) (hd : ReadsConjunction us d) :
    ReadsConjunction (ts ++ .keyword .and :: us) (.and c d) := by
  refine reads_of_succ (by simp) fun n rest hn hstops => ?_
  simp only [List.length_cons, List.length_append] at hn
  have hleft := hc n (.keyword .and :: (us ++ rest)) (by omega) (by simp)
  have hright := hd n rest (by omega) hstops
  simp [readConjunction, hleft, hright]

/-- Factors with `AND` between them are read as their conjunction. -/
theorem conjunction_of_factors {α : Type} {ts : α → List Token} {tree : α → SearchCondition}
    {a : α} {as : List α} (h : ∀ b ∈ a :: as, ReadsFactor (ts b) (tree b)) :
    ReadsConjunction ([.keyword .and].intercalate ((a :: as).map ts))
      (.conjoin (tree a) (as.map tree)) := by
  induction as generalizing a with
  | nil => simpa [SearchCondition.conjoin] using readsConjunction_of_factor (h a (by simp))
  | cons b bs ih =>
    have hrest := ih fun x hx => h x (List.mem_cons_of_mem a hx)
    have hboth := readsConjunction_and (h a (by simp)) hrest
    simpa [SearchCondition.conjoin, List.intercalate_cons_cons] using hboth

theorem readsCondition_of_conjunction (h : ReadsConjunction ts c) : ReadsCondition ts c := by
  refine reads_of_succ (by simp) fun n rest hn hstops => ?_
  have hconjunction := h n rest (by omega) fun k hk => hstops k (by simp at hk ⊢; grind)
  have hor : rest.head? ≠ some (.keyword .or) := hstops _ (by simp)
  simp only [readCondition, hconjunction, Option.bind_eq_bind, Option.bind_some]
  split
  · exact absurd rfl hor
  · rfl

theorem readsCondition_or (hc : ReadsConjunction ts c) (hd : ReadsCondition us d) :
    ReadsCondition (ts ++ .keyword .or :: us) (.or c d) := by
  refine reads_of_succ (by simp) fun n rest hn hstops => ?_
  simp only [List.length_cons, List.length_append] at hn
  have hleft := hc n (.keyword .or :: (us ++ rest)) (by omega) (by simp)
  have hright := hd n rest (by omega) hstops
  simp [readCondition, hleft, hright]

/-- Conjunctions with `OR` between them are read as their disjunction. -/
theorem condition_of_conjunctions {α : Type} {ts : α → List Token} {tree : α → SearchCondition}
    {a : α} {as : List α} (h : ∀ b ∈ a :: as, ReadsConjunction (ts b) (tree b)) :
    ReadsCondition ([.keyword .or].intercalate ((a :: as).map ts))
      (.disjoin (tree a) (as.map tree)) := by
  induction as generalizing a with
  | nil => simpa [SearchCondition.disjoin] using readsCondition_of_conjunction (h a (by simp))
  | cons b bs ih =>
    have hrest := ih fun x hx => h x (List.mem_cons_of_mem a hx)
    have hboth := readsCondition_or (h a (by simp)) hrest
    simpa [SearchCondition.disjoin, List.intercalate_cons_cons] using hboth

/-! ### Whole texts -/

theorem SearchCondition.read?_eq_some {text : String} (ht : tokens text = ts)
    (h : ReadsCondition ts c) : read? text = some c := by
  have hall := h (5 * ts.length + 4) [] (Nat.le_refl _) (by simp)
  rw [List.append_nil] at hall
  simp [read?, ht, hall]

theorem SearchCondition.readFactor?_eq_some {text : String} (ht : tokens text = ts)
    (h : ReadsFactor ts c) : readFactor? text = some c := by
  have hall := h (5 * ts.length + 2) [] (Nat.le_refl _) (by simp)
  rw [List.append_nil] at hall
  simp [readFactor?, ht, hall]

end EntitySql.Sql
