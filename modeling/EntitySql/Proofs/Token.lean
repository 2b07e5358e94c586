import EntitySql.Sql.Identifier
import EntitySql.Text.Blank

/-!
# Tokens of SQL text

What a reader of SQL text sees: keywords and other words, bracketed names with `]]` for `]`,
parameters, literals between single quotes with `''` for `'`, comparison operators, and single
characters for all else.  The reader goes through the text once, one character at a time, and
keeps what it is in the middle of.

    r.next c = r.ended c  for a delimiter c                 (next_of_delimiter)
    tokensFrom r s = r.tokens ++ tokensFrom .gap s  where s begins with a delimiter
                                                            (tokensFrom_of_delimited)
-/

namespace EntitySql.Sql

open EntitySql.Text

/-! ## Keywords -/

inductive Keyword
  | select | from_ | where_ | order | by_ | asc | desc | offset | rows | fetch | next | only_
  | insert | into | values | merge | as_ | using_ | on_ | when | matched | then_ | update | set
  | delete | and | or | not | is | null | like | escape | in_ | between | case | else_ | end_
deriving DecidableEq, Repr

namespace Keyword

def spelling : Keyword → String
  | .select => "SELECT"
  | .from_ => "FROM"
  | .where_ => "WHERE"
  | .order => "ORDER"
  | .by_ => "BY"
  | .asc => "ASC"
  | .desc => "DESC"
  | .offset => "OFFSET"
  | .rows => "ROWS"
  | .fetch => "FETCH"
  | .next => "NEXT"
  | .only_ => "ONLY"
  | .insert => "INSERT"
  | .into => "INTO"
  | .values => "VALUES"
  | .merge => "MERGE"
  | .as_ => "AS"
  | .using_ => "USING"
  | .on_ => "ON"
  | .when => "WHEN"
  | .matched => "MATCHED"
  | .then_ => "THEN"
  | .update => "UPDATE"
  | .set => "SET"
  | .delete => "DELETE"
  | .and => "AND"
  | .or => "OR"
  | .not => "NOT"
  | .is => "IS"
  | .null => "NULL"
  | .like => "LIKE"
  | .escape => "ESCAPE"
  | .in_ => "IN"
  | .between => "BETWEEN"
  | .case => "CASE"
  | .else_ => "ELSE"
  | .end_ => "END"

def all : List Keyword :=
  [.select, .from_, .where_, .order, .by_, .asc, .desc, .offset, .rows, .fetch, .next, .only_,
   .insert, .into, .values, .merge, .as_, .using_, .on_, .when, .matched, .then_, .update, .set,
   .delete, .and, .or, .not, .is, .null, .like, .escape, .in_, .between, .case, .else_, .end_]

end Keyword

/-! ## Tokens -/

inductive Token
  | keyword (k : Keyword)
  | word (letters : List Char)
  | name (name : String)
  | marker (name : String)
  | literal (text : List Char)
  | operator (signs : List Char)
  | symbol (c : Char)
deriving DecidableEq, Repr

namespace Token

/-- The token of a word: a keyword if it is reserved. -/
def ofWord (w : List Char) : Token :=
  match Keyword.all.find? (·.spelling.toList = w) with
  | some k => .keyword k
  | none => .word w

/-- The parameter that a token names. -/
def marker? : Token → Option String
  | .marker m => some m
  | _ => none

end Token

/-! ## Reading -/

def isWordChar (c : Char) : Bool := c.isAlphanum || c == '_'

def isOperatorChar (c : Char) : Bool := c == '=' || c == '<' || c == '>' || c == '!'

/-- What the reader is in the middle of, with the characters read so far, the last one in
front.  After a closing bracket or quote it is still open whether the same character follows. -/
inductive Reading
  | gap
  | word (w : List Char)
  | marker (w : List Char)
  | operator (w : List Char)
  | name (w : List Char)
  | nameClosed (w : List Char)
  | literal (w : List Char)
  | literalClosed (w : List Char)

namespace Reading

/-- The token that ends here.  A name or a literal that is not closed is none. -/
def tokens : Reading → List Token
  | .gap => []
  | .word w => [.ofWord w.reverse]
  | .marker w => [.marker (String.ofList w.reverse)]
  | .operator w => [.operator w.reverse]
  | .nameClosed w => [.name (String.ofList w.reverse)]
  | .literalClosed w => [.literal w.reverse]
  | .name _ => [.symbol '[']
  | .literal _ => [.symbol '\'']

/-- What a character begins that continues nothing. -/
def opened (c : Char) : List Token × Reading :=
  if c = '[' then ([], .name [])
  else if c = '\'' then ([], .literal [])
  else if c = '@' then ([], .marker [])
  else if isWordChar c then ([], .word [c])
  else if isOperatorChar c then ([], .operator [c])
  else if isBlank c then ([], .gap)
  else ([.symbol c], .gap)

/-- Ends the token that is being read in front of a character. -/
def ended (r : Reading) (c : Char) : List Token × Reading :=
  (r.tokens ++ (opened c).1, (opened c).2)

/-- One character: the tokens that it ends and what the reader is in the middle of then. -/
def next : Reading → Char → List Token × Reading
  | .gap, c => opened c
  | .word w, c => if isWordChar c then ([], .word (c :: w)) else ended (.word w) c
  | .marker w, c => if isWordChar c then ([], .marker (c :: w)) else ended (.marker w) c
  | .operator w, c => if isOperatorChar c then ([], .operator (c :: w)) else ended (.operator w) c
  | .name w, c => ([], if c = ']' then .nameClosed w else .name (c :: w))
  | .nameClosed w, c => if c = ']' then ([], .name (c :: w)) else ended (.nameClosed w) c
  | .literal w, c => ([], if c = '\'' then .literalClosed w else .literal (c :: w))
  | .literalClosed w, c => if c = '\'' then ([], .literal (c :: w)) else ended (.literalClosed w) c

/-- Whether a token may end here. -/
def isComplete : Reading → Bool
  | .name _ | .literal _ => false
  | _ => true

end Reading

/-- The tokens of a text whose beginning has been read. -/
def tokensFrom : Reading → List Char → List Token
  | r, [] => r.tokens
  | r, c :: s => (r.next c).1 ++ tokensFrom (r.next c).2 s

def tokens (text : String) : List Token := tokensFrom .gap text.toList

/-- The parameters that some tokens name, in order. -/
def markersOf (ts : List Token) : List String := ts.filterMap Token.marker?

def markers (text : String) : List String := markersOf (tokens text)

/-! ## Delimiters -/

/-- The characters that end every token in front of them. -/
def delimiters : List Char := [' ', '(', ')', ',', ';', '.', '\n']

/-- A text that continues no token in front of it. -/
def Delimited (s : List Char) : Prop := ∀ c ∈ s.head?, c ∈ delimiters

theorem delimited_nil : Delimited [] := by
  intro c hc
  simp at hc

theorem delimited_cons {c : Char} (h : c ∈ delimiters) (s : List Char) : Delimited (c :: s) := by
  intro d hd
  rw [List.head?_cons, Option.mem_some_iff] at hd
  exact hd ▸ h

theorem next_of_delimiter {r : Reading} (hr : r.isComplete = true) {c : Char}
    (h : c ∈ delimiters) : r.next c = r.ended c := by
  have hall : delimiters.all (fun d =>
      decide (isWordChar d = false ∧ isOperatorChar d = false ∧ d ≠ ']' ∧ d ≠ '\'')) = true := by
    decide
  obtain ⟨hword, hoperator, hbracket, hquote⟩ := of_decide_eq_true (List.all_eq_true.1 hall c h)
  cases r with
  | gap => simp [Reading.next, Reading.ended, Reading.tokens]
  | word w => simp [Reading.next, hword]
  | marker w => simp [Reading.next, hword]
  | operator w => simp [Reading.next, hoperator]
  | nameClosed w => simp [Reading.next, hbracket]
  | literalClosed w => simp [Reading.next, hquote]
  | name w => cases hr
  | literal w => cases hr

/-- In front of a delimiter, or at the end, the token that is being read ends. -/
theorem tokensFrom_of_delimited {r : Reading} (hr : r.isComplete = true) {s : List Char}
    (h : Delimited s) : tokensFrom r s = r.tokens ++ tokensFrom .gap s := by
  cases s with
  | nil => simp [tokensFrom, Reading.tokens]
  | cons c s =>
    have hc : c ∈ delimiters := h c rfl
    rw [tokensFrom, next_of_delimiter hr hc, tokensFrom]
    simp [Reading.ended, Reading.next]

end EntitySql.Sql
