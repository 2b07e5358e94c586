import EntitySql.Proofs.Token

/-!
# Spelled tokens

How the tokens of a text follow from those of its pieces.  A piece `Spells` tokens where a
delimiter or the end follows it; a piece that `Opens` tokens ends in a delimiter itself, so
anything may follow; and `Glue` also starts with one, so it may follow anything.  A `Tail` may
follow anything as well, or be empty.

    Spells a as → Glue g gs → Spells b bs →
      Spells (a ++ (g ++ b)) (as ++ (gs ++ bs))             (Spells.glue)
    Spells text ts → tokens text = ts                       (Spells.tokens_eq)
    Spells (quoteIdentifier n) [.name n]                    (spells_quoteIdentifier)
    Spells ("@" ++ m) [.marker m]  where m is a word        (spells_marker)
-/

namespace EntitySql.Sql

/-! ## Pieces of text -/

/-- The text is read as the tokens where nothing follows that continues it. -/
def Spells (text : String) (ts : List Token) : Prop :=
  ∀ s, Delimited s → tokensFrom .gap (text.toList ++ s) = ts ++ tokensFrom .gap s

/-- The text is read as the tokens whatever follows. -/
def Opens (text : String) (ts : List Token) : Prop :=
  ∀ s, tokensFrom .gap (text.toList ++ s) = ts ++ tokensFrom .gap s

/-- The text is read as the tokens whatever follows, and continues nothing in front of it. -/
structure Glue (text : String) (ts : List Token) : Prop where
  opens : Opens text ts
  delimited : ∀ s, Delimited (text.toList ++ s)

/-- What is read whatever follows is glue if it starts with a delimiter. -/
theorem Opens.glue {text : String} {ts : List Token} (h : Opens text ts)
    (hhead : text.toList.head?.any (· ∈ delimiters) = true) : Glue text ts := by
  refine ⟨h, fun s => ?_⟩
  obtain ⟨c, hc, hmem⟩ := (Option.any_eq_true _ _).1 hhead
  obtain ⟨r, hr⟩ := List.head?_eq_some_iff.1 hc
  rw [hr]
  exact delimited_cons (of_decide_eq_true hmem) _

theorem Spells.tokens_eq {text : String} {ts : List Token} (h : Spells text ts) :
    tokens text = ts := by
  have hend := h [] delimited_nil
  rw [List.append_nil] at hend
  rw [tokens, hend]
  simp [tokensFrom, Reading.tokens]

variable {a b g : String} {as bs gs : List Token}

theorem Opens.before (hg : Opens g gs) (hb : Spells b bs) : Spells (g ++ b) (gs ++ bs) := by
  intro s hs
  rw [String.toList_append, List.append_assoc, hg, hb s hs, List.append_assoc]

theorem Spells.close (ha : Spells a as) (hg : Glue g gs) : Spells (a ++ g) (as ++ gs) := by
  intro s _
  rw [String.toList_append, List.append_assoc, ha _ (hg.delimited s), hg.opens,
    List.append_assoc]

theorem Spells.glue (ha : Spells a as) (hg : Glue g gs) (hb : Spells b bs) :
    Spells (a ++ (g ++ b)) (as ++ (gs ++ bs)) := by
  intro s hs
  have hdelimited : Delimited (g.toList ++ (b.toList ++ s)) := hg.delimited _
  simp only [String.toList_append, List.append_assoc]
  rw [ha _ hdelimited, hg.opens, hb s hs]

/-- A text that is empty or starts with a delimiter, read as the tokens where nothing follows
that continues it. -/
structure Tail (text : String) (ts : List Token) : Prop where
  spells : Spells text ts
  delimited : ∀ s, Delimited s → Delimited (text.toList ++ s)

theorem Tail.nil : Tail "" [] := ⟨fun _ _ => rfl, fun _ hs => hs⟩

theorem Glue.tail (hg : Glue g gs) (hb : Spells b bs) : Tail (g ++ b) (gs ++ bs) := by
  refine ⟨hg.opens.before hb, fun s _ => ?_⟩
  rw [String.toList_append, List.append_assoc]
  exact hg.delimited _

theorem Spells.tail (ha : Spells a as) (hb : Tail b bs) : Spells (a ++ b) (as ++ bs) := by
  intro s hs
  rw [String.toList_append, List.append_assoc, ha _ (hb.delimited s hs), hb.spells s hs,
    List.append_assoc]

theorem Tail.append (ha : Tail a as) (hb : Tail b bs) : Tail (a ++ b) (as ++ bs) := by
  refine ⟨ha.spells.tail hb, fun s hs => ?_⟩
  rw [String.toList_append, List.append_assoc]
  exact ha.delimited _ (hb.delimited s hs)

/-- Pieces with the same glue between any two. -/
theorem spells_intercalate {α : Type} (hg : Glue g gs) {text : α → String}
    {ts : α → List Token} {l : List α} (h : ∀ x ∈ l, Spells (text x) (ts x)) :
    Spells (g.intercalate (l.map text)) (gs.intercalate (l.map ts)) := by
  induction l with
  | nil =>
    intro s _
    simp
  | cons x l ih =>
    have hx : Spells (text x) (ts x) := h x List.mem_cons_self
    have hl := ih fun y hy => h y (List.mem_cons_of_mem x hy)
    cases l with
    | nil => simpa using hx
    | cons y l =>
      have hboth := hx.glue hg hl
      simp only [List.map_cons, String.intercalate_cons_cons,
        List.intercalate_cons_cons] at hboth ⊢
      rwa [String.append_assoc, List.append_assoc]

/-! ## Separators -/

theorem glue_blank : Glue " " [] := Opens.glue (fun _ => rfl) (by decide)

theorem glue_comma : Glue ", " [.symbol ','] := Opens.glue (fun _ => rfl) (by decide)

theorem glue_and : Glue " AND " [.keyword .and] := Opens.glue (fun _ => rfl) (by decide)

theorem glue_or : Glue " OR " [.keyword .or] := Opens.glue (fun _ => rfl) (by decide)

theorem glue_where : Glue " WHERE " [.keyword .where_] := Opens.glue (fun _ => rfl) (by decide)

/-! ## Names, parameters and words -/

/-- After a closing bracket that no other follows, the name is over. -/
theorem tokensFrom_nameClosed (w : List Char) {r : List Char} (h : r.head? ≠ some ']') :
    tokensFrom (.nameClosed w) r = .name (String.ofList w.reverse) :: tokensFrom .gap r := by
  cases r with
  | nil => rfl
  | cons c r =>
    have hc : c ≠ ']' := by simpa using h
    simp only [tokensFrom, Reading.next, hc, if_false]
    rfl

/-- What `readBracketed` takes from the front of a text is the name that is being read. -/
theorem tokensFrom_name (w : List Char) {s n r : List Char}
    (h : readBracketed s = some (n, r)) :
    tokensFrom (.name w) s = .name (String.ofList (w.reverse ++ n)) :: tokensFrom .gap r := by
  fun_induction readBracketed s generalizing w n with
  | case1 => cases h
  | case2 rest ih =>
    obtain ⟨⟨m, q⟩, hread, heq⟩ := Option.map_eq_some_iff.1 h
    cases heq
    have hrest := ih (']' :: w) hread
    simp only [tokensFrom, Reading.next, if_true, List.nil_append]
    rw [hrest]
    simp
  | case3 rest hnext =>
    cases h
    have hhead : r.head? ≠ some ']' := by
      intro hhead
      obtain ⟨s, rfl⟩ := List.head?_eq_some_iff.1 hhead
      exact hnext s rfl rfl
    simp only [tokensFrom, Reading.next, if_true, List.nil_append]
    rw [tokensFrom_nameClosed w hhead, List.append_nil]
  | case4 c rest hnext hc ih =>
    obtain ⟨⟨m, q⟩, hread, heq⟩ := Option.map_eq_some_iff.1 h
    cases heq
    have hrest := ih (c :: w) hread
    simp only [tokensFrom, Reading.next, hc, if_false, List.nil_append]
    rw [hrest]
    simp

/-- A quoted name is one token, whatever characters are in it. -/
theorem spells_quoteIdentifier (n : String) : Spells (quoteIdentifier n) [.name n] := by
  intro s hs
  have hhead : s.head? ≠ some ']' := by
    intro hhead
    have hmem : ']' ∈ delimiters := hs ']' hhead
    revert hmem
    decide
  have hread : readBracketed (doubleBrackets n.toList ++ ']' :: s) = some (n.toList, s) :=
    readBracketed_doubleBrackets n.toList hhead
  rw [toList_quoteIdentifier, List.cons_append, List.append_assoc, tokensFrom]
  have hrest := tokensFrom_name [] hread
  simp only [List.reverse_nil, List.nil_append, String.ofList_toList] at hrest
  exact hrest

/-- A run of characters that continue what is being read. -/
theorem tokensFrom_run (grow : List Char → Reading) {p : Char → Bool}
    (hgrow : ∀ w c, p c = true → (grow w).next c = ([], grow (c :: w))) (w : List Char)
    {v : List Char} (hv : ∀ c ∈ v, p c = true) (s : List Char) :
    tokensFrom (grow w) (v ++ s) = tokensFrom (grow (v.reverse ++ w)) s := by
  induction v generalizing w with
  | nil => rfl
  | cons c v ih =>
    have hc : p c = true := hv c List.mem_cons_self
    have hrest := ih (c :: w) fun d hd => hv d (List.mem_cons_of_mem c hd)
    rw [List.cons_append, tokensFrom, hgrow w c hc, List.nil_append, hrest]
    simp

theorem opened_of_isWordChar {c : Char} (h : isWordChar c = true) :
    Reading.opened c = ([], .word [c]) := by
  have hne : c ≠ '[' ∧ c ≠ '\'' ∧ c ≠ '@' := by
    refine ⟨?_, ?_, ?_⟩ <;> rintro rfl <;> revert h <;> decide
  obtain ⟨hbracket, hquote, hat⟩ := hne
  simp [Reading.opened, hbracket, hquote, hat, h]

/-- A text of word characters only. -/
def IsWord (v : String) : Prop := ∀ c ∈ v.toList, isWordChar c = true

instance (v : String) : Decidable (IsWord v) :=
  decidable_of_iff (v.toList.all isWordChar = true) List.all_eq_true

/-- A word ends where a delimiter follows. -/
theorem spells_word {v : String} (hne : v ≠ "") (hv : IsWord v) :
    Spells v [.ofWord v.toList] := by
  intro s hs
  have hnil : v.toList ≠ [] := fun h => hne (String.toList_eq_nil_iff.1 h)
  obtain ⟨c, w, hcw⟩ := List.exists_cons_of_ne_nil hnil
  rw [IsWord, hcw] at hv
  rw [hcw]
  have hopened := opened_of_isWordChar (hv c List.mem_cons_self)
  have hrun := tokensFrom_run .word (fun w c hc => by simp [Reading.next, hc]) [c]
    (fun d hd => hv d (List.mem_cons_of_mem c hd)) s
  rw [List.cons_append, tokensFrom, Reading.next, hopened]
  rw [List.nil_append, hrun, tokensFrom_of_delimited rfl hs]
  simp [Reading.tokens]

/-- A parameter ends where a delimiter follows. -/
theorem spells_marker {m : String} (hm : IsWord m) :
    Spells ("@" ++ m) [.marker m] := by
  intro s hs
  have hrun := tokensFrom_run .marker (fun w c hc => by simp [Reading.next, hc]) [] hm s
  have hopened : tokensFrom .gap ('@' :: (m.toList ++ s)) =
      tokensFrom (.marker []) (m.toList ++ s) := rfl
  rw [String.toList_append, List.append_assoc]
  show tokensFrom .gap ('@' :: (m.toList ++ s)) = _
  rw [hopened, hrun, tokensFrom_of_delimited rfl hs]
  simp [Reading.tokens]

/-- A character between quotes is a literal, unless it is a quote itself. -/
theorem spells_literal {c : Char} (hc : c ≠ '\'') :
    Spells (String.ofList ['\'', c, '\'']) [.literal [c]] := by
  intro s hs
  have hclosed : tokensFrom (.literalClosed [c]) s = .literal [c] :: tokensFrom .gap s := by
    rw [tokensFrom_of_delimited rfl hs]
    simp [Reading.tokens]
  simp only [String.toList_ofList, List.cons_append, List.nil_append]
  rw [← hclosed]
  simp [tokensFrom, Reading.next, Reading.opened, hc]

end EntitySql.Sql
