import EntitySql.Proofs.Token
import Mathlib.Data.List.Chain

/-!
# Parentheses around something

Tokens in which no parenthesis is closed right behind where it opens.  They can be put side by
side and into parentheses of their own, which is how texts of conditions grow.

    Filled ts → ¬ emptyPair <:+: ts                         (Filled.not_emptyPair)
    Filled ts → Filled (( ts ))                             (Filled.enclosed)
-/

namespace EntitySql.Sql

/-- A pair of parentheses around nothing. -/
def emptyPair : List Token := [.symbol '(', .symbol ')']

/-- Some tokens in which no pair of parentheses is around nothing, nor will be when others like
them stand beside. -/
structure Filled (ts : List Token) : Prop where
  nonempty : ts ≠ []
  chain : ts.IsChain fun t u => ¬(t = .symbol '(' ∧ u = .symbol ')')
  head : ∀ t ∈ ts.head?, t ≠ .symbol ')'
  last : ∀ t ∈ ts.getLast?, t ≠ .symbol '('

namespace Filled

variable {ts us : List Token}

theorem not_emptyPair (h : Filled ts) : ¬ emptyPair <:+: ts := by
  intro hinfix
  have hpair := h.chain.infix hinfix
  exact List.isChain_pair.1 hpair ⟨rfl, rfl⟩

theorem append (ht : Filled ts) (hu : Filled us) : Filled (ts ++ us) := by
  refine ⟨by simp [ht.nonempty], List.isChain_append.2 ⟨ht.chain, hu.chain, ?_⟩, ?_, ?_⟩
  · intro t hlast u hhead hpair
    exact ht.last t hlast hpair.1
  · intro t hhead
    rw [List.head?_append] at hhead
    rcases Option.or_eq_some_iff.1 hhead with hhead | ⟨_, hhead⟩
    · exact ht.head t hhead
    · exact hu.head t hhead
  · intro t hlast
    rw [List.getLast?_append] at hlast
    rcases Option.or_eq_some_iff.1 hlast with hlast | ⟨_, hlast⟩
    · exact hu.last t hlast
    · exact ht.last t hlast

/-- Parentheses around something. -/
theorem enclosed (h : Filled ts) : Filled (.symbol '(' :: (ts ++ [.symbol ')'])) := by
  obtain ⟨t, rest, rfl⟩ := List.exists_cons_of_ne_nil h.nonempty
  refine ⟨List.cons_ne_nil _ _, List.isChain_cons.2 ⟨?_,
    List.isChain_append.2 ⟨h.chain, List.isChain_singleton _, ?_⟩⟩, ?_, ?_⟩
  · intro u hhead hpair
    exact h.head u hhead hpair.2
  · intro t hlast u hhead hpair
    exact h.last t hlast hpair.1
  · intro u hhead
    cases hhead
    decide
  · intro u hlast
    rw [← List.cons_append, List.getLast?_concat] at hlast
    cases hlast
    decide

/-- Tokens without parentheses. -/
theorem of_plain (hne : ts ≠ []) (h : ∀ t ∈ ts, t ≠ .symbol '(' ∧ t ≠ .symbol ')') :
    Filled ts := by
  refine ⟨hne, ?_, ?_, ?_⟩
  · clear hne
    induction ts with
    | nil => exact List.isChain_nil
    | cons t ts ih =>
      have hrest := ih fun u hu => h u (List.mem_cons_of_mem t hu)
      refine List.isChain_cons.2 ⟨fun u _ hpair => ?_, hrest⟩
      exact (h t List.mem_cons_self).1 hpair.1
  · intro t hhead
    exact (h t (List.mem_of_mem_head? hhead)).2
  · intro t hlast
    exact (h t (List.mem_of_getLast? hlast)).1

theorem keyword (k : Keyword) : Filled [.keyword k] :=
  .of_plain (List.cons_ne_nil _ _) (by simp)

/-- Filled parts with filled tokens between any two. -/
theorem intercalate {sep : List Token} (hsep : Filled sep) {parts : List (List Token)}
    (hne : parts ≠ []) (h : ∀ part ∈ parts, Filled part) : Filled (sep.intercalate parts) := by
  induction parts with
  | nil => exact absurd rfl hne
  | cons part parts ih =>
    have hpart := h part List.mem_cons_self
    cases parts with
    | nil => simpa using hpart
    | cons other parts =>
      have hrest := ih (List.cons_ne_nil other parts) fun p hp => h p (List.mem_cons_of_mem part hp)
      rw [List.intercalate_cons_cons]
      exact (hpart.append hsep).append hrest

end Filled

end EntitySql.Sql
