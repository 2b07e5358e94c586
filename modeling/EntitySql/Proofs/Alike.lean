import EntitySql.Chunk
import EntitySql.Key
import EntitySql.Outcome
import Mathlib.Data.List.Forall2

/-!
# Alike lists and outcomes

Two lists are alike where their elements are, place by place.  Two outcomes are alike where both
fail with one error, or both succeed with results that are alike.  What is done in the same way to
alike parts has alike results.

    Alike R x y → (R a b → Alike S (f a) (g b)) → Alike S (x >>= f) (y >>= g)    (Alike.bind)
    Forall₂ R l m → (R a b → Alike S (f a) (g b)) →
      Alike (Forall₂ S) (l.mapM f) (m.mapM g)                                    (Alike.mapM)
    l.mapM f = .ok bs ↔ Forall₂ (fun a b => f a = .ok b) l bs                    (forall₂_mapM_iff)
    Forall₂ R l m → Forall₂ (Forall₂ R) (chunks n l) (chunks n m)                (forall₂_chunks)
    Forall₂ R l m → two keys agree on which elements are equal →
      Forall₂ R (distinctBy f l) (distinctBy g m)                                (forall₂_distinctBy)
-/

namespace EntitySql

open List (Forall₂)

/-! ## Outcomes -/

namespace Outcome

variable {ε α β γ δ : Type} {R : α → β → Prop} {S : γ → δ → Prop}

/-- Both outcomes are the same error, or both are results that are related. -/
inductive Alike (R : α → β → Prop) : Except ε α → Except ε β → Prop
  | error (x : ε) : Alike R (.error x) (.error x)
  | ok {a : α} {b : β} (h : R a b) : Alike R (.ok a) (.ok b)

theorem Alike.exists_ok {x : Except ε α} {y : Except ε β} (h : Alike R x y) {a : α}
    (hx : x = .ok a) : ∃ b, y = .ok b ∧ R a b := by
  cases h with
  | error _ => cases hx
  | ok h =>
    cases hx
    exact ⟨_, rfl, h⟩

theorem Alike.bind {x : Except ε α} {y : Except ε β} (h : Alike R x y) {f : α → Except ε γ}
    {g : β → Except ε δ} (hf : ∀ a b, R a b → Alike S (f a) (g b)) :
    Alike S (x >>= f) (y >>= g) := by
  cases h with
  | error x => exact .error x
  | ok h => exact hf _ _ h

theorem Alike.map {x : Except ε α} {y : Except ε β} (h : Alike R x y) {f : α → γ} {g : β → δ}
    (hf : ∀ a b, R a b → S (f a) (g b)) : Alike S (f <$> x) (g <$> y) := by
  cases h with
  | error x => exact .error x
  | ok h => exact .ok (hf _ _ h)

/-- Steps that are alike on alike elements are alike on the lists. -/
theorem Alike.mapM {l : List α} {m : List β} (h : Forall₂ R l m) {f : α → Except ε γ}
    {g : β → Except ε δ} (hf : ∀ a b, R a b → Alike S (f a) (g b)) :
    Alike (Forall₂ S) (l.mapM f) (m.mapM g) := by
  induction h with
  | nil => exact .ok .nil
  | cons hab _ ih =>
    rw [List.mapM_cons, List.mapM_cons]
    refine (hf _ _ hab).bind fun c d hcd => ih.bind fun cs ds hrest => ?_
    exact .ok (.cons hcd hrest)

/-- Steps on the elements of a list give the results that the elements give, place by place. -/
theorem forall₂_mapM_iff {f : α → Except ε β} {l : List α} {bs : List β} :
    l.mapM f = .ok bs ↔ Forall₂ (fun a b => f a = .ok b) l bs := by
  rw [mapM_eq_ok_iff, ← List.forall₂_eq_eq_eq, List.forall₂_map_left_iff, List.forall₂_map_right_iff]

theorem mapM?_eq_none_iff {f : α → Option β} {l : List α} :
    l.mapM f = none ↔ ∃ a ∈ l, f a = none := by
  induction l with
  | nil => simp
  | cons a l ih =>
    rw [List.mapM_cons]
    simp only [List.mem_cons, exists_eq_or_imp, ← ih]
    cases ha : f a <;> cases hl : l.mapM f <;> simp

theorem forall₂_mapM?_iff {f : α → Option β} {l : List α} {bs : List β} :
    l.mapM f = some bs ↔ Forall₂ (fun a b => f a = some b) l bs := by
  induction l generalizing bs with
  | nil => simp [eq_comm]
  | cons a l ih =>
    rw [List.mapM_cons, List.forall₂_cons_left_iff]
    simp only [Option.bind_eq_bind, Option.bind_eq_some_iff, ih]
    constructor
    · rintro ⟨b, hb, rest, hrest, h⟩
      exact ⟨b, rest, hb, hrest, (Option.some.inj h).symm⟩
    · rintro ⟨b, rest, hb, hrest, rfl⟩
      exact ⟨b, hb, rest, hrest, rfl⟩

end Outcome

/-! ## Lists -/

section

variable {α β γ κ μ : Type} {R S : α → β → Prop} {l : List α} {m : List β}

theorem forall₂_imp_mem (h : Forall₂ R l m) (hRS : ∀ a ∈ l, ∀ b ∈ m, R a b → S a b) :
    Forall₂ S l m := by
  induction h with
  | nil => exact .nil
  | cons hab _ ih =>
    refine .cons (hRS _ List.mem_cons_self _ List.mem_cons_self hab) (ih fun a ha b hb => ?_)
    exact hRS a (List.mem_cons_of_mem _ ha) b (List.mem_cons_of_mem _ hb)

theorem forall₂_congr_mem (h : ∀ a ∈ l, ∀ b, R a b ↔ S a b) : Forall₂ R l m ↔ Forall₂ S l m :=
  ⟨fun hl => forall₂_imp_mem hl fun a ha b _ => (h a ha b).1,
    fun hl => forall₂_imp_mem hl fun a ha b _ => (h a ha b).2⟩

theorem exists_forall₂ (h : ∀ a ∈ l, ∃ b, R a b) : ∃ m, Forall₂ R l m := by
  induction l with
  | nil => exact ⟨[], .nil⟩
  | cons a l ih =>
    obtain ⟨⟨b, hb⟩, hl⟩ := List.forall_mem_cons.1 h
    obtain ⟨m, hm⟩ := ih hl
    exact ⟨b :: m, .cons hb hm⟩

/-- An element of one list has its counterpart in the other. -/
theorem exists_of_forall₂ (h : Forall₂ R l m) {a : α} (ha : a ∈ l) : ∃ b ∈ m, R a b := by
  induction h with
  | nil => cases ha
  | cons hab _ ih =>
    rcases List.mem_cons.1 ha with rfl | ha
    · exact ⟨_, List.mem_cons_self, hab⟩
    · obtain ⟨b, hb, hR⟩ := ih ha
      exact ⟨b, List.mem_cons_of_mem _ hb, hR⟩

theorem map_eq_of_forall₂ {f : α → γ} {g : β → γ} (h : Forall₂ (fun a b => f a = g b) l m) :
    l.map f = m.map g := by
  rw [← List.forall₂_eq_eq_eq]
  exact List.forall₂_map_left_iff.2 (List.forall₂_map_right_iff.2 h)

theorem forall₂_map {δ : Type} {P : γ → δ → Prop} (h : Forall₂ R l m) {f : α → γ} {g : β → δ}
    (hf : ∀ a b, R a b → P (f a) (g b)) : Forall₂ P (l.map f) (m.map g) :=
  List.forall₂_map_left_iff.2 (List.forall₂_map_right_iff.2 (h.imp hf))

theorem forall₂_filter (h : Forall₂ R l m) {p : α → Bool} {q : β → Bool}
    (hpq : ∀ a b, R a b → p a = q b) : Forall₂ R (l.filter p) (m.filter q) :=
  List.rel_filter (fun a b hab => Bool.eq_iff_iff.1 (hpq a b hab)) h

/-- Elements at one place stay side by side when both lists are numbered. -/
theorem forall₂_zipIdx (h : Forall₂ R l m) (j k : Nat) :
    Forall₂ (fun p q => R p.1 q.1 ∧ ∃ n, p.2 = j + n ∧ q.2 = k + n) (l.zipIdx j) (m.zipIdx k) := by
  induction h generalizing j k with
  | nil => exact .nil
  | cons hab _ ih =>
    refine .cons ⟨hab, 0, rfl, rfl⟩ ((ih (j + 1) (k + 1)).imp ?_)
    rintro p q ⟨hpq, n, hp, hq⟩
    exact ⟨hpq, n + 1, by omega, by omega⟩

theorem forall₂_fillChunks (h : Forall₂ R l m) (fresh room : Nat) :
    Forall₂ R (fillChunks fresh room l).1 (fillChunks fresh room m).1 ∧
      Forall₂ (Forall₂ R) (fillChunks fresh room l).2 (fillChunks fresh room m).2 := by
  induction h generalizing room with
  | nil => exact ⟨.nil, .nil⟩
  | cons hab _ ih =>
    cases room with
    | zero =>
      obtain ⟨hrun, hmore⟩ := ih fresh
      exact ⟨.nil, .cons (.cons hab hrun) hmore⟩
    | succ room =>
      obtain ⟨hrun, hmore⟩ := ih room
      exact ⟨.cons hab hrun, hmore⟩

/-- Where the lists are cut depends on their lengths alone. -/
theorem forall₂_chunks (h : Forall₂ R l m) (size : Nat) :
    Forall₂ (Forall₂ R) (chunks size l) (chunks size m) :=
  (forall₂_fillChunks h (size - 1) 0).2

variable [DecidableEq κ] [DecidableEq μ] {f : α → κ} {g : β → μ}

theorem forall₂_distinctFrom (h : Forall₂ R l m) {seen : List κ} {other : List μ}
    (hseen : ∀ p ∈ l.zip m, f p.1 ∈ seen ↔ g p.2 ∈ other)
    (hkeys : ∀ p ∈ l.zip m, ∀ q ∈ l.zip m, f p.1 = f q.1 ↔ g p.2 = g q.2) :
    Forall₂ R (distinctFrom f seen l) (distinctFrom g other m) := by
  induction h generalizing seen other with
  | nil => exact .nil
  | @cons a b l m hab _ ih =>
    have hhead : (a, b) ∈ (a :: l).zip (b :: m) := List.mem_cons_self
    have htail : ∀ p ∈ l.zip m, p ∈ (a :: l).zip (b :: m) := fun p hp => List.mem_cons_of_mem _ hp
    have hfirst := hseen (a, b) hhead
    have hrest : ∀ p ∈ l.zip m, ∀ q ∈ l.zip m, f p.1 = f q.1 ↔ g p.2 = g q.2 :=
      fun p hp q hq => hkeys p (htail p hp) q (htail q hq)
    by_cases hold : f a ∈ seen
    · simp only [distinctFrom, hold, hfirst.1 hold, if_true]
      exact ih (fun p hp => hseen p (htail p hp)) hrest
    · have hnew : g b ∉ other := fun hmem => hold (hfirst.2 hmem)
      simp only [distinctFrom, hold, hnew, if_false]
      refine .cons hab (ih (fun p hp => ?_) hrest)
      rw [List.mem_cons, List.mem_cons, hkeys p (htail p hp) (a, b) hhead, hseen p (htail p hp)]

/-- Which elements are left depends only on which of them have equal keys. -/
theorem forall₂_distinctBy (h : Forall₂ R l m)
    (hkeys : ∀ p ∈ l.zip m, ∀ q ∈ l.zip m, f p.1 = f q.1 ↔ g p.2 = g q.2) :
    Forall₂ R (distinctBy f l) (distinctBy g m) :=
  forall₂_distinctFrom h (fun p _ => by simp) hkeys

end

end EntitySql
