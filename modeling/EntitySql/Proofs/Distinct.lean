import EntitySql.Key
import Mathlib.Data.List.Induction
import Mathlib.Data.List.Nodup

/-!
# Distinct elements of longer lists

The distinct elements of a list that is put together from parts are those of the parts, where
no part has an element of another.  Those with distinct keys are the first ones of every key.

    distinctBy key (l ++ [a]) = distinctBy key l, and a behind them if its key is new
                                                            (distinctBy_concat)
    distinctBy key l = the elements with a key that none in front of them has
                                                            (distinctBy_eq_firstsBy)
    distinctBy id (l.flatMap u) = l.flatMap v  where each v b is distinctBy id (u b) and no
      element of l.flatMap v comes twice                    (distinctBy_flatMap)
    distinctBy id (l.map f) = (distinctBy id l).map f  where f keeps the elements apart
                                                            (distinctBy_map)
-/

namespace EntitySql

variable {α β κ : Type} [DecidableEq κ]

/-- Only the keys of the list matter among those seen. -/
theorem distinctFrom_congr (key : α → κ) {seen other : List κ} {l : List α}
    (h : ∀ a ∈ l, key a ∈ seen ↔ key a ∈ other) :
    distinctFrom key seen l = distinctFrom key other l := by
  induction l generalizing seen other with
  | nil => rfl
  | cons a l ih =>
    have ha := h a List.mem_cons_self
    have hl : ∀ b ∈ l, key b ∈ seen ↔ key b ∈ other := fun b hb => h b (List.mem_cons_of_mem a hb)
    by_cases hseen : key a ∈ seen
    · have hother := ha.1 hseen
      simp only [distinctFrom, hseen, hother, if_true]
      exact ih hl
    · have hother : key a ∉ other := fun hother => hseen (ha.2 hother)
      simp only [distinctFrom, hseen, hother, if_false]
      refine congrArg _ (ih fun b hb => ?_)
      rw [List.mem_cons, List.mem_cons, hl b hb]

theorem distinctFrom_append (key : α → κ) (seen : List κ) (l m : List α) :
    distinctFrom key seen (l ++ m) =
      distinctFrom key seen l ++ distinctFrom key (l.map key ++ seen) m := by
  induction l generalizing seen with
  | nil => rfl
  | cons a l ih =>
    by_cases hseen : key a ∈ seen
    · simp only [List.cons_append, distinctFrom, hseen, if_true, ih]
      refine congrArg _ (distinctFrom_congr key fun b _ => ?_)
      simp only [List.map_cons, List.cons_append, List.mem_cons, List.mem_append]
      constructor
      · exact Or.inr
      · rintro (hb | hb)
        · exact .inr (hb ▸ hseen)
        · exact hb
    · simp only [List.cons_append, distinctFrom, hseen, if_false, ih, List.cons_append]
      refine congrArg _ (congrArg _ (distinctFrom_congr key fun b _ => ?_))
      simp only [List.map_cons, List.cons_append, List.mem_cons, List.mem_append]
      tauto

/-- An element goes behind the distinct ones of a list unless one of them has its key. -/
theorem distinctBy_concat (key : α → κ) (l : List α) (a : α) :
    distinctBy key (l ++ [a]) =
      if key a ∈ l.map key then distinctBy key l else distinctBy key l ++ [a] := by
  rw [distinctBy, distinctFrom_append, List.append_nil]
  by_cases ha : key a ∈ l.map key
  · simp only [distinctFrom, ha, if_true, List.append_nil]
    rfl
  · simp only [distinctFrom, ha, if_false]
    rfl

/-- The elements of a list that have a key no element in front of them has. -/
def firstsBy (key : α → κ) (l : List α) : List α :=
  (l.zipIdx.filter fun (a, k) => key a ∉ (l.take k).map key).map Prod.fst

theorem firstsBy_concat (key : α → κ) (l : List α) (a : α) :
    firstsBy key (l ++ [a]) =
      if key a ∈ l.map key then firstsBy key l else firstsBy key l ++ [a] := by
  have hbefore : (l.zipIdx.filter fun (b, k) => key b ∉ ((l ++ [a]).take k).map key) =
      l.zipIdx.filter fun (b, k) => key b ∉ (l.take k).map key := by
    refine List.filter_congr fun (b, k) hb => ?_
    have hk : k ≤ l.length := by
      have hlt := List.snd_lt_add_of_mem_zipIdx hb
      omega
    show decide (key b ∉ ((l ++ [a]).take k).map key) = decide (key b ∉ (l.take k).map key)
    rw [List.take_append_of_le_length hk]
  unfold firstsBy
  rw [List.zipIdx_append, List.filter_append, List.map_append, hbefore]
  by_cases ha : key a ∈ l.map key
  · rw [if_pos ha]
    simp [ha]
  · rw [if_neg ha]
    simp [ha]

/-- What is left of a list is the first element of every key. -/
theorem distinctBy_eq_firstsBy (key : α → κ) (l : List α) : distinctBy key l = firstsBy key l := by
  induction l using List.reverseRecOn with
  | nil => rfl
  | append_singleton l a ih => rw [distinctBy_concat, firstsBy_concat, ih]

section

variable [DecidableEq α]

theorem mem_distinctBy_id {l : List α} {a : α} : a ∈ distinctBy id l ↔ a ∈ l := by
  have h := mem_distinctBy id l a
  rwa [List.map_id, List.map_id] at h

/-- The distinct elements of parts that have none in common. -/
theorem distinctBy_flatMap {l : List β} {u v : β → List α}
    (h : ∀ b ∈ l, distinctBy id (u b) = v b) (hnodup : (l.flatMap v).Nodup) :
    distinctBy id (l.flatMap u) = l.flatMap v := by
  induction l with
  | nil => rfl
  | cons b l ih =>
    have hb := h b List.mem_cons_self
    have hl : ∀ c ∈ l, distinctBy id (u c) = v c := fun c hc => h c (List.mem_cons_of_mem b hc)
    rw [List.flatMap_cons] at hnodup
    obtain ⟨-, hrest, hdisjoint⟩ := List.nodup_append.1 hnodup
    have htail : distinctFrom id ((u b).map id ++ []) (l.flatMap u) =
        distinctBy id (l.flatMap u) := by
      refine distinctFrom_congr id fun a ha => ?_
      have hv : a ∈ l.flatMap v := by
        rw [← ih hl hrest]
        exact mem_distinctBy_id.2 ha
      have hnot : a ∉ u b := by
        intro hu
        rw [← mem_distinctBy_id, hb] at hu
        exact hdisjoint a hu a hv rfl
      simpa using hnot
    rw [List.flatMap_cons, List.flatMap_cons, distinctBy, distinctFrom_append, htail, ih hl hrest]
    exact congrArg (· ++ l.flatMap v) hb

/-- Nothing is dropped from a list without repetition. -/
theorem distinctBy_of_nodup {l : List α} (h : l.Nodup) : distinctBy id l = l := by
  have hparts := distinctBy_flatMap (l := l) (u := fun a => [a]) (v := fun a => [a])
    (fun a _ => rfl) (by simpa using h)
  simpa using hparts

variable [DecidableEq β]

theorem distinctFrom_map {f : α → β} (seen : List α) {l : List α}
    (h : ∀ a ∈ l, ∀ b ∈ l ++ seen, f a = f b → a = b) :
    distinctFrom id (seen.map f) (l.map f) = (distinctFrom id seen l).map f := by
  induction l generalizing seen with
  | nil => rfl
  | cons a l ih =>
    have hmem : f a ∈ seen.map f ↔ a ∈ seen := by
      constructor
      · intro hmap
        obtain ⟨b, hb, hfb⟩ := List.mem_map.1 hmap
        rw [h a List.mem_cons_self b (List.mem_append_right _ hb) hfb.symm]
        exact hb
      · exact List.mem_map_of_mem
    have hrest := ih seen fun b hb c hc =>
      h b (List.mem_cons_of_mem a hb) c (List.mem_cons_of_mem a hc)
    have hnew := ih (a :: seen) fun b hb c hc => by
      refine h b (List.mem_cons_of_mem a hb) c ?_
      simp only [List.cons_append, List.mem_append, List.mem_cons] at hc ⊢
      tauto
    by_cases hseen : a ∈ seen
    · simp only [List.map_cons, distinctFrom, id_eq, hmem, hseen, if_true]
      exact hrest
    · simp only [List.map_cons, distinctFrom, id_eq, hmem, hseen, if_false]
      exact congrArg _ hnew

/-- Where the distinct elements of a list stay apart, their images are the distinct images. -/
theorem distinctBy_map {f : α → β} {l : List α} (h : ((distinctBy id l).map f).Nodup) :
    distinctBy id (l.map f) = (distinctBy id l).map f := by
  refine distinctFrom_map [] fun a ha b hb hab => ?_
  rw [List.append_nil] at hb
  exact List.inj_on_of_nodup_map h (mem_distinctBy_id.2 ha) (mem_distinctBy_id.2 hb) hab

end

end EntitySql
