/-!
# Outcomes

Laws of results that are a value or an error.

    (x >>= f) = .ok b ↔ ∃ a, x = .ok a ∧ f a = .ok b        (Outcome.bind_eq_ok_iff)
    (x >>= f) = .error e ↔ x = .error e ∨ ∃ a, x = .ok a ∧ f a = .error e   (Outcome.bind_eq_error_iff)
    l.mapM f = .ok bs ↔ l.map f = bs.map .ok                (Outcome.mapM_eq_ok_iff)
    l.mapM f = .ok bs → b ∈ bs → ∃ a ∈ l, f a = .ok b       (Outcome.mem_of_mapM)
    l.mapM f = .ok bs → ∃ hk, f l[k] = .ok bs[k]            (Outcome.getElem_of_mapM)
    l.mapM f = .ok bs → (f a = .ok b → g b = k a) → bs.map g = l.map k   (Outcome.map_of_mapM)
    (∃ bs, l.mapM f = .ok bs) ↔ ∀ a ∈ l, ∃ b, f a = .ok b   (Outcome.exists_mapM_iff)
    l.mapM f = .error e → ∃ a ∈ l, f a = .error e           (Outcome.exists_error_of_mapM)
-/

namespace EntitySql

namespace Outcome

variable {ε α β : Type}

instance decEq [DecidableEq ε] [DecidableEq α] : DecidableEq (Except ε α)
  | .ok a, .ok b => decidable_of_iff (a = b) (by simp)
  | .error x, .error y => decidable_of_iff (x = y) (by simp)
  | .ok _, .error _ => isFalse (by simp)
  | .error _, .ok _ => isFalse (by simp)

/-- Two steps succeed when both do. -/
theorem bind_eq_ok_iff {x : Except ε α} {f : α → Except ε β} {b : β} :
    (x >>= f) = .ok b ↔ ∃ a, x = .ok a ∧ f a = .ok b := by
  cases x <;> simp [Bind.bind, Except.bind]

/-- Two steps fail when the first does, or the second does on what the first gives. -/
theorem bind_eq_error_iff {x : Except ε α} {f : α → Except ε β} {e : ε} :
    (x >>= f) = .error e ↔ x = .error e ∨ ∃ a, x = .ok a ∧ f a = .error e := by
  cases x <;> simp [Bind.bind, Except.bind]

theorem toOption_eq_some_iff {x : Except ε α} {a : α} : x.toOption = some a ↔ x = .ok a := by
  cases x <;> simp [Except.toOption]

/-- A result is mapped when there is one. -/
theorem map_eq_ok_iff {x : Except ε α} {f : α → β} {b : β} :
    f <$> x = .ok b ↔ ∃ a, x = .ok a ∧ f a = b := by
  cases x <;> simp [Functor.map, Except.map]

theorem map_eq_error_iff {x : Except ε α} {f : α → β} {e : ε} :
    f <$> x = .error e ↔ x = .error e := by
  cases x <;> simp [Functor.map, Except.map]

/-- Steps on the elements of a list succeed when every one of them does. -/
theorem mapM_eq_ok_iff {f : α → Except ε β} {l : List α} {bs : List β} :
    l.mapM f = .ok bs ↔ l.map f = bs.map .ok := by
  induction l generalizing bs with
  | nil => cases bs <;> simp [pure, Except.pure]
  | cons a l ih =>
    rw [List.mapM_cons, bind_eq_ok_iff]
    constructor
    · rintro ⟨b, hb, h⟩
      obtain ⟨bs', hbs, h⟩ := bind_eq_ok_iff.1 h
      cases h
      simp [hb, ih.1 hbs]
    · intro h
      cases bs with
      | nil => simp at h
      | cons b bs =>
        simp only [List.map_cons, List.cons.injEq] at h
        exact ⟨b, h.1, bind_eq_ok_iff.2 ⟨bs, ih.2 h.2, rfl⟩⟩

/-- Every result comes from an element. -/
theorem mem_of_mapM {f : α → Except ε β} {l : List α} {bs : List β} (h : l.mapM f = .ok bs)
    {b : β} (hb : b ∈ bs) : ∃ a ∈ l, f a = .ok b := by
  have hmem : (.ok b : Except ε β) ∈ bs.map .ok := List.mem_map_of_mem hb
  rw [← mapM_eq_ok_iff.1 h] at hmem
  exact List.mem_map.1 hmem

/-- The result at a place comes from the element at that place. -/
theorem getElem_of_mapM {f : α → Except ε β} {l : List α} {bs : List β} (h : l.mapM f = .ok bs)
    {k : Nat} (hk : k < bs.length) : ∃ hl : k < l.length, f l[k] = .ok bs[k] := by
  have hmap := mapM_eq_ok_iff.1 h
  have hlength : l.length = bs.length := by simpa using congrArg List.length hmap
  refine ⟨hlength ▸ hk, ?_⟩
  have hget : (l.map f)[k]? = (bs.map .ok)[k]? := by rw [hmap]
  simpa [hk, hlength ▸ hk] using hget

/-- What is known of each result from its element is known of all results. -/
theorem map_of_mapM {γ : Type} {f : α → Except ε β} {l : List α} {bs : List β}
    (h : l.mapM f = .ok bs) {g : β → γ} {k : α → γ}
    (hf : ∀ a ∈ l, ∀ b, f a = .ok b → g b = k a) : bs.map g = l.map k := by
  replace h := mapM_eq_ok_iff.1 h
  induction l generalizing bs with
  | nil =>
    cases bs with
    | nil => rfl
    | cons b bs => simp at h
  | cons a l ih =>
    cases bs with
    | nil => simp at h
    | cons b bs =>
      rw [List.map_cons, List.map_cons, List.cons.injEq] at h
      have ha := hf a List.mem_cons_self b h.1
      have hl := ih (fun c hc => hf c (List.mem_cons_of_mem a hc)) h.2
      rw [List.map_cons, List.map_cons, ha, hl]

/-- Steps on the elements of a list succeed unless one of them fails. -/
theorem exists_mapM_iff {f : α → Except ε β} {l : List α} :
    (∃ bs, l.mapM f = .ok bs) ↔ ∀ a ∈ l, ∃ b, f a = .ok b := by
  constructor
  · rintro ⟨bs, h⟩ a ha
    have hmem := List.mem_map_of_mem (f := f) ha
    rw [mapM_eq_ok_iff.1 h] at hmem
    obtain ⟨b, _, hb⟩ := List.mem_map.1 hmem
    exact ⟨b, hb.symm⟩
  · intro h
    induction l with
    | nil => exact ⟨[], rfl⟩
    | cons a l ih =>
      obtain ⟨b, hb⟩ := h a List.mem_cons_self
      obtain ⟨bs, hbs⟩ := ih fun c hc => h c (List.mem_cons_of_mem a hc)
      refine ⟨b :: bs, mapM_eq_ok_iff.2 ?_⟩
      rw [List.map_cons, List.map_cons, hb, mapM_eq_ok_iff.1 hbs]

/-- Steps on the elements of a list fail as one of them does. -/
theorem exists_error_of_mapM {f : α → Except ε β} {l : List α} {e : ε} (h : l.mapM f = .error e) :
    ∃ a ∈ l, f a = .error e := by
  induction l with
  | nil => cases h
  | cons a l ih =>
    rw [List.mapM_cons] at h
    rcases bind_eq_error_iff.1 h with ha | ⟨b, _, h⟩
    · exact ⟨a, List.mem_cons_self, ha⟩
    · rcases bind_eq_error_iff.1 h with hl | ⟨bs, _, hpure⟩
      · obtain ⟨c, hc, he⟩ := ih hl
        exact ⟨c, List.mem_cons_of_mem a hc, he⟩
      · cases hpure

end Outcome

end EntitySql
