import EntitySql.Gateway

/-!
# Computations

Laws of computations that talk to the backend.  One computation behind another has the events of
both, in order; how they are grouped does not matter.

    (x >>= f) past = (.ok b, events) ↔ x gives some a, f a gives b, and the events are theirs
                                                                     (bind_eq_ok_iff)
    (f <$> x) past = (f <$> the outcome of x, the events of x)       (map_eq)
    the events of x >>= f have a property ↔ those of x have it, and those of f behind it
                                                                     (forall_mem_bind_iff)
    x.Succeeds → (∀ a, (f a).Succeeds) → (x >>= f).Succeeds          (Succeeds.bind)
-/

namespace EntitySql

namespace Access

variable {ε α β : Type} {past events : List Event}

instance : LawfulMonad (Access ε) := by
  refine LawfulMonad.mk' _ (fun x => ?_) (fun a f => ?_) (fun x f g => ?_)
  · funext past
    show andThen x _ past = x past
    rcases h : x past with ⟨_ | a, own⟩
    · simp only [andThen, h]
    · simp only [andThen, h]
      exact Prod.ext rfl (List.append_nil own)
  · funext past
    show andThen (fun _ => (.ok a, [])) f past = f a past
    simp only [andThen, List.append_nil, List.nil_append]
  · funext past
    show andThen (andThen x f) g past = andThen x (fun a => andThen (f a) g) past
    rcases hx : x past with ⟨_ | a, own⟩
    · simp only [andThen, hx]
    · rcases hf : f a (past ++ own) with ⟨_ | b, more⟩
      · simp only [andThen, hx, hf]
      · simp only [andThen, hx, hf, List.append_assoc]

theorem map_eq (f : α → β) (x : Access ε α) (past : List Event) :
    (f <$> x) past = (f <$> (x past).1, (x past).2) := by
  rw [map_eq_pure_bind]
  rcases hx : x past with ⟨e | a, own⟩
  · rw [bind_error hx]
    rfl
  · rw [bind_ok hx]
    exact Prod.ext rfl (List.append_nil own)

theorem mapError_eq {δ : Type} (x : Access ε α) (f : ε → δ) (past : List Event) :
    x.mapError f past = ((x past).1.mapError f, (x past).2) := by
  unfold mapError
  rcases x past with ⟨_ | a, own⟩ <;> rfl

theorem attempt_bind {δ : Type} (x : Access ε α) (f : Except ε α → Access δ β)
    (past : List Event) :
    (x.attempt >>= f) past = ((f (x past).1 (past ++ (x past).2)).1,
      (x past).2 ++ (f (x past).1 (past ++ (x past).2)).2) := by
  have hattempt : (x.attempt : Access δ (Except ε α)) past = (.ok (x past).1, (x past).2) := rfl
  exact bind_ok hattempt f

theorem ofExcept_ok (a : α) : (ofExcept (.ok a) : Access ε α) = pure a := rfl

/-- What follows a result that is known only if there is one has to agree on that result. -/
theorem ofExcept_bind_congr {x : Except ε α} {f g : α → Access ε β}
    (h : ∀ a, x = .ok a → f a = g a) : ofExcept x >>= f = ofExcept x >>= g := by
  cases x with
  | error e => rfl
  | ok a =>
    rw [ofExcept_ok, pure_bind, pure_bind, h a rfl]

theorem bind_eq_ok_iff {x : Access ε α} {f : α → Access ε β} {b : β} :
    (x >>= f) past = (.ok b, events) ↔ ∃ a own more, x past = (.ok a, own) ∧
      f a (past ++ own) = (.ok b, more) ∧ events = own ++ more := by
  constructor
  · intro h
    cases hx : x past with
    | mk outcome own =>
      cases outcome with
      | error e =>
        rw [bind_error hx] at h
        cases h
      | ok a =>
        rw [bind_ok hx] at h
        obtain ⟨hb, hevents⟩ := Prod.mk.inj h
        exact ⟨a, own, (f a (past ++ own)).2, rfl, Prod.ext hb rfl, hevents.symm⟩
  · rintro ⟨a, own, more, hx, hf, rfl⟩
    rw [bind_ok hx, hf]

/-- One computation behind another has the events of both, unless the first fails. -/
theorem forall_mem_bind_iff {x : Access ε α} {f : α → Access ε β} {p : Event → Prop} :
    (∀ event ∈ ((x >>= f) past).2, p event) ↔ (∀ event ∈ (x past).2, p event) ∧
      ∀ a, (x past).1 = .ok a → ∀ event ∈ (f a (past ++ (x past).2)).2, p event := by
  rcases hx : x past with ⟨e | a, own⟩
  · rw [bind_error hx]
    simp
  · rw [bind_ok hx]
    simp [or_imp, forall_and]

theorem pure_eq_ok_iff {a b : α} :
    (pure a : Access ε α) past = (.ok b, events) ↔ b = a ∧ events = [] := by
  constructor
  · intro h
    cases h
    exact ⟨rfl, rfl⟩
  · rintro ⟨rfl, rfl⟩
    rfl

theorem ofExcept_eq_ok_iff {x : Except ε α} {a : α} :
    ofExcept x past = (.ok a, events) ↔ x = .ok a ∧ events = [] := by
  constructor
  · intro h
    cases h
    exact ⟨rfl, rfl⟩
  · rintro ⟨rfl, rfl⟩
    rfl

/-- The computation has a result, whatever happened before. -/
def Succeeds (x : Access ε α) : Prop := ∀ past, ∃ a events, x past = (.ok a, events)

theorem succeeds_pure (a : α) : (pure a : Access ε α).Succeeds := fun _ => ⟨a, [], rfl⟩

theorem Succeeds.bind {x : Access ε α} {f : α → Access ε β} (hx : x.Succeeds)
    (hf : ∀ a, (f a).Succeeds) : (x >>= f).Succeeds := by
  intro past
  obtain ⟨a, own, ha⟩ := hx past
  obtain ⟨b, more, hb⟩ := hf a (past ++ own)
  exact ⟨b, own ++ more, bind_eq_ok_iff.2 ⟨a, own, more, ha, hb, rfl⟩⟩

theorem Succeeds.mapError {δ : Type} {x : Access ε α} (hx : x.Succeeds) (f : ε → δ) :
    (x.mapError f).Succeeds := by
  intro past
  obtain ⟨a, own, ha⟩ := hx past
  exact ⟨a, own, by rw [mapError_eq, ha]; rfl⟩

end Access

end EntitySql
