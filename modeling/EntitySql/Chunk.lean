/-!
# Chunks

A list cut into consecutive runs of bounded length, as full as the bound allows: only the
last one may be shorter.  A bound of zero counts as one.

    (chunks n l).flatten = l                                (flatten_chunks)
    c ∈ chunks n l → c ≠ [] ∧ c.length ≤ max n 1            (mem_chunks)
-/

namespace EntitySql

variable {α : Type}

/-- Distributes elements where the chunk that is being filled has `room` left and a new one
has `fresh` beside its first element: what still goes into the chunk, and the chunks behind
it. -/
def fillChunks (fresh : Nat) : Nat → List α → List α × List (List α)
  | _, [] => ([], [])
  | 0, a :: rest =>
    let (run, more) := fillChunks fresh fresh rest
    ([], (a :: run) :: more)
  | room + 1, a :: rest =>
    let (run, more) := fillChunks fresh room rest
    (a :: run, more)

def chunks (size : Nat) (l : List α) : List (List α) := (fillChunks (size - 1) 0 l).2

/-! ## Laws -/

theorem flatten_fillChunks (fresh room : Nat) (l : List α) :
    (fillChunks fresh room l).1 ++ (fillChunks fresh room l).2.flatten = l := by
  induction l generalizing room with
  | nil => rfl
  | cons a rest ih =>
    cases room with
    | zero => simp [fillChunks, ih]
    | succ room => simp [fillChunks, ih]

theorem length_fillChunks (fresh room : Nat) (l : List α) :
    (fillChunks fresh room l).1.length ≤ room ∧
      ∀ c ∈ (fillChunks fresh room l).2, c ≠ [] ∧ c.length ≤ fresh + 1 := by
  induction l generalizing room with
  | nil => simp [fillChunks]
  | cons a rest ih =>
    cases room with
    | zero =>
      obtain ⟨hrun, hmore⟩ := ih fresh
      refine ⟨by simp [fillChunks], fun c hc => ?_⟩
      rcases List.mem_cons.1 (show c ∈ (a :: (fillChunks fresh fresh rest).1) ::
        (fillChunks fresh fresh rest).2 from hc) with rfl | hc
      · simpa using hrun
      · exact hmore c hc
    | succ room =>
      obtain ⟨hrun, hmore⟩ := ih room
      exact ⟨by simpa [fillChunks] using hrun, hmore⟩

/-- No element is lost, added or moved. -/
theorem flatten_chunks (size : Nat) (l : List α) : (chunks size l).flatten = l := by
  have h := flatten_fillChunks (size - 1) 0 l
  have hnil : (fillChunks (size - 1) 0 l).1 = [] :=
    List.eq_nil_of_length_eq_zero (Nat.le_zero.1 (length_fillChunks (size - 1) 0 l).1)
  rwa [hnil] at h

/-- No chunk is empty, and none is longer than the bound. -/
theorem mem_chunks {size : Nat} {l c : List α} (h : c ∈ chunks size l) :
    c ≠ [] ∧ c.length ≤ max size 1 := by
  obtain ⟨hne, hle⟩ := (length_fillChunks (size - 1) 0 l).2 c h
  exact ⟨hne, by omega⟩

end EntitySql
