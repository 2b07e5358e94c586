import EntitySql.Entity.StorageName
import EntitySql.Proofs.Words

/-!
# Storage names

The storage name of a description is the runs of letters and numbers in it, in lower case and with
one low line between any two.  A description has one list of such runs, each as long as it can be,
and nothing else in it counts: neither what stands between two of them nor what stands around all.

    runs s = rs ↔ HasRuns rs s                                (runs_eq_iff)
    storageName d = "_".intercalate (the runs of d, lowered)  (namesRuns_storageName)
-/

namespace EntitySql

open EntitySql.Text

/-! ## Runs -/

/-- The runs of letters and numbers in a text, in order: the parts between all other characters,
where there is something between them. -/
def runs (s : List Char) : List (List Char) :=
  (s.splitOnP (!isAlphanumeric ·)).filter (!·.isEmpty)

/-- No letter or number is in the text. -/
def IsGap (s : List Char) : Prop := ∀ c ∈ s, isAlphanumeric c = false

/-- The text has the runs of letters and numbers in order, none of which goes on to either side:
between any two of them there is something else, and there may be something else around them. -/
inductive HasRuns : List (List Char) → List Char → Prop
  | none {s : List Char} (gap : IsGap s) : HasRuns [] s
  | run {left run rest : List Char} {rs : List (List Char)} (gap : IsGap left) (nonempty : run ≠ [])
      (inside : ∀ c ∈ run, isAlphanumeric c = true) (others : HasRuns rs rest)
      (apart : ∀ c ∈ rest.head?, isAlphanumeric c = false) : HasRuns (run :: rs) (left ++ run ++ rest)

theorem runs_gap_append {gap : List Char} (h : IsGap gap) (s : List Char) :
    runs (gap ++ s) = runs s := by
  induction gap with
  | nil => rfl
  | cons c gap ih =>
    obtain ⟨hc, hgap⟩ := List.forall_mem_cons.1 h
    rw [← ih hgap]
    simp [runs, List.splitOnP_cons_eq_if_modifyHead, hc]

theorem runs_run_append {run rest : List Char} (hne : run ≠ [])
    (hrun : ∀ c ∈ run, isAlphanumeric c = true)
    (hrest : ∀ c ∈ rest.head?, isAlphanumeric c = false) :
    runs (run ++ rest) = run :: runs rest := by
  have hinside : ∀ c ∈ run, (!isAlphanumeric c) = false := fun c hc => by rw [hrun c hc]; rfl
  cases rest with
  | nil => simp [runs, List.splitOnP_eq_singleton hinside, hne]
  | cons c rest =>
    have hc : isAlphanumeric c = false := hrest c rfl
    rw [runs, List.splitOnP_append_cons_of_forall_mem hinside c (by simp [hc])]
    simp [runs, List.splitOnP_cons_eq_if_modifyHead, hc, hne]

theorem HasRuns.runs_eq {rs : List (List Char)} {s : List Char} (h : HasRuns rs s) :
    runs s = rs := by
  induction h with
  | none hgap =>
    have hruns := runs_gap_append hgap []
    rwa [List.append_nil] at hruns
  | run hgap hne hinside _ hapart ih =>
    rw [List.append_assoc, runs_gap_append hgap, runs_run_append hne hinside hapart, ih]

theorem exists_hasRuns (s : List Char) : ∃ rs, HasRuns rs s := by
  by_cases h : ∃ c ∈ s, isAlphanumeric c = true
  · obtain ⟨left, run, rest, hs, hshort, hleft, ⟨hne, hrun⟩, hrest⟩ := exists_first_run h
    obtain ⟨rs, hrs⟩ := exists_hasRuns rest
    exact ⟨run :: rs, hs ▸ .run hleft hne hrun hrs hrest⟩
  · exact ⟨[], .none fun c hc => by simpa using fun hp => h ⟨c, hc, hp⟩⟩
termination_by s.length

/-- The runs of a text are the only ones that it has. -/
theorem runs_eq_iff {s : List Char} {rs : List (List Char)} : runs s = rs ↔ HasRuns rs s := by
  constructor
  · rintro rfl
    obtain ⟨rs, h⟩ := exists_hasRuns s
    exact h.runs_eq ▸ h
  · exact HasRuns.runs_eq

theorem hasRuns_runs (s : List Char) : HasRuns (runs s) s := runs_eq_iff.1 rfl

/-- Only a gap has no runs. -/
theorem runs_eq_nil_iff {s : List Char} : runs s = [] ↔ IsGap s := by
  rw [runs_eq_iff]
  constructor
  · intro h
    cases h with
    | none hgap => exact hgap
  · exact .none

theorem HasRuns.forall_mem {rs : List (List Char)} {s : List Char} (h : HasRuns rs s) :
    ∀ run ∈ rs, run ≠ [] ∧ ∀ c ∈ run, isAlphanumeric c = true := by
  induction h with
  | none => exact fun run hrun => absurd hrun List.not_mem_nil
  | run _ hne hinside _ _ ih => exact List.forall_mem_cons.2 ⟨⟨hne, hinside⟩, ih⟩

/-! ## Names of runs -/

def lowered (run : List Char) : List Char := run.flatMap lower

/-- Some runs in lower case with one low line between any two. -/
def joinedRuns (rs : List (List Char)) : List Char := ['_'].intercalate (rs.map lowered)

theorem joinedRuns_singleton (run : List Char) : joinedRuns [run] = lowered run := by
  simp [joinedRuns]

theorem joinedRuns_cons_cons (run other : List Char) (rs : List (List Char)) :
    joinedRuns (run :: other :: rs) = lowered run ++ '_' :: joinedRuns (other :: rs) := by
  simp [joinedRuns]

theorem lowered_ne_nil {run : List Char} (hne : run ≠ []) : lowered run ≠ [] := by
  obtain ⟨c, rest, rfl⟩ := List.exists_cons_of_ne_nil hne
  simp [lowered, lower_ne_nil]

/-- Letters and numbers in lower case are no low lines. -/
theorem lowLine_notMem_lowered {run : List Char} (h : ∀ c ∈ run, isAlphanumeric c = true) :
    '_' ∉ lowered run := by
  intro hmem
  obtain ⟨c, hc, hlower⟩ := List.mem_flatMap.1 hmem
  have hne : c ≠ '_' := by
    rintro rfl
    have halnum := h '_' hc
    rw [isAlphanumeric_lowLine] at halnum
    cases halnum
  exact lowLine_notMem_lower hne hlower

/-! ## Writing a name -/

/-- A reversed name after something that is neither letter nor number. -/
def separated : List Char → List Char
  | [] => []
  | last :: before => if last = '_' then last :: before else '_' :: last :: before

/-- A reversed name without the low lines in front, where it ends. -/
def stripped (reversed : List Char) : List Char := reversed.dropWhile (· = '_')

theorem separated_separated (l : List Char) : separated (separated l) = separated l := by
  cases l with
  | nil => rfl
  | cons last before => by_cases h : last = '_' <;> simp [separated, h]

theorem stripped_separated (l : List Char) : stripped (separated l) = stripped l := by
  cases l with
  | nil => rfl
  | cons last before => by_cases h : last = '_' <;> simp [separated, stripped, h]

theorem separated_cons {last : Char} (h : last ≠ '_') (before : List Char) :
    separated (last :: before) = '_' :: last :: before := by
  rw [separated, if_neg h]

theorem stripped_cons {last : Char} (h : last ≠ '_') (before : List Char) :
    stripped (last :: before) = last :: before := by
  simp [stripped, h]

theorem storageStep_of_not {c : Char} (h : isAlphanumeric c = false) (l : List Char) :
    storageStep l c = separated l := by
  cases l <;> simp [storageStep, separated, h]

theorem foldl_gap {gap : List Char} (hne : gap ≠ []) (h : IsGap gap) (l : List Char) :
    gap.foldl storageStep l = separated l := by
  obtain ⟨c, gap, rfl⟩ := List.exists_cons_of_ne_nil hne
  obtain ⟨hc, hgap⟩ := List.forall_mem_cons.1 h
  clear h hne
  rw [List.foldl_cons, storageStep_of_not hc]
  induction gap with
  | nil => rfl
  | cons d gap ih =>
    obtain ⟨hd, hgap⟩ := List.forall_mem_cons.1 hgap
    rw [List.foldl_cons, storageStep_of_not hd, separated_separated]
    exact ih hgap

theorem foldl_run {run : List Char} (h : ∀ c ∈ run, isAlphanumeric c = true) (l : List Char) :
    run.foldl storageStep l = (lowered run).reverse ++ l := by
  induction run generalizing l with
  | nil => rfl
  | cons c run ih =>
    obtain ⟨hc, hrun⟩ := List.forall_mem_cons.1 h
    have hstep : storageStep l c = (lower c).reverse ++ l := by simp [storageStep, hc]
    rw [List.foldl_cons, hstep, ih hrun]
    simp [lowered]

/-- A gap at most separates, and where that makes no difference, nothing happens at all. -/
theorem foldl_gap_of_separated {gap : List Char} (h : IsGap gap) {l : List Char}
    (hl : separated l = l) : gap.foldl storageStep l = l := by
  by_cases hne : gap = []
  · rw [hne, List.foldl_nil]
  · rw [foldl_gap hne h, hl]

theorem stripped_foldl_gap {gap : List Char} (h : IsGap gap) (l : List Char) :
    stripped (gap.foldl storageStep l) = stripped l := by
  by_cases hne : gap = []
  · rw [hne, List.foldl_nil]
  · rw [foldl_gap hne h, stripped_separated]

/-- In front of what does not begin with a letter or number it makes no difference whether the name
is separated already. -/
theorem stripped_foldl_separated {rest : List Char}
    (h : ∀ c ∈ rest.head?, isAlphanumeric c = false) (l : List Char) :
    stripped (rest.foldl storageStep (separated l)) = stripped (rest.foldl storageStep l) := by
  cases rest with
  | nil => exact stripped_separated l
  | cons c rest =>
    have hc : isAlphanumeric c = false := h c rfl
    rw [List.foldl_cons, List.foldl_cons, storageStep_of_not hc, storageStep_of_not hc,
      separated_separated]

/-- The invariant of the scan: behind a name that needs no separator, the runs of what is read next
are written in lower case and with one low line between any two. -/
theorem stripped_foldl {rs : List (List Char)} {s : List Char} (h : HasRuns rs s) {l : List Char}
    (hl : separated l = l) :
    stripped (s.foldl storageStep l) =
      if rs = [] then stripped l else (joinedRuns rs).reverse ++ l := by
  induction h generalizing l with
  | none hgap => rw [stripped_foldl_gap hgap, if_pos rfl]
  | @run left run rest rs hgap hne hinside _ hapart ih =>
    obtain ⟨last, before, hlowered⟩ :=
      List.exists_cons_of_ne_nil (List.reverse_ne_nil_iff.2 (lowered_ne_nil hne))
    have hlast : last ≠ '_' := by
      rintro rfl
      refine lowLine_notMem_lowered hinside (List.mem_reverse.1 ?_)
      rw [hlowered]
      exact List.mem_cons_self
    -- Behind the run nothing is separated yet, but what comes next begins no run.
    have hrun : stripped ((left ++ run ++ rest).foldl storageStep l) =
        if rs = [] then last :: (before ++ l)
        else (joinedRuns rs).reverse ++ '_' :: last :: (before ++ l) := by
      rw [List.foldl_append, List.foldl_append, foldl_gap_of_separated hgap hl, foldl_run hinside,
        hlowered, List.cons_append, ← stripped_foldl_separated hapart,
        ih (separated_separated _), stripped_separated, stripped_cons hlast, separated_cons hlast]
    rw [hrun, if_neg (List.cons_ne_nil _ _), ← List.cons_append, ← hlowered]
    cases rs with
    | nil => simp [joinedRuns_singleton]
    | cons other rs => simp [joinedRuns_cons_cons]

/-! ## The storage name -/

/-- Blanks are neither letters nor numbers. -/
theorem isAlphanumeric_of_isBlank {c : Char} (h : isBlank c = true) : isAlphanumeric c = false := by
  have hapart : ∀ r ∈ alphanumericRanges, ∀ b ∈ [(0x09, 0x0d), (0x20, 0x20), (0x85, 0x85),
      (0xa0, 0xa0), (0x1680, 0x1680), (0x2000, 0x200a), (0x2028, 0x2029), (0x202f, 0x202f),
      (0x205f, 0x205f), (0x3000, 0x3000)], r.2 < b.1 ∨ b.2 < r.1 := by
    decide +kernel
  rw [isAlphanumeric, List.any_eq_false]
  intro r hr hinside
  have hr := hapart r hr
  simp only [isBlank, Bool.or_eq_true, Bool.and_eq_true, decide_eq_true_eq, beq_iff_eq] at h hinside
  simp only [List.forall_mem_cons] at hr
  omega

/-- A text is what is left of it without blanks at its ends, with gaps around. -/
theorem exists_trim (s : List Char) :
    ∃ front back, s = front ++ trim s ++ back ∧ IsGap front ∧ IsGap back := by
  refine ⟨s.takeWhile isBlank, ((trimLeft s).reverse.takeWhile isBlank).reverse, ?_, ?_, ?_⟩
  · rw [List.append_assoc, trim, trimRight, ← List.reverse_append, List.takeWhile_append_dropWhile,
      List.reverse_reverse, trimLeft, List.takeWhile_append_dropWhile]
  · exact fun c hc => isAlphanumeric_of_isBlank (List.mem_takeWhile_imp hc)
  · exact fun c hc => isAlphanumeric_of_isBlank (List.mem_takeWhile_imp (List.mem_reverse.1 hc))

def reversedName (s : List Char) : List Char := stripped (s.foldl storageStep [])

theorem reversedName_surrounded {front back : List Char} (hfront : IsGap front)
    (hback : IsGap back) (s : List Char) :
    reversedName (front ++ s ++ back) = reversedName s := by
  rw [reversedName, List.foldl_append, List.foldl_append, foldl_gap_of_separated hfront rfl,
    stripped_foldl_gap hback, reversedName]

theorem reversedName_separated {gap : List Char} (hne : gap ≠ []) (h : IsGap gap)
    (left right : List Char) : reversedName (left ++ gap ++ right) =
      stripped (right.foldl storageStep (separated (left.foldl storageStep []))) := by
  rw [reversedName, List.foldl_append, List.foldl_append, foldl_gap hne h]

/-- Blanks at the ends of a description are gaps as any other. -/
theorem toList_storageName (description : String) :
    (storageName description).toList = (reversedName description.toList).reverse := by
  obtain ⟨front, back, hsplit, hfront, hback⟩ := exists_trim description.toList
  have hname : reversedName description.toList = reversedName (trim description.toList) :=
    (congrArg reversedName hsplit).trans (reversedName_surrounded hfront hback _)
  rw [hname, storageName, String.toList_ofList]
  rfl

theorem toList_storageName_eq_joinedRuns (description : String) :
    (storageName description).toList = joinedRuns (runs description.toList) := by
  rw [toList_storageName, reversedName, stripped_foldl (hasRuns_runs _) rfl]
  split
  · next hruns => rw [hruns]; rfl
  · simp

/-- Low lines stand between two runs only, and one at a time. -/
theorem single_joinedRuns {rs : List (List Char)} {s : List Char} (h : HasRuns rs s) :
    (joinedRuns rs).head? ≠ some '_' ∧ (joinedRuns rs).getLast? ≠ some '_' ∧
      ¬ ['_', '_'] <:+: joinedRuns rs := by
  by_cases hnil : rs = []
  · subst hnil
    exact ⟨by simp [joinedRuns], by simp [joinedRuns], by simp [joinedRuns]⟩
  · have hjoined : Joined '_' (rs.map lowered) (joinedRuns rs) := by
      refine ⟨by simpa using hnil, fun part hpart => ?_, rfl⟩
      obtain ⟨run, hrun, rfl⟩ := List.mem_map.1 hpart
      exact lowLine_notMem_lowered (h.forall_mem run hrun).2
    refine hjoined.single fun part hpart => ?_
    obtain ⟨run, hrun, rfl⟩ := List.mem_map.1 hpart
    exact lowered_ne_nil (h.forall_mem run hrun).1

theorem joinedRuns_eq_nil_iff {rs : List (List Char)} {s : List Char} (h : HasRuns rs s) :
    joinedRuns rs = [] ↔ rs = [] := by
  constructor
  · intro hjoined
    cases rs with
    | nil => rfl
    | cons run rs =>
      have hne := lowered_ne_nil (h.forall_mem run List.mem_cons_self).1
      cases rs <;> simp_all [joinedRuns_singleton, joinedRuns_cons_cons]
  · rintro rfl
    rfl

/-- The name is that of the runs in the description, and of nothing else in it. -/
structure NamesRuns (description name : String) : Prop where
  /-- There is one list of the runs, which are as long as they can be. -/
  unique : ∀ rs, HasRuns rs description.toList ↔ rs = runs description.toList
  /-- The name is the runs, every character of them in lower case, with low lines between. -/
  joined : name = "_".intercalate
    ((runs description.toList).map fun run => String.ofList (run.flatMap lower))
  /-- A low line is neither at an end of the name nor next to another one. -/
  single : name.toList.head? ≠ some '_' ∧ name.toList.getLast? ≠ some '_' ∧
    ¬ ['_', '_'] <:+: name.toList
  empty : name = "" ↔ ∀ c ∈ description.toList, isAlphanumeric c = false
  /-- Whatever else separates two runs makes the same name. -/
  separated : ∀ left gap other right : String, description = left ++ gap ++ right →
    gap ≠ "" → IsGap gap.toList → other ≠ "" → IsGap other.toList →
    storageName (left ++ other ++ right) = name
  /-- So does whatever else stands around all of them. -/
  surrounded : ∀ front back : String, IsGap front.toList → IsGap back.toList →
    storageName (front ++ description ++ back) = name

/-- An entity is stored under the runs of letters and numbers in its description. -/
theorem namesRuns_storageName (description : String) :
    NamesRuns description (storageName description) where
  unique rs := by rw [← runs_eq_iff, eq_comm]
  joined := by
    apply String.toList_inj.1
    have htext : String.toList ∘ (fun run => String.ofList (run.flatMap lower)) = lowered :=
      funext fun run => String.toList_ofList
    rw [toList_storageName_eq_joinedRuns, String.toList_intercalate, List.map_map, htext]
    rfl
  single := by
    rw [toList_storageName_eq_joinedRuns]
    exact single_joinedRuns (hasRuns_runs _)
  empty := by
    rw [← String.toList_eq_nil_iff, toList_storageName_eq_joinedRuns,
      joinedRuns_eq_nil_iff (hasRuns_runs _), runs_eq_nil_iff, IsGap]
  separated := by
    rintro left gap other right rfl hne hgap hother hgap'
    have hne' : gap.toList ≠ [] := fun hnil => hne (String.toList_eq_nil_iff.1 hnil)
    have hother' : other.toList ≠ [] := fun hnil => hother (String.toList_eq_nil_iff.1 hnil)
    apply String.toList_inj.1
    simp only [toList_storageName, String.toList_append, reversedName_separated hne' hgap,
      reversedName_separated hother' hgap']
  surrounded := by
    intro front back hfront hback
    apply String.toList_inj.1
    rw [toList_storageName, toList_storageName, String.toList_append, String.toList_append,
      reversedName_surrounded hfront hback]

/-- The letter U+0130 is lowered to two characters. -/
example : storageName "  \u0130zmir -- Line (v2) " = "i\u0307zmir_line_v2" := by decide +kernel

end EntitySql
