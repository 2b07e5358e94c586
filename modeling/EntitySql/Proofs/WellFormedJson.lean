import EntitySql.Json.Reader
import Mathlib.Data.List.Induction

/-!
# Well-formed documents

What a document can be, wherever it comes from: its integers have 64 bits, with a sign or without
one, and its objects list their fields in ascending order, no name twice.  An object that is built
from fields is of this form, and so is whatever is read from a text.

    Ascending (ofEntries entries)                                   (ascending_ofEntries)
    Ascending entries → ofEntries entries = entries                 (ofEntries_of_ascending)
    read? text = some json → json.WellFormed                        (wellFormed_of_read?)
-/

namespace EntitySql

/-! ## Dictionaries -/

namespace Dictionary

variable {α : Type}

/-- The names of the entries ascend, so no name occurs twice. -/
def Ascending (d : List (String × α)) : Prop := (d.map Prod.fst).Pairwise (· < ·)

theorem Ascending.nodup {d : List (String × α)} (h : Ascending d) : (d.map Prod.fst).Nodup :=
  List.Pairwise.imp (fun hlt => by
    rintro rfl
    exact String.lt_irrefl _ hlt) h

theorem ascending_cons {e : String × α} {d : List (String × α)} :
    Ascending (e :: d) ↔ (∀ other ∈ d, e.1 < other.1) ∧ Ascending d := by
  simp [Ascending]

theorem mem_of_mem_insert {name : String} {a : α} {d : List (String × α)} {e : String × α}
    (h : e ∈ insert name a d) : e = (name, a) ∨ e ∈ d := by
  induction d with
  | nil => exact .inl (List.mem_singleton.1 h)
  | cons other d ih =>
    obtain ⟨key, b⟩ := other
    unfold insert at h
    grind

theorem ascending_insert {d : List (String × α)} (h : Ascending d) (name : String) (a : α) :
    Ascending (insert name a d) := by
  induction d with
  | nil => simp [insert, Ascending]
  | cons other d ih =>
    obtain ⟨key, b⟩ := other
    obtain ⟨hkey, hd⟩ := ascending_cons.1 h
    unfold insert
    split
    · next heq => exact ascending_cons.2 ⟨heq ▸ hkey, hd⟩
    · next hne =>
      split
      · next hlt =>
        refine ascending_cons.2 ⟨fun e he => ?_, h⟩
        rcases List.mem_cons.1 he with rfl | he
        · exact hlt
        · exact String.lt_trans hlt (hkey e he)
      · next hge =>
        have hlt : key < name := Classical.byContradiction fun hnot =>
          hne (String.le_antisymm (String.not_lt.1 hnot) (String.not_lt.1 hge))
        refine ascending_cons.2 ⟨fun e he => ?_, ih hd⟩
        rcases mem_of_mem_insert he with rfl | he
        · exact hlt
        · exact hkey e he

theorem ascending_ofEntries (entries : List (String × α)) : Ascending (ofEntries entries) :=
  List.foldlRecOn entries _ (motive := Ascending) List.Pairwise.nil
    fun _ hd e _ => ascending_insert hd e.1 e.2

theorem mem_of_mem_ofEntries {entries : List (String × α)} {e : String × α}
    (h : e ∈ ofEntries entries) : e ∈ entries := by
  have hsubset : ∀ e ∈ ofEntries entries, e ∈ entries :=
    List.foldlRecOn entries _ (motive := fun d => ∀ e ∈ d, e ∈ entries) (by simp)
      fun d hd e he other hother => by
        rcases mem_of_mem_insert hother with rfl | hother
        · exact he
        · exact hd other hother
  exact hsubset e h

/-- An entry with the greatest name goes to the end. -/
theorem insert_eq_append {name : String} {d : List (String × α)} (h : ∀ e ∈ d, e.1 < name)
    (a : α) : insert name a d = d ++ [(name, a)] := by
  induction d with
  | nil => rfl
  | cons other d ih =>
    obtain ⟨hother, hd⟩ := List.forall_mem_cons.1 h
    have hne : name ≠ other.1 := fun heq => String.lt_irrefl _ (heq ▸ hother)
    rw [insert, if_neg hne, if_neg (String.lt_asymm hother), ih hd, List.cons_append]

/-- Entries in ascending order are left as they are. -/
theorem ofEntries_of_ascending {entries : List (String × α)} (h : Ascending entries) :
    ofEntries entries = entries := by
  induction entries using List.reverseRecOn with
  | nil => rfl
  | append_singleton entries e ih =>
    have hpairs : (entries.map Prod.fst ++ [e.1]).Pairwise (· < ·) := by
      simpa [Ascending] using h
    obtain ⟨hfront, _, hlast⟩ := List.pairwise_append.1 hpairs
    have hless : ∀ other ∈ entries, other.1 < e.1 := fun other hother =>
      hlast other.1 (List.mem_map_of_mem hother) e.1 List.mem_cons_self
    have hfold : ofEntries (entries ++ [e]) = insert e.1 e.2 (ofEntries entries) :=
      List.foldl_append
    rw [hfold, ih hfront, insert_eq_append hless]

end Dictionary

/-! ## Documents -/

namespace Json

/-- An integer of 64 bits, with a sign or without one. -/
def IsInteger (n : Int) : Prop :=
  Int64.minValue.toInt ≤ n ∧ n ≤ Int64.maxValue.toInt ∨ 0 ≤ n ∧ n < UInt64.size

/-- A document has integers of 64 bits only, and objects with their fields in ascending order. -/
inductive WellFormed : Json → Prop
  | null : WellFormed .null
  | bool (b : Bool) : WellFormed (.bool b)
  | integer {n : Int} (h : IsInteger n) : WellFormed (.integer n)
  | float (x : Binary64) : WellFormed (.float x)
  | string (s : String) : WellFormed (.string s)
  | array {items : List Json} (h : ∀ item ∈ items, WellFormed item) : WellFormed (.array items)
  | object {fields : List (String × Json)} (ascending : Dictionary.Ascending fields)
      (h : ∀ f ∈ fields, WellFormed f.2) : WellFormed (.object fields)

theorem wellFormed_integer {n : Int} : (integer n).WellFormed ↔ IsInteger n :=
  ⟨fun h => by cases h; assumption, .integer⟩

theorem wellFormed_array {items : List Json} :
    (array items).WellFormed ↔ ∀ item ∈ items, item.WellFormed :=
  ⟨fun h => by cases h; assumption, .array⟩

theorem wellFormed_object {fields : List (String × Json)} :
    (object fields).WellFormed ↔ Dictionary.Ascending fields ∧ ∀ f ∈ fields, f.2.WellFormed :=
  ⟨fun h => by cases h; constructor <;> assumption, fun h => .object h.1 h.2⟩

/-- A field of a well-formed object is well formed. -/
theorem WellFormed.of_field? {json inner : Json} (h : json.WellFormed) {name : String}
    (hfield : json.field? name = some inner) : inner.WellFormed := by
  cases json with
  | object fields =>
    obtain ⟨f, hf, rfl⟩ := Option.map_eq_some_iff.1 hfield
    exact (wellFormed_object.1 h).2 f (List.mem_of_find?_eq_some hf)
  | _ => cases hfield

/-- An object of well-formed fields is well formed, in whatever order they are given. -/
theorem wellFormed_ofFields {fields : List (String × Json)} (h : ∀ f ∈ fields, WellFormed f.2) :
    (ofFields fields).WellFormed :=
  .object (Dictionary.ascending_ofEntries fields)
    fun f hf => h f (Dictionary.mem_of_mem_ofEntries hf)

/-! ## What is read -/

theorem wellFormed_ofNumeral (negative : Bool) (n : Nat) : (ofNumeral negative n).WellFormed := by
  have hmin : Int64.minValue.toInt = -9223372036854775808 := by decide
  have hmax : Int64.maxValue.toInt = 9223372036854775807 := by decide
  have hpow : Nat.pow 2 63 = 9223372036854775808 := by decide
  unfold ofNumeral
  split
  · split
    · exact .float _
    · split
      · exact .integer (.inl (by omega))
      · exact .float _
  · split
    · exact .integer (.inr (by omega))
    · exact .float _

theorem wellFormed_of_readNumber? {s rest : List Char} {json : Json}
    (h : readNumber? s = some (json, rest)) : json.WellFormed := by
  unfold readNumber? at h
  simp only [Option.ite_none_left_eq_some] at h
  obtain ⟨_, h⟩ := h
  -- A sign in front or none: what is read behind it is the same.
  split at h
  all_goals
    split at h
    · obtain ⟨_, _, h⟩ := Option.bind_eq_some_iff.1 h
      obtain ⟨_, _, h⟩ := Option.bind_eq_some_iff.1 h
      simp only [Option.ite_none_right_eq_some] at h
      cases h.2
      exact .float _
    · cases h
      exact wellFormed_ofNumeral _ _

/-- What a reader gives is well formed, as is what it has read before. -/
theorem wellFormed_of_readers (fuel : Nat) :
    (∀ s json rest, readValue? fuel s = some (json, rest) → json.WellFormed) ∧
    (∀ read s items rest, readItems? fuel read s = some (items, rest) →
      (∀ item ∈ read, item.WellFormed) → ∀ item ∈ items, item.WellFormed) ∧
    (∀ read s fields rest, readFields? fuel read s = some (fields, rest) →
      (∀ f ∈ read, f.2.WellFormed) → ∀ f ∈ fields, f.2.WellFormed) := by
  induction fuel with
  | zero => simp [readValue?, readItems?, readFields?]
  | succ fuel ih =>
    obtain ⟨hvalue, hitems, hfields⟩ := ih
    refine ⟨fun s json rest h => ?_, fun read s items rest h hread => ?_,
      fun read s fields rest h hread => ?_⟩
    · unfold readValue? at h
      split at h
      · cases h
      · obtain ⟨_, _, h⟩ := Option.map_eq_some_iff.1 h
        cases h
        exact .string _
      · split at h
        · cases h
          exact .array (by simp)
        · obtain ⟨_, hread, h⟩ := Option.map_eq_some_iff.1 h
          cases h
          exact .array (hitems _ _ _ _ hread (by simp))
      · split at h
        · cases h
          exact .object List.Pairwise.nil (by simp)
        · obtain ⟨_, hread, h⟩ := Option.map_eq_some_iff.1 h
          cases h
          exact wellFormed_ofFields (hfields _ _ _ _ hread (by simp))
      · obtain ⟨_, _, h⟩ := Option.map_eq_some_iff.1 h
        cases h
        exact .null
      · obtain ⟨_, _, h⟩ := Option.map_eq_some_iff.1 h
        cases h
        exact .bool _
      · obtain ⟨_, _, h⟩ := Option.map_eq_some_iff.1 h
        cases h
        exact .bool _
      · exact wellFormed_of_readNumber? h
    · unfold readItems? at h
      obtain ⟨⟨item, after⟩, hitem, h⟩ := Option.bind_eq_some_iff.1 h
      have hmore : ∀ other ∈ item :: read, other.WellFormed :=
        List.forall_mem_cons.2 ⟨hvalue _ _ _ hitem, hread⟩
      simp only at h
      split at h
      · exact hitems _ _ _ _ h hmore
      · cases h
        exact fun other hother => hmore other (List.mem_reverse.1 hother)
      · cases h
    · unfold readFields? at h
      split at h
      · obtain ⟨⟨name, afterName⟩, _, h⟩ := Option.bind_eq_some_iff.1 h
        simp only at h
        split at h
        · obtain ⟨⟨item, after⟩, hitem, h⟩ := Option.bind_eq_some_iff.1 h
          have hmore : ∀ f ∈ (name, item) :: read, f.2.WellFormed :=
            List.forall_mem_cons.2 ⟨hvalue _ _ _ hitem, hread⟩
          simp only at h
          split at h
          · exact hfields _ _ _ _ h hmore
          · cases h
            exact fun f hf => hmore f (List.mem_reverse.1 hf)
          · cases h
        · cases h
      · cases h

/-- Every text that is read gives a well-formed document. -/
theorem wellFormed_of_read? {text : String} {json : Json} (h : read? text = some json) :
    json.WellFormed := by
  obtain ⟨⟨value, rest⟩, hvalue, hrest⟩ := Option.bind_eq_some_iff.1 h
  simp only [Option.ite_none_right_eq_some] at hrest
  cases hrest.2
  exact (wellFormed_of_readers _).1 _ _ _ hvalue

end Json

end EntitySql
