/-!
# Entries

A list of entries with keys, in the order in which the keys were first set.

    keys of (set key a entries) = those of entries, and key behind them if it is new   (keys_set)
    get? other (set key a entries) = if other = key then some a else get? other entries (get?_set)
    the elements of a key after one is pushed = those before, and that one behind them  (get?_push)
    get? key (entries.filter keep) = (get? key entries).filter (keep key)              (get?_filter)
    remove key entries = the value of the key, and the entries with other keys         (remove_eq)
-/

namespace EntitySql

namespace Entries

/-- Sets the value of a key in place, or at the end where the key is new. -/
def set {α : Type} (key : String) (a : α) : List (String × α) → List (String × α)
  | [] => [(key, a)]
  | (k, b) :: rest => if k = key then (k, a) :: rest else (k, b) :: set key a rest

/-- Adds an element behind those of a key, or a new key with it at the end. -/
def push {α κ : Type} [DecidableEq κ] (key : κ) (a : α) : List (κ × List α) → List (κ × List α)
  | [] => [(key, [a])]
  | (k, members) :: rest =>
    if k = key then (k, members ++ [a]) :: rest else (k, members) :: push key a rest

/-- Takes the first entry of a key out: its value, and the entries that are left. -/
def remove {α : Type} (key : String) : List (String × α) → Option α × List (String × α)
  | [] => (none, [])
  | (k, a) :: rest =>
    if k = key then (some a, rest)
    else
      let (b, others) := remove key rest
      (b, (k, a) :: others)

def get? {α : Type} (key : String) (entries : List (String × α)) : Option α :=
  (entries.find? (·.1 = key)).map (·.2)

/-! ## Laws -/

theorem keys_set {α : Type} (key : String) (a : α) (entries : List (String × α)) :
    (set key a entries).map Prod.fst =
      if key ∈ entries.map Prod.fst then entries.map Prod.fst
      else entries.map Prod.fst ++ [key] := by
  induction entries with
  | nil => simp [set]
  | cons e rest ih =>
    obtain ⟨k, b⟩ := e
    by_cases h : k = key
    · simp [set, h]
    · have h' : key ≠ k := Ne.symm h
      simp only [set, h, if_false, List.map_cons, ih, List.mem_cons, h', false_or]
      split <;> simp

theorem nodup_keys_set {α : Type} {entries : List (String × α)}
    (h : (entries.map Prod.fst).Nodup) (key : String) (a : α) :
    ((set key a entries).map Prod.fst).Nodup := by
  rw [keys_set]
  split
  · exact h
  · next hkey =>
    rw [List.nodup_append]
    refine ⟨h, by simp, ?_⟩
    intro x hx y hy
    rw [List.mem_singleton.1 hy]
    exact fun e => hkey (e ▸ hx)

theorem nodup_keys_filter {α : Type} {entries : List (String × α)}
    (h : (entries.map Prod.fst).Nodup) (p : String × α → Bool) :
    ((entries.filter p).map Prod.fst).Nodup :=
  h.sublist (List.filter_sublist.map Prod.fst)

theorem get?_set {α : Type} (key other : String) (a : α) (entries : List (String × α)) :
    get? other (set key a entries) = if other = key then some a else get? other entries := by
  induction entries with
  | nil => simp only [set, get?, List.find?]; grind
  | cons e rest ih => simp only [set, get?] at ih ⊢; grind

theorem get?_eq_none_iff {α : Type} {key : String} {entries : List (String × α)} :
    get? key entries = none ↔ key ∉ entries.map Prod.fst := by
  induction entries with
  | nil => simp [get?]
  | cons e rest ih =>
    simp only [get?, List.find?, List.map_cons, List.mem_cons] at ih ⊢
    by_cases h : e.1 = key
    · simp [h]
    · simpa [h, Ne.symm h] using ih

/-- A value that is found for a key stands there with it. -/
theorem mem_of_get? {α : Type} {key : String} {a : α} {entries : List (String × α)}
    (h : get? key entries = some a) : (key, a) ∈ entries := by
  obtain ⟨entry, hentry, rfl⟩ := Option.map_eq_some_iff.1 h
  have hkey : entry.1 = key := by simpa using List.find?_some hentry
  exact hkey ▸ List.mem_of_find?_eq_some hentry

theorem get?_cons {α : Type} (key : String) (e : String × α) (entries : List (String × α)) :
    get? key (e :: entries) = if e.1 = key then some e.2 else get? key entries := by
  by_cases h : e.1 = key <;> simp [get?, h]

theorem get?_push {α : Type} (key other : String) (a : α) (entries : List (String × List α)) :
    get? other (push key a entries) =
      if other = key then some ((get? key entries).getD [] ++ [a]) else get? other entries := by
  induction entries with
  | nil =>
    rw [push, get?_cons]
    by_cases h : other = key
    · rw [if_pos h.symm, if_pos h]
      rfl
    · rw [if_neg (Ne.symm h), if_neg h]
  | cons e rest ih =>
    rw [push]
    by_cases he : e.1 = key
    · rw [if_pos he, get?_cons, get?_cons, get?_cons, if_pos he]
      by_cases h : other = key
      · rw [if_pos (he.trans h.symm), if_pos h]
        rfl
      · rw [if_neg (fun heq => h (heq.symm.trans he)), if_neg h,
          if_neg (fun heq => h (heq.symm.trans he))]
    · rw [if_neg he, get?_cons, ih, get?_cons, get?_cons, if_neg he]
      by_cases h : other = key
      · rw [if_neg (fun heq => he (heq.trans h)), if_pos h, if_pos h]
      · rw [if_neg h, if_neg h]

/-- Where no key occurs twice, filtering keeps or drops the value of a key. -/
theorem get?_filter {α : Type} {entries : List (String × α)}
    (h : (entries.map Prod.fst).Nodup) (keep : String → α → Bool) (key : String) :
    get? key (entries.filter fun e => keep e.1 e.2) = (get? key entries).filter (keep key) := by
  induction entries with
  | nil => rfl
  | cons e rest ih =>
    obtain ⟨hnew, hrest⟩ := List.nodup_cons.1 h
    have hrest := ih hrest
    by_cases he : e.1 = key
    · subst he
      have hnone : get? e.1 rest = none := get?_eq_none_iff.2 hnew
      by_cases hk : keep e.1 e.2 = true <;> simp [hk, get?_cons, hrest, hnone, Option.filter]
    · by_cases hk : keep e.1 e.2 = true <;> simp [hk, get?_cons, he, hrest]

/-- Where no key occurs twice, all that is left after a removal has other keys. -/
theorem remove_eq {α : Type} {entries : List (String × α)} (h : (entries.map Prod.fst).Nodup)
    (key : String) : remove key entries = (get? key entries, entries.filter (·.1 ≠ key)) := by
  induction entries with
  | nil => rfl
  | cons e rest ih =>
    obtain ⟨hnew, hrest⟩ := List.nodup_cons.1 h
    rw [remove, get?_cons]
    by_cases he : e.1 = key
    · have hall : rest.filter (·.1 ≠ key) = rest := by
        refine List.filter_eq_self.2 fun d hd => decide_eq_true fun hkey => hnew ?_
        exact List.mem_map.2 ⟨d, hd, hkey.trans he.symm⟩
      rw [if_pos he, if_pos he, List.filter_cons_of_neg (by simpa using he), hall]
    · rw [if_neg he, if_neg he, ih hrest, List.filter_cons_of_pos (by simpa using he)]

theorem nodup_keys_remove {α : Type} {entries : List (String × α)}
    (h : (entries.map Prod.fst).Nodup) (key : String) :
    ((remove key entries).2.map Prod.fst).Nodup := by
  rw [remove_eq h]
  exact nodup_keys_filter h _

end Entries

end EntitySql
