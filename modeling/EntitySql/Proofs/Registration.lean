import EntitySql.Registry
import Mathlib.Data.List.Induction

/-!
# Registrations

What is found in a registry after any number of registrations.  An entity has the gateway that was
registered last under its name.  A table leads to the entity that was last registered for it, and so
to the gateway that this entity has now; that gateway is on the table unless the entity was
registered for another table since.

    (ofHistory gs).get name = the last of gs under the name                     (get_ofHistory)
    (ofHistory gs).byTable table = what the entity last registered for it has now
                                                                            (byTable_ofHistory)
    ServesTables gs (ofHistory gs) ↔ TablesKept gs                         (servesTables_iff)
-/

namespace EntitySql

/-! ## The last with a key -/

/-- The last element of a list that has a key. -/
def lastBy {α : Type} (key : α → String) (l : List α) (k : String) : Option α :=
  (l.filter (key · = k)).getLast?

section

variable {α : Type} {key : α → String} {l : List α} {k : String} {a : α}

theorem of_lastBy (h : lastBy key l k = some a) : a ∈ l ∧ key a = k := by
  obtain ⟨ha, hkey⟩ := List.mem_filter.1 (List.mem_of_getLast? h)
  exact ⟨ha, of_decide_eq_true hkey⟩

theorem exists_lastBy (key : α → String) (h : a ∈ l) : ∃ b, lastBy key l (key a) = some b := by
  refine Option.isSome_iff_exists.1 (List.getLast?_isSome.2 ?_)
  exact List.ne_nil_of_mem (List.mem_filter.2 ⟨h, decide_eq_true rfl⟩)

/-- Entries that are set one behind another have the last value of each key. -/
theorem Entries.get?_foldl_set {β : Type} (key : α → String) (value : α → β) (l : List α)
    (k : String) :
    get? k (l.foldl (fun entries a => set (key a) (value a) entries) []) =
      (lastBy key l k).map value := by
  unfold lastBy
  induction l using List.reverseRecOn with
  | nil => rfl
  | append_singleton l a ih =>
    rw [List.foldl_append, List.foldl_cons, List.foldl_nil, get?_set, ih, List.filter_append]
    by_cases hk : k = key a
    · rw [if_pos hk, List.filter_cons, if_pos (decide_eq_true hk.symm), List.filter_nil,
        List.getLast?_concat]
      rfl
    · rw [if_neg hk, List.filter_cons, if_neg (by simpa using Ne.symm hk), List.filter_nil,
        List.append_nil]

end

/-! ## Histories -/

/-- The gateway that was last registered under the name of its entity. -/
def lastNamed (gs : List Gateway) (name : String) : Option Gateway :=
  lastBy (·.entity.name) gs name

def lastOn (gs : List Gateway) (table : String) : Option Gateway :=
  lastBy (·.entity.table) gs table

/-- The registry after some registrations. -/
def Registry.ofHistory (gs : List Gateway) : Registry := gs.foldl register empty

namespace Registry

theorem ofHistory_eq (gs : List Gateway) :
    ofHistory gs =
      ⟨gs.foldl (fun entries g => Entries.set g.entity.name g entries) [],
       gs.foldl (fun entries g => Entries.set g.entity.table g.entity.name entries) []⟩ := by
  induction gs using List.reverseRecOn with
  | nil => rfl
  | append_singleton gs g ih =>
    unfold ofHistory at ih ⊢
    rw [List.foldl_append, List.foldl_append, List.foldl_append, ih]
    rfl

/-- An entity has the gateway that was registered last under its name. -/
theorem get_ofHistory (gs : List Gateway) (name : String) :
    (ofHistory gs).get name = (lastNamed gs name).elim (.error (.unknownEntity name)) .ok := by
  have hgateways : Entries.get? name (ofHistory gs).gateways = lastNamed gs name := by
    rw [ofHistory_eq]
    exact (Entries.get?_foldl_set (·.entity.name) id gs name).trans Option.map_id'
  rw [get, hgateways]
  cases lastNamed gs name <;> rfl

/-- A table leads to what the entity that was last registered for it has now. -/
theorem byTable_ofHistory (gs : List Gateway) (table : String) :
    (ofHistory gs).byTable table =
      (lastOn gs table).elim (.error (.unknownEntity table))
        fun g => (ofHistory gs).get g.entity.name := by
  have htables : Entries.get? table (ofHistory gs).tables =
      (lastOn gs table).map (·.entity.name) := by
    rw [ofHistory_eq]
    exact Entries.get?_foldl_set (·.entity.table) (·.entity.name) gs table
  rw [byTable, htables]
  cases lastOn gs table <;> rfl

theorem byTable_eq_ok_iff {gs : List Gateway} {table : String} {g : Gateway} :
    (ofHistory gs).byTable table = .ok g ↔
      ∃ last, lastOn gs table = some last ∧ lastNamed gs last.entity.name = some g := by
  rw [byTable_ofHistory]
  cases lastOn gs table with
  | none => simp
  | some last =>
    rw [Option.elim_some, get_ofHistory]
    cases hnow : lastNamed gs last.entity.name <;> simp [hnow]

end Registry

/-! ## Tables -/

/-- The registry gives the gateways that are registered now: under a name the last one, and under a
table one that is on the table, if there is one. -/
structure ServesTables (gs : List Gateway) (r : Registry) : Prop where
  /-- An entity has the gateway that was registered last under its name. -/
  named : ∀ name, r.get name = (lastNamed gs name).elim (.error (.unknownEntity name)) .ok
  /-- A table leads somewhere if the gateway that some entity has now is on it, and only then. -/
  found_iff : ∀ table, (∃ g, r.byTable table = .ok g) ↔
    ∃ g, lastNamed gs g.entity.name = some g ∧ g.entity.table = table
  /-- What a table leads to is on the table. -/
  onTable : ∀ table g, r.byTable table = .ok g → g.entity.table = table

/-- The entity that was last registered for a table is still on it. -/
def TablesKept (gs : List Gateway) : Prop :=
  ∀ table g, lastOn gs table = some g →
    ∃ now, lastNamed gs g.entity.name = some now ∧ now.entity.table = table

/-- A registry gives the gateways that are registered now, under their names and their tables, if
and only if no entity was moved from a table that it was the last to be registered for. -/
theorem servesTables_iff (gs : List Gateway) :
    ServesTables gs (Registry.ofHistory gs) ↔ TablesKept gs := by
  constructor
  · intro h table last hlast
    obtain ⟨now, hnow⟩ := exists_lastBy (·.entity.name) (of_lastBy hlast).1
    exact ⟨now, hnow, h.onTable table now (Registry.byTable_eq_ok_iff.2 ⟨last, hlast, hnow⟩)⟩
  · intro h
    have honTable : ∀ table g, (Registry.ofHistory gs).byTable table = .ok g →
        g.entity.table = table := by
      intro table g hg
      obtain ⟨last, hlast, hnow⟩ := Registry.byTable_eq_ok_iff.1 hg
      obtain ⟨now, hnow', htable⟩ := h table last hlast
      rw [hnow] at hnow'
      rw [Option.some.inj hnow', htable]
    refine ⟨Registry.get_ofHistory gs, fun table => ⟨?_, ?_⟩, honTable⟩
    · rintro ⟨g, hg⟩
      obtain ⟨last, _, hnow⟩ := Registry.byTable_eq_ok_iff.1 hg
      refine ⟨g, ?_, honTable table g hg⟩
      rw [(of_lastBy hnow).2, hnow]
    · rintro ⟨g, hg, rfl⟩
      obtain ⟨last, hlast⟩ := exists_lastBy (·.entity.table) (of_lastBy hg).1
      obtain ⟨now, hnow⟩ := exists_lastBy (·.entity.name) (of_lastBy hlast).1
      exact ⟨now, Registry.byTable_eq_ok_iff.2 ⟨last, hlast, hnow⟩⟩

def authorsOn (table : String) : Gateway :=
  .pooled (Declaration.entity { name := "author", table := some table }) {} .empty

/-- Authors are moved to another table, and their old one still leads to them. -/
theorem not_servesTables_moved :
    ∃ g, (Registry.ofHistory [authorsOn "authors", authorsOn "writers"]).byTable "authors" = .ok g ∧
      g.entity.table = "writers" ∧
      ¬ ServesTables [authorsOn "authors", authorsOn "writers"]
        (Registry.ofHistory [authorsOn "authors", authorsOn "writers"]) := by
  refine ⟨authorsOn "writers", rfl, rfl, fun h => ?_⟩
  have htable := h.onTable "authors" (authorsOn "writers") rfl
  revert htable
  decide

end EntitySql
