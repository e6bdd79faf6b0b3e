import PickupLedger.Proofs.MigrationSteps

/-!
# Paths through the migrations

A `Script` is any sequence of commands to the migrations and of rows inserted.  Run on a new
database, it never fails, and what it leaves does not depend on the path: how many migrations
are applied is told by the commands alone (`Outline.level`), they are the first ones in their
order, and the schema is theirs.  A table of reference data holds its seeded rows and then
those rows that were let in since it was last created (`Outline.added`).

What one command does is told by two numbers (`Migrated.Rebuilt`): `level` migrations are
applied after it, and the tables of the first `kept` have kept their rows; those between were
created anew.  Going back counts the migrations that are applied, and not those that the last
command has added: so it undoes going forward exactly when there were as many left to apply
(`path_independent`), and takes more than was put when there were fewer
(`down_after_up_loses_table`).
-/

namespace PickupLedger.Database

/-! ## The order of the migrations -/

namespace Migration

theorem nodup_all : all.Nodup := by decide

theorem mem_all (x : Migration) : x ∈ all := by cases x <;> decide

theorem place_lt (x : Migration) : x.place < all.length := by cases x <;> decide

theorem place_getElem {k : Nat} (hk : k < all.length) : all[k].place = k :=
  nodup_all.idxOf_getElem k hk

theorem place_injective : Function.Injective place :=
  fun x _ h => (List.idxOf_inj x.mem_all).mp h

theorem mem_take {x : Migration} {k : Nat} : x ∈ all.take k ↔ x.place < k :=
  List.mem_take_iff_idxOf_lt x.mem_all

theorem mem_drop {x : Migration} {k : Nat} : x ∈ all.drop k ↔ k ≤ x.place := by
  have hsplit : x ∈ all.take k ∨ x ∈ all.drop k := by
    rw [← List.mem_append, List.take_append_drop]
    exact x.mem_all
  have hnodup : (all.take k ++ all.drop k).Nodup := by
    rw [List.take_append_drop]
    exact nodup_all
  constructor
  · intro hdrop
    by_contra hlt
    exact (List.nodup_append.mp hnodup).2.2 x (mem_take.mpr (Nat.not_le.mp hlt)) x hdrop rfl
  · intro hle
    exact hsplit.resolve_left fun htake => absurd (mem_take.mp htake) (Nat.not_lt.mpr hle)

theorem take_succ {k : Nat} (hk : k < all.length) : all.take (k + 1) = all.take k ++ [all[k]] :=
  (List.take_append_getElem hk).symm

end Migration

/-- How many of so many a command counts off. -/
def counted (count : Option Nat) (available : Nat) : Nat :=
  match count with
  | some n => min n available
  | none => available

theorem upTo_prefix {α : Type} (count : Option Nat) (xs : List α) : upTo count xs <+: xs := by
  cases count with
  | none => exact List.prefix_rfl
  | some n => exact List.take_prefix n xs

theorem length_upTo {α : Type} (count : Option Nat) (xs : List α) :
    (upTo count xs).length = counted count xs.length := by
  cases count with
  | none => rfl
  | some n => exact List.length_take

/-! ## What a command does -/

namespace Migrated
variable {m m' m'' : Migrated} {k : Nat}

/-- **The first migrations are applied**, and no others: the schema is theirs, and the tables
of the others have no rows. -/
structure Laid (m : Migrated) (level : Nat) : Prop where
  within : level ≤ Migration.all.length
  connected : m.database.connected = true
  foreignKeys : m.database.foreignKeys = true
  applied : m.applied = Migration.all.take level
  schema : m.database.schema = .ofMigrations m.applied
  vacant : ∀ x : Migration, level ≤ x.place →
    m.database.records.rowsOf x.table = Records.empty.rowsOf x.table

/-- **What a way through the migrations leaves**: the tables of the first `kept` migrations
with their rows, and those up to the `level` created anew. -/
structure Rebuilt (m m' : Migrated) (kept level : Nat) : Prop where
  laid : m'.Laid level
  same : ∀ x : Migration, x.place < kept →
    m'.database.records.rowsOf x.table = m.database.records.rowsOf x.table
  anew : ∀ x : Migration, kept ≤ x.place → x.place < level →
    m'.database.records.rowsOf x.table = seeded.records.rowsOf x.table

theorem Laid.length (h : m.Laid k) : m.applied.length = k := by
  rw [h.applied, List.length_take, Nat.min_eq_left h.within]

theorem Laid.mem_applied (h : m.Laid k) {x : Migration} : x ∈ m.applied ↔ x.place < k := by
  rw [h.applied, Migration.mem_take]

theorem Laid.pending (h : m.Laid k) : m.pending = Migration.all.drop k := by
  have hfront : (Migration.all.take k).filter (fun x => !m.applied.contains x) = [] := by
    rw [List.filter_eq_nil_iff]
    intro x hx
    simpa [h.mem_applied] using Migration.mem_take.mp hx
  have hback : (Migration.all.drop k).filter (fun x => !m.applied.contains x) =
      Migration.all.drop k := by
    rw [List.filter_eq_self]
    intro x hx
    simpa [h.mem_applied] using Migration.mem_drop.mp hx
  calc m.pending
      = (Migration.all.take k ++ Migration.all.drop k).filter fun x => !m.applied.contains x := by
        rw [List.take_append_drop, Migrated.pending]
    _ = Migration.all.drop k := by rw [List.filter_append, hfront, hback, List.nil_append]

theorem Laid.length_pending (h : m.Laid k) : m.pending.length = Migration.all.length - k := by
  rw [h.pending, List.length_drop]

theorem Laid.nodup (h : m.Laid k) : m.applied.Nodup :=
  h.applied ▸ Migration.nodup_all.sublist (List.take_sublist k _)

theorem laid_new : Migrated.new.Laid 0 where
  within := Nat.zero_le _
  connected := rfl
  foreignKeys := rfl
  applied := rfl
  schema := rfl
  vacant _ _ := rfl

theorem Laid.rebuilt (h : m.Laid k) : m.Rebuilt m k k where
  laid := h
  same _ _ := rfl
  anew _ hkept hlevel := absurd hlevel (Nat.not_lt.mpr hkept)

theorem Rebuilt.trans {kept level kept' level' : Nat} (h : m.Rebuilt m' kept level)
    (h' : m'.Rebuilt m'' kept' level') (hle : kept' ≤ level) :
    m.Rebuilt m'' (min kept kept') level' where
  laid := h'.laid
  same x hx := by
    rw [h'.same x (by omega), h.same x (by omega)]
  anew x hkept hlevel := by
    by_cases hx : x.place < kept'
    · rw [h'.same x hx, h.anew x (by omega) (by omega)]
    · exact h'.anew x (by omega) hlevel

/-- **The next migration applied.** -/
theorem Laid.apply (h : m.Laid k) (hk : k < Migration.all.length) :
    ∃ m', m.apply Migration.all[k] = .ok m' ∧ m.Rebuilt m' k (k + 1) := by
  have hplace := Migration.place_getElem hk
  have hnodup : (m.applied ++ [Migration.all[k]]).Nodup := by
    rw [h.applied, ← Migration.take_succ hk]
    exact Migration.nodup_all.sublist (List.take_sublist _ _)
  obtain ⟨rs, hrun, hothers, hown⟩ :=
    runAll_up hnodup h.schema (h.vacant _ (Nat.le_of_eq hplace.symm))
  have htable {y : Migration} (hy : y.place ≠ k) : y.table ≠ Migration.all[k].table :=
    fun heq => hy (by rw [Migration.table_injective heq, hplace])
  refine ⟨_, congrArg (Except.map _) hrun, ⟨⟨hk, h.connected, h.foreignKeys, ?_, rfl, ?_⟩, ?_, ?_⟩⟩
  · rw [h.applied, ← Migration.take_succ hk]
  · intro y hy
    exact (hothers _ (htable (by omega))).trans (h.vacant y (by omega))
  · intro y hy
    exact hothers _ (htable (by omega))
  · intro y hy hy'
    rw [Migration.place_injective (hplace.trans (by omega : k = y.place))] at hown
    exact hown

/-- **The last migration reverted.** -/
theorem Laid.revert (h : m.Laid (k + 1)) (hk : k < Migration.all.length) :
    ∃ m', m.revert Migration.all[k] = .ok m' ∧ m.Rebuilt m' k k := by
  have hplace := Migration.place_getElem hk
  have happlied : m.applied = Migration.all.take k ++ [Migration.all[k]] :=
    h.applied.trans (Migration.take_succ hk)
  have hlast : Migration.all[k] ∉ Migration.all.take k := by
    rw [Migration.mem_take, hplace]
    exact Nat.lt_irrefl k
  have hbehind : ∀ y ∈ Migration.all.take k, y.place ≤ Migration.all[k].place := by
    intro y hy
    rw [hplace]
    exact Nat.le_of_lt (Migration.mem_take.mp hy)
  have hrun := runAll_down hlast (h.schema.trans (congrArg _ happlied)) hbehind
  have hbefore : m.applied.filter (fun y => y ≠ Migration.all[k]) = Migration.all.take k := by
    rw [happlied, filter_ne_append hlast]
  have htable {y : Migration} (hy : y.place ≠ k) : y.table ≠ Migration.all[k].table :=
    fun heq => hy (by rw [Migration.table_injective heq, hplace])
  refine ⟨_, congrArg (Except.map _) hrun,
    ⟨⟨Nat.le_of_lt hk, h.connected, h.foreignKeys, hbefore,
      congrArg Schema.ofMigrations hbefore.symm, ?_⟩, ?_, ?_⟩⟩
  · intro y hy
    by_cases hy' : y.place = k
    · rw [Migration.place_injective (hy'.trans hplace.symm)]
      exact rowsOf_clear_self
    · exact (rowsOf_clear_of_ne (htable hy')).trans (h.vacant y (by omega))
  · intro y hy
    exact rowsOf_clear_of_ne (htable (by omega))
  · intro y hkept hlevel
    omega

/-- Pending migrations applied, by induction on them. -/
theorem Laid.foldlM_apply {xs : List Migration} (h : m.Laid k) (hxs : xs <+: Migration.all.drop k) :
    ∃ m', xs.foldlM Migrated.apply m = .ok m' ∧ m.Rebuilt m' k (k + xs.length) := by
  induction xs generalizing m k with
  | nil => exact ⟨m, rfl, h.rebuilt⟩
  | cons x xs ih =>
    have hk : k < Migration.all.length := by
      have hle := hxs.length_le
      rw [List.length_cons, List.length_drop] at hle
      omega
    rw [List.drop_eq_getElem_cons hk, List.cons_prefix_cons] at hxs
    obtain ⟨rfl, hxs⟩ := hxs
    obtain ⟨m₁, happly, hstep⟩ := h.apply hk
    obtain ⟨m', hrest, hrebuilt⟩ := ih hstep.laid hxs
    refine ⟨m', ?_, ?_⟩
    · rw [List.foldlM_cons, happly]
      exact hrest
    · have htrans := hstep.trans hrebuilt (Nat.le_refl _)
      rwa [Nat.min_eq_left (Nat.le_succ k), Nat.add_assoc, Nat.add_comm 1] at htrans

/-- Applied migrations reverted, by induction on them. -/
theorem Laid.foldlM_revert {xs : List Migration} (h : m.Laid k)
    (hxs : xs <+: (Migration.all.take k).reverse) :
    ∃ m', xs.foldlM Migrated.revert m = .ok m' ∧
      m.Rebuilt m' (k - xs.length) (k - xs.length) := by
  induction xs generalizing m k with
  | nil => exact ⟨m, rfl, h.rebuilt⟩
  | cons x xs ih =>
    obtain _ | k := k
    · exact absurd hxs.length_le (Nat.not_succ_le_zero _)
    rw [Migration.take_succ h.within, List.reverse_append, List.reverse_singleton,
      List.singleton_append, List.cons_prefix_cons] at hxs
    obtain ⟨rfl, hxs⟩ := hxs
    obtain ⟨m₁, hrevert, hstep⟩ := h.revert h.within
    obtain ⟨m', hrest, hrebuilt⟩ := ih hstep.laid hxs
    refine ⟨m', ?_, ?_⟩
    · rw [List.foldlM_cons, hrevert]
      exact hrest
    · have htrans := hstep.trans hrebuilt (Nat.sub_le _ _)
      rwa [Nat.min_eq_right (Nat.sub_le k _), ← Nat.add_sub_add_right k 1] at htrans

theorem Laid.up (h : m.Laid k) (count : Option Nat) :
    ∃ m', m.up count = .ok m' ∧ m.Rebuilt m' k (k + counted count (Migration.all.length - k)) := by
  rw [← h.length_pending, ← length_upTo, Migrated.up]
  exact h.foldlM_apply (h.pending ▸ upTo_prefix count m.pending)

theorem Laid.down (h : m.Laid k) (count : Option Nat) :
    ∃ m', m.down count = .ok m' ∧ m.Rebuilt m' (k - counted count k) (k - counted count k) := by
  have hcount : counted count k = (upTo count m.applied.reverse).length := by
    rw [length_upTo, List.length_reverse, h.length]
  rw [hcount, Migrated.down]
  exact h.foldlM_revert (h.applied ▸ upTo_prefix count m.applied.reverse)

theorem Laid.dropAll (h : m.Laid k) : ∃ m', m.dropAll = .ok m' ∧ m.Rebuilt m' 0 0 := by
  have htables : (m.database.schema.tables.map fun d => Statement.dropTable d.table) =
      m.applied.map fun x => .dropTable x.table := by
    rw [h.schema, Schema.ofMigrations, List.map_map]
    rfl
  have hrun := runAll_dropTables { m.database with foreignKeys := false } h.nodup rfl
    h.schema
  rw [Migrated.dropAll, htables, hrun]
  refine ⟨_, rfl, ⟨⟨Nat.zero_le _, h.connected, rfl, rfl, rfl, ?_⟩, ?_, ?_⟩⟩
  · intro x _
    refine rowsOf_foldl_clear _ _ _ ?_
    by_cases hx : x.place < k
    · left
      rw [h.applied]
      exact List.mem_map_of_mem (Migration.mem_take.mpr hx)
    · exact .inr (h.vacant x (Nat.not_lt.mp hx))
  · intro x hx
    exact absurd hx (Nat.not_lt_zero _)
  · intro x _ hx
    exact absurd hx (Nat.not_lt_zero _)

end Migrated

/-- How many migrations are applied after a command, by how many were before. -/
def Command.level (c : Command) (k : Nat) : Nat :=
  match c with
  | .up count => k + counted count (Migration.all.length - k)
  | .down count => k - counted count k
  | .fresh | .refresh => Migration.all.length
  | .reset => 0

/-- Of how many migrations a command leaves the tables as they are. -/
def Command.kept (c : Command) (k : Nat) : Nat :=
  match c with
  | .up _ => k
  | .down count => k - counted count k
  | .fresh | .reset | .refresh => 0

/-- **No command fails**, whatever the rows, and what it leaves is told by how many
migrations were applied. -/
theorem Migrated.Laid.execute {m : Migrated} {k : Nat} (h : m.Laid k) (c : Command) :
    ∃ m', m.execute c = .ok m' ∧ m.Rebuilt m' (c.kept k) (c.level k) := by
  have hall {m₁ : Migrated} (hback : m.Rebuilt m₁ 0 0) :
      ∃ m', m₁.up none = .ok m' ∧ m.Rebuilt m' 0 Migration.all.length := by
    obtain ⟨m', hup, hrebuilt⟩ := hback.laid.up none
    refine ⟨m', hup, ?_⟩
    have htrans := hback.trans hrebuilt (Nat.le_refl 0)
    rwa [Nat.zero_add] at htrans
  have hnone : ∃ m₁, m.down none = .ok m₁ ∧ m.Rebuilt m₁ 0 0 := by
    obtain ⟨m₁, hdown, hrebuilt⟩ := h.down none
    refine ⟨m₁, hdown, ?_⟩
    rwa [counted, Nat.sub_self] at hrebuilt
  cases c with
  | up count => exact h.up count
  | down count => exact h.down count
  | reset => exact hnone
  | fresh =>
    obtain ⟨m₁, hdrop, hback⟩ := h.dropAll
    obtain ⟨m', hup, hrebuilt⟩ := hall hback
    exact ⟨m', by rw [Migrated.execute, hdrop]; exact hup, hrebuilt⟩
  | refresh =>
    obtain ⟨m₁, hdown, hback⟩ := hnone
    obtain ⟨m', hup, hrebuilt⟩ := hall hback
    exact ⟨m', by rw [Migrated.execute, hdown]; exact hup, hrebuilt⟩

/-! ## Scripts -/

/-- **A row to insert** into one of the tables. -/
inductive Row where
  | reference (table : TableName) (id : RefId) (name : String)
  | point (id : Uuid) (row : PointRow)
  | reception (id : Uuid) (row : ReceptionRow)
  | product (id : Uuid) (row : ProductRow)
  deriving DecidableEq, Repr

/-- What comes of a statement that writes a table. -/
def written (db : Database) (t : TableName) (result : Except SqlFault Database) :
    Except DatabaseFault Database := do
  db.writable t
  result.mapError .execution

/-- A row inserted, unless its table is missing or a key or a reference forbids it. -/
def Row.insert (db : Database) : Row → Except DatabaseFault Database
  | .reference t id name => db.addReference t id name
  | .point id row => db.written .pickupPoints (db.insertPoint id row)
  | .reception id row => db.written .receptions (db.insertReception id row)
  | .product id row => db.written .products (db.insertProduct id row)

/-- A step of a script. -/
inductive Step where
  | migrate (command : Command)
  | insert (row : Row)
  deriving DecidableEq, Repr

/-- One step: a command that fails ends the script, a row that is refused changes nothing. -/
def Migrated.step (m : Migrated) : Step → Except SqlFault Migrated
  | .migrate command => m.execute command
  | .insert row =>
    match row.insert m.database with
    | .ok database => .ok { m with database }
    | .error _ => .ok m

/-- **A script run**, step by step. -/
def Migrated.run (m : Migrated) (script : List Step) : Except SqlFault Migrated :=
  script.foldlM Migrated.step m

/-! ### What a script comes to -/

/-- **What a script comes to**: how many migrations are applied, and which rows of reference
data were added since their tables were last created. -/
structure Outline where
  level : Nat
  added : Migration → List (RefId × String)

namespace Outline

/-- Of a new database. -/
def new : Outline := ⟨0, fun _ => []⟩

/-- The rows of reference data that a table holds. -/
def references (o : Outline) (x : Migration) : List (RefId × String) :=
  if x.place < o.level then x.seeds ++ o.added x else []

/-- A row of reference data is let in: its table is there, and its number and its name are free. -/
def Admits (o : Outline) (x : Migration) (id : RefId) (name : String) : Prop :=
  x.place < o.level ∧ id ∉ (o.references x).map Prod.fst ∧ name ∉ (o.references x).map Prod.snd

instance (o : Outline) (x : Migration) (id : RefId) (name : String) :
    Decidable (o.Admits x id name) := inferInstanceAs (Decidable (_ ∧ _ ∧ _))

/-- After a step: a command moves the level and forgets what was added to the tables that it
drops. -/
def after (o : Outline) : Step → Outline
  | .migrate command =>
    ⟨command.level o.level, fun x => if x.place < command.kept o.level then o.added x else []⟩
  | .insert (.reference t id name) =>
    { o with added := fun x =>
      if x.table = t ∧ o.Admits x id name then o.added x ++ [(id, name)] else o.added x }
  | .insert _ => o

/-- **The outline of a script.** -/
def ofScript (script : List Step) : Outline := script.foldl after new

variable {o : Outline} {x : Migration}

theorem references_of_lt (h : x.place < o.level) : o.references x = x.seeds ++ o.added x := if_pos h

theorem references_of_le (h : o.level ≤ x.place) : o.references x = [] := if_neg (Nat.not_lt.mpr h)

theorem added_migrate (o : Outline) (c : Command) (x : Migration) :
    (o.after (.migrate c)).added x = if x.place < c.kept o.level then o.added x else [] := rfl

end Outline

/-- **A database as outlined**: its first migrations are applied, and its reference data are
those that the outline tells. -/
structure Migrated.Follows (m : Migrated) (o : Outline) : Prop where
  laid : m.Laid o.level
  references : ∀ (x : Migration) (rows : Table RefId String),
    references? m.database.records x.table = some rows → rows.entries = o.references x

section Follows
variable {m : Migrated} {o : Outline}

theorem Migrated.follows_new : Migrated.new.Follows .new where
  laid := laid_new
  references x rows h := by
    exact (entries_of_vacant h).trans (Outline.references_of_le (Nat.zero_le _)).symm

theorem Command.kept_le (c : Command) (k : Nat) : c.kept k ≤ k := by
  cases c with
  | up count => exact Nat.le_refl k
  | down count => exact Nat.sub_le k _
  | fresh | reset | refresh => exact Nat.zero_le k

/-- **A command carried out** is followed by the outline. -/
theorem Migrated.Follows.execute (h : m.Follows o) (c : Command) :
    ∃ m', m.execute c = .ok m' ∧ m'.Follows (o.after (.migrate c)) := by
  obtain ⟨m', hrun, hrebuilt⟩ := h.laid.execute c
  refine ⟨m', hrun, hrebuilt.laid, ?_⟩
  intro x rows hrows
  by_cases hlevel : x.place < c.level o.level
  case neg =>
    rw [Outline.references_of_le (Nat.not_lt.mp hlevel)]
    have hvacant := hrebuilt.laid.vacant x (Nat.not_lt.mp hlevel)
    exact entries_of_vacant ((references?_congr hvacant).symm.trans hrows)
  case pos =>
    rw [Outline.references_of_lt hlevel, Outline.added_migrate]
    by_cases hkept : x.place < c.kept o.level
    · have hsame := (references?_congr (hrebuilt.same x hkept)).symm.trans hrows
      rw [if_pos hkept, h.references x rows hsame,
        Outline.references_of_lt (Nat.lt_of_lt_of_le hkept (c.kept_le _))]
    · have hanew := hrebuilt.anew x (Nat.not_lt.mp hkept) hlevel
      rw [if_neg hkept, List.append_nil]
      exact Migration.entries_of_seeded ((references?_congr hanew).symm.trans hrows)

/-! ### Rows inserted -/

/-- A table can be written when it is there. -/
theorem Migrated.Laid.writable {k : Nat} (h : m.Laid k) (x : Migration) :
    m.database.writable x.table = .ok () ↔ x.place < k := by
  have hhas : m.database.schema.has x.table = true ↔ x.place < k := by
    rw [h.schema, Schema.has_ofMigrations, h.mem_applied]
  rw [← hhas, Database.writable, obstacle?]
  simp only [h.connected, Bool.not_true, Bool.false_eq_true, if_false, List.find?_cons,
    List.find?_nil, maxParameters]
  cases m.database.schema.has x.table <;> simp

/-- A table that is there is defined by its migration. -/
theorem Migrated.Laid.definition? {k : Nat} (h : m.Laid k) {x : Migration} (hx : x.place < k) :
    m.database.schema.definition? x.table = some x.definition := by
  rw [h.schema]
  exact Schema.definition?_of_mem (h.mem_applied.mpr hx)

/-- Other rows in a table that is there leave the migrations as they are. -/
theorem Migrated.Laid.withRecords {k : Nat} (h : m.Laid k) {x : Migration} (hx : x.place < k)
    {rs : Records} (hothers : ∀ t, t ≠ x.table → rs.rowsOf t = m.database.records.rowsOf t) :
    Migrated.Laid { m with database := { m.database with records := rs } } k where
  within := h.within
  connected := h.connected
  foreignKeys := h.foreignKeys
  applied := h.applied
  schema := h.schema
  vacant y hy := by
    have hne : y.table ≠ x.table := fun heq => by
      rw [Migration.table_injective heq] at hy
      omega
    exact (hothers y.table hne).trans (h.vacant y hy)

theorem Outline.references_insert_of_ne {x y : Migration} (hy : y ≠ x) (id : RefId) (name : String) :
    (o.after (.insert (.reference x.table id name))).references y = o.references y := by
  have hne : y.table ≠ x.table := fun heq => hy (Migration.table_injective heq)
  simp only [Outline.references, Outline.after, hne, false_and, if_false]

theorem Outline.references_insert_self (x : Migration) (id : RefId) (name : String) :
    (o.after (.insert (.reference x.table id name))).references x =
      if o.Admits x id name then o.references x ++ [(id, name)] else o.references x := by
  by_cases hlevel : x.place < o.level
  · simp only [Outline.references, Outline.after, hlevel, if_true, true_and]
    split
    · rw [List.append_assoc]
    · rfl
  · have hrefused : ¬ o.Admits x id name := fun h => hlevel h.1
    simp only [Outline.references, Outline.after, hlevel, if_false, hrefused]

theorem Migrated.step_ok {row : Row} {db : Database} (h : row.insert m.database = .ok db) :
    m.step (.insert row) = .ok { m with database := db } := by
  rw [Migrated.step, h]

theorem Migrated.step_error {row : Row} {fault : DatabaseFault}
    (h : row.insert m.database = .error fault) : m.step (.insert row) = .ok m := by
  rw [Migrated.step, h]

/-- A row of reference data that is let in. -/
theorem Migrated.Follows.admitted (h : m.Follows o) {x : Migration} {rows : Table RefId String}
    (hrows : references? m.database.records x.table = some rows) {id : RefId} {name : String}
    (hadmits : o.Admits x id name) : ∃ m', m.step (.insert (.reference x.table id name)) = .ok m' ∧
      m'.Follows (o.after (.insert (.reference x.table id name))) := by
  have ⟨hlevel, hid, hname⟩ := hadmits
  have hentries := h.references x rows hrows
  rw [← hentries] at hid hname
  obtain ⟨rows', hadd, hrows'⟩ :=
    addReference_free (h.laid.definition? hlevel) hrows ((h.laid.writable x).mpr hlevel) hid hname
  refine ⟨_, Migrated.step_ok hadd,
    h.laid.withRecords hlevel fun t ht => rowsOf_withReferences_of_ne ht, ?_⟩
  intro y found hy
  by_cases hyx : y = x
  · subst hyx
    obtain rfl := Option.some.inj ((references?_withReferences hrows rows').symm.trans hy)
    rw [Outline.references_insert_self, if_pos hadmits, hrows', hentries]
  · have hne : y.table ≠ x.table := fun heq => hyx (Migration.table_injective heq)
    rw [Outline.references_insert_of_ne hyx]
    exact h.references y found
      ((references?_congr (rowsOf_withReferences_of_ne hne)).symm.trans hy)

/-- A row of reference data that is refused. -/
theorem Migrated.Follows.refused (h : m.Follows o) {x : Migration} {id : RefId} {name : String}
    (hrefused : references? m.database.records x.table = none ∨ ¬ o.Admits x id name) :
    m.Follows (o.after (.insert (.reference x.table id name))) := by
  refine ⟨h.laid, fun y rows hy => ?_⟩
  by_cases hyx : y = x
  · subst hyx
    have hrefused : ¬ o.Admits y id name := hrefused.resolve_left (by rw [hy]; simp)
    rw [Outline.references_insert_self, if_neg hrefused]
    exact h.references y rows hy
  · rw [Outline.references_insert_of_ne hyx]
    exact h.references y rows hy

/-- A row of reference data inserted: it is let in exactly when the outline admits it. -/
theorem Migrated.Follows.insertReference (h : m.Follows o) (t : TableName) (id : RefId)
    (name : String) : ∃ m', m.step (.insert (.reference t id name)) = .ok m' ∧
      m'.Follows (o.after (.insert (.reference t id name))) := by
  obtain ⟨x, rfl⟩ := Migration.exists_table t
  cases hrows : references? m.database.records x.table with
  | none =>
    obtain ⟨fault, hadd⟩ := addReference_of_none hrows id name
    exact ⟨m, Migrated.step_error hadd, h.refused (.inl hrows)⟩
  | some rows =>
    by_cases hadmits : o.Admits x id name
    · exact h.admitted hrows hadmits
    refine ⟨m, ?_, h.refused (.inr hadmits)⟩
    cases hwrite : m.database.writable x.table with
    | error fault =>
      exact Migrated.step_error (by rw [Row.insert, addReference, hwrite]; rfl)
    | ok u =>
      have htaken : id ∈ rows.entries.map Prod.fst ∨ name ∈ rows.entries.map Prod.snd := by
        rw [h.references x rows hrows]
        by_contra hfree
        rw [not_or] at hfree
        exact hadmits ⟨(h.laid.writable x).mp hwrite, hfree⟩
      have hlevel := (h.laid.writable x).mp hwrite
      obtain ⟨fault, hadd⟩ := addReference_taken (h.laid.definition? hlevel) hrows hwrite htaken
      exact Migrated.step_error hadd

/-- A statement that changes the rows of one table of records, if it succeeds. -/
def Touches (db : Database) (x : Migration) (result : Except SqlFault Database) : Prop :=
  ∀ db', result = .ok db' → ∃ rs, db' = { db with records := rs } ∧
    references? rs x.table = none ∧ ∀ t, t ≠ x.table → rs.rowsOf t = db.records.rowsOf t

theorem insertPoint_touches (db : Database) (id : Uuid) (row : PointRow) :
    Touches db .createPickupPoints (db.insertPoint id row) := by
  intro db' h
  rw [insertPoint] at h
  split at h <;> try split at h
  all_goals cases h
  refine ⟨_, rfl, rfl, fun t ht => ?_⟩
  cases t <;> first | rfl | exact absurd rfl ht

theorem insertReception_touches (db : Database) (id : Uuid) (row : ReceptionRow) :
    Touches db .createReceptions (db.insertReception id row) := by
  intro db' h
  rw [insertReception] at h
  split at h <;> try split at h <;> try split at h
  all_goals cases h
  refine ⟨_, rfl, rfl, fun t ht => ?_⟩
  cases t <;> first | rfl | exact absurd rfl ht

theorem insertProduct_touches (db : Database) (id : Uuid) (row : ProductRow) :
    Touches db .createProducts (db.insertProduct id row) := by
  intro db' h
  rw [insertProduct] at h
  split at h <;> try split at h
  all_goals cases h
  refine ⟨_, rfl, rfl, fun t ht => ?_⟩
  cases t <;> first | rfl | exact absurd rfl ht

/-- A row of a record inserted, or refused. -/
theorem Migrated.Follows.insertRecord (h : m.Follows o) {row : Row} {x : Migration}
    {result : Except SqlFault Database} (hrow : row.insert m.database = m.database.written x.table result)
    (htouches : Touches m.database x result) :
    ∃ m', m.step (.insert row) = .ok m' ∧ m'.Follows o := by
  cases hwrite : m.database.writable x.table with
  | error fault =>
    exact ⟨m, Migrated.step_error (hrow.trans (by rw [written, hwrite]; rfl)), h⟩
  | ok u =>
    have hlevel := (h.laid.writable x).mp hwrite
    cases hresult : result with
    | error fault =>
      exact ⟨m, Migrated.step_error (hrow.trans (by rw [written, hwrite, hresult]; rfl)), h⟩
    | ok db =>
      obtain ⟨rs, rfl, hrecord, hothers⟩ := htouches db hresult
      refine ⟨_, Migrated.step_ok (hrow.trans (by rw [written, hwrite, hresult]; rfl)),
        h.laid.withRecords hlevel hothers, fun y rows hy => ?_⟩
      have hne : y.table ≠ x.table := by
        intro heq
        rw [heq, hrecord] at hy
        cases hy
      exact h.references y rows ((references?_congr (hothers _ hne)).symm.trans hy)

/-- **A step** does not fail, and is followed by the outline. -/
theorem Migrated.Follows.step (h : m.Follows o) (s : Step) :
    ∃ m', m.step s = .ok m' ∧ m'.Follows (o.after s) := by
  cases s with
  | migrate c => exact h.execute c
  | insert row =>
    cases row with
    | reference t id name => exact h.insertReference t id name
    | point id row =>
      exact h.insertRecord (x := .createPickupPoints) rfl (insertPoint_touches _ id row)
    | reception id row =>
      exact h.insertRecord (x := .createReceptions) rfl (insertReception_touches _ id row)
    | product id row =>
      exact h.insertRecord (x := .createProducts) rfl (insertProduct_touches _ id row)

/-- **A script** does not fail, and is followed by its outline. -/
theorem Migrated.Follows.run (h : m.Follows o) (script : List Step) :
    ∃ m', m.run script = .ok m' ∧ m'.Follows (script.foldl Outline.after o) := by
  induction script generalizing m o with
  | nil => exact ⟨m, rfl, h⟩
  | cons s script ih =>
    obtain ⟨m₁, hstep, h₁⟩ := h.step s
    obtain ⟨m', hrun, h'⟩ := ih h₁
    refine ⟨m', ?_, h'⟩
    rw [Migrated.run, List.foldlM_cons, hstep]
    exact hrun

end Follows

/-! ## There and back -/

namespace Migrated
variable {m m' : Migrated} {k k' : Nat}

/-- The schema tells how many migrations are applied. -/
theorem Laid.schema_eq_iff (h : m.Laid k) (h' : m'.Laid k') :
    m'.database.schema = m.database.schema ↔ k' = k := by
  constructor
  · intro heq
    have htables := congrArg (fun s : Schema => s.tables.length)
      (h'.schema.symm.trans (heq.trans h.schema))
    simpa only [Schema.ofMigrations, List.length_map, h.length, h'.length] using htables
  · rintro rfl
    rw [h.schema, h'.schema, h.applied, h'.applied]

theorem Laid.applied_eq_nil_iff (h : m.Laid k) : m.applied = [] ↔ k = 0 := by
  rw [← List.length_eq_zero_iff, h.length]

theorem Laid.place_of_mem_pending (h : m.Laid k) {n : Nat} {x : Migration}
    (hx : x ∈ m.pending.take n) : k ≤ x.place ∧ x.place < k + n := by
  rw [h.pending] at hx
  have hlater := Migration.mem_drop.mp (List.mem_of_mem_take hx)
  rw [List.take_drop] at hx
  exact ⟨hlater, Migration.mem_take.mp (List.mem_of_mem_drop hx)⟩

/-- **So many migrations forward, as many back, and forward again.** -/
theorem Laid.thereAndBack (h : m.Laid k) (n : Nat) :
    ∃ up down again, m.execute (.up (some n)) = .ok up ∧ up.execute (.down (some n)) = .ok down ∧
      down.execute (.up (some n)) = .ok again ∧
      (down.database.schema = m.database.schema ↔ n ≤ m.pending.length ∨ m.applied = []) ∧
      again.database.schema = up.database.schema ∧
      ∀ x ∈ m.pending.take n,
        up.database.records.rowsOf x.table = seeded.records.rowsOf x.table ∧
          again.database.records.rowsOf x.table = seeded.records.rowsOf x.table := by
  obtain ⟨up, hup, hthere⟩ := h.execute (.up (some n))
  obtain ⟨down, hdown, hback⟩ := hthere.laid.execute (.down (some n))
  obtain ⟨again, hagain, hforth⟩ := hback.laid.execute (.up (some n))
  have hwithin := h.within
  simp only [Command.level, Command.kept, counted] at hthere hback hforth
  refine ⟨up, down, again, hup, hdown, hagain, ?_, ?_, fun x hx => ?_⟩
  · rw [h.schema_eq_iff hback.laid, h.length_pending, h.applied_eq_nil_iff]
    omega
  · rw [hthere.laid.schema_eq_iff hforth.laid]
    omega
  · have hplace := h.place_of_mem_pending hx
    have hlt := x.place_lt
    exact ⟨hthere.anew x (by omega) (by omega), hforth.anew x (by omega) (by omega)⟩

end Migrated

/-- **Any script** on a new database runs to its end, whatever rows its commands find.  The
migrations applied are the first in their order, as many as the outline tells, and the schema is
theirs: their tables with the columns and foreign keys of each, and their indexes.  Each table of
reference data holds its seeded rows and those added since it was created.  Going back by `n`
after going forward by `n` restores the schema exactly when `n` migrations were left to apply, or
none was applied; going forward again makes the same schema with the same seeded rows. -/
theorem path_independent (script : List Step) : ∃ m, Migrated.new.run script = .ok m ∧
    m.applied = Migration.all.take (Outline.ofScript script).level ∧
    m.pending = Migration.all.drop (Outline.ofScript script).level ∧
    m.database.schema = .ofMigrations m.applied ∧
    (∀ (x : Migration) (rows : Table RefId String),
      references? m.database.records x.table = some rows →
        rows.entries = (Outline.ofScript script).references x) ∧
    ∀ n, ∃ up down again, m.execute (.up (some n)) = .ok up ∧
      up.execute (.down (some n)) = .ok down ∧ down.execute (.up (some n)) = .ok again ∧
      (down.database.schema = m.database.schema ↔ n ≤ m.pending.length ∨ m.applied = []) ∧
      again.database.schema = up.database.schema ∧
      ∀ x ∈ m.pending.take n,
        up.database.records.rowsOf x.table = seeded.records.rowsOf x.table ∧
          again.database.records.rowsOf x.table = seeded.records.rowsOf x.table := by
  obtain ⟨m, hrun, hfollows⟩ := Migrated.follows_new.run script
  exact ⟨m, hrun, hfollows.laid.applied, hfollows.laid.pending, hfollows.laid.schema,
    hfollows.references, hfollows.laid.thereAndBack⟩

/-- With one migration left to apply, going forward by two and back by two takes one table
more than was there. -/
theorem down_after_up_loses_table : ∃ m down,
    Migrated.new.run [.migrate (.up (some 5))] = .ok m ∧
      m.run [.migrate (.up (some 2)), .migrate (.down (some 2))] = .ok down ∧
      m.database.schema.has .productTypes = true ∧ down.database.schema.has .productTypes = false ∧
      down.database.schema ≠ m.database.schema :=
  ⟨_, _, rfl, rfl, by decide, by decide, by decide⟩

end PickupLedger.Database
