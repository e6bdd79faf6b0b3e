import Mathlib.Data.List.Basic
import Mathlib.Data.List.Nodup
import PickupLedger.Proofs.DatabaseBooks

/-!
# One migration

A migration puts its table behind those that are there, with its indexes and its seeded rows
(`runAll_up`), and takes it away again (`runAll_down`).  So the schema is told by the
migrations that are applied (`Schema.ofMigrations`), and nothing else is touched: the rows of
every other table stay as they are.

A table is made with its columns and foreign keys, which the schema keeps, and each index is
new, as none of its name is there and its columns are (`runAll_createIndexes`).  The last table
may be dropped while foreign keys are on, whatever its rows, because no table that is there
refers to it: a table refers only to tables of earlier migrations (`foreignKeys_earlier`,
`deleteRows_last`).
-/

namespace PickupLedger.Database

/-! ## Rows, table by table -/

/-- What the rows of a table are. -/
abbrev Records.Rows : TableName → Type
  | .cities | .statuses | .productTypes => Table RefId String
  | .pickupPoints => Table Uuid PointRow
  | .receptions => Table Uuid ReceptionRow
  | .products => Table Uuid ProductRow

/-- **The rows of a table.** -/
def Records.rowsOf (rs : Records) : (t : TableName) → Records.Rows t
  | .cities => rs.cities
  | .pickupPoints => rs.pickupPoints
  | .statuses => rs.statuses
  | .receptions => rs.receptions
  | .productTypes => rs.productTypes
  | .products => rs.products

/-- A value that is followed by other ones is none of those before it. -/
theorem not_mem_map_of_nodup {α β : Type} {f : α → β} {xs ys : List α} {y : α}
    (h : ((xs ++ y :: ys).map f).Nodup) : f y ∉ xs.map f := by
  rw [List.map_append, List.map_cons] at h
  exact fun hmem => (List.nodup_append.mp h).2.2 _ hmem (f y) List.mem_cons_self rfl

section Rows
variable {rs rs' : Records} {t t' : TableName} {rows rows' : Table RefId String}

theorem mem_keysOf {r : RowKey} (h : r ∈ rs.keysOf t) : r.table = t := by
  obtain ⟨row, -, rfl⟩ := List.mem_map.mp h
  rfl

/-- Rows of other tables stay. -/
theorem rowsOf_without_of_ne {gone : List RowKey} (h : ∀ r ∈ gone, r.table ≠ t) :
    (rs.without gone).rowsOf t = rs.rowsOf t := by
  have hstays (key : Key) : (!gone.contains ⟨t, key⟩) = true := by
    rw [Bool.not_eq_true', ← Bool.not_eq_true, List.contains_iff_mem]
    exact fun hmem => h _ hmem rfl
  cases t <;> simp only [Records.rowsOf, Records.without] <;>
    exact Table.keep_eq_self fun e _ => hstays _

theorem rowsOf_clear_of_ne (h : t' ≠ t) : (rs.clear t).rowsOf t' = rs.rowsOf t' :=
  rowsOf_without_of_ne fun _ hr heq => h (heq.symm.trans (mem_keysOf hr))

theorem rowsOf_clear_self : (rs.clear t).rowsOf t = Records.empty.rowsOf t := by
  have hgoes {key : Key} {links : List Link} (h : (key, links) ∈ rs.linked t) :
      (!(rs.keysOf t).contains ⟨t, key⟩) = false := by
    rw [Bool.not_eq_false', List.contains_iff_mem]
    exact List.mem_map.mpr ⟨_, h, rfl⟩
  cases t <;> simp only [Records.rowsOf, Records.clear, Records.without] <;>
    exact Table.keep_eq_empty fun e he => hgoes (List.mem_map.mpr ⟨e, he, rfl⟩)

theorem rowsOf_withReferences_of_ne (h : t' ≠ t) :
    (withReferences rs t rows).rowsOf t' = rs.rowsOf t' := by
  cases t <;> cases t' <;> first | rfl | exact absurd rfl h

/-- Reference data are known by their entries. -/
theorem rowsOf_eq_of_entries (h : references? rs t = some rows)
    (h' : references? rs' t = some rows') (hsame : rows.entries = rows'.entries) :
    rs.rowsOf t = rs'.rowsOf t := by
  obtain rfl : rows = rows' := Table.ext hsame
  cases t <;> simp only [references?, Option.some.injEq, reduceCtorEq] at h h' <;>
    exact h.trans h'.symm

theorem references?_congr (h : rs.rowsOf t = rs'.rowsOf t) :
    references? rs t = references? rs' t := by
  cases t <;> first | rfl | exact congrArg some h

theorem references?_withReferences (h : references? rs t = some rows) (rows' : Table RefId String) :
    references? (withReferences rs t rows') t = some rows' := by
  cases t <;> simp_all [references?, withReferences]

theorem entries_of_vacant (h : references? Records.empty t = some rows) : rows.entries = [] := by
  cases t <;> cases h <;> rfl

end Rows

/-! ## The schema of migrations -/

/-- **The schema that migrations make**: their tables, with the columns and the foreign keys
that they define, and the indexes of these. -/
def Schema.ofMigrations (xs : List Migration) : Schema :=
  ⟨xs.map Migration.definition, xs.flatMap Migration.indexes⟩

namespace Migration

theorem table_injective : Function.Injective table := by
  intro x y h
  cases x <;> cases y <;> first | rfl | cases h

/-- Every table is made by a migration. -/
theorem exists_table (t : TableName) : ∃ x : Migration, x.table = t := by
  cases t
  · exact ⟨.createCities, rfl⟩
  · exact ⟨.createPickupPoints, rfl⟩
  · exact ⟨.createStatuses, rfl⟩
  · exact ⟨.createReceptions, rfl⟩
  · exact ⟨.createProductTypes, rfl⟩
  · exact ⟨.createProducts, rfl⟩

theorem table_of_mem_indexes {x : Migration} : ∀ i ∈ x.indexes, i.table = x.table := by
  cases x <;> decide

theorem missing?_reads {x : Migration} : ∀ i ∈ x.indexes, x.definition.missing? i.reads = none := by
  cases x <;> decide

/-- Only receptions are indexed by their status. -/
theorem onlyInProgress_of_ne {x : Migration} (h : x ≠ .createReceptions) :
    ∀ i ∈ x.indexes, i.onlyInProgress = false := by
  cases x <;> first | decide | exact absurd rfl h

/-- The name of an index tells the migration that adds it. -/
theorem eq_of_index_name {x y : Migration} :
    ∀ i ∈ x.indexes, ∀ j ∈ y.indexes, i.name = j.name → x = y := by
  cases x <;> cases y <;> decide

theorem nodup_index_names (x : Migration) : (x.indexes.map Index.name).Nodup := by
  cases x <;> decide

/-- The names of all indexes are different. -/
theorem nodup_names {xs : List Migration} (h : xs.Nodup) :
    ((xs.flatMap indexes).map Index.name).Nodup := by
  rw [List.map_flatMap]
  refine List.nodup_flatMap.mpr ⟨fun x _ => x.nodup_index_names, h.imp ?_⟩
  intro x y hne name hx hy
  obtain ⟨i, hi, rfl⟩ := List.mem_map.mp hx
  obtain ⟨j, hj, hname⟩ := List.mem_map.mp hy
  exact hne (eq_of_index_name i hi j hj hname.symm)

theorem nodup_seeds (x : Migration) :
    (x.seeds.map Prod.fst).Nodup ∧ (x.seeds.map Prod.snd).Nodup := by
  cases x <;> decide

/-- A table of reference data has the columns that are seeded. -/
theorem missing?_seeded {x : Migration} {rs : Records} {rows : Table RefId String}
    (h : references? rs x.table = some rows) : x.definition.missing? ["id", "name"] = none := by
  cases x <;> first | decide | cases h

/-- No two rows of reference data have the same name. -/
theorem keepsUnique_name {x : Migration} {rs : Records} {rows : Table RefId String}
    (h : references? rs x.table = some rows) : x.definition.keepsUnique "name" = true := by
  cases x <;> first | decide | cases h

/-- Only reference data are seeded. -/
theorem seeds_of_none {x : Migration} {rs : Records} (h : references? rs x.table = none) :
    x.seeds = [] := by
  cases x <;> first | rfl | cases h

/-- All reference data are seeded. -/
theorem seeds_of_some {x : Migration} {rs : Records} {rows : Table RefId String}
    (h : references? rs x.table = some rows) : x.seeds.isEmpty = false := by
  cases x <;> first | rfl | cases h

/-- A migrated database starts with the seeded rows. -/
theorem entries_of_seeded {x : Migration} {rows : Table RefId String}
    (h : references? seeded.records x.table = some rows) : rows.entries = x.seeds := by
  cases x <;> cases h <;> rfl

theorem rowsOf_seeded_of_none {x : Migration} {rs : Records} (h : references? rs x.table = none) :
    seeded.records.rowsOf x.table = Records.empty.rowsOf x.table := by
  cases x <;> first | rfl | cases h

end Migration

namespace Schema
variable {xs : List Migration} {x : Migration}

/-- The table of a migration is there as it defines it. -/
theorem definition?_of_mem (hx : x ∈ xs) :
    (ofMigrations xs).definition? x.table = some x.definition := by
  induction xs with
  | nil => cases hx
  | cons y xs ih =>
    rw [definition?, ofMigrations, List.map_cons, List.find?_cons]
    by_cases hy : y = x
    · rw [hy, decide_eq_true (show x.definition.table = x.table from rfl)]
    · have htable : y.definition.table ≠ x.table := fun h => hy (Migration.table_injective h)
      rw [decide_eq_false htable]
      exact ih ((List.mem_cons.mp hx).resolve_left fun h => hy h.symm)

theorem definition?_of_not_mem (hx : x ∉ xs) : (ofMigrations xs).definition? x.table = none := by
  rw [definition?, ofMigrations, List.find?_eq_none]
  intro d hd
  obtain ⟨y, hy, rfl⟩ := List.mem_map.mp hd
  rw [decide_eq_true_eq]
  intro htable
  exact hx (Migration.table_injective htable ▸ hy)

theorem has_ofMigrations : (ofMigrations xs).has x.table = true ↔ x ∈ xs := by
  by_cases hx : x ∈ xs
  · rw [has, definition?_of_mem hx]
    exact iff_of_true rfl hx
  · rw [has, definition?_of_not_mem hx]
    exact iff_of_false Bool.false_ne_true hx

/-- The indexes of other migrations have other names. -/
theorem hasIndex_of_nodup {is more : List Index} {i : Index}
    (h : ((is ++ i :: more).map Index.name).Nodup) {tables : List TableDefinition} :
    (Schema.mk tables is).hasIndex i.name = false := by
  rw [hasIndex, List.any_eq_false]
  intro j hj hname
  rw [decide_eq_true_eq] at hname
  exact not_mem_map_of_nodup h (hname ▸ List.mem_map_of_mem hj)

/-- **A table dropped is a migration less.** -/
theorem dropTable_ofMigrations (xs : List Migration) (x : Migration) :
    (ofMigrations xs).dropTable x.table = ofMigrations (xs.filter fun y => y ≠ x) := by
  induction xs with
  | nil => rfl
  | cons y xs ih =>
    obtain ⟨htables, hindexes⟩ := Schema.mk.inj ih
    by_cases hy : y = x
    · have hgone : x.indexes.filter (fun i => i.table ≠ x.table) = [] := by
        rw [List.filter_eq_nil_iff]
        intro i hi
        simp [Migration.table_of_mem_indexes i hi]
      have htable : x.definition.table = x.table := rfl
      simp only [dropTable, ofMigrations, hy, List.map_cons, List.flatMap_cons, List.filter_append,
        hgone, htable, ne_eq, not_true_eq_false, decide_false, Bool.false_eq_true,
        not_false_eq_true, List.filter_cons_of_neg, List.nil_append]
      exact congrArg₂ Schema.mk htables hindexes
    · have htable : y.definition.table ≠ x.table := fun h => hy (Migration.table_injective h)
      have hstay : y.indexes.filter (fun i => i.table ≠ x.table) = y.indexes := by
        rw [List.filter_eq_self]
        intro i hi
        rw [Migration.table_of_mem_indexes i hi]
        exact decide_eq_true htable
      simp only [dropTable, ofMigrations, List.map_cons, List.flatMap_cons, List.filter_append,
        hstay, ne_eq, htable, hy, not_false_eq_true, decide_true, List.filter_cons_of_pos]
      exact congrArg₂ Schema.mk (congrArg _ htables) (congrArg _ hindexes)

end Schema

/-! ## Statements -/

section Statements
variable {db : Database}

theorem runAll_append (db : Database) (ss ss' : List Statement) :
    runAll db (ss ++ ss') = (runAll db ss).bind fun db => runAll db ss' := by
  induction ss generalizing db with
  | nil => rfl
  | cons s ss ih =>
    rw [List.cons_append, runAll, runAll]
    cases s.run db with
    | error e => rfl
    | ok db => exact ih db

/-- **Indexes that are new are added** in their order. -/
theorem runAll_createIndexes {d : TableDefinition} {mayStay : Index → Bool}
    (hthere : db.schema.definition? d.table = some d) {is : List Index}
    (htable : ∀ i ∈ is, i.table = d.table) (hreads : ∀ i ∈ is, d.missing? i.reads = none)
    (hkept : ∀ i ∈ is, (i.unique && i.onlyInProgress && db.records.crowded) = false)
    (hnames : ((db.schema.indexes ++ is).map Index.name).Nodup) :
    runAll db (is.map fun i => .createIndex i (mayStay i)) =
      .ok { db with schema := ⟨db.schema.tables, db.schema.indexes ++ is⟩ } := by
  induction is generalizing db with
  | nil => rw [List.append_nil]; rfl
  | cons i is ih =>
    have hnew : db.schema.hasIndex i.name = false := Schema.hasIndex_of_nodup hnames
    rw [List.append_cons] at hnames ⊢
    have hrun : db.createIndex i (mayStay i) = .ok { db with schema := db.schema.addIndex i } := by
      simp only [createIndex, htable i List.mem_cons_self, hthere, hnew,
        hreads i List.mem_cons_self, hkept i List.mem_cons_self, Bool.false_eq_true, if_false]
    rw [List.map_cons, runAll, Statement.run, hrun]
    exact ih hthere (fun j hj => htable j (List.mem_cons_of_mem _ hj))
      (fun j hj => hreads j (List.mem_cons_of_mem _ hj))
      (fun j hj => hkept j (List.mem_cons_of_mem _ hj)) hnames

section Inserting
variable {d : TableDefinition} {rows : Table RefId String} {row : RefId × String}

theorem insertReference_free (hid : row.1 ∉ rows.entries.map Prod.fst)
    (hname : row.2 ∉ rows.entries.map Prod.snd) :
    ∃ rows', insertReference d rows row = .ok rows' ∧ rows'.entries = rows.entries ++ [row] := by
  have hnone : rows.get? row.1 = none := by
    rw [Option.eq_none_iff_forall_ne_some]
    intro found h
    exact hid (List.mem_map.mpr ⟨_, Table.get?_eq_some_iff.mp h, rfl⟩)
  have hfree : nameTaken rows row.1 row.2 = false := by
    rw [nameTaken, List.any_eq_false]
    intro e he h
    rw [Bool.and_eq_true, decide_eq_true_eq, decide_eq_true_eq] at h
    exact hname (h.2 ▸ List.mem_map_of_mem (f := Prod.snd) he)
  refine ⟨rows.put row.1 row.2, ?_, Table.entries_put_of_none hnone row.2⟩
  rw [insertReference, Table.contains_of_none hnone, hfree, Bool.and_false]
  rfl

/-- A number that is taken is refused, and so is a name, if names are unique. -/
theorem insertReference_taken (hunique : d.keepsUnique "name" = true)
    (h : row.1 ∈ rows.entries.map Prod.fst ∨ row.2 ∈ rows.entries.map Prod.snd) :
    ∃ fault, insertReference d rows row = .error fault := by
  rw [insertReference]
  cases hid : rows.contains row.1 with
  | true => exact ⟨_, rfl⟩
  | false =>
    have hnew : ∀ e ∈ rows.entries, e.1 ≠ row.1 := by
      intro e he heq
      rw [← heq, Table.contains, Table.get?_eq_some_iff.mpr he] at hid
      cases hid
    have hname : nameTaken rows row.1 row.2 = true := by
      obtain hmem | hmem := h
      · obtain ⟨e, he, heq⟩ := List.mem_map.mp hmem
        exact absurd heq (hnew e he)
      · obtain ⟨e, he, heq⟩ := List.mem_map.mp hmem
        rw [nameTaken, List.any_eq_true]
        refine ⟨e, he, ?_⟩
        rw [Bool.and_eq_true, decide_eq_true_eq, decide_eq_true_eq]
        exact ⟨hnew e he, heq⟩
    rw [hunique, hname]
    exact ⟨_, rfl⟩

/-- Rows with numbers and names of their own are let in, in their order. -/
theorem foldlM_insertReference {seeds : List (RefId × String)}
    (hids : ((rows.entries ++ seeds).map Prod.fst).Nodup)
    (hnames : ((rows.entries ++ seeds).map Prod.snd).Nodup) : ∃ rows',
    seeds.foldlM (insertReference d) rows = .ok rows' ∧ rows'.entries = rows.entries ++ seeds := by
  induction seeds generalizing rows with
  | nil => exact ⟨rows, rfl, (List.append_nil _).symm⟩
  | cons row seeds ih =>
    obtain ⟨more, hmore, hentries⟩ := insertReference_free (d := d)
      (not_mem_map_of_nodup hids) (not_mem_map_of_nodup hnames)
    rw [List.append_cons, ← hentries] at hids hnames ⊢
    obtain ⟨rows', hrest, hrows'⟩ := ih hids hnames
    refine ⟨rows', ?_, hrows'⟩
    rw [List.foldlM_cons, hmore]
    exact hrest

variable {x : Migration} (hthere : db.schema.definition? x.table = some x.definition)
  (hrows : references? db.records x.table = some rows)
include hthere hrows

/-- Rows put into a table that is there, one after the other. -/
theorem insertReferences_eq (more : List (RefId × String)) : db.insertReferences x.table more =
    (more.foldlM (insertReference x.definition) rows).map fun rows =>
      { db with records := withReferences db.records x.table rows } := by
  simp only [insertReferences, hthere, Migration.missing?_seeded hrows, hrows]

theorem addReference_free {id : RefId} {name : String} (hwrite : db.writable x.table = .ok ())
    (hid : id ∉ rows.entries.map Prod.fst) (hname : name ∉ rows.entries.map Prod.snd) :
    ∃ rows', db.addReference x.table id name =
        .ok { db with records := withReferences db.records x.table rows' } ∧
      rows'.entries = rows.entries ++ [(id, name)] := by
  obtain ⟨rows', hinsert, hentries⟩ :
      ∃ rows', insertReference x.definition rows (id, name) = .ok rows' ∧
        rows'.entries = rows.entries ++ [(id, name)] := insertReference_free hid hname
  refine ⟨rows', ?_, hentries⟩
  rw [addReference, hwrite, insertReferences_eq hthere hrows, List.foldlM_cons, hinsert]
  rfl

theorem addReference_taken {id : RefId} {name : String} (hwrite : db.writable x.table = .ok ())
    (h : id ∈ rows.entries.map Prod.fst ∨ name ∈ rows.entries.map Prod.snd) :
    ∃ fault, db.addReference x.table id name = .error fault := by
  obtain ⟨fault, hinsert⟩ : ∃ fault, insertReference x.definition rows (id, name) = .error fault :=
    insertReference_taken (Migration.keepsUnique_name hrows) h
  refine ⟨.execution fault, ?_⟩
  rw [addReference, hwrite, insertReferences_eq hthere hrows, List.foldlM_cons, hinsert]
  rfl

end Inserting

/-- A table of records takes no reference data. -/
theorem addReference_of_none {t : TableName} (hrows : references? db.records t = none) (id : RefId)
    (name : String) : ∃ fault, db.addReference t id name = .error fault := by
  have hrefused : ∃ fault, db.insertReferences t [(id, name)] = .error fault := by
    rw [insertReferences, hrows]
    cases db.schema.definition? t with
    | none => exact ⟨_, rfl⟩
    | some d =>
      cases hmissing : d.missing? ["id", "name"] <;> exact ⟨_, by simp only [hmissing]; rfl⟩
  obtain ⟨fault, hrefused⟩ := hrefused
  rw [addReference, hrefused]
  cases db.writable t with
  | error fault => exact ⟨fault, rfl⟩
  | ok u => exact ⟨.execution fault, rfl⟩

end Statements

/-! ## There and back -/

section Migrations
variable {db : Database} {xs : List Migration} {x : Migration}

/-- A table without rows fits its indexes. -/
theorem fits_of_vacant {rs : Records} (h : rs.rowsOf x.table = Records.empty.rowsOf x.table) :
    ∀ i ∈ x.indexes, (i.unique && i.onlyInProgress && rs.crowded) = false := by
  intro i hi
  by_cases hx : x = .createReceptions
  · subst hx
    have hreceptions : rs.receptions = .empty := h
    have hcrowded : rs.crowded = false := by
      rw [Records.crowded, hreceptions]
      rfl
    rw [hcrowded, Bool.and_false]
  · rw [Migration.onlyInProgress_of_ne hx i hi, Bool.and_false, Bool.false_and]

/-- The rows of a migration seeded into its table, which has none. -/
theorem runAll_seeding (hthere : db.schema.definition? x.table = some x.definition)
    (hclear : db.records.rowsOf x.table = Records.empty.rowsOf x.table) : ∃ rs,
    runAll db x.seeding = .ok { db with records := rs } ∧
      (∀ t, t ≠ x.table → rs.rowsOf t = db.records.rowsOf t) ∧
      rs.rowsOf x.table = seeded.records.rowsOf x.table := by
  cases hrows : references? db.records x.table with
  | none =>
    refine ⟨db.records, ?_, fun _ _ => rfl, ?_⟩
    · rw [Migration.seeding, Migration.seeds_of_none hrows]
      rfl
    · rw [hclear, Migration.rowsOf_seeded_of_none hrows]
  | some rows =>
    have hempty : rows.entries = [] :=
      entries_of_vacant ((references?_congr hclear).symm.trans hrows)
    obtain ⟨hids, hnames⟩ := x.nodup_seeds
    rw [← List.nil_append x.seeds, ← hempty] at hids hnames
    obtain ⟨rows', hseeds, hentries⟩ := foldlM_insertReference (d := x.definition) hids hnames
    refine ⟨withReferences db.records x.table rows', ?_,
      fun t ht => rowsOf_withReferences_of_ne ht, ?_⟩
    · have hsome : x.seeds.isEmpty = false := Migration.seeds_of_some hrows
      rw [Migration.seeding, hsome, if_neg Bool.false_ne_true, runAll, Statement.run,
        insertReferences_eq hthere hrows, hseeds]
      rfl
    · rw [hempty, List.nil_append] at hentries
      obtain ⟨found, hfound⟩ : ∃ found, references? seeded.records x.table = some found := by
        cases x <;> first | exact ⟨_, rfl⟩ | cases hrows
      refine rowsOf_eq_of_entries (references?_withReferences hrows rows') hfound ?_
      rw [hentries, Migration.entries_of_seeded hfound]

/-- **A migration applied** behind others: its table is there with its seeded rows. -/
theorem runAll_up (hnodup : (xs ++ [x]).Nodup) (hschema : db.schema = .ofMigrations xs)
    (hclear : db.records.rowsOf x.table = Records.empty.rowsOf x.table) : ∃ rs,
    runAll db x.up = .ok { db with schema := .ofMigrations (xs ++ [x]), records := rs } ∧
      (∀ t, t ≠ x.table → rs.rowsOf t = db.records.rowsOf t) ∧
      rs.rowsOf x.table = seeded.records.rowsOf x.table := by
  have hx : x ∉ xs := fun h => (List.nodup_append.mp hnodup).2.2 x h x List.mem_cons_self rfl
  have hafter : Schema.ofMigrations (xs ++ [x]) =
      ⟨db.schema.tables ++ [x.definition], db.schema.indexes ++ x.indexes⟩ := by
    simp [hschema, Schema.ofMigrations]
  have hmem : x ∈ xs ++ [x] := List.mem_append_right xs List.mem_cons_self
  have hdefined := Schema.definition?_of_mem hmem
  rw [hafter] at hdefined ⊢
  -- First the table, then the indexes, and then the rows.
  have hnew : db.schema.has x.definition.table = false := by
    rw [hschema, ← Bool.not_eq_true]
    exact fun h => hx (Schema.has_ofMigrations.mp h)
  let made : Database :=
    { db with schema := ⟨db.schema.tables ++ [x.definition], db.schema.indexes⟩ }
  have hmade : (Statement.createTable x.definition).run db = .ok made := by
    rw [Statement.run, Schema.addTable, hnew, if_neg Bool.false_ne_true]
  have hnames : ((made.schema.indexes ++ x.indexes).map Index.name).Nodup := by
    have h := Migration.nodup_names hnodup
    rw [List.flatMap_append, List.flatMap_singleton] at h
    simpa only [made, hschema, Schema.ofMigrations] using h
  let indexed : Database :=
    { made with schema := ⟨made.schema.tables, made.schema.indexes ++ x.indexes⟩ }
  have hindexed : runAll made (x.indexes.map fun i => .createIndex i (Migration.mayStay i)) =
      .ok indexed :=
    runAll_createIndexes hdefined Migration.table_of_mem_indexes Migration.missing?_reads
      (fits_of_vacant hclear) hnames
  obtain ⟨rs, hseeds, hothers, hown⟩ : ∃ rs,
      runAll indexed x.seeding = .ok { indexed with records := rs } ∧
        (∀ t, t ≠ x.table → rs.rowsOf t = db.records.rowsOf t) ∧
        rs.rowsOf x.table = seeded.records.rowsOf x.table := runAll_seeding hdefined hclear
  refine ⟨rs, ?_, hothers, hown⟩
  rw [Migration.up, runAll, hmade]
  show runAll made (_ ++ _) = _
  rw [runAll_append, hindexed]
  exact hseeds

/-- **A migration is not applied twice**: its table may be there already, but not an index of
its own. -/
theorem runAll_up_again (hschema : db.schema = .ofMigrations xs) (hx : x ∈ xs)
    (hindexes : x.indexes ≠ []) :
    ∃ i ∈ x.indexes, runAll db x.up = .error (.indexExists i.name) := by
  obtain ⟨i, is, hcons⟩ := List.exists_cons_of_ne_nil hindexes
  have hi : i ∈ x.indexes := hcons ▸ List.mem_cons_self
  have hstays : Migration.mayStay i = false := by
    cases x <;> cases hcons <;> decide
  have htaken : db.schema.hasIndex i.name = true := by
    rw [hschema, Schema.hasIndex, List.any_eq_true]
    exact ⟨i, List.mem_flatMap.mpr ⟨x, hx, hi⟩, decide_eq_true rfl⟩
  have hdefined : db.schema.definition? i.table = some x.definition := by
    rw [hschema, Migration.table_of_mem_indexes i hi]
    exact Schema.definition?_of_mem hx
  have hthere : db.schema.addTable x.definition = db.schema := by
    rw [Schema.addTable, if_pos]
    rw [hschema]
    exact Schema.has_ofMigrations.mpr hx
  have hindex : db.createIndex i (Migration.mayStay i) = .error (.indexExists i.name) := by
    simp only [createIndex, hdefined, htaken, hstays, if_true, Bool.false_eq_true, if_false]
  refine ⟨i, hi, ?_⟩
  rw [Migration.up, runAll, Statement.run, hthere, hcons, List.map_cons, List.cons_append]
  simp only [runAll, Statement.run, hindex]

/-! ### Taking back -/

/-- The place of a migration in their order. -/
def Migration.place (x : Migration) : Nat := Migration.all.idxOf x

/-- **A table refers only to tables of earlier migrations.** -/
theorem Migration.foreignKeys_earlier (x y : Migration) :
    ∀ k ∈ x.definition.foreignKeys, k.target = y.table → y.place < x.place := by
  cases x <;> cases y <;> decide

/-- **Nothing refers to the last table**, whatever rows there are. -/
theorem pointing_last (hschema : db.schema = .ofMigrations xs)
    (hlast : ∀ y ∈ xs, y.place ≤ x.place) (onDelete : OnDelete) {rows : List RowKey}
    (hrows : ∀ r ∈ rows, r.table = x.table) : db.pointing onDelete rows = [] := by
  rw [pointing, hschema, List.flatMap_eq_nil_iff]
  intro d hd
  obtain ⟨y, hy, rfl⟩ := List.mem_map.mp hd
  rw [List.map_eq_nil_iff, List.filter_eq_nil_iff]
  rintro ⟨key, links⟩ _ hpoints
  obtain ⟨k, hk, hpoints⟩ := List.any_eq_true.mp hpoints
  rw [Bool.and_eq_true] at hpoints
  obtain ⟨l, -, hl⟩ := List.any_eq_true.mp hpoints.2
  rw [Bool.and_eq_true, List.contains_iff_mem] at hl
  have htarget : k.target = x.table := hrows _ hl.2
  exact absurd (y.foreignKeys_earlier x k hk htarget) (Nat.not_lt.mpr (hlast y hy))

theorem withBelongings_of_none {rows : List RowKey} (h : db.pointing .cascade rows = []) (n : Nat) :
    db.withBelongings n rows = rows := by
  have hnone : db.pointing .cascade [] = [] := by simp [pointing]
  have hnil : ∀ m, db.withBelongings m [] = [] := by
    intro m
    induction m with
    | zero => rfl
    | succ m ih => rw [withBelongings, hnone, ih, List.append_nil]
  cases n with
  | zero => rfl
  | succ n => rw [withBelongings, h, hnil, List.append_nil]

/-- **Nothing keeps the last table from being dropped**, and no row of another table goes. -/
theorem deleteRows_last (hschema : db.schema = .ofMigrations xs)
    (hlast : ∀ y ∈ xs, y.place ≤ x.place) :
    db.deleteRows (db.records.keysOf x.table) = .ok (db.records.clear x.table) := by
  have hpointing (onDelete : OnDelete) :
      db.pointing onDelete (db.records.keysOf x.table) = [] :=
    pointing_last hschema hlast onDelete fun r hr => mem_keysOf hr
  rw [deleteRows]
  cases db.foreignKeys with
  | false => rfl
  | true =>
    simp only [withBelongings_of_none (hpointing .cascade), hpointing .refuse]
    rfl

theorem filter_ne_append {xs : List Migration} (hx : x ∉ xs) :
    (xs ++ [x]).filter (fun y => y ≠ x) = xs := by
  have hstay : xs.filter (fun y => y ≠ x) = xs := by
    rw [List.filter_eq_self]
    intro y hy
    rw [decide_eq_true_eq]
    rintro rfl
    exact hx hy
  rw [List.filter_append, hstay]
  simp

/-- **A migration taken back**: its table is gone, and nothing else. -/
theorem runAll_down (hx : x ∉ xs) (hschema : db.schema = .ofMigrations (xs ++ [x]))
    (hlast : ∀ y ∈ xs, y.place ≤ x.place) :
    runAll db x.down =
      .ok { db with schema := .ofMigrations xs, records := db.records.clear x.table } := by
  have hthere : db.schema.has x.table = true := by
    rw [hschema, Schema.has_ofMigrations]
    exact List.mem_append_right xs List.mem_cons_self
  have hdrop : db.schema.dropTable x.table = .ofMigrations xs := by
    rw [hschema, Schema.dropTable_ofMigrations, filter_ne_append hx]
  have hdelete : db.deleteRows (db.records.keysOf x.table) = .ok (db.records.clear x.table) := by
    refine deleteRows_last hschema fun y hy => ?_
    rw [List.mem_append, List.mem_singleton] at hy
    obtain hy | rfl := hy
    · exact hlast y hy
    · exact Nat.le_refl _
  have hrun : db.dropTable x.table =
      .ok { db with schema := .ofMigrations xs, records := db.records.clear x.table } := by
    rw [dropTable, hthere, Bool.not_true, if_neg Bool.false_ne_true, hdelete, hdrop]
    rfl
  rw [Migration.down, runAll, Statement.run, hrun]
  rfl

/-- **All tables dropped** while foreign keys are off. -/
theorem runAll_dropTables (db : Database) (hnodup : xs.Nodup) (hkeys : db.foreignKeys = false)
    (hschema : db.schema = .ofMigrations xs) :
    runAll db (xs.map fun x => .dropTable x.table) =
      .ok { db with schema := .empty,
                    records := (xs.map Migration.table).foldl Records.clear db.records } := by
  induction xs generalizing db with
  | nil => rw [List.map_nil, runAll, ← show db.schema = .empty from hschema]; rfl
  | cons x xs ih =>
    obtain ⟨hx, hnodup⟩ := List.nodup_cons.mp hnodup
    have hthere : (Schema.ofMigrations (x :: xs)).has x.table = true :=
      Schema.has_ofMigrations.mpr List.mem_cons_self
    have hstay : (x :: xs).filter (fun y => y ≠ x) = xs := by
      have h := filter_ne_append hx
      simpa using h
    have hrun : db.dropTable x.table =
        .ok { db with schema := .ofMigrations xs, records := db.records.clear x.table } := by
      simp only [dropTable, deleteRows, hschema, hthere, Bool.not_true, Bool.false_eq_true,
        if_false, hkeys, Schema.dropTable_ofMigrations, hstay]
      rfl
    rw [List.map_cons, runAll, Statement.run, hrun]
    exact ih { db with schema := .ofMigrations xs, records := db.records.clear x.table }
      hnodup hkeys rfl

/-- What was cleared has no rows. -/
theorem rowsOf_foldl_clear (ts : List TableName) (rs : Records) (t : TableName)
    (h : t ∈ ts ∨ rs.rowsOf t = Records.empty.rowsOf t) :
    (ts.foldl Records.clear rs).rowsOf t = Records.empty.rowsOf t := by
  induction ts generalizing rs with
  | nil => exact h.resolve_left List.not_mem_nil
  | cons u ts ih =>
    refine ih _ ?_
    by_cases hu : t = u
    · right
      rw [hu, rowsOf_clear_self]
    · rw [rowsOf_clear_of_ne hu]
      exact h.imp_left fun h => (List.mem_cons.mp h).resolve_left hu

end Migrations
end PickupLedger.Database
