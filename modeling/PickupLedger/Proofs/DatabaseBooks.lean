import PickupLedger.Proofs.Books
import PickupLedger.Database.Answers
import PickupLedger.Database.Migration

/-!
# The store in a database keeps books

A database that has been migrated is sound (`Database.Sound`) while it is connected, its
schema is whole and its reference data are those it was seeded with.  Nothing more is
needed: no table repeats what the statuses say, so a start, an end and a new product are
decided by the rows of the receptions themselves.  A start is refused by the unique index
over receptions in progress (`slotTaken`), which is the check that the pickup point is
occupied on the books (`Sound.occupied_iff`); a new product is let in by the number that
its reception's row has at that moment.

Every reference that the service makes has a row, so no foreign key is ever violated.
-/

namespace PickupLedger.Database

/-- A new database after all migrations. -/
def seeded : Database := (Migrated.afterFirst none).database

/-- What the database holds. -/
def books (db : Database) : Books where
  point? id := (db.records.pickupPoints.get? id).map (pointOf db.records id)
  reception? id :=
    (db.records.receptions.get? id).bind fun row => (receptionOf db.records id row).toOption
  product? id := (db.records.products.get? id).map (productOf db.records id)

/-- **A sound database**: connected, with its whole schema and its reference data as seeded. -/
structure Sound (db : Database) : Prop where
  connected : db.connected = true
  schema : db.schema = seeded.schema
  cities : db.records.cities = seeded.records.cities
  statuses : db.records.statuses = seeded.records.statuses
  productTypes : db.records.productTypes = seeded.records.productTypes
  known : ∀ {id row}, db.records.receptions.get? id = some row →
    row.statusId = Seed.inProgressId ∨ row.statusId = Seed.closedId

theorem seeded_sound : seeded.Sound where
  connected := rfl
  schema := rfl
  cities := rfl
  statuses := rfl
  productTypes := rfl
  known h := by cases h

theorem books_seeded : seeded.books = .empty := rfl

/-! ## Reference data -/

theorem has_seeded (t : TableName) : seeded.schema.has t = true := by cases t <;> decide

theorem keepsOneInProgress_seeded : seeded.schema.keepsOneInProgress = true := by decide

theorem foreignKeysOf_seeded (x : Migration) :
    seeded.schema.foreignKeysOf x.table = x.definition.foreignKeys := by cases x <;> rfl

theorem get?_seeded_cities :
    ∀ city ∈ Seed.cities, seeded.records.cities.get? city.id = some city.name := by decide

theorem get?_seeded_productTypes :
    ∀ type ∈ Seed.productTypes, seeded.records.productTypes.get? type.id = some type.name := by
  decide

theorem byName?_seeded_cities (name : String) :
    (byName? seeded.records.cities name).map (fun e => (⟨e.1, e.2⟩ : City)) = Seed.city? name := by
  have hentries : seeded.records.cities.entries = Seed.cities.map fun c => (c.id, c.name) := rfl
  rw [byName?, hentries, List.find?_map, Option.map_map]
  exact Option.map_id_apply

theorem byName?_seeded_productTypes (name : String) :
    (byName? seeded.records.productTypes name).map (fun e => (⟨e.1, e.2⟩ : ProductType)) =
      Seed.productType? name := by
  have hentries : seeded.records.productTypes.entries =
      Seed.productTypes.map fun t => (t.id, t.name) := rfl
  rw [byName?, hentries, List.find?_map, Option.map_map]
  exact Option.map_id_apply

theorem get?_seeded_statuses (kind : StatusKind) :
    seeded.records.statuses.get? (Seed.status kind).id = some kind.name := by
  cases kind <;> decide

section Reading
variable {db : Database} (hs : db.Sound)
include hs

/-- Nothing keeps a statement of few parameters from running. -/
theorem Sound.obstacle? (refused : SqlFault → DatabaseFault) (tables : List TableName)
    {parameters : Nat} (hn : parameters ≤ maxParameters) :
    db.obstacle? refused tables parameters = none := by
  have hfew : ¬ maxParameters < parameters := Nat.not_lt.mpr hn
  have hhas : ∀ t, db.schema.has t = true := fun t => by rw [hs.schema]; exact has_seeded t
  simp [Database.obstacle?, hs.connected, hfew, hhas]

theorem Sound.query {α : Type} (tables : List TableName) {parameters : Nat}
    (hn : parameters ≤ maxParameters) (result : α) :
    db.query tables parameters result = .ok result := by
  rw [Database.query, hs.obstacle? .query tables hn]

/-- Links to rows that are there do not dangle. -/
theorem Sound.dangling (x : Migration) {links : List Link}
    (h : ∀ k ∈ x.definition.foreignKeys, ∀ l ∈ links, l.column = k.column →
      db.records.holds k.target l.key = true) : db.dangling x.table links = false := by
  have hnone : ((db.schema.foreignKeysOf x.table).any fun k =>
      links.any fun l => l.column = k.column && !db.records.holds k.target l.key) = false := by
    rw [hs.schema, foreignKeysOf_seeded, List.any_eq_false]
    intro k hk
    rw [Bool.not_eq_true, List.any_eq_false]
    intro l hl hdangles
    rw [Bool.and_eq_true, decide_eq_true_eq, Bool.not_eq_true'] at hdangles
    rw [h k hk l hl hdangles.1] at hdangles
    cases hdangles.2
  rw [Database.dangling, hnone, Bool.and_false]

theorem Sound.pointOf {p : PickupPoint}
    (hp : ∃ city ∈ Seed.cities, p = .inCity p.id p.registered city) :
    pointOf db.records p.id ⟨p.registered, p.cityId⟩ = p := by
  obtain ⟨city, hcity, h⟩ := hp
  rw [h]
  simp only [Database.pointOf, PickupPoint.inCity, hs.cities, get?_seeded_cities city hcity,
    Option.map_some]

theorem Sound.productOf {x : Product}
    (hx : ∃ type ∈ Seed.productTypes, x = .ofType x.id x.reception x.added type) :
    productOf db.records x.id ⟨x.added, x.typeId, x.reception⟩ = x := by
  obtain ⟨type, htype, h⟩ := hx
  rw [h]
  simp only [Database.productOf, Product.ofType, hs.productTypes,
    get?_seeded_productTypes type htype]

/-! ## Receptions on the books -/

theorem Sound.receptionOf_inProgress (id : Uuid) {row : ReceptionRow}
    (h : row.statusId = Seed.inProgressId) :
    receptionOf db.records id row = .ok (.begun id row.pickupPoint row.opened) := by
  have hname := get?_seeded_statuses .inProgress
  rw [← hs.statuses] at hname
  simp only [receptionOf, h, Seed.status] at hname ⊢
  rw [hname]
  rfl

theorem Sound.receptionOf_closed (id : Uuid) {row : ReceptionRow}
    (h : row.statusId = Seed.closedId) :
    receptionOf db.records id row = .ok (Reception.begun id row.pickupPoint row.opened).ended := by
  have hname := get?_seeded_statuses .closed
  rw [← hs.statuses] at hname
  simp only [receptionOf, h, Seed.status] at hname ⊢
  rw [hname]
  rfl

/-- A reception is in progress on the books if its row has the number of `inProgress`. -/
theorem Sound.inProgress_iff {r : Reception} : db.books.InProgress r ↔
    ∃ row, db.records.receptions.get? r.id = some row ∧ row.statusId = Seed.inProgressId ∧
      r = .begun r.id row.pickupPoint row.opened := by
  simp only [Books.InProgress, books, Option.bind_eq_some_iff]
  constructor
  · rintro ⟨⟨row, hrow, h⟩, hstatus⟩
    rcases hs.known hrow with hid | hid
    · rw [hs.receptionOf_inProgress _ hid] at h
      exact ⟨row, hrow, hid, (Option.some.inj h).symm⟩
    · rw [hs.receptionOf_closed _ hid] at h
      rw [← Option.some.inj h] at hstatus
      cases hstatus
  · rintro ⟨row, hrow, hid, h⟩
    refine ⟨⟨row, hrow, ?_⟩, by rw [h]; rfl⟩
    rw [hs.receptionOf_inProgress _ hid]
    exact congrArg some h.symm

/-- A pickup point is occupied if a row of the unique index has it. -/
theorem Sound.occupied_iff {p : Uuid} : db.books.Occupied p ↔
    ∃ e ∈ db.records.receptions.entries,
      e.2.pickupPoint = p ∧ e.2.statusId = Seed.inProgressId := by
  constructor
  · rintro ⟨r, hr, rfl⟩
    obtain ⟨row, hrow, hid, h⟩ := hs.inProgress_iff.mp hr
    exact ⟨(r.id, row), Table.get?_eq_some_iff.mp hrow, by rw [h]; rfl, hid⟩
  · rintro ⟨⟨id, row⟩, hmem, hp, hid⟩
    refine ⟨.begun id row.pickupPoint row.opened, ?_, hp⟩
    exact hs.inProgress_iff.mpr ⟨row, Table.get?_eq_some_iff.mpr hmem, hid, rfl⟩

theorem Sound.reception?_eq_none {id : Uuid} (h : db.books.reception? id = none) :
    db.records.receptions.get? id = none := by
  cases hrow : db.records.receptions.get? id with
  | none => rfl
  | some row =>
    simp only [books, hrow, Option.bind_some] at h
    rcases hs.known hrow with hid | hid
    · rw [hs.receptionOf_inProgress _ hid] at h; cases h
    · rw [hs.receptionOf_closed _ hid] at h; cases h

/-! ## Soundness is kept -/

theorem Sound.putPoint (id : Uuid) (row : PointRow) : Sound { db with records :=
    { db.records with pickupPoints := db.records.pickupPoints.put id row } } :=
  { hs with }

theorem Sound.putReception (id : Uuid) {row : ReceptionRow}
    (hrow : row.statusId = Seed.inProgressId ∨ row.statusId = Seed.closedId) :
    Sound { db with records :=
      { db.records with receptions := db.records.receptions.put id row } } :=
  { hs with
    known := fun {id' row'} h => by
      rw [Table.get?_put] at h
      split at h
      · rw [← Option.some.inj h]; exact hrow
      · exact hs.known h }

theorem Sound.withProducts (products : Table Uuid ProductRow) :
    Sound { db with records := { db.records with products } } :=
  { hs with }

/-! ## Calls that write, row by row -/

theorem Sound.addPickupPoint_free {p : PickupPoint}
    (hp : ∃ city ∈ Seed.cities, p = .inCity p.id p.registered city)
    (h : db.books.point? p.id = none) :
    db.addPickupPoint p = (.ok p, { db with records := { db.records with
      pickupPoints := db.records.pickupPoints.put p.id ⟨p.registered, p.cityId⟩ } }) := by
  have hrow : db.records.pickupPoints.get? p.id = none := Option.map_eq_none_iff.mp h
  obtain ⟨city, hcity, hp⟩ := hp
  have hcity : db.records.cities.contains p.cityId = true := by
    rw [hp, Table.contains, hs.cities]
    exact Option.isSome_iff_exists.mpr ⟨_, get?_seeded_cities city hcity⟩
  have hfree : db.records.pickupPoints.contains p.id = false := Table.contains_of_none hrow
  have hwhole : db.dangling .pickupPoints (PointRow.links ⟨p.registered, p.cityId⟩) = false :=
    hs.dangling .createPickupPoints (by
      simp [Migration.definition, PointRow.links, Records.holds, hcity])
  simp only [addPickupPoint, hs.obstacle? _ _ (Nat.zero_le _), insertPoint, hfree, hwhole,
    Bool.false_eq_true, if_false]

theorem Sound.addPickupPoint_taken {p found : PickupPoint} (h : db.books.point? p.id = some found) :
    db.addPickupPoint p = (.error (.duplicate ("pickup_points.id = " ++ p.id.text)), db) := by
  obtain ⟨row, hrow, -⟩ := Option.map_eq_some_iff.mp h
  simp [addPickupPoint, hs.obstacle?, insertPoint, Table.contains, hrow, writeFailure,
    SqlFault.isTaken]

/-- The unique index lets a start through exactly while the pickup point is free. -/
theorem Sound.slotTaken_iff {id p : Uuid} (hnew : db.records.receptions.get? id = none) :
    db.slotTaken id p = true ↔ db.books.Occupied p := by
  rw [hs.occupied_iff, slotTaken, hs.schema, keepsOneInProgress_seeded, Bool.true_and,
    List.any_eq_true]
  constructor
  · rintro ⟨e, he, h⟩
    simp only [Bool.and_eq_true, decide_eq_true_eq] at h
    exact ⟨e, he, h.1.2, h.2⟩
  · rintro ⟨e, he, hp, hid⟩
    have hne : e.1 ≠ id := fun heq => by
      rw [← heq, Table.get?_eq_some_iff.mpr he] at hnew
      cases hnew
    exact ⟨e, he, by simp [hne, hp, hid]⟩

theorem Sound.addReception_free {r : Reception} (hr : r = .begun r.id r.pickupPoint r.opened)
    (hnew : db.records.receptions.get? r.id = none)
    (hpoint : ∃ p, db.books.point? r.pickupPoint = some p)
    (hfree : ¬ db.books.Occupied r.pickupPoint) :
    db.addReception r = (.ok r, { db with records := { db.records with
      receptions :=
        db.records.receptions.put r.id ⟨r.pickupPoint, r.opened, Seed.inProgressId⟩ } }) := by
  have hid : r.statusId = Seed.inProgressId := by rw [hr]; rfl
  have hnone : db.records.receptions.contains r.id = false := Table.contains_of_none hnew
  have hslot : db.slotTaken r.id r.pickupPoint = false :=
    Bool.eq_false_iff.mpr fun h => hfree ((hs.slotTaken_iff hnew).mp h)
  -- Both rows that the new one refers to are there.
  have hpoint : db.records.pickupPoints.contains r.pickupPoint = true := by
    obtain ⟨p, hp⟩ := hpoint
    obtain ⟨row, hrow, -⟩ := Option.map_eq_some_iff.mp hp
    rw [Table.contains, hrow]
    rfl
  have hstatus : db.records.statuses.contains Seed.inProgressId = true := by
    rw [hs.statuses]
    decide
  have hwhole : db.dangling .receptions
      (ReceptionRow.links ⟨r.pickupPoint, r.opened, Seed.inProgressId⟩) = false :=
    hs.dangling .createReceptions (by
      simp [Migration.definition, ReceptionRow.links, Records.holds, hpoint, hstatus])
  simp only [addReception, hs.obstacle? _ _ (Nat.zero_le _), insertReception, hid, hnone, hslot,
    hwhole, Bool.and_false, Bool.false_eq_true, if_false]

theorem Sound.addReception_taken {r : Reception} (hr : r = .begun r.id r.pickupPoint r.opened)
    (hnew : db.records.receptions.get? r.id = none) (htaken : db.books.Occupied r.pickupPoint) :
    db.addReception r = (.error (.duplicate ("in-progress reception for pickup point " ++
      r.pickupPoint.text)), db) := by
  have hid : r.statusId = Seed.inProgressId := by rw [hr]; rfl
  have hnone : db.records.receptions.contains r.id = false := Table.contains_of_none hnew
  have hslot : db.slotTaken r.id r.pickupPoint = true := (hs.slotTaken_iff hnew).mpr htaken
  simp only [addReception, hs.obstacle? _ _ (Nat.zero_le _), insertReception, hid, hnone, hslot,
    decide_true, Bool.and_true, Bool.false_eq_true, if_false, if_true, writeFailure,
    SqlFault.isTaken]

/-- No row can stand in the way of an end: the closed receptions are in no unique index. -/
theorem Sound.moveReception_inProgress {id : Uuid} {row : ReceptionRow}
    (hrow : db.records.receptions.get? id = some row) (hid : row.statusId = Seed.inProgressId) :
    db.moveReception id Seed.inProgressId Seed.closedId =
      (.ok (some (Reception.begun id row.pickupPoint row.opened).ended),
        { db with records := { db.records with
          receptions := db.records.receptions.put id
            { row with statusId := Seed.closedId } } }) := by
  have hstatus : db.records.statuses.contains Seed.closedId = true := by rw [hs.statuses]; decide
  have hwhole : db.dangling .receptions [⟨"status_id", .number Seed.closedId⟩] = false :=
    hs.dangling .createReceptions (by simp [Migration.definition, Records.holds, hstatus])
  have hne : ¬ Seed.closedId = Seed.inProgressId := by decide
  -- The row is read once more after the update, and the database is sound then too.
  have hafter : Sound { db with records := { db.records with
      receptions := db.records.receptions.put id { row with statusId := Seed.closedId } } } :=
    hs.putReception id (.inr rfl)
  simp only [moveReception, hs.obstacle? _ _ (Nat.zero_le _), hrow, hid, if_true, updateReception,
    hne, decide_false, Bool.false_and, Bool.false_eq_true, if_false, hwhole,
    receptionById, hafter.query receptionTables (by decide : 1 ≤ maxParameters),
    Table.get?_put_self, hafter.receptionOf_closed]
  rfl

theorem Sound.moveReception_other {id : Uuid} (h : ∀ r, r.id = id → ¬ db.books.InProgress r) :
    db.moveReception id Seed.inProgressId Seed.closedId = (.ok none, db) := by
  simp only [moveReception, hs.obstacle? _ _ (Nat.zero_le _)]
  cases hrow : db.records.receptions.get? id with
  | none => rfl
  | some row =>
    have hid : row.statusId ≠ Seed.inProgressId := fun hid =>
      h (.begun id row.pickupPoint row.opened) rfl (hs.inProgress_iff.mpr ⟨row, hrow, hid, rfl⟩)
    simp only [hid, if_false]

theorem Sound.addProduct_inProgress {x : Product} {r : Reception}
    (hnew : db.books.product? x.id = none)
    (hx : ∃ type ∈ Seed.productTypes, x = .ofType x.id x.reception x.added type)
    (hreception : r.id = x.reception) (hr : db.books.InProgress r) :
    db.addProduct x = (.ok (some x), { db with records := { db.records with
      products := db.records.products.put x.id ⟨x.added, x.typeId, x.reception⟩ } }) := by
  obtain ⟨row, hrow, hid, -⟩ := hs.inProgress_iff.mp hr
  rw [hreception] at hrow
  have hnone : db.records.products.contains x.id = false :=
    Table.contains_of_none (Option.map_eq_none_iff.mp hnew)
  have htype : db.records.productTypes.contains x.typeId = true := by
    obtain ⟨type, htype, hx⟩ := hx
    have htype := get?_seeded_productTypes type htype
    rw [Table.contains, hs.productTypes, hx]
    simp only [Product.ofType, htype, Option.isSome_some]
  have hreception : db.records.receptions.contains x.reception = true := by
    rw [Table.contains, hrow]
    rfl
  have hwhole : db.dangling .products (ProductRow.links ⟨x.added, x.typeId, x.reception⟩) = false :=
    hs.dangling .createProducts (by
      simp [Migration.definition, ProductRow.links, Records.holds, htype, hreception])
  simp only [addProduct, hs.obstacle? _ _ (Nat.zero_le _), hrow, hid, if_true, insertProduct, hnone,
    hwhole, Bool.false_eq_true, if_false]

theorem Sound.addProduct_other {x : Product}
    (h : ∀ r, r.id = x.reception → ¬ db.books.InProgress r) : db.addProduct x = (.ok none, db) := by
  simp only [addProduct, hs.obstacle? _ _ (Nat.zero_le _)]
  cases hrow : db.records.receptions.get? x.reception with
  | none => rfl
  | some row =>
    have hid : row.statusId ≠ Seed.inProgressId := fun hid =>
      h (.begun x.reception row.pickupPoint row.opened) rfl
        (hs.inProgress_iff.mpr ⟨row, hrow, hid, rfl⟩)
    simp only [hid, if_false]

theorem Sound.deleteProduct (id : Uuid) :
    db.deleteProduct id = (.ok (db.records.products.contains id), { db with records :=
      { db.records with products := db.records.products.erase id } }) := by
  simp only [Database.deleteProduct, hs.obstacle? _ _ (Nat.zero_le _)]

/-! ## Calls that look a row up -/

/-- A status has its name in one row only. -/
theorem Sound.statusName_iff {id : Uuid} {row : ReceptionRow}
    (hrow : db.records.receptions.get? id = some row) :
    db.records.statuses.get? row.statusId = some StatusKind.inProgress.name ↔
      row.statusId = Seed.inProgressId := by
  have hopen := get?_seeded_statuses .inProgress
  have hclosed := get?_seeded_statuses .closed
  rw [hs.statuses]
  rcases hs.known hrow with hid | hid
  · rw [hid]
    exact iff_of_true hopen rfl
  · rw [hid]
    refine iff_of_false (fun h => ?_) (by decide)
    exact absurd (Option.some.inj (hclosed.symm.trans h)) (by decide)

/-- A reception that is found in progress is so on the books. -/
theorem Sound.inStatus?_some {p id : Uuid} {row : ReceptionRow}
    (h : inStatus? db.records .inProgress p = some (id, row)) :
    db.books.InProgress (.begun id row.pickupPoint row.opened) ∧
      row.statusId = Seed.inProgressId ∧ row.pickupPoint = p := by
  have hmem := List.mem_of_getLast? h
  simp only [receptionsWhere, List.mem_mergeSort, List.mem_filter, Bool.and_eq_true,
    decide_eq_true_eq] at hmem
  obtain ⟨hentry, hp, hname⟩ := hmem
  have hrow := Table.get?_eq_some_iff.mpr hentry
  have hid := (hs.statusName_iff hrow).mp hname
  exact ⟨hs.inProgress_iff.mpr ⟨row, hrow, hid, rfl⟩, hid, hp⟩

theorem Sound.inStatus?_none {p : Uuid} (h : inStatus? db.records .inProgress p = none) :
    ¬ db.books.Occupied p := by
  rw [hs.occupied_iff]
  rintro ⟨e, he, hp, hid⟩
  have hname := (hs.statusName_iff (Table.get?_eq_some_iff.mpr he)).mpr hid
  have hmem : e ∈ receptionsWhere db.records fun r => r.pickupPoint = p &&
      db.records.statuses.get? r.statusId = some StatusKind.inProgress.name := by
    rw [receptionsWhere, List.mem_mergeSort, List.mem_filter]
    exact ⟨he, by simp [hp, hname]⟩
  rw [List.getLast?_eq_none_iff.mp h] at hmem
  cases hmem

omit hs in
theorem has_iff {x : Product} : db.books.Has x ↔
    ∃ e ∈ db.records.products.entries, Database.productOf db.records e.1 e.2 = x := by
  simp only [Books.Has, books, Option.map_eq_some_iff, Table.get?_eq_some_iff]
  constructor
  · rintro ⟨row, hmem, h⟩
    exact ⟨_, hmem, h⟩
  · rintro ⟨⟨id, row⟩, hmem, rfl⟩
    exact ⟨row, hmem, rfl⟩

omit hs in
theorem lastProduct_some {reception : Uuid} {e : Uuid × ProductRow}
    (h : (productsWhere db.records fun p => p.reception = reception).getLast? = some e) :
    db.books.Has (Database.productOf db.records e.1 e.2) ∧ e.2.reception = reception := by
  have hmem := List.mem_of_getLast? h
  simp only [productsWhere, List.mem_mergeSort, List.mem_filter, decide_eq_true_eq] at hmem
  exact ⟨has_iff.mpr ⟨e, hmem.1, rfl⟩, hmem.2⟩

omit hs in
theorem lastProduct_none {reception : Uuid}
    (h : (productsWhere db.records fun p => p.reception = reception).getLast? = none)
    {x : Product} (hx : db.books.Has x) : x.reception ≠ reception := by
  obtain ⟨e, he, rfl⟩ := has_iff.mp hx
  intro heq
  have hmem : e ∈ productsWhere db.records fun p => p.reception = reception := by
    rw [productsWhere, List.mem_mergeSort, List.mem_filter]
    exact ⟨he, decide_eq_true heq⟩
  rw [List.getLast?_eq_none_iff.mp h] at hmem
  cases hmem

/-! ## The books after a call -/

theorem Sound.books_putPoint {p : PickupPoint}
    (hp : ∃ city ∈ Seed.cities, p = .inCity p.id p.registered city) :
    books { db with records := { db.records with
      pickupPoints := db.records.pickupPoints.put p.id ⟨p.registered, p.cityId⟩ } } =
      db.books.putPoint p := by
  refine Books.ext (funext fun id => ?_) rfl rfl
  simp only [books, Books.putPoint_point?, Table.get?_put]
  split
  · next heq => rw [heq]; exact congrArg some (hs.pointOf hp)
  · rfl

theorem Sound.books_putProduct {x : Product}
    (hx : ∃ type ∈ Seed.productTypes, x = .ofType x.id x.reception x.added type) :
    books { db with records := { db.records with
      products := db.records.products.put x.id ⟨x.added, x.typeId, x.reception⟩ } } =
      db.books.putProduct x := by
  refine Books.ext rfl rfl (funext fun id => ?_)
  simp only [books, Books.putProduct_product?, Table.get?_put]
  split
  · next heq => rw [heq]; exact congrArg some (hs.productOf hx)
  · rfl

omit hs in
theorem books_dropProduct (id : Uuid) :
    books { db with records := { db.records with products := db.records.products.erase id } } =
      db.books.dropProduct id := by
  refine Books.ext rfl rfl (funext fun id' => ?_)
  simp only [books, Books.dropProduct_product?, Table.get?_erase]
  split <;> rfl

theorem Sound.books_begin {r : Reception} (hr : r = .begun r.id r.pickupPoint r.opened) :
    books { db with records := { db.records with
      receptions :=
        db.records.receptions.put r.id ⟨r.pickupPoint, r.opened, Seed.inProgressId⟩ } } =
      db.books.putReception r := by
  refine Books.ext rfl (funext fun id => ?_) rfl
  simp only [books, Books.putReception_reception?, Table.get?_put]
  split
  · next heq =>
    rw [heq]
    have hrow : receptionOf db.records r.id ⟨r.pickupPoint, r.opened, Seed.inProgressId⟩ = _ :=
      hs.receptionOf_inProgress r.id rfl
    exact (congrArg Except.toOption hrow).trans (congrArg some hr.symm)
  · rfl

theorem Sound.books_finish {r : Reception} {row : ReceptionRow}
    (h : r = .begun r.id row.pickupPoint row.opened) :
    books { db with records := { db.records with
      receptions := db.records.receptions.put r.id { row with statusId := Seed.closedId } } } =
      db.books.putReception r.ended := by
  refine Books.ext rfl (funext fun id => ?_) rfl
  simp only [books, Books.putReception_ended, Table.get?_put]
  split
  · next heq =>
    have hrow : receptionOf db.records r.id { row with statusId := Seed.closedId } = _ :=
      hs.receptionOf_closed r.id rfl
    have hended := congrArg Reception.ended h
    rw [heq]
    exact (congrArg Except.toOption hrow).trans (congrArg some hended.symm)
  · rfl

end Reading

/-! ## Every call -/

section Calls
variable {db : Database} (hs : db.Sound) {c : Call} (hc : db.books.Proper c)
include hs hc

theorem Sound.answer : (answer c db).2.Sound := by
  cases c with
  | addPickupPoint p =>
    cases h : db.books.point? p.id with
    | none => rw [Database.answer, hs.addPickupPoint_free hc h]; exact hs.putPoint ..
    | some found => rw [Database.answer, hs.addPickupPoint_taken h]; exact hs
  | addReception r =>
    obtain ⟨hnew, hpoint, hr⟩ := hc
    have hnone := hs.reception?_eq_none hnew
    by_cases h : db.books.Occupied r.pickupPoint
    · rw [Database.answer, hs.addReception_taken hr hnone h]
      exact hs
    · rw [Database.answer, hs.addReception_free hr hnone hpoint h]
      exact hs.putReception _ (.inl rfl)
  | moveReception id source target =>
    obtain ⟨rfl, rfl⟩ := hc
    rcases db.books.inProgress_or id with ⟨r, rfl, hr⟩ | hnone
    · obtain ⟨row, hrow, hid, -⟩ := hs.inProgress_iff.mp hr
      rw [Database.answer, hs.moveReception_inProgress hrow hid]
      exact hs.putReception _ (.inr rfl)
    · rw [Database.answer, hs.moveReception_other hnone]
      exact hs
  | addProduct x =>
    rcases db.books.inProgress_or x.reception with ⟨r, hid, hr⟩ | hnone
    · rw [Database.answer, hs.addProduct_inProgress hc.1 hc.2 hid hr]
      exact hs.withProducts _
    · rw [Database.answer, hs.addProduct_other hnone]
      exact hs
  | deleteProduct id =>
    rw [Database.answer, hs.deleteProduct]
    exact hs.withProducts _
  | _ => exact hs

theorem Sound.step : db.books.Step c (Database.answer c db).1 (Database.answer c db).2.books := by
  have hfew : ∀ {n}, n ≤ 4 → n ≤ maxParameters := fun h => Nat.le_trans h (by decide)
  cases c with
  | cityByName name =>
    simp only [Database.answer, hs.query _ (hfew (by decide : 1 ≤ 4)), hs.cities]
    exact ⟨congrArg Except.ok (byName?_seeded_cities name), rfl⟩
  | addPickupPoint p =>
    cases h : db.books.point? p.id with
    | none =>
      rw [Database.answer, hs.addPickupPoint_free hc h]
      exact .inl ⟨h, rfl, hs.books_putPoint hc⟩
    | some found =>
      rw [Database.answer, hs.addPickupPoint_taken h]
      exact .inr ⟨by simp [h], ⟨_, rfl⟩, rfl⟩
  | pickupPointById id =>
    simp only [Database.answer, hs.query _ (hfew (by decide : 1 ≤ 4))]
    exact ⟨rfl, rfl⟩
  | statusOfKind kind =>
    simp only [Database.answer, hs.query _ (hfew (by decide : 1 ≤ 4)), hs.statuses]
    exact ⟨by cases kind <;> rfl, rfl⟩
  | addReception r =>
    obtain ⟨hnew, hpoint, hr⟩ := hc
    have hnone := hs.reception?_eq_none hnew
    by_cases h : db.books.Occupied r.pickupPoint
    · rw [Database.answer, hs.addReception_taken hr hnone h]
      exact .inr ⟨h, ⟨_, rfl⟩, rfl⟩
    · rw [Database.answer, hs.addReception_free hr hnone hpoint h]
      exact .inl ⟨h, rfl, hs.books_begin hr⟩
  | receptionInStatus kind p =>
    cases kind with
    | closed => exact rfl
    | inProgress =>
      simp only [Database.answer, hs.query _ (hfew (by decide : 2 ≤ 4))]
      refine ⟨rfl, ?_⟩
      cases h : inStatus? db.records .inProgress p with
      | none => exact .inr ⟨rfl, hs.inStatus?_none h⟩
      | some e =>
        obtain ⟨hr, hid, hp⟩ := hs.inStatus?_some h
        refine .inl ⟨_, ?_, hr, hp⟩
        simp only [hs.receptionOf_inProgress _ hid]
        rfl
  | moveReception id source target =>
    obtain ⟨rfl, rfl⟩ := hc
    rcases db.books.inProgress_or id with ⟨r, rfl, hr⟩ | hnone
    · obtain ⟨row, hrow, hid, hsame⟩ := hs.inProgress_iff.mp hr
      rw [Database.answer, hs.moveReception_inProgress hrow hid, ← hsame]
      exact .inl ⟨r, _, rfl, hr, rfl, rfl, hs.books_finish hsame⟩
    · rw [Database.answer, hs.moveReception_other hnone]
      exact .inr ⟨hnone, rfl, rfl⟩
  | productTypeByName name =>
    simp only [Database.answer, hs.query _ (hfew (by decide : 1 ≤ 4)), hs.productTypes]
    exact ⟨congrArg Except.ok (byName?_seeded_productTypes name), rfl⟩
  | addProduct x =>
    rcases db.books.inProgress_or x.reception with ⟨r, hid, hr⟩ | hnone
    · rw [Database.answer, hs.addProduct_inProgress hc.1 hc.2 hid hr]
      exact .inl ⟨r, hid, hr, rfl, hs.books_putProduct hc.2⟩
    · rw [Database.answer, hs.addProduct_other hnone]
      exact .inr ⟨hnone, rfl, rfl⟩
  | lastProduct reception =>
    simp only [Database.answer, hs.query _ (hfew (by decide : 1 ≤ 4))]
    refine ⟨rfl, ?_⟩
    cases h : (productsWhere db.records fun p => p.reception = reception).getLast? with
    | none => exact .inr ⟨rfl, fun x => lastProduct_none h⟩
    | some e =>
      obtain ⟨hhas, hreception⟩ := lastProduct_some h
      exact .inl ⟨_, rfl, hhas, hreception⟩
  | deleteProduct id =>
    rw [Database.answer, hs.deleteProduct]
    refine ⟨?_, books_dropProduct id⟩
    simp [books, Table.contains]
  | _ => rfl

end Calls

instance : Bookkeeping Database where
  books := books
  Sound := Sound
  sound_answer hs hc := hs.answer hc
  step_answer hs hc := hs.step hc

end PickupLedger.Database
