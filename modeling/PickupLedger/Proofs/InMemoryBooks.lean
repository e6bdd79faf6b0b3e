import PickupLedger.Proofs.Books
import PickupLedger.Store.InMemory

/-!
# The store in memory keeps books

The tables of the store hold records without what their references stand for, and a
table of its own, `active`, says which reception of a pickup point is in progress.  The
store is sound (`InMemory.Sound`) when that table agrees with the statuses: it names
exactly the receptions under the number of `inProgress`.  Every check of the store on
`active` is then a check on the books (`occupied_iff`, `active_iff_inProgress`), which
is how a start, an end and a new product are decided.
-/

namespace PickupLedger.InMemory

/-- What the store holds. -/
def books (s : InMemory) : Books where
  point? id := (s.pickupPoints.get? id).map s.resolvePoint
  reception? id := (s.receptions.get? id).bind fun r => (s.resolveReception r).toOption
  product? id := (s.products.get? id).map s.resolveProduct

/-- **A sound store**: reference data as seeded, records under their own identifiers,
and `active` in agreement with the statuses. -/
structure Sound (s : InMemory) : Prop where
  cities : s.cities = new.cities
  productTypes : s.productTypes = new.productTypes
  statuses : s.statuses = new.statuses
  point_id : ∀ {id p}, s.pickupPoints.get? id = some p → p.id = id
  reception_id : ∀ {id r}, s.receptions.get? id = some r → r.id = id
  product_id : ∀ {id x}, s.products.get? id = some x → x.id = id
  known : ∀ {id r}, s.receptions.get? id = some r →
    r.statusId = Seed.inProgressId ∨ r.statusId = Seed.closedId
  active_iff : ∀ {p id}, s.active.get? p = some id ↔
    ∃ r, s.receptions.get? id = some r ∧ r.pickupPoint = p ∧ r.statusId = Seed.inProgressId

theorem new_sound : new.Sound := by
  constructor <;> simp [new]

theorem books_new : new.books = .empty := rfl

/-! ## Reference data -/

theorem closedId_ne_inProgressId : Seed.closedId ≠ Seed.inProgressId := by decide

theorem get?_new_cities : ∀ city ∈ Seed.cities, new.cities.get? city.id = some city := by decide

theorem get?_new_productTypes :
    ∀ type ∈ Seed.productTypes, new.productTypes.get? type.id = some type := by decide

section Reading
variable {s : InMemory} (hs : s.Sound)
include hs

theorem Sound.kindOf_inProgress : s.kindOf Seed.inProgressId = .ok .inProgress := by
  rw [kindOf, hs.statuses]; rfl

theorem Sound.kindOf_closed : s.kindOf Seed.closedId = .ok .closed := by
  rw [kindOf, hs.statuses]; rfl

theorem Sound.statusOf? (kind : StatusKind) : s.statusOf? kind = some (Seed.status kind) := by
  rw [InMemory.statusOf?, hs.statuses]; cases kind <;> rfl

theorem Sound.resolvePoint {p : PickupPoint}
    (hp : ∃ city ∈ Seed.cities, p = .inCity p.id p.registered city) :
    s.resolvePoint { p with city := none } = p := by
  obtain ⟨city, hcity, h⟩ := hp
  rw [h, InMemory.resolvePoint, hs.cities]
  simp only [PickupPoint.inCity, get?_new_cities city hcity]

theorem Sound.resolveProduct {x : Product}
    (hx : ∃ type ∈ Seed.productTypes, x = .ofType x.id x.reception x.added type) :
    s.resolveProduct { x with typeName := none } = x := by
  obtain ⟨type, htype, h⟩ := hx
  rw [h, InMemory.resolveProduct, hs.productTypes]
  simp only [Product.ofType, get?_new_productTypes type htype, Option.map_some]

/-! ## Receptions on the books -/

theorem Sound.resolveReception_inProgress {r : Reception} (h : r.statusId = Seed.inProgressId) :
    s.resolveReception r = .ok { r with status := some .inProgress } := by
  simp [InMemory.resolveReception, h, hs.kindOf_inProgress, Except.map]

theorem Sound.resolveReception_closed {r : Reception} (h : r.statusId = Seed.closedId) :
    s.resolveReception r = .ok { r with status := some .closed } := by
  simp [InMemory.resolveReception, h, hs.kindOf_closed, Except.map]

/-- A reception is in progress on the books if its row has the number of `inProgress`. -/
theorem Sound.inProgress_iff {r : Reception} : s.books.InProgress r ↔
    ∃ row, s.receptions.get? r.id = some row ∧ row.statusId = Seed.inProgressId ∧
      r = { row with status := some .inProgress } := by
  simp only [Books.InProgress, books, Option.bind_eq_some_iff]
  constructor
  · rintro ⟨⟨row, hrow, h⟩, hstatus⟩
    rcases hs.known hrow with hid | hid
    · rw [hs.resolveReception_inProgress hid] at h
      exact ⟨row, hrow, hid, (Option.some.inj h).symm⟩
    · rw [hs.resolveReception_closed hid] at h
      rw [← Option.some.inj h] at hstatus
      cases hstatus
  · rintro ⟨row, hrow, hid, h⟩
    exact ⟨⟨row, hrow, by rw [hs.resolveReception_inProgress hid, h]; rfl⟩, by rw [h]⟩

/-- The table `active` names the receptions that are in progress on the books. -/
theorem Sound.active_iff_inProgress {p id : Uuid} : s.active.get? p = some id ↔
    ∃ r, r.id = id ∧ s.books.InProgress r ∧ r.pickupPoint = p := by
  rw [hs.active_iff]
  constructor
  · rintro ⟨row, hrow, hp, hid⟩
    have hkey := hs.reception_id hrow
    exact ⟨{ row with status := some .inProgress }, hkey,
      hs.inProgress_iff.mpr ⟨row, by simpa [hkey] using hrow, hid, rfl⟩, hp⟩
  · rintro ⟨r, rfl, hr, hp⟩
    obtain ⟨row, hrow, hid, h⟩ := hs.inProgress_iff.mp hr
    exact ⟨row, hrow, by rw [← hp, h], hid⟩

/-- A pickup point is occupied if it has an entry in `active`. -/
theorem Sound.occupied_iff {p : Uuid} : s.books.Occupied p ↔ s.active.contains p = true := by
  rw [Table.contains, Option.isSome_iff_exists]
  constructor
  · rintro ⟨r, hr, hp⟩
    exact ⟨r.id, hs.active_iff_inProgress.mpr ⟨r, rfl, hr, hp⟩⟩
  · rintro ⟨id, h⟩
    obtain ⟨r, -, hr, hp⟩ := hs.active_iff_inProgress.mp h
    exact ⟨r, hr, hp⟩

theorem Sound.active_eq_none {p : Uuid} (h : ¬ s.books.Occupied p) : s.active.get? p = none := by
  rwa [hs.occupied_iff, Table.contains, Bool.not_eq_true, Option.isSome_eq_false_iff,
    Option.isNone_iff_eq_none] at h

/-- The entry in `active` leads to the reception in progress. -/
theorem Sound.receptionInStatus_inProgress {r : Reception} (hr : s.books.InProgress r) :
    InMemory.answer (.receptionInStatus .inProgress r.pickupPoint) s = (.ok (some r), s) := by
  obtain ⟨row, hrow, hid, h⟩ := hs.inProgress_iff.mp hr
  have hactive : s.active.get? r.pickupPoint = some r.id :=
    hs.active_iff_inProgress.mpr ⟨r, rfl, hr, rfl⟩
  have hfound : s.inStatus? .inProgress r.pickupPoint = some row := by
    simp only [inStatus?, hs.statusOf?, hactive, Option.bind_some, hrow]
  rw [InMemory.answer]
  simp only [hfound, hs.resolveReception_inProgress hid, Except.map, ← h]

theorem Sound.receptionInStatus_free {p : Uuid} (h : ¬ s.books.Occupied p) :
    InMemory.answer (.receptionInStatus .inProgress p) s = (.ok none, s) := by
  have hactive := hs.active_eq_none h
  have hfound : s.inStatus? .inProgress p = none := by
    simp only [inStatus?, hs.statusOf?, hactive, Option.bind_none]
  rw [InMemory.answer]
  simp only [hfound]

/-! ## Calls that write, row by row -/

omit hs in
theorem addPickupPoint_free {p : PickupPoint} (h : s.books.point? p.id = none) :
    s.addPickupPoint p =
      (.ok p, { s with pickupPoints := s.pickupPoints.put p.id { p with city := none } }) := by
  have hrow : s.pickupPoints.get? p.id = none := Option.map_eq_none_iff.mp h
  simp [addPickupPoint, Table.contains, hrow]

omit hs in
theorem addPickupPoint_taken {p found : PickupPoint} (h : s.books.point? p.id = some found) :
    s.addPickupPoint p = (.error (.duplicate ("pickup_points.id = " ++ p.id.text)), s) := by
  obtain ⟨row, hrow, -⟩ := Option.map_eq_some_iff.mp h
  simp [addPickupPoint, Table.contains, hrow]

theorem Sound.addReception_free {r : Reception} (hr : r = .begun r.id r.pickupPoint r.opened)
    (hfree : ¬ s.books.Occupied r.pickupPoint) :
    s.addReception r = (.ok r, { s with
      active := s.active.put r.pickupPoint r.id
      receptions := s.receptions.put r.id { r with status := none } }) := by
  have hid : r.statusId = Seed.inProgressId := by rw [hr]; rfl
  have hactive : ¬ s.active.contains r.pickupPoint = true := fun h => hfree (hs.occupied_iff.mpr h)
  simp only [addReception, hid, hs.kindOf_inProgress, hactive, if_false, Bool.false_eq_true]

theorem Sound.addReception_taken {r : Reception} (hr : r = .begun r.id r.pickupPoint r.opened)
    (htaken : s.books.Occupied r.pickupPoint) :
    s.addReception r = (.error (occupied r.pickupPoint), s) := by
  have hid : r.statusId = Seed.inProgressId := by rw [hr]; rfl
  simp only [addReception, hid, hs.kindOf_inProgress, hs.occupied_iff.mp htaken, if_true]

/-- A reception in progress holds its place in `active`, so it always gives it up. -/
theorem Sound.moveReception_inProgress {row : Reception} {id : Uuid}
    (hrow : s.receptions.get? id = some row) (hid : row.statusId = Seed.inProgressId) :
    s.moveReception id Seed.inProgressId Seed.closedId =
      (.ok (some { row with statusId := Seed.closedId }), { s with
        active := s.active.erase row.pickupPoint
        receptions := s.receptions.put id { row with statusId := Seed.closedId } }) := by
  have hactive : s.active.get? row.pickupPoint = some row.id :=
    hs.active_iff.mpr ⟨row, by rw [hs.reception_id hrow]; exact hrow, rfl, hid⟩
  simp only [moveReception, hs.kindOf_inProgress, hs.kindOf_closed, hrow, hid, if_true, shiftActive,
    hactive]

theorem Sound.moveReception_other {id : Uuid} (h : ∀ r, r.id = id → ¬ s.books.InProgress r) :
    s.moveReception id Seed.inProgressId Seed.closedId = (.ok none, s) := by
  simp only [moveReception, hs.kindOf_inProgress, hs.kindOf_closed]
  cases hrow : s.receptions.get? id with
  | none => rfl
  | some row =>
    have hkey := hs.reception_id hrow
    have hid : row.statusId ≠ Seed.inProgressId := fun hid =>
      h { row with status := some .inProgress } hkey
        (hs.inProgress_iff.mpr ⟨row, by simpa [hkey] using hrow, hid, rfl⟩)
    simp only [hid, if_false]

/-- The check on `active` lets a product in exactly while its reception is in progress. -/
theorem Sound.addProduct_inProgress {x : Product} {r : Reception} (hx : r.id = x.reception)
    (hr : s.books.InProgress r) :
    s.addProduct x =
      (.ok (some x), { s with products := s.products.put x.id { x with typeName := none } }) := by
  obtain ⟨row, hrow, hid, h⟩ := hs.inProgress_iff.mp hr
  rw [hx] at hrow
  have hactive : s.active.get? row.pickupPoint = some x.reception :=
    hs.active_iff.mpr ⟨row, hrow, rfl, hid⟩
  simp only [addProduct, hrow, hactive, if_true]

theorem Sound.addProduct_other {x : Product}
    (h : ∀ r, r.id = x.reception → ¬ s.books.InProgress r) : s.addProduct x = (.ok none, s) := by
  simp only [addProduct]
  cases hrow : s.receptions.get? x.reception with
  | none => rfl
  | some row =>
    have hactive : s.active.get? row.pickupPoint ≠ some x.reception := fun hactive => by
      obtain ⟨r, hr, hin, -⟩ := hs.active_iff_inProgress.mp hactive
      exact h r hr hin
    simp only [hactive, if_false]

end Reading

/-! ## Soundness is kept -/

section Keeping
variable {s : InMemory} (hs : s.Sound)
include hs

theorem Sound.putPoint (p : PickupPoint) :
    Sound { s with pickupPoints := s.pickupPoints.put p.id { p with city := none } } where
  cities := hs.cities
  productTypes := hs.productTypes
  statuses := hs.statuses
  point_id {id q} h := by
    rw [Table.get?_put] at h
    split at h
    · next heq => rw [← Option.some.inj h]; exact heq.symm
    · exact hs.point_id h
  reception_id := hs.reception_id
  product_id := hs.product_id
  known := hs.known
  active_iff := hs.active_iff

theorem Sound.putProduct (x : Product) :
    Sound { s with products := s.products.put x.id { x with typeName := none } } where
  cities := hs.cities
  productTypes := hs.productTypes
  statuses := hs.statuses
  point_id := hs.point_id
  reception_id := hs.reception_id
  product_id {id y} h := by
    rw [Table.get?_put] at h
    split at h
    · next heq => rw [← Option.some.inj h]; exact heq.symm
    · exact hs.product_id h
  known := hs.known
  active_iff := hs.active_iff

theorem Sound.dropProduct (id : Uuid) : Sound { s with products := s.products.erase id } where
  cities := hs.cities
  productTypes := hs.productTypes
  statuses := hs.statuses
  point_id := hs.point_id
  reception_id := hs.reception_id
  product_id {id' y} h := by
    rw [Table.get?_erase] at h
    split at h
    · cases h
    · exact hs.product_id h
  known := hs.known
  active_iff := hs.active_iff

theorem Sound.reception?_eq_none {id : Uuid} (h : s.books.reception? id = none) :
    s.receptions.get? id = none := by
  cases hrow : s.receptions.get? id with
  | none => rfl
  | some row =>
    simp only [books, hrow, Option.bind_some] at h
    rcases hs.known hrow with hid | hid
    · rw [hs.resolveReception_inProgress hid] at h; cases h
    · rw [hs.resolveReception_closed hid] at h; cases h

/-- A reception that starts takes the free place of its pickup point. -/
theorem Sound.begin {r : Reception} (hr : r = .begun r.id r.pickupPoint r.opened)
    (hnew : s.receptions.get? r.id = none) (hfree : s.active.get? r.pickupPoint = none) :
    Sound { s with
      active := s.active.put r.pickupPoint r.id
      receptions := s.receptions.put r.id { r with status := none } } where
  cities := hs.cities
  productTypes := hs.productTypes
  statuses := hs.statuses
  point_id := hs.point_id
  reception_id {id row} h := by
    rw [Table.get?_put] at h
    split at h
    · next heq => rw [← Option.some.inj h]; exact heq.symm
    · exact hs.reception_id h
  product_id := hs.product_id
  known {id row} h := by
    rw [Table.get?_put] at h
    split at h
    · rw [← Option.some.inj h, hr]; exact .inl rfl
    · exact hs.known h
  active_iff {p id} := by
    have hid : r.statusId = Seed.inProgressId := by rw [hr]; rfl
    simp only [Table.get?_put]
    -- No row has the identifier yet, and no other reception has the place.
    constructor
    · intro h
      split at h
      · next hp =>
        rw [← Option.some.inj h]
        exact ⟨_, if_pos rfl, hp.symm, hid⟩
      · obtain ⟨row, hrow, hp, hstatus⟩ := hs.active_iff.mp h
        have hne : id ≠ r.id := fun heq => by rw [heq, hnew] at hrow; cases hrow
        exact ⟨row, by rw [if_neg hne]; exact hrow, hp, hstatus⟩
    · rintro ⟨row, hrow, hp, hstatus⟩
      split at hrow
      · next heq =>
        rw [← Option.some.inj hrow] at hp
        rw [if_pos hp.symm, heq]
      · have hactive := hs.active_iff.mpr ⟨row, hrow, hp, hstatus⟩
        have hne : p ≠ r.pickupPoint := fun heq => by rw [heq, hfree] at hactive; cases hactive
        rw [if_neg hne]; exact hactive

/-- A reception that ends leaves the place of its pickup point free. -/
theorem Sound.finish {id : Uuid} {row : Reception} (hrow : s.receptions.get? id = some row)
    (hid : row.statusId = Seed.inProgressId) :
    Sound { s with
      active := s.active.erase row.pickupPoint
      receptions := s.receptions.put id { row with statusId := Seed.closedId } } where
  cities := hs.cities
  productTypes := hs.productTypes
  statuses := hs.statuses
  point_id := hs.point_id
  reception_id {id' row'} h := by
    rw [Table.get?_put] at h
    split at h
    · next heq =>
      have hkey := hs.reception_id hrow
      rw [← Option.some.inj h, heq]; exact hkey
    · exact hs.reception_id h
  product_id := hs.product_id
  known {id' row'} h := by
    rw [Table.get?_put] at h
    split at h
    · rw [← Option.some.inj h]; exact .inr rfl
    · exact hs.known h
  active_iff {p id'} := by
    have hplace : s.active.get? row.pickupPoint = some id := hs.active_iff.mpr ⟨row, hrow, rfl, hid⟩
    simp only [Table.get?_put, Table.get?_erase]
    -- The place goes with the reception that held it, and every other keeps its own.
    constructor
    · intro h
      split at h
      · cases h
      · next hp =>
        obtain ⟨row', hrow', hp', hstatus⟩ := hs.active_iff.mp h
        have hne : id' ≠ id := fun heq => by
          rw [heq, hrow] at hrow'
          exact hp (by rw [Option.some.inj hrow', hp'])
        exact ⟨row', by rw [if_neg hne]; exact hrow', hp', hstatus⟩
    · rintro ⟨row', hrow', hp, hstatus⟩
      split at hrow'
      · rw [← Option.some.inj hrow'] at hstatus
        exact absurd hstatus closedId_ne_inProgressId
      · next hne =>
        have hactive := hs.active_iff.mpr ⟨row', hrow', hp, hstatus⟩
        have hp' : p ≠ row.pickupPoint := fun heq => by
          rw [heq, hplace] at hactive
          exact hne (Option.some.inj hactive).symm
        rw [if_neg hp']; exact hactive

omit hs in
theorem Sound.countList (hs : s.Sound) : s.countList.Sound := { hs with }

end Keeping

/-! ## The books after a call -/

section After
variable {s : InMemory} (hs : s.Sound)
include hs

theorem Sound.books_putPoint {p : PickupPoint}
    (hp : ∃ city ∈ Seed.cities, p = .inCity p.id p.registered city) :
    books { s with pickupPoints := s.pickupPoints.put p.id { p with city := none } } =
      s.books.putPoint p := by
  refine Books.ext (funext fun id => ?_) rfl rfl
  simp only [books, Books.putPoint_point?, Table.get?_put]
  split
  · exact congrArg some (hs.resolvePoint hp)
  · rfl

theorem Sound.books_putProduct {x : Product}
    (hx : ∃ type ∈ Seed.productTypes, x = .ofType x.id x.reception x.added type) :
    books { s with products := s.products.put x.id { x with typeName := none } } =
      s.books.putProduct x := by
  refine Books.ext rfl rfl (funext fun id => ?_)
  simp only [books, Books.putProduct_product?, Table.get?_put]
  split
  · exact congrArg some (hs.resolveProduct hx)
  · rfl

omit hs in
theorem books_dropProduct (id : Uuid) :
    books { s with products := s.products.erase id } = s.books.dropProduct id := by
  refine Books.ext rfl rfl (funext fun id' => ?_)
  simp only [books, Books.dropProduct_product?, Table.get?_erase]
  split <;> rfl

theorem Sound.books_begin {r : Reception} (hr : r = .begun r.id r.pickupPoint r.opened)
    (active : Table Uuid Uuid) :
    books { s with active, receptions := s.receptions.put r.id { r with status := none } } =
      s.books.putReception r := by
  have hid : r.statusId = Seed.inProgressId := by rw [hr]; rfl
  refine Books.ext rfl (funext fun id => ?_) rfl
  simp only [books, Books.putReception_reception?, Table.get?_put]
  split
  · have hkind := hs.resolveReception_inProgress (r := { r with status := none }) hid
    have hsame : { r with status := some .inProgress } = r := by rw [hr]; rfl
    rw [hsame] at hkind
    exact congrArg Except.toOption hkind
  · rfl

theorem Sound.books_finish {row r : Reception} (h : r = { row with status := some .inProgress })
    (active : Table Uuid Uuid) :
    books { s with
      active
      receptions := s.receptions.put r.id { row with statusId := Seed.closedId } } =
      s.books.putReception r.ended := by
  refine Books.ext rfl (funext fun id => ?_) rfl
  simp only [books, Books.putReception_ended, Table.get?_put]
  by_cases hid : id = r.id
  · have hkind := hs.resolveReception_closed (r := { row with statusId := Seed.closedId }) rfl
    have hended : ({ row with statusId := Seed.closedId, status := some .closed } : Reception) =
        r.ended := by rw [h]; rfl
    simp only [if_pos hid]
    exact (congrArg Except.toOption hkind).trans (congrArg some hended)
  · simp only [if_neg hid]
    rfl

end After

/-! ## Products of a reception -/

section Products
variable {s : InMemory} (hs : s.Sound)
include hs

theorem Sound.has_iff {x : Product} : s.books.Has x ↔
    ∃ row ∈ s.products.rows, s.resolveProduct row = x := by
  simp only [Books.Has, books, Option.map_eq_some_iff, Table.rows, List.mem_map]
  constructor
  · rintro ⟨row, hrow, h⟩
    exact ⟨row, ⟨_, Table.get?_eq_some_iff.mp hrow, rfl⟩, h⟩
  · rintro ⟨_, ⟨⟨id, row⟩, hmem, rfl⟩, h⟩
    have hrow := Table.get?_eq_some_iff.mpr hmem
    have hid : row.id = id := hs.product_id hrow
    have hx : x.id = id := by rw [← h]; exact hid
    exact ⟨row, hx ▸ hrow, h⟩

theorem Sound.lastProduct?_some {reception : Uuid} {row : Product}
    (h : s.lastProduct? reception = some row) :
    s.books.Has (s.resolveProduct row) ∧ row.reception = reception := by
  have hmem := mem_of_greatest? h
  rw [List.mem_filter, decide_eq_true_eq] at hmem
  exact ⟨hs.has_iff.mpr ⟨row, hmem.1, rfl⟩, hmem.2⟩

theorem Sound.lastProduct?_none {reception : Uuid} (h : s.lastProduct? reception = none)
    {x : Product} (hx : s.books.Has x) : x.reception ≠ reception := by
  obtain ⟨row, hrow, rfl⟩ := hs.has_iff.mp hx
  have hnil := greatest?_eq_none.mp h
  rw [List.filter_eq_nil_iff] at hnil
  exact fun heq => hnil row hrow (decide_eq_true heq)

end Products

/-! ## Every call -/

section Calls
variable {s : InMemory} (hs : s.Sound) {c : Call} (hc : s.books.Proper c)
include hs hc

theorem Sound.answer : (answer c s).2.Sound := by
  cases c with
  | addPickupPoint p =>
    cases h : s.books.point? p.id with
    | none => rw [InMemory.answer, addPickupPoint_free h]; exact hs.putPoint p
    | some found => rw [InMemory.answer, addPickupPoint_taken h]; exact hs
  | addReception r =>
    obtain ⟨hnew, -, hr⟩ := hc
    by_cases h : s.books.Occupied r.pickupPoint
    · rw [InMemory.answer, hs.addReception_taken hr h]
      exact hs
    · rw [InMemory.answer, hs.addReception_free hr h]
      exact hs.begin hr (hs.reception?_eq_none hnew) (hs.active_eq_none h)
  | moveReception id source target =>
    obtain ⟨rfl, rfl⟩ := hc
    rcases s.books.inProgress_or id with ⟨r, rfl, hr⟩ | hnone
    · obtain ⟨row, hrow, hid, -⟩ := hs.inProgress_iff.mp hr
      rw [InMemory.answer, hs.moveReception_inProgress hrow hid]
      exact hs.finish hrow hid
    · rw [InMemory.answer, hs.moveReception_other hnone]
      exact hs
  | addProduct x =>
    rcases s.books.inProgress_or x.reception with ⟨r, hid, hr⟩ | hnone
    · rw [InMemory.answer, hs.addProduct_inProgress hid hr]
      exact hs.putProduct x
    · rw [InMemory.answer, hs.addProduct_other hnone]
      exact hs
  | deleteProduct id => exact hs.dropProduct id
  | pickupPointPage q => exact hs.countList
  | allPickupPoints => exact hs.countList
  | receptionsAt ids => exact hs.countList
  | productsOf ids => exact hs.countList
  | _ => exact hs

theorem Sound.step : s.books.Step c (InMemory.answer c s).1 (InMemory.answer c s).2.books := by
  cases c with
  | cityByName name =>
    simp only [InMemory.answer, hs.cities]
    exact ⟨rfl, rfl⟩
  | addPickupPoint p =>
    cases h : s.books.point? p.id with
    | none =>
      rw [InMemory.answer, addPickupPoint_free h]
      exact .inl ⟨h, rfl, hs.books_putPoint hc⟩
    | some found =>
      rw [InMemory.answer, addPickupPoint_taken h]
      exact .inr ⟨by simp [h], ⟨_, rfl⟩, rfl⟩
  | pickupPointById id => exact ⟨rfl, rfl⟩
  | statusOfKind kind =>
    simp only [InMemory.answer, hs.statusOf?]
    exact ⟨rfl, rfl⟩
  | addReception r =>
    obtain ⟨-, -, hr⟩ := hc
    by_cases h : s.books.Occupied r.pickupPoint
    · rw [InMemory.answer, hs.addReception_taken hr h]
      exact .inr ⟨h, ⟨_, rfl⟩, rfl⟩
    · rw [InMemory.answer, hs.addReception_free hr h]
      exact .inl ⟨h, rfl, hs.books_begin hr _⟩
  | receptionInStatus kind p =>
    cases kind with
    | closed => exact rfl
    | inProgress =>
      by_cases h : s.books.Occupied p
      · obtain ⟨r, hr, rfl⟩ := h
        rw [hs.receptionInStatus_inProgress hr]
        exact ⟨rfl, .inl ⟨r, rfl, hr, rfl⟩⟩
      · rw [hs.receptionInStatus_free h]
        exact ⟨rfl, .inr ⟨rfl, h⟩⟩
  | moveReception id source target =>
    obtain ⟨rfl, rfl⟩ := hc
    rcases s.books.inProgress_or id with ⟨r, rfl, hr⟩ | hnone
    · obtain ⟨row, hrow, hid, hsame⟩ := hs.inProgress_iff.mp hr
      rw [InMemory.answer, hs.moveReception_inProgress hrow hid]
      exact .inl ⟨r, _, rfl, hr, rfl, by rw [hsame]; rfl, hs.books_finish hsame _⟩
    · rw [InMemory.answer, hs.moveReception_other hnone]
      exact .inr ⟨hnone, rfl, rfl⟩
  | productTypeByName name =>
    simp only [InMemory.answer, hs.productTypes]
    exact ⟨rfl, rfl⟩
  | addProduct x =>
    rcases s.books.inProgress_or x.reception with ⟨r, hid, hr⟩ | hnone
    · rw [InMemory.answer, hs.addProduct_inProgress hid hr]
      exact .inl ⟨r, hid, hr, rfl, hs.books_putProduct hc.2⟩
    · rw [InMemory.answer, hs.addProduct_other hnone]
      exact .inr ⟨hnone, rfl, rfl⟩
  | lastProduct reception =>
    simp only [InMemory.answer]
    refine ⟨rfl, ?_⟩
    cases h : s.lastProduct? reception with
    | none => exact .inr ⟨rfl, fun x => hs.lastProduct?_none h⟩
    | some row =>
      obtain ⟨hhas, hreception⟩ := hs.lastProduct?_some h
      exact .inl ⟨_, rfl, hhas, hreception⟩
  | deleteProduct id =>
    refine ⟨?_, books_dropProduct id⟩
    simp [InMemory.answer, books, Table.contains]
  | _ => rfl

end Calls

/-- What is found last is the newest. -/
theorem Sound.newest {s : InMemory} (hs : s.Sound) (c : Call) :
    s.books.Newest c (InMemory.answer c s).1 := by
  cases c with
  | lastProduct reception =>
    rw [InMemory.answer]
    cases h : s.lastProduct? reception with
    | none => trivial
    | some row =>
      intro y hy hreception
      obtain ⟨row', hmem, rfl⟩ := hs.has_iff.mp hy
      have hrow : row' ∈ s.products.rows.filter fun p => p.reception = reception :=
        List.mem_filter.mpr ⟨hmem, decide_eq_true hreception⟩
      -- The order looks at the time and the identifier only, which a row has already.
      show row'.recency.le row.recency = true
      exact le_greatest? Recency.le_refl Recency.le_total Recency.le_trans h hrow
  | _ => trivial

instance : Bookkeeping InMemory where
  books := books
  Sound := Sound
  sound_answer hs hc := hs.answer hc
  step_answer hs hc := hs.step hc

end PickupLedger.InMemory
