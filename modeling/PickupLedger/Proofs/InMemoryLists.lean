import PickupLedger.Proofs.InMemoryBooks
import PickupLedger.Proofs.Listings

/-!
# The lists of the store in memory

Whatever calls it has answered, the store in memory keeps its records under their own
identifiers, each reception under the number of a status, and its reference data as seeded
(`InMemory.Filed`).  That is less than soundness: nothing is said of the table `active`, and
nothing is asked of the calls.  It is enough for the lists: they are told by the books
(`InMemory.Filed.lists`).
-/

namespace PickupLedger

namespace InMemory

/-- **A filed store**: records under their own identifiers, with references that are known. -/
structure Filed (s : InMemory) : Prop where
  cities : s.cities = new.cities
  productTypes : s.productTypes = new.productTypes
  statuses : s.statuses = new.statuses
  point_id : ∀ {id p}, s.pickupPoints.get? id = some p → p.id = id
  reception_id : ∀ {id r}, s.receptions.get? id = some r → r.id = id
  product_id : ∀ {id x}, s.products.get? id = some x → x.id = id
  known : ∀ {id r}, s.receptions.get? id = some r → ∃ kind, r.statusId = (Seed.status kind).id

theorem Sound.filed {s : InMemory} (hs : s.Sound) : s.Filed :=
  { hs with
    known := fun h => (hs.known h).elim (fun hid => ⟨.inProgress, hid⟩) fun hid => ⟨.closed, hid⟩ }

theorem new_filed : new.Filed := new_sound.filed

section Reading
variable {s : InMemory} (hs : s.Filed)
include hs

theorem Filed.kindOf (kind : StatusKind) : s.kindOf (Seed.status kind).id = .ok kind := by
  rw [InMemory.kindOf, hs.statuses]
  cases kind <;> rfl

/-- A number is that of a status if it leads to one. -/
theorem Filed.of_kindOf {id : RefId} {kind : StatusKind} (h : s.kindOf id = .ok kind) :
    id = (Seed.status kind).id := by
  rw [InMemory.kindOf, hs.statuses] at h
  cases hfound : new.statuses.find? fun status => status.id = id with
  | none => rw [hfound] at h; cases h
  | some status =>
    rw [hfound] at h
    have hid := List.find?_some hfound
    have hmem := List.mem_of_find?_eq_some hfound
    rw [← Except.ok.inj h, ← of_decide_eq_true hid]
    have hseeded : ∀ status ∈ new.statuses, status.id = (Seed.status status.kind).id := by decide
    exact hseeded status hmem

/-! ## Every call keeps a store filed -/

theorem Filed.putPoint (p : PickupPoint) :
    Filed { s with pickupPoints := s.pickupPoints.put p.id { p with city := none } } :=
  { hs with
    point_id := fun {id q} h => by
      rw [Table.get?_put] at h
      split at h
      · next heq => rw [← Option.some.inj h]; exact heq.symm
      · exact hs.point_id h }

theorem Filed.putReception {r : Reception} (hknown : ∃ kind, r.statusId = (Seed.status kind).id)
    (active : Table Uuid Uuid) :
    Filed { s with active, receptions := s.receptions.put r.id r } :=
  { hs with
    reception_id := fun {id r'} h => by
      rw [Table.get?_put] at h
      split at h
      · next heq => rw [← Option.some.inj h]; exact heq.symm
      · exact hs.reception_id h
    known := fun {id r'} h => by
      rw [Table.get?_put] at h
      split at h
      · rw [← Option.some.inj h]; exact hknown
      · exact hs.known h }

theorem Filed.putProduct (x : Product) :
    Filed { s with products := s.products.put x.id { x with typeName := none } } :=
  { hs with
    product_id := fun {id y} h => by
      rw [Table.get?_put] at h
      split at h
      · next heq => rw [← Option.some.inj h]; exact heq.symm
      · exact hs.product_id h }

theorem Filed.dropProduct (id : Uuid) : Filed { s with products := s.products.erase id } :=
  { hs with
    product_id := fun {id' y} h => by
      rw [Table.get?_erase] at h
      split at h
      · cases h
      · exact hs.product_id h }

theorem Filed.addReception (r : Reception) : (s.addReception r).2.Filed := by
  rw [InMemory.addReception]
  cases hkind : s.kindOf r.statusId with
  | error e => exact hs
  | ok kind =>
    have hknown : ∃ kind, r.statusId = (Seed.status kind).id := ⟨kind, hs.of_kindOf hkind⟩
    cases kind with
    | closed => exact hs.putReception (r := { r with status := none }) hknown s.active
    | inProgress =>
      simp only
      split
      · exact hs
      · exact hs.putReception (r := { r with status := none }) hknown _

theorem Filed.moveReception (id : Uuid) (source target : RefId) :
    (s.moveReception id source target).2.Filed := by
  rw [InMemory.moveReception]
  cases hsource : s.kindOf source with
  | error e => exact hs
  | ok sourceKind =>
    cases htarget : s.kindOf target with
    | error e => exact hs
    | ok targetKind =>
      cases hrow : s.receptions.get? id with
      | none => exact hs
      | some r =>
        by_cases hstatus : r.statusId = source
        · simp only [hstatus, if_true]
          cases hshift : s.shiftActive r sourceKind targetKind with
          | error e => exact hs
          | ok shifted =>
            cases shifted with
            | none => exact hs
            | some active =>
              have hid := hs.reception_id hrow
              rw [← hid]
              exact hs.putReception (r := { r with statusId := target })
                ⟨targetKind, hs.of_kindOf htarget⟩ active
        · simp only [hstatus, if_false]
          exact hs

/-- **Whatever it is asked, the store stays filed.** -/
theorem Filed.answer (c : Call) : (answer c s).2.Filed := by
  cases c with
  | addPickupPoint p =>
    rw [InMemory.answer, addPickupPoint]
    split
    · exact hs
    · exact hs.putPoint p
  | addReception r => exact hs.addReception r
  | moveReception id source target => exact hs.moveReception id source target
  | addProduct x =>
    rw [InMemory.answer, addProduct]
    split
    · exact hs
    · split
      · exact hs.putProduct x
      · exact hs
  | deleteProduct id => exact hs.dropProduct id
  | _ => exact { hs with }

/-! ## What is on the books -/

/-- The reception with its status. -/
def shown (s : InMemory) (r : Reception) : Reception :=
  { r with status := (s.kindOf r.statusId).toOption }

theorem Filed.resolveReception {r : Reception} (h : r ∈ s.receptions.rows) :
    s.resolveReception r = .ok (s.shown r) := by
  obtain ⟨⟨id, r⟩, hmem, rfl⟩ := List.mem_map.mp h
  obtain ⟨kind, hid⟩ := hs.known (Table.get?_eq_some_iff.mpr hmem)
  rw [InMemory.resolveReception, shown, hid, hs.kindOf]
  rfl

theorem Filed.hasPoint_iff {p : PickupPoint} :
    s.books.HasPoint p ↔ ∃ row ∈ s.pickupPoints.rows, s.resolvePoint row = p := by
  have hiff := Table.map_get?_iff s.pickupPoints (fun _ row => s.resolvePoint row)
    PickupPoint.id (x := p) fun e he => hs.point_id (p := e.2) (Table.get?_eq_some_iff.mpr he)
  refine hiff.trans ?_
  simp only [Table.rows, List.mem_map, exists_exists_and_eq_and]

theorem Filed.hasReception_iff {r : Reception} :
    s.books.HasReception r ↔ ∃ row ∈ s.receptions.rows, s.shown row = r := by
  have hiff := Table.map_get?_iff s.receptions (fun _ row => s.shown row)
    Reception.id (x := r) fun e he => hs.reception_id (r := e.2) (Table.get?_eq_some_iff.mpr he)
  have hsame : s.books.reception? r.id = (s.receptions.get? r.id).map s.shown := by
    simp only [books]
    cases hrow : s.receptions.get? r.id with
    | none => rfl
    | some row =>
      have hmem : row ∈ s.receptions.rows := List.mem_map_of_mem (Table.get?_eq_some_iff.mp hrow)
      rw [Option.bind_some, hs.resolveReception hmem]
      rfl
  rw [Books.HasReception, hsame]
  refine hiff.trans ?_
  simp only [Table.rows, List.mem_map, exists_exists_and_eq_and]

theorem Filed.hasProduct_iff {x : Product} :
    s.books.Has x ↔ ∃ row ∈ s.products.rows, s.resolveProduct row = x := by
  have hiff := Table.map_get?_iff s.products (fun _ row => s.resolveProduct row)
    Product.id (x := x) fun e he => hs.product_id (x := e.2) (Table.get?_eq_some_iff.mpr he)
  refine hiff.trans ?_
  simp only [Table.rows, List.mem_map, exists_exists_and_eq_and]

/-! ## Lists -/

omit hs in
/-- Rows under their own identifiers have distinct ones. -/
theorem nodup_ids {ρ : Type} {t : Table Uuid ρ} {id : ρ → Uuid}
    (hid : ∀ {key row}, t.get? key = some row → id row = key) : (t.rows.map id).Nodup := by
  have hkeys : t.rows.map id = t.entries.map Prod.fst := by
    rw [Table.rows, List.map_map]
    exact List.map_congr_left fun e he => hid (Table.get?_eq_some_iff.mpr he)
  rw [hkeys]
  exact t.nodup

theorem Filed.newestFirst :
    NewestFirst PickupPoint.recency (· ∈ s.pickupPoints.rows) s.newestFirst :=
  newestFirst_mergeSort _ (nodup_ids hs.point_id)

theorem Filed.hadReception_iff {bounds : Instant × Instant} {p : PickupPoint} :
    s.hadReception bounds p = true ↔ ∃ r, s.books.HasReception r ∧ r.pickupPoint = p.id ∧
      bounds.1.le r.opened = true ∧ r.opened.le bounds.2 = true := by
  simp only [hadReception, List.any_eq_true, Bool.and_eq_true, decide_eq_true_eq]
  constructor
  · rintro ⟨row, hmem, ⟨hp, hstart⟩, hstop⟩
    exact ⟨s.shown row, hs.hasReception_iff.mpr ⟨row, hmem, rfl⟩, hp, hstart, hstop⟩
  · rintro ⟨r, hr, hp, hstart, hstop⟩
    obtain ⟨row, hmem, rfl⟩ := hs.hasReception_iff.mp hr
    exact ⟨row, hmem, ⟨hp, hstart⟩, hstop⟩

/-- The filter for a window is on if it has two ends. -/
theorem Filed.inWindow (window : DateWindow) :
    NewestFirst PickupPoint.recency
      (fun row => row ∈ s.pickupPoints.rows ∧ s.books.InWindow window row) (s.inWindow window) := by
  rw [InMemory.inWindow]
  cases hbounds : window.bounds? with
  | none =>
    exact hs.newestFirst.congr fun row =>
      (and_iff_left (s.books.inWindow_of_none hbounds row)).symm
  | some bounds =>
    refine (hs.newestFirst.filter (s.hadReception bounds)).congr fun row => ?_
    refine and_congr_right fun _ => ?_
    exact hs.hadReception_iff.trans (s.books.inWindow_iff_of_some hbounds row).symm

theorem Filed.pointPage (q : PointQuery) : ∃ ps,
    NewestFirst PickupPoint.recency
        (fun p => s.books.HasPoint p ∧ s.books.InWindow q.window p) ps ∧
      s.pointPage q = (ps.drop q.offset).take q.limit := by
  refine ⟨(s.inWindow q.window).map s.resolvePoint, ?_, ?_⟩
  · refine ((hs.inWindow q.window).map s.resolvePoint fun _ => rfl).congr fun p => ?_
    rw [hs.hasPoint_iff]
    exact exists_shown_iff s.resolvePoint (R := s.books.InWindow q.window) fun _ => Iff.rfl
  · rw [InMemory.pointPage, List.map_take, List.map_drop]

theorem Filed.receptionsAt (ids : List Uuid) :
    OldestFirst Reception.recency (fun r => s.books.HasReception r ∧ r.pickupPoint ∈ ids)
      ((s.receptionsAt ids).map s.shown) := by
  have hids : ((s.receptions.rows.filter fun r => ids.contains r.pickupPoint).map
      Reception.id).Nodup :=
    (nodup_ids hs.reception_id).sublist (List.filter_sublist.map _)
  refine ((oldestFirst_mergeSort Reception.recency hids).map s.shown fun _ => rfl).congr
    fun r => ?_
  rw [hs.hasReception_iff]
  simp only [List.mem_filter, List.contains_iff_mem]
  exact exists_shown_iff s.shown (R := fun r => r.pickupPoint ∈ ids) fun _ => Iff.rfl

theorem Filed.productsOf (ids : List Uuid) :
    OldestFirst Product.recency (fun x => s.books.Has x ∧ x.reception ∈ ids)
      ((s.productsOf ids).map s.resolveProduct) := by
  have hids : ((s.products.rows.filter fun x => ids.contains x.reception).map Product.id).Nodup :=
    (nodup_ids hs.product_id).sublist (List.filter_sublist.map _)
  refine ((oldestFirst_mergeSort Product.recency hids).map s.resolveProduct fun _ => rfl).congr
    fun x => ?_
  rw [hs.hasProduct_iff]
  simp only [List.mem_filter, List.contains_iff_mem]
  exact exists_shown_iff s.resolveProduct (R := fun x => x.reception ∈ ids) fun _ => Iff.rfl

/-- **The lists of the store are those of its books.** -/
theorem Filed.lists (c : Call) : s.books.Lists c (InMemory.answer c s).1 := by
  cases c with
  | pickupPointPage q =>
    obtain ⟨ps, hps, hpage⟩ := hs.pointPage q
    exact ⟨ps, hps, congrArg Except.ok hpage⟩
  | allPickupPoints =>
    refine ⟨s.newestFirst.map s.resolvePoint, ?_, rfl⟩
    exact (hs.newestFirst.map s.resolvePoint fun _ => rfl).congr fun p => hs.hasPoint_iff.symm
  | receptionsAt ids =>
    refine ⟨_, hs.receptionsAt ids, mapM_ok fun row hrow => ?_⟩
    exact hs.resolveReception (List.mem_filter.mp ((List.mergeSort_perm ..).mem_iff.mp hrow)).1
  | productsOf ids => exact ⟨_, hs.productsOf ids, rfl⟩
  | _ => trivial

end Reading
end InMemory
end PickupLedger
