import Mathlib.Data.Set.Card
import PickupLedger.Proofs.Backends
import PickupLedger.Proofs.Conservation
import PickupLedger.Proofs.Counting

/-!
# The counts and the store

What the service has counted can be checked against what the store holds.  A decision that
achieves something adds one record, or takes one away, or ends one reception, and no other
decision does; so the achievements of an account number the records on its books
(`Account.Numbers`).  A store has as many rows in its tables as there are records on its
books (`Books.Tallies`), and at rest every achievement has been counted
(`SideBySide.Counted.at_rest`): then the counts account for the store.
-/

namespace PickupLedger

/-! ## How many records there are -/

section Tally
variable {α : Type}

/-- **How many identifiers** a record stands under. -/
noncomputable def tally (f : Uuid → Option α) : ℕ∞ := {id | f id ≠ none}.encard

theorem tally_congr {β : Type} {f : Uuid → Option α} {g : Uuid → Option β}
    (h : ∀ id, f id = none ↔ g id = none) : tally f = tally g := by
  have hset : {id | f id ≠ none} = {id | g id ≠ none} := Set.ext fun id => not_congr (h id)
  rw [tally, tally, hset]

theorem tally_none : tally (fun _ => (none : Option α)) = 0 := by simp [tally]

section Entry
variable {f : Uuid → Option α} {id : Uuid}

/-- A record under a free identifier is one more. -/
theorem tally_put (h : f id = none) (x : α) :
    tally (fun id' => if id' = id then some x else f id') = tally f + 1 := by
  have hset : {id' | (if id' = id then some x else f id') ≠ none} =
      insert id {id | f id ≠ none} := by
    ext id'
    by_cases heq : id' = id <;> simp [heq]
  rw [tally, hset, Set.encard_insert_of_notMem (by simpa using h), tally]

/-- A record in the place of another one is no more. -/
theorem tally_replace (h : f id ≠ none) (x : α) :
    tally (fun id' => if id' = id then some x else f id') = tally f := by
  refine tally_congr fun id' => ?_
  split
  · next heq => simp [heq, h]
  · rfl

/-- Without a record there is one less. -/
theorem tally_drop (h : f id ≠ none) :
    tally (fun id' => if id' = id then none else f id') + 1 = tally f := by
  have hset : {id' | (if id' = id then none else f id') ≠ none} = {id | f id ≠ none} \ {id} := by
    ext id'
    by_cases heq : id' = id <;> simp [heq]
  rw [tally, hset, Set.encard_sdiff_singleton_add_one (by simpa using h), tally]

end Entry

/-- The rows of a table that pass a test are as many as their keys. -/
theorem Table.tally_filter (t : Table Uuid α) (p : α → Bool) :
    tally (fun id => (t.get? id).filter p) = t.entries.countP fun e => p e.2 := by
  have hkeys : ((t.entries.filter fun e => p e.2).map Prod.fst).Nodup :=
    t.nodup.sublist (List.filter_sublist.map _)
  have hset : {id | (t.get? id).filter p ≠ none} =
      ((t.entries.filter fun e => p e.2).map Prod.fst).toFinset := by
    ext id
    simp only [Set.mem_ofPred_eq, List.coe_toFinset, List.mem_map, List.mem_filter,
      Option.ne_none_iff_exists', Option.filter_eq_some_iff, Table.get?_eq_some_iff]
    constructor
    · rintro ⟨x, hx, hp⟩
      exact ⟨(id, x), ⟨hx, hp⟩, rfl⟩
    · rintro ⟨⟨_, x⟩, ⟨hx, hp⟩, rfl⟩
      exact ⟨x, hx, hp⟩
  rw [tally, hset, Set.encard_coe_eq_coe_finsetCard, List.toFinset_card_of_nodup hkeys,
    List.length_map, List.countP_eq_length_filter]

theorem Table.tally_get? (t : Table Uuid α) : tally t.get? = t.entries.length := by
  have hall := t.tally_filter fun _ => true
  have hsame : ∀ o : Option α, o.filter (fun _ => true) = o := fun o => by cases o <;> rfl
  simp only [hsame, List.countP_true] at hall
  exact hall

end Tally

/-- The closed receptions, by identifier. -/
def Books.closed? (b : Books) (id : Uuid) : Option Reception :=
  (b.reception? id).filter fun r => r.status = some .closed

namespace Books
variable {b : Books} {r : Reception}

theorem closed?_inProgress (hr : b.InProgress r) : b.closed? r.id = none := by
  rw [closed?, hr.1, Option.filter_some, hr.2]
  rfl

/-- A reception that starts closes none. -/
theorem closed?_opened (hnew : b.reception? r.id = none) (hr : r.status = some .inProgress) :
    (b.putReception r).closed? = b.closed? := by
  funext id
  simp only [closed?, putReception_reception?]
  split
  · next heq => simp [heq, hnew, hr]
  · rfl

theorem closed?_closed : (b.putReception r.ended).closed? =
    fun id => if id = r.id then some r.ended else b.closed? id := by
  funext id
  simp only [closed?, putReception_ended]
  split <;> rfl

end Books

/-! ## What an account achieves -/

/-- **The achievements of an account number its records.** -/
structure Account.Numbers (a : Account) : Prop where
  points : tally a.books.point? = a.achieved .pointsCreated
  receptions : tally a.books.reception? = a.achieved .receptionsCreated
  closed : tally a.books.closed? = a.achieved .receptionsClosed
  products : tally a.books.product? + a.achieved .productsRemoved = a.achieved .productsAdded

namespace Account

theorem start_numbers : start.Numbers where
  points := tally_none
  receptions := tally_none
  closed := tally_none
  products := by
    show tally (fun _ => (none : Option Product)) + 0 = 0
    rw [tally_none, add_zero]

theorem achieved_cons (a : Account) (d : Decision) (b : Books) (k : Counter) :
    achieved ⟨d :: a.decided, b⟩ k = a.achieved k + if d.achieved? = some k then 1 else 0 := by
  simp only [achieved, List.countP_cons, decide_eq_true_eq]

section Step
variable {a : Account} {d : Decision} {b : Books} {k : Option Counter}

/-- A decision that achieves as much as it adds to the books. -/
theorem Numbers.decide (h : a.Numbers) (hk : d.achieved? = k)
    (hpoints : tally b.point? = tally a.books.point? + if k = some .pointsCreated then 1 else 0)
    (hreceptions : tally b.reception? =
      tally a.books.reception? + if k = some .receptionsCreated then 1 else 0)
    (hclosed : tally b.closed? =
      tally a.books.closed? + if k = some .receptionsClosed then 1 else 0)
    (hproducts : tally b.product? + (if k = some .productsRemoved then 1 else 0) =
      tally a.books.product? + if k = some .productsAdded then 1 else 0) :
    Numbers ⟨d :: a.decided, b⟩ where
  points := by rw [achieved_cons, hk, hpoints, h.points]; push_cast; rfl
  receptions := by rw [achieved_cons, hk, hreceptions, h.receptions]; push_cast; rfl
  closed := by rw [achieved_cons, hk, hclosed, h.closed]; push_cast; rfl
  products := by
    -- What is removed and what is there now make up what was there and what is added.
    rw [achieved_cons, achieved_cons, hk, Nat.cast_add, Nat.cast_add, ← h.products]
    push_cast
    rw [add_comm (a.achieved .productsRemoved : ℕ∞), ← add_assoc, hproducts, add_right_comm]

end Step

/-- **Each decision achieves what it changes.** -/
theorem Next.numbers {a a' : Account} (hnext : a.Next a') (h : a.Numbers) : a'.Numbers := by
  cases hnext with
  | @decide d b hdecides hfresh =>
    obtain ⟨task, request, verdict⟩ := d
    cases hdecides with
    | refused q failure =>
      refine h.decide (k := none) rfl ?_ ?_ ?_ ?_ <;> simp only [reduceCtorEq, if_false, add_zero]
    | found hp =>
      refine h.decide (k := none) rfl ?_ ?_ ?_ ?_ <;> simp only [reduceCtorEq, if_false, add_zero]
    | created hcity hfree =>
      refine h.decide (k := some .pointsCreated) rfl ?_ ?_ ?_ ?_ <;>
        simp only [Option.some.injEq, reduceCtorEq, if_true, if_false, add_zero]
      · exact tally_put hfree _
      · rfl
      · rfl
      · rfl
    | @opened stamp p hnew hfree =>
      refine h.decide (k := some .receptionsCreated) rfl ?_ ?_ ?_ ?_ <;>
        simp only [Option.some.injEq, reduceCtorEq, if_true, if_false, add_zero]
      · rfl
      · exact tally_put hnew _
      · rw [Books.closed?_opened hnew rfl]
      · rfl
    | @closed r hr =>
      refine h.decide (k := some .receptionsClosed) rfl ?_ ?_ ?_ ?_ <;>
        simp only [Option.some.injEq, reduceCtorEq, if_true, if_false, add_zero]
      · rfl
      · exact tally_replace (by rw [Reception.ended_id, hr.1]; exact Option.some_ne_none r) _
      · rw [Books.closed?_closed]
        exact tally_put (Books.closed?_inProgress hr) _
      · rfl
    | added htype hnew hr =>
      refine h.decide (k := some .productsAdded) rfl ?_ ?_ ?_ ?_ <;>
        simp only [Option.some.injEq, reduceCtorEq, if_true, if_false, add_zero]
      · rfl
      · rfl
      · rfl
      · exact tally_put hnew _
    | removed hx hr =>
      refine h.decide (k := some .productsRemoved) rfl ?_ ?_ ?_ ?_ <;>
        simp only [Option.some.injEq, reduceCtorEq, if_true, if_false, add_zero]
      · rfl
      · rfl
      · rfl
      · exact tally_drop (by rw [hx]; exact Option.some_ne_none _)

/-- **Every account has as many records as it achieved.** -/
theorem Reaches.numbers {a : Account} (h : Reaches .start a) : a.Numbers := by
  induction h with
  | refl => exact start_numbers
  | tail _ hnext ih => exact hnext.numbers ih

end Account

/-! ## Rows and records -/

/-- **How many rows** a store has in its tables. -/
structure Census where
  points : Nat
  receptions : Nat
  /-- The receptions under the number of each status. -/
  closed : Nat
  inProgress : Nat
  products : Nat
  deriving DecidableEq, Repr

namespace Census

/-- The rows of tables, whatever else these hold; a reception's row has a status. -/
def ofTables {α β γ : Type} (points : Table Uuid α) (receptions : Table Uuid β)
    (statusId : β → RefId) (products : Table Uuid γ) : Census where
  points := points.entries.length
  receptions := receptions.entries.length
  closed := receptions.entries.countP fun e => statusId e.2 = Seed.closedId
  inProgress := receptions.entries.countP fun e => statusId e.2 = Seed.inProgressId
  products := products.entries.length

end Census

/-- The rows of the store in memory. -/
def InMemory.census (s : InMemory) : Census :=
  .ofTables s.pickupPoints s.receptions Reception.statusId s.products

/-- The rows of a database. -/
def Database.census (db : Database) : Census :=
  .ofTables db.records.pickupPoints db.records.receptions ReceptionRow.statusId db.records.products

/-- The rows of a store of either kind. -/
def Backend.census : Backend → Census
  | .memory store => store.census
  | .database db => db.census

/-- **The books have a record for each row.** -/
structure Books.Tallies (b : Books) (n : Census) : Prop where
  points : tally b.point? = n.points
  receptions : tally b.reception? = n.receptions
  closed : tally b.closed? = n.closed
  /-- A reception is in one of two states. -/
  states : n.receptions = n.closed + n.inProgress
  products : tally b.product? = n.products

/-- Tables with a row for each record have as many. -/
theorem Books.tallies_ofTables {α β γ : Type} {b : Books} {points : Table Uuid α}
    {receptions : Table Uuid β} {statusId : β → RefId} {products : Table Uuid γ}
    (hpoint : ∀ id, b.point? id = none ↔ points.get? id = none)
    (hreception : ∀ id, b.reception? id = none ↔ receptions.get? id = none)
    (hclosed : ∀ id, b.closed? id = none ↔
      (receptions.get? id).filter (fun row => statusId row = Seed.closedId) = none)
    (hknown : ∀ {id row}, receptions.get? id = some row →
      statusId row = Seed.inProgressId ∨ statusId row = Seed.closedId)
    (hproduct : ∀ id, b.product? id = none ↔ products.get? id = none) :
    b.Tallies (.ofTables points receptions statusId products) where
  points := (tally_congr hpoint).trans points.tally_get?
  receptions := (tally_congr hreception).trans receptions.tally_get?
  closed := (tally_congr hclosed).trans (receptions.tally_filter _)
  states := by
    have hrest :
        (receptions.entries.countP fun e => ¬ decide (statusId e.2 = Seed.closedId) = true) =
          receptions.entries.countP fun e => statusId e.2 = Seed.inProgressId := by
      refine List.countP_congr fun e he => ?_
      rcases hknown (Table.get?_eq_some_iff.mpr he) with h | h <;> rw [h] <;> decide
    simp only [Census.ofTables]
    rw [← hrest]
    exact List.length_eq_countP_add_countP _
  products := (tally_congr hproduct).trans products.tally_get?

theorem InMemory.Sound.tallies {s : InMemory} (hs : s.Sound) : s.books.Tallies s.census := by
  refine Books.tallies_ofTables (fun id => Option.map_eq_none_iff) (fun id => ?_) (fun id => ?_)
    hs.known (fun id => Option.map_eq_none_iff)
  · refine ⟨hs.reception?_eq_none, fun h => ?_⟩
    simp only [InMemory.books, h, Option.bind_none]
  · cases hrow : s.receptions.get? id with
    | none => simp only [Books.closed?, InMemory.books, hrow, Option.bind_none, Option.filter_none]
    | some row =>
      simp only [Books.closed?, InMemory.books, hrow, Option.bind_some, Option.filter_some]
      rcases hs.known hrow with hid | hid
      · rw [hs.resolveReception_inProgress hid, hid]
        simp [Except.toOption, InMemory.closedId_ne_inProgressId.symm]
      · rw [hs.resolveReception_closed hid, hid]; simp [Except.toOption]

theorem Database.Sound.tallies {db : Database} (hs : db.Sound) : db.books.Tallies db.census := by
  refine Books.tallies_ofTables (fun id => Option.map_eq_none_iff) (fun id => ?_) (fun id => ?_)
    hs.known (fun id => Option.map_eq_none_iff)
  · refine ⟨hs.reception?_eq_none, fun h => ?_⟩
    simp only [Database.books, h, Option.bind_none]
  · cases hrow : db.records.receptions.get? id with
    | none => simp only [Books.closed?, Database.books, hrow, Option.bind_none, Option.filter_none]
    | some row =>
      simp only [Books.closed?, Database.books, hrow, Option.bind_some, Option.filter_some]
      rcases hs.known hrow with hid | hid
      · rw [hs.receptionOf_inProgress id hid, hid]
        simp [Except.toOption, Reception.begun, InMemory.closedId_ne_inProgressId.symm]
      · rw [hs.receptionOf_closed id hid, hid]
        simp [Except.toOption, Reception.ended, Reception.withStatus, Seed.status]

theorem Backend.tallies {store : Backend} (hs : Bookkeeping.Sound store) :
    (Bookkeeping.books store).Tallies store.census := by
  cases store with
  | memory store => exact InMemory.Sound.tallies hs
  | database db => exact Database.Sound.tallies hs

/-! ## Counts that account for a store -/

/-- **Counts account for a store** that holds so many rows. -/
structure Counters.AccountFor (c : Counters) (n : Census) : Prop where
  points : c.pointsCreated = n.points
  receptions : c.receptionsCreated = n.receptions
  closed : c.receptionsClosed = n.closed
  inProgress : c.receptionsCreated = c.receptionsClosed + n.inProgress
  products : c.productsAdded = c.productsRemoved + n.products

/-- What is counted when every achievement of the account is. -/
theorem Account.Numbers.accountFor {a : Account} {n : Census} {c : Counters} (ha : a.Numbers)
    (hn : a.books.Tallies n) (hc : ∀ k, c.get k = a.achieved k) : c.AccountFor n := by
  have hpoints : c.pointsCreated = n.points :=
    (hc .pointsCreated).trans (Nat.cast_injective (ha.points.symm.trans hn.points))
  have hreceptions : c.receptionsCreated = n.receptions :=
    (hc .receptionsCreated).trans (Nat.cast_injective (ha.receptions.symm.trans hn.receptions))
  have hclosed : c.receptionsClosed = n.closed :=
    (hc .receptionsClosed).trans (Nat.cast_injective (ha.closed.symm.trans hn.closed))
  have hproducts : n.products + c.productsRemoved = c.productsAdded := by
    have htally := ha.products
    rw [hn.products, ← hc, ← hc] at htally
    exact_mod_cast htally
  have hstates := hn.states
  exact ⟨hpoints, hreceptions, hclosed, by omega, by omega⟩

open SideBySide in
/-- **Products are conserved, and the counts account for the store.**  Whatever operations
run side by side on a new store, and in whatever order they take their steps: each product
comes in by one addition and goes by one removal, which return it, and operations that fail
move none; and whenever no operation is in flight, what has been counted is what is there. -/
theorem products_conserved_and_counted {store : Backend} (hnew : store.IsNew)
    {requests : List Request} (hids : (requests.filterMap Request.fresh?).Nodup)
    (schedule : List Nat) :
    let y := SideBySide.start store requests
    y.Conserves schedule ∧ ((y.run schedule).AtRest →
      (y.run schedule).world.counters.AccountFor (y.run schedule).world.store.census) := by
  intro y
  have hy : y.Regular := start_regular hnew.sound hnew.books hids
  constructor
  · refine hy.conserves (start_result? store requests) (fun x hhas => ?_) schedule
    have hempty : y.books = .empty := hnew.books
    rw [hempty] at hhas
    cases hhas
  · intro hrest
    exact (hnew.reaches hids schedule).numbers.accountFor
      (Backend.tallies (hy.run schedule).sound)
      (((start_counted store requests).run schedule).at_rest hrest)

/-- Two products go into a reception; then two removals reach for the last one. -/
def twoRemovals : List Request :=
  [.create ⟨.epoch, .generated 0⟩ (.ofNat 1) "Москва" none,
    .openAt ⟨.epoch, .generated 1⟩ (.ofNat 1), .addTo ⟨.epoch, .generated 2⟩ (.ofNat 1) "обувь",
    .addTo ⟨.epoch, .generated 3⟩ (.ofNat 1) "одежда", .removeFrom (.ofNat 1),
    .removeFrom (.ofNat 1)]

/-- The removals take their steps in turn; at the end everything has been counted. -/
def twoRemovalsSchedule : List Nat :=
  [0, 0, 0, 1, 1, 1, 1, 1, 2, 2, 2, 2, 3, 3, 3, 3, 4, 5, 4, 5, 4, 5, 4, 5, 4]

open SideBySide in
/-- **Of two removals that reach for one product one fails**, and one product is counted as
removed. -/
theorem two_removals_take_one_product :
    let y := SideBySide.start (Backend.memory .new) twoRemovals
    let z := y.run twoRemovalsSchedule
    z.result? 5 = some (.error (.notFound "Product" "id" (Uuid.generated 3).text)) ∧
      z.world.counters = ⟨1, 1, 0, 2, 1⟩ ∧ z.world.store.census = ⟨1, 1, 0, 1, 1⟩ ∧
      y.Conserves twoRemovalsSchedule ∧ z.world.counters.AccountFor z.world.store.census := by
  have hids : (twoRemovals.filterMap Request.fresh?).Nodup := by decide
  obtain ⟨hconserves, hcounted⟩ :=
    products_conserved_and_counted .memory hids twoRemovalsSchedule
  have hend : ∀ t ∈ ((SideBySide.start (Backend.memory .new) twoRemovals).run
      twoRemovalsSchedule).tasks, t.program.result?.isSome := by decide
  have hrest := hcounted fun t ht => .inr (Option.isSome_iff_ne_none.mp (hend t ht))
  exact ⟨rfl, by decide, by decide, hconserves, hrest⟩

end PickupLedger
