import PickupLedger.Proofs.Backends

/-!
# The gate of a reception

A product gets in only while its reception is in progress.  The operation looks the
reception up first and adds the product two calls later, and in between the reception may
have ended and another one may have been opened; but the store looks again, in the very
step that adds the product.  So every step that adds one (`SideBySide.Inserts`) adds it to a
reception in progress at the pickup point that the operation was asked for, and there is
exactly one such step for each success, and none for a failure.
-/

namespace PickupLedger
namespace SideBySide

variable {σ : Type} [Storage σ] [Bookkeeping σ]

/-- **A step of a task puts a product on the books.** -/
def Inserts (y : SideBySide σ) (i : Nat) (x : Product) : Prop :=
  ¬ y.books.Has x ∧ (y.tick i).books.Has x

/-- The step of a schedule at some place is one of the task, and puts a product on the books. -/
def InsertsAt (y : SideBySide σ) (schedule : List Nat) (n i : Nat) (x : Product) : Prop :=
  schedule[n]? = some i ∧ (y.run (schedule.take n)).Inserts i x

/-- The decision that puts a product on the books. -/
theorem Regular.inserts {y : SideBySide σ} (hy : y.Regular) {i : Nat} {x : Product}
    (h : y.Inserts i x) : ∃ stamp typeName r,
      y.request? i = some (.addTo stamp r.pickupPoint typeName) ∧ y.result? i = none ∧
        (y.tick i).result? i = some (.ok (.product x)) ∧ r.id = x.reception ∧
        y.books.InProgress r := by
  obtain ⟨hbefore, hafter⟩ := h
  rcases (hy.tick_account i).2 with hsame | ⟨t, v, hi, ht, hdecided, hdecides⟩
  · have hbooks : (y.tick i).books = y.books := congrArg Account.books hsame
    exact absurd (hbooks ▸ hafter) hbefore
  · have hrequest : y.request? i = some t.request := congrArg (Option.map Task.request) hi
    have hopen : y.result? i = none := by rw [result?, hi]; exact ht
    have hresult : (y.tick i).result? i = some v := by
      have hmem : ⟨i, t.request, v⟩ ∈ (y.tick i).decided := by
        rw [hdecided]; exact List.mem_cons_self
      exact ((hy.tick i).mem_decided.mp hmem).2
    generalize (y.tick i).books = b at hafter hdecides
    generalize hq : t.request = q at hrequest hdecides
    cases hdecides with
    | refused _ failure => exact absurd hafter hbefore
    | created hcity hfree => exact absurd hafter hbefore
    | found hp => exact absurd hafter hbefore
    | opened hnew hfree => exact absurd hafter hbefore
    | closed hr => exact absurd hafter hbefore
    | removed hx hr => exact absurd ((Books.has_dropProduct ..).mp hafter).2 hbefore
    | @added stamp r typeName type htype hnew hr =>
      rcases (Books.has_putProduct ..).mp hafter with rfl | ⟨-, hhad⟩
      · exact ⟨stamp, typeName, r, hrequest, hopen, hresult, rfl, hr⟩
      · exact absurd hhad hbefore

/-- An operation that succeeds put what it returns on the books at some step. -/
theorem Regular.exists_insertsAt {y : SideBySide σ} (hy : y.Regular) (schedule : List Nat) {i : Nat}
    {stamp : Stamp} {p : Uuid} {typeName : String} {o : Outcome}
    (hrequest : y.request? i = some (.addTo stamp p typeName)) (hopen : y.result? i = none)
    (hresult : (y.run schedule).result? i = some (.ok o)) :
    ∃ n r type, Seed.productType? typeName = some type ∧
      o = .product (.ofType stamp.fresh r.id stamp.now type) ∧
      (y.run (schedule.take n)).books.InProgress r ∧ r.pickupPoint = p ∧
      y.InsertsAt schedule n i (.ofType stamp.fresh r.id stamp.now type) := by
  have hmem : ⟨i, .addTo stamp p typeName, .ok o⟩ ∈ (y.run schedule).decided :=
    (hy.run schedule).mem_decided.mpr ⟨(run_request? y schedule i).trans hrequest, hresult⟩
  have hnot : ⟨i, .addTo stamp p typeName, .ok o⟩ ∉ y.decided := fun h => by
    have hsettled := (hy.mem_decided.mp h).2
    rw [hopen] at hsettled
    cases hsettled
  obtain ⟨n, hn, hdecides⟩ := hy.exists_step schedule hmem hnot
  generalize hafter : ((y.run (schedule.take n)).tick i).books = b at hdecides
  cases hdecides with
  | @added _ r _ type htype hnew hr =>
    refine ⟨n, r, type, htype, rfl, hr, rfl, hn, fun hhad => ?_, ?_⟩
    · have hfound := hnew.symm.trans hhad
      cases hfound
    · rw [hafter]
      exact (Books.has_putProduct ..).mpr (.inl rfl)

/-- A step that puts a product on the books settles its operation with that product. -/
theorem Regular.result_of_insertsAt {y : SideBySide σ} (hy : y.Regular) {schedule : List Nat}
    {n i : Nat} {x : Product} (h : y.InsertsAt schedule n i x) :
    (y.run schedule).result? i = some (.ok (.product x)) := by
  obtain ⟨hn, hinserts⟩ := h
  have hbefore := hy.run (schedule.take n)
  have hafter := hbefore.tick i
  obtain ⟨stamp, typeName, r, hrequest, -, hresult, -⟩ := hbefore.inserts hinserts
  have hrequest := (tick_request? _ i i).trans hrequest
  have hmem : ⟨i, _, _⟩ ∈ ((y.run (schedule.take n)).tick i).decided :=
    hafter.mem_decided.mpr ⟨hrequest, hresult⟩
  rw [y.run_split hn]
  exact ((hafter.run _).mem_decided.mp (hafter.run_decided _ hmem)).2

/-- An operation is settled after a step that puts a product on the books, so no later step
of it does. -/
theorem Regular.not_insertsAt_later {y : SideBySide σ} (hy : y.Regular) {schedule : List Nat}
    {n n' i : Nat} {x x' : Product} (h : y.InsertsAt schedule n i x) (hlt : n < n') :
    ¬ y.InsertsAt schedule n' i x' := by
  rintro ⟨hn', hinserts'⟩
  -- Before the later step the operation has no result yet, but it has since the earlier one.
  obtain ⟨-, -, -, -, hopen, -⟩ := (hy.run _).inserts hinserts'
  have hearlier : y.InsertsAt (schedule.take n') n i x := by
    refine ⟨?_, ?_⟩
    · rw [List.getElem?_take_of_lt hlt]
      exact h.1
    · rw [List.take_take, Nat.min_eq_left (Nat.le_of_lt hlt)]
      exact h.2
  rw [hy.result_of_insertsAt hearlier] at hopen
  cases hopen

/-- **One operation puts one product on the books, once.** -/
theorem Regular.insertsAt_unique {y : SideBySide σ} (hy : y.Regular) {schedule : List Nat}
    {n n' i : Nat} {x x' : Product} (h : y.InsertsAt schedule n i x)
    (h' : y.InsertsAt schedule n' i x') : n' = n ∧ x' = x := by
  constructor
  · rcases Nat.lt_trichotomy n n' with hlt | heq | hlt
    · exact absurd h' (hy.not_insertsAt_later h hlt)
    · exact heq.symm
    · exact absurd h (hy.not_insertsAt_later h' hlt)
  · have hsame := (hy.result_of_insertsAt h).symm.trans (hy.result_of_insertsAt h')
    simpa using hsame.symm

end SideBySide

/-! ## On a store -/

open SideBySide in
/-- **The gate of a reception.**  Whatever operations run side by side on a new store, and
in whatever order they take their steps: each step that puts a product on the books puts it
into a reception that is in progress then, at the pickup point that the operation was asked
for; an operation that succeeds puts what it returns on the books, once, and nothing else;
and one that fails puts nothing there. -/
theorem products_enter_receptions_in_progress {store : Backend} (hnew : store.IsNew)
    {requests : List Request} (hids : (requests.filterMap Request.fresh?).Nodup)
    (schedule : List Nat) :
    let y := SideBySide.start store requests
    (∀ n i x, y.InsertsAt schedule n i x → ∃ stamp p typeName r,
      requests[i]? = some (.addTo stamp p typeName) ∧
        (y.run (schedule.take n)).books.InProgress r ∧ r.id = x.reception ∧ r.pickupPoint = p) ∧
    (∀ i stamp p typeName o, requests[i]? = some (.addTo stamp p typeName) →
      (y.run schedule).result? i = some (.ok o) → ∃ n r type,
        Seed.productType? typeName = some type ∧
        o = .product (.ofType stamp.fresh r.id stamp.now type) ∧
        (y.run (schedule.take n)).books.InProgress r ∧ r.pickupPoint = p ∧
        ∀ n' x, y.InsertsAt schedule n' i x ↔
          n' = n ∧ x = .ofType stamp.fresh r.id stamp.now type) ∧
    ∀ i stamp p typeName failure, requests[i]? = some (.addTo stamp p typeName) →
      (y.run schedule).result? i = some (.error failure) →
        ∀ n x, ¬ y.InsertsAt schedule n i x := by
  intro y
  have hy : y.Regular := start_regular hnew.sound hnew.books hids
  refine ⟨?_, ?_, ?_⟩
  · intro n i x h
    obtain ⟨stamp, typeName, r, hrequest, -, -, hid, hr⟩ := (hy.run _).inserts h.2
    rw [run_request?, start_request?] at hrequest
    exact ⟨stamp, _, typeName, r, hrequest, hr, hid, rfl⟩
  · intro i stamp p typeName o hrequest hresult
    have hrequest := (start_request? store requests i).trans hrequest
    obtain ⟨n, r, type, htype, ho, hr, hp, hinserts⟩ :=
      hy.exists_insertsAt schedule hrequest (start_result? store requests i) hresult
    refine ⟨n, r, type, htype, ho, hr, hp, fun n' x => ⟨hy.insertsAt_unique hinserts, ?_⟩⟩
    rintro ⟨rfl, rfl⟩
    exact hinserts
  · intro i stamp p typeName failure _ hresult n x h
    rw [hy.result_of_insertsAt h] at hresult
    cases hresult

/-- Two products, and between them the reception is closed and another one opened. -/
def lateProduct : List Request :=
  [.create ⟨.epoch, .generated 0⟩ (.ofNat 1) "Москва" none,
    .openAt ⟨.epoch, .generated 1⟩ (.ofNat 1), .addTo ⟨.epoch, .generated 2⟩ (.ofNat 1) "обувь",
    .closeAt (.ofNat 1), .openAt ⟨.epoch, .generated 4⟩ (.ofNat 1),
    .addTo ⟨.epoch, .generated 5⟩ (.ofNat 1) "одежда"]

/-- The first product has one call left when the reception is closed and another one opened. -/
def lateProductSchedule : List Nat := [0, 0, 1, 1, 1, 1, 2, 2, 3, 3, 3, 4, 4, 4, 4, 2, 5, 5, 5]

open SideBySide in
/-- **A product that comes late is refused**, also where there is a new reception for it; the
next product is in the new one. -/
theorem late_product_enters_no_reception :
    let y := SideBySide.start (Backend.memory .new) lateProduct
    let r := Reception.begun (.generated 4) (.ofNat 1) .epoch
    let x := Product.ofType (.generated 5) r.id .epoch ⟨2, "одежда"⟩
    (∀ n x, ¬ y.InsertsAt lateProductSchedule n 2 x) ∧
      (∃ n, ∀ n' x', y.InsertsAt lateProductSchedule n' 5 x' ↔ n' = n ∧ x' = x) ∧
      ∀ n i x, y.InsertsAt lateProductSchedule n i x → ∃ stamp p typeName r,
        lateProduct[i]? = some (.addTo stamp p typeName) ∧
          (y.run (lateProductSchedule.take n)).books.InProgress r ∧ r.id = x.reception ∧
          r.pickupPoint = p := by
  have hids : (lateProduct.filterMap Request.fresh?).Nodup := by decide
  obtain ⟨hinserts, hok, herror⟩ :=
    products_enter_receptions_in_progress .memory hids lateProductSchedule
  have hrefused := herror 2 _ _ _ (.noActiveReception (.ofNat 1)) rfl rfl
  obtain ⟨n, r', type, -, hform, -, -, hunique⟩ :=
    hok 5 _ _ _ (.product (.ofType (.generated 5) (.generated 4) .epoch ⟨2, "одежда"⟩)) rfl rfl
  rw [← Outcome.product.inj hform] at hunique
  exact ⟨hrefused, ⟨n, hunique⟩, hinserts⟩

end PickupLedger
