import PickupLedger.Proofs.Accounts
import PickupLedger.Proofs.Ledger

/-!
# A ledger and the books of a store

The books of a store are flat: every record stands under its own identifier and says where
it belongs.  In a `Ledger` it stands where it belongs.  The books are kept as the ledger
says (`Ledger.Kept`) when each tells the same records as the other.

For that the identifiers have to be good: a record of the books is under one pickup point
of the ledger only because no identifier is given twice, and products stand in the order in
which they were added because identifiers grow.
-/

namespace PickupLedger

namespace Ledger

/-- **The books say what the ledger says**, with the identifiers that were issued so far. -/
structure Kept (l : Ledger) (b : Books) (issued : List Uuid) : Prop where
  regular : b.Regular issued
  point : ∀ id, b.point? id = (l.get? id).map fun s => s.point id
  reception : ∀ {id r}, b.reception? id = some r ↔
    ∃ p i, l.intake? p id = some i ∧ r = i.reception id p
  product : ∀ {id x}, b.product? id = some x ↔
    ∃ p reception i, l.item? p reception id = some i ∧ x = i.product id reception
  /-- Products are in the order of their identifiers. -/
  ordered : ∀ {p id i}, l.intake? p id = some i →
    i.items.entries.Pairwise fun e e' => e.1.value < e'.1.value

theorem empty_kept : Kept .empty .empty [] where
  regular := Books.regular_empty
  point _ := rfl
  reception {id r} := by
    refine iff_of_false (by simp [Books.empty]) ?_
    rintro ⟨p, i, h, -⟩
    cases h
  product {id x} := by
    refine iff_of_false (by simp [Books.empty]) ?_
    rintro ⟨p, reception, i, h, -⟩
    cases h
  ordered h := by cases h

section Facts
variable {l : Ledger} {b : Books} {ids : List Uuid} (h : l.Kept b ids)
include h

theorem Kept.mono {ids' : List Uuid} (hids : ∀ id ∈ ids, id ∈ ids') : l.Kept b ids' :=
  { h with regular := h.regular.mono hids }

theorem Kept.get?_none {id : Uuid} (hp : b.point? id = none) : l.get? id = none := by
  rw [h.point] at hp
  exact Option.map_eq_none_iff.mp hp

theorem Kept.get?_some {id : Uuid} {p : PickupPoint} (hp : b.point? id = some p) :
    ∃ site, l.get? id = some site ∧ p = site.point id := by
  rw [h.point] at hp
  obtain ⟨site, hsite, hform⟩ := Option.map_eq_some_iff.mp hp
  exact ⟨site, hsite, hform.symm⟩

/-- A reception stands under one pickup point. -/
theorem Kept.intake_unique {p p' id : Uuid} {i i' : Intake} (hi : l.intake? p id = some i)
    (hi' : l.intake? p' id = some i') : p' = p := by
  have hr := h.reception.mpr ⟨p, i, hi, rfl⟩
  have hr' := h.reception.mpr ⟨p', i', hi', rfl⟩
  exact congrArg Reception.pickupPoint (Option.some.inj (hr'.symm.trans hr))

/-- An identifier that is greater than those that were issued is that of no reception. -/
theorem Kept.intake?_fresh {fresh : Uuid} (hlt : ∀ id ∈ ids, id.value < fresh.value) (p : Uuid) :
    l.intake? p fresh = none := by
  cases hi : l.intake? p fresh with
  | none => rfl
  | some i =>
    have hissued := h.regular.reception_issued (h.reception.mpr ⟨p, i, hi, rfl⟩)
    exact absurd (hlt _ hissued) (Nat.lt_irrefl _)

/-- A pickup point has one reception in progress. -/
theorem Kept.inProgress_unique {p id id' : Uuid} {i i' : Intake} (hi : l.intake? p id = some i)
    (hin : i.status = .inProgress) (hi' : l.intake? p id' = some i')
    (hin' : i'.status = .inProgress) : id' = id := by
  have hr : b.InProgress (i.reception id p) :=
    ⟨h.reception.mpr ⟨p, i, hi, rfl⟩, congrArg some hin⟩
  have hr' : b.InProgress (i'.reception id' p) :=
    ⟨h.reception.mpr ⟨p, i', hi', rfl⟩, congrArg some hin'⟩
  exact congrArg Reception.id (h.regular.single hr' hr rfl)

/-- A product stands in one reception. -/
theorem Kept.item_unique {p p' reception reception' id : Uuid} {i i' : Item}
    (hi : l.item? p reception id = some i) (hi' : l.item? p' reception' id = some i') :
    p' = p ∧ reception' = reception := by
  have hx := h.product.mpr ⟨p, reception, i, hi, rfl⟩
  have hx' := h.product.mpr ⟨p', reception', i', hi', rfl⟩
  have hsame : reception' = reception :=
    congrArg Product.reception (Option.some.inj (hx'.symm.trans hx))
  obtain ⟨intake, hintake, -⟩ := Option.bind_eq_some_iff.mp hi
  obtain ⟨intake', hintake', -⟩ := Option.bind_eq_some_iff.mp hi'
  rw [hsame] at hintake'
  exact ⟨h.intake_unique hintake hintake', hsame⟩

/-- A reception in progress on the books is the one that the ledger finds. -/
theorem Kept.active?_inProgress {r : Reception} (hr : b.InProgress r) : ∃ site i,
    l.get? r.pickupPoint = some site ∧ l.active? r.pickupPoint = some (site, r.id, i) ∧
      l.intake? r.pickupPoint r.id = some i ∧ r = i.reception r.id r.pickupPoint := by
  obtain ⟨p, i, hi, hform⟩ := h.reception.mp hr.1
  have hp : r.pickupPoint = p := congrArg Reception.pickupPoint hform
  have hstatus : i.status = .inProgress :=
    Option.some.inj ((congrArg Reception.status hform).symm.trans hr.2)
  obtain ⟨site, hsite, hget⟩ := Option.bind_eq_some_iff.mp hi
  rw [hp]
  refine ⟨site, i, hsite, ?_, hi, hform⟩
  cases hfound : site.active? with
  | none => exact absurd hstatus (Site.of_active?_none hfound hget)
  | some e =>
    obtain ⟨hget', hin⟩ := Site.of_active?_some hfound
    have hi' : l.intake? p e.1 = some e.2 := by rw [intake?, hsite]; exact hget'
    have hid : e.1 = r.id := h.inProgress_unique hi hstatus hi' hin
    rw [hid, hget] at hget'
    have he : e = (r.id, i) := Prod.ext hid (Option.some.inj hget').symm
    rw [active?, hsite, Option.bind_some, hfound, he]
    rfl

/-- Where the books have no reception in progress, the ledger finds none. -/
theorem Kept.active?_free {p : Uuid} (hfree : ¬ b.Occupied p) : l.active? p = none := by
  cases hfound : l.active? p with
  | none => rfl
  | some found =>
    obtain ⟨site, hsite, hactive⟩ := Option.bind_eq_some_iff.mp hfound
    obtain ⟨e, he, -⟩ := Option.map_eq_some_iff.mp hactive
    obtain ⟨hget, hstatus⟩ := Site.of_active?_some he
    have hi : l.intake? p e.1 = some e.2 := by rw [intake?, hsite]; exact hget
    exact absurd ⟨e.2.reception e.1 p,
      ⟨h.reception.mpr ⟨p, e.2, hi, rfl⟩, congrArg some hstatus⟩, rfl⟩ hfree

/-- A product on the books stands in its reception. -/
theorem Kept.item_of_has {p id : Uuid} {i : Intake} (hi : l.intake? p id = some i) {x : Product}
    (hx : b.Has x) (hreception : x.reception = id) :
    ∃ item, i.items.get? x.id = some item ∧ x = item.product x.id id := by
  obtain ⟨p', reception, item, hitem, hform⟩ := h.product.mp hx
  have hsame : reception = id := (congrArg Product.reception hform).symm.trans hreception
  obtain ⟨i', hi', hget⟩ := Option.bind_eq_some_iff.mp hitem
  rw [hsame] at hi' hform
  rw [h.intake_unique hi hi', hi] at hi'
  rw [← Option.some.inj hi'] at hget
  exact ⟨item, hget, hform⟩

theorem Kept.has_of_item {p id last : Uuid} {i : Intake} (hi : l.intake? p id = some i)
    {item : Item} (hitem : i.items.get? last = some item) : b.Has (item.product last id) :=
  h.product.mpr ⟨p, id, item, by rw [item?, hi]; exact hitem, rfl⟩

/-- The newest product of a reception on the books is the one that the ledger finds. -/
theorem Kept.newest?_some {p id : Uuid} {i : Intake} (hi : l.intake? p id = some i) {x : Product}
    (hx : b.Has x) (hreception : x.reception = id)
    (hnewest : ∀ y, b.Has y → y.reception = id → y.recency.le x.recency = true) :
    ∃ item, i.newest? = some (x.id, item) ∧ i.items.get? x.id = some item ∧
      x = item.product x.id id := by
  obtain ⟨item, hitem, hform⟩ := h.item_of_has hi hx hreception
  refine ⟨item, ?_, hitem, hform⟩
  rw [Intake.newest?_eq (h.ordered hi)]
  cases hfound : greatest? (fun e => (⟨e.2.added, e.1⟩ : Recency)) Recency.le i.items.entries with
  | none =>
    have hentry := Table.get?_eq_some_iff.mp hitem
    rw [greatest?_eq_none.mp hfound] at hentry
    cases hentry
  | some e =>
    have hget : i.items.get? e.1 = some e.2 := Table.get?_eq_some_iff.mpr (mem_of_greatest? hfound)
    have hbelow := hnewest _ (h.has_of_item hi hget) rfl
    have habove := le_greatest? Recency.le_refl Recency.le_total Recency.le_trans hfound
      (Table.get?_eq_some_iff.mp hitem)
    -- Each is no older than the other, and the order tells products of one time apart.
    have hadded : x.added = item.added := congrArg Product.added hform
    have hsame : (⟨e.2.added, e.1⟩ : Recency) = ⟨item.added, x.id⟩ := by
      rw [← hadded] at habove ⊢
      exact Recency.le_antisymm hbelow habove
    have hid : e.1 = x.id := congrArg Recency.id hsame
    rw [hid, hitem] at hget
    exact congrArg some (Prod.ext hid (Option.some.inj hget).symm)

theorem Kept.newest?_none {p id : Uuid} {i : Intake} (hi : l.intake? p id = some i)
    (hnone : ∀ x, b.Has x → x.reception ≠ id) : i.newest? = none := by
  cases hfound : i.newest? with
  | none => rfl
  | some e =>
    have hget : i.items.get? e.1 = some e.2 := Table.get?_eq_some_iff.mpr (mem_of_greatest? hfound)
    exact absurd rfl (hnone _ (h.has_of_item hi hget))

end Facts

/-! ## Entries -/

section Entries
variable {l : Ledger} {b : Books} {ids : List Uuid} (h : l.Kept b ids)
include h

theorem Kept.create {id : Uuid} {site : Site} (hfree : b.point? id = none)
    (hempty : site.intakes = .empty) : Kept (l.put id site) (b.putPoint (site.point id)) ids := by
  have hnone := h.get?_none hfree
  have hintake : ∀ p id', intake? (l.put id site) p id' = l.intake? p id' :=
    intake?_put_new hnone hempty
  have hitem : ∀ p reception id', item? (l.put id site) p reception id' =
      l.item? p reception id' := fun p reception id' => by rw [item?, hintake]; rfl
  refine ⟨h.regular.putPoint _, fun id' => ?_, ?_, ?_, ?_⟩
  · rw [Books.putPoint_point?, Table.get?_put]
    split
    · next heq =>
      have hkey : id' = id := heq
      rw [if_pos hkey, hkey]
      rfl
    · next hne =>
      have hkey : ¬ id' = id := hne
      rw [if_neg hkey]
      exact h.point id'
  · intro id' r
    simp only [hintake]
    exact h.reception
  · intro id' x
    simp only [hitem]
    exact h.product
  · intro p id' i hi
    rw [hintake] at hi
    exact h.ordered hi

variable {p : Uuid} {site : Site} (hsite : l.get? p = some site)
include hsite

/-- A reception put in place with the products that it had, none if it is new. -/
theorem Kept.putIntake {id : Uuid} {i : Intake} {r : Reception} (hr : r = i.reception id p)
    (hregular : (b.putReception r).Regular ids)
    (hitems : ∀ id', i.items.get? id' = l.item? p id id')
    (hone : ∀ p' i', l.intake? p' id = some i' → p' = p)
    (hordered : i.items.entries.Pairwise fun e e' => e.1.value < e'.1.value) :
    Kept (l.putIntake p site id i) (b.putReception r) ids := by
  have hid : r.id = id := by rw [hr]; rfl
  refine ⟨hregular, fun id' => ?_, ?_, ?_, ?_⟩
  · rw [point_putIntake hsite]
    exact h.point id'
  · intro id' r'
    rw [Books.putReception_reception?, hid]
    simp only [intake?_putIntake hsite]
    by_cases hid' : id' = id
    · rw [if_pos hid', hid']
      constructor
      · intro hfound
        exact ⟨p, i, if_pos ⟨rfl, rfl⟩, (Option.some.inj hfound).symm.trans hr⟩
      · rintro ⟨p', i', hi', hform⟩
        split at hi'
        · next heq => rw [hform, ← Option.some.inj hi', heq.1, hr]
        · next hne => exact absurd ⟨hone p' i' hi', rfl⟩ hne
    · simp only [hid', and_false, if_false]
      exact h.reception
  · intro id' x
    simp only [item?_putIntake_same hsite id i (hitems id')]
    exact h.product
  · intro p' id' i' hi'
    rw [intake?_putIntake hsite] at hi'
    split at hi'
    · rw [← Option.some.inj hi']
      exact hordered
    · exact h.ordered hi'

theorem Kept.open {id : Uuid} {now : Instant} (hid : id ∈ ids) (hnew : b.reception? id = none)
    (hfree : ¬ b.Occupied p) :
    Kept (l.putIntake p site id ⟨now, .inProgress, .empty⟩) (b.putReception (.begun id p now))
      ids := by
  have hnone : ∀ p' i', l.intake? p' id ≠ some i' := fun p' i' hi' => by
    have hr := h.reception.mpr ⟨p', i', hi', rfl⟩
    rw [hnew] at hr
    cases hr
  refine h.putIntake hsite rfl (h.regular.begin hid rfl hfree) (fun id' => ?_) (fun p' i' hi' => ?_)
    .nil
  · rw [item?, Option.eq_none_iff_forall_ne_some.mpr (hnone p)]
    rfl
  · exact absurd hi' (hnone p' i')

theorem Kept.close {id : Uuid} {i : Intake} (hi : l.intake? p id = some i)
    (hr : b.InProgress (i.reception id p)) :
    Kept (l.putIntake p site id i.ended) (b.putReception (i.reception id p).ended) ids := by
  have hordered := h.ordered hi
  refine h.putIntake hsite rfl (h.regular.finish hr) (fun id' => ?_) (fun p' i' hi' => ?_) hordered
  · rw [item?, hi]
    rfl
  · exact h.intake_unique hi hi'

/-- A reception that is in place already, with other products. -/
theorem Kept.putItems {id : Uuid} {i i' : Intake} {b' : Books} (hi : l.intake? p id = some i)
    (hsame : ∀ id' p', i'.reception id' p' = i.reception id' p')
    (hpoints : b'.point? = b.point?) (hreceptions : b'.reception? = b.reception?)
    (hregular : b'.Regular ids)
    (hproduct : ∀ {id' x}, b'.product? id' = some x ↔ ∃ p' reception j,
      (l.putIntake p site id i').item? p' reception id' = some j ∧ x = j.product id' reception)
    (hordered : i'.items.entries.Pairwise fun e e' => e.1.value < e'.1.value) :
    Kept (l.putIntake p site id i') b' ids := by
  refine ⟨hregular, fun id' => ?_, ?_, hproduct, ?_⟩
  · rw [hpoints, point_putIntake hsite]
    exact h.point id'
  · intro id' r
    rw [hreceptions, h.reception, reception_putIntake_same hsite id i' hi hsame]
  · intro p' id' j hj
    rw [intake?_putIntake hsite] at hj
    split at hj
    · rw [← Option.some.inj hj]
      exact hordered
    · exact h.ordered hj

theorem Kept.add {id fresh : Uuid} {i : Intake} (item : Item) (hi : l.intake? p id = some i)
    (hid : fresh ∈ ids) (hnew : b.product? fresh = none)
    (hgrow : ∀ {id' x}, b.product? id' = some x → id'.value < fresh.value) :
    Kept (l.putIntake p site id (i.add fresh item)) (b.putProduct (item.product fresh id)) ids := by
  have hitem : ∀ id', l.item? p id id' = i.items.get? id' := fun id' => by rw [item?, hi]; rfl
  refine h.putItems hsite hi (fun _ _ => rfl) rfl rfl (h.regular.putProduct hid) ?_ ?_
  · intro id' x
    rw [Books.putProduct_product?]
    by_cases hid' : id' = fresh
    · rw [if_pos (show id' = (item.product fresh id).id from hid'), hid']
      simp only [item?_putIntake hsite, Intake.add, Table.get?_put_self]
      constructor
      · intro hx
        exact ⟨p, id, item, if_pos ⟨rfl, rfl⟩, (Option.some.inj hx).symm⟩
      · rintro ⟨p', reception, j, hj, hform⟩
        split at hj
        · next heq => rw [hform, ← Option.some.inj hj, heq.2]
        · have hx := h.product.mpr ⟨p', reception, j, hj, rfl⟩
          rw [hnew] at hx
          cases hx
    · have hsame : (i.add fresh item).items.get? id' = l.item? p id id' := by
        rw [Intake.add, Table.get?_put, if_neg hid', hitem]
      rw [if_neg (show ¬ id' = (item.product fresh id).id from hid')]
      simp only [item?_putIntake_same hsite id _ hsame]
      exact h.product
  · -- The new product comes last, and its identifier is the greatest.
    have hnone : i.items.get? fresh = none := by
      cases hfound : i.items.get? fresh with
      | none => rfl
      | some j =>
        have hx := h.product.mpr ⟨p, id, j, (hitem fresh).trans hfound, rfl⟩
        rw [hnew] at hx
        cases hx
    rw [Intake.add, Table.entries_put_of_none hnone, List.pairwise_append]
    refine ⟨h.ordered hi, List.pairwise_singleton _ _, fun e he e' he' => ?_⟩
    rw [List.mem_singleton.mp he']
    have hx := h.product.mpr ⟨p, id, e.2, (hitem e.1).trans (Table.get?_eq_some_iff.mpr he), rfl⟩
    exact hgrow hx

theorem Kept.remove {id last : Uuid} {i : Intake} {item : Item} (hi : l.intake? p id = some i)
    (hlast : i.items.get? last = some item) :
    Kept (l.putIntake p site id (i.remove last)) (b.dropProduct last) ids := by
  have hitem : ∀ id', l.item? p id id' = i.items.get? id' := fun id' => by rw [item?, hi]; rfl
  refine h.putItems hsite hi (fun _ _ => rfl) rfl rfl (h.regular.dropProduct last) ?_ ?_
  · intro id' x
    rw [Books.dropProduct_product?]
    by_cases hid' : id' = last
    · rw [if_pos hid', hid']
      refine iff_of_false (fun hx => by cases hx) ?_
      rintro ⟨p', reception, j, hj, -⟩
      rw [item?_putIntake hsite] at hj
      split at hj
      · rw [Intake.remove, Table.get?_erase, if_pos rfl] at hj
        cases hj
      · next hne => exact hne (h.item_unique ((hitem last).trans hlast) hj)
    · have hsame : (i.remove last).items.get? id' = l.item? p id id' := by
        rw [Intake.remove, Table.get?_erase, if_neg hid', hitem]
      rw [if_neg hid']
      simp only [item?_putIntake_same hsite id _ hsame]
      exact h.product
  · exact (h.ordered hi).filter _

end Entries
end Ledger
end PickupLedger
