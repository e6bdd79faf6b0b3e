import PickupLedger.Store.Call

/-!
# The books of a store

Two stores answer the same calls from tables that look nothing alike.  What they hold
is read here in one way: the `Books` of a store are its pickup points, receptions and
products by their identifiers, with every reference resolved as an answer shows it.

`Books.Step` says of each call that the operations make what it answers and how it
changes the books.  `Books.Proper` is what the caller owes for that: a record is added
under a free identifier, next to the records it refers to, and a reception is only ever
moved from `inProgress` to `closed`.  A store that keeps its side of this in every state
that it can get into is a `Bookkeeping`.

Nothing is said of the calls for lists, except that they change nothing.
-/

namespace PickupLedger

namespace Seed

/-- The city of a name. -/
def city? (name : String) : Option City := cities.find? fun c => c.name = name

/-- The product type of a name. -/
def productType? (name : String) : Option ProductType := productTypes.find? fun t => t.name = name

/-- The row of a status. -/
def status : StatusKind → Status
  | .inProgress => ⟨inProgressId, .inProgress⟩
  | .closed => ⟨closedId, .closed⟩

end Seed

namespace Reception

/-- A reception that starts now. -/
def begun (id pickupPoint : Uuid) (now : Instant) : Reception :=
  ⟨id, pickupPoint, now, Seed.inProgressId, some .inProgress⟩

/-- The reception at its end. -/
def ended (r : Reception) : Reception := r.withStatus (Seed.status .closed)

@[simp] theorem ended_id (r : Reception) : r.ended.id = r.id := rfl

end Reception

/-- **What a store holds**, by identifier and with references resolved. -/
@[ext] structure Books where
  point? : Uuid → Option PickupPoint
  reception? : Uuid → Option Reception
  product? : Uuid → Option Product

namespace Books

/-- Books without records. -/
def empty : Books := ⟨fun _ => none, fun _ => none, fun _ => none⟩

/-! ## What the books say -/

/-- The reception is on the books and in progress. -/
def InProgress (b : Books) (r : Reception) : Prop :=
  b.reception? r.id = some r ∧ r.status = some .inProgress

/-- The reception is on the books and closed. -/
def Closed (b : Books) (r : Reception) : Prop :=
  b.reception? r.id = some r ∧ r.status = some .closed

/-- The pickup point has a reception in progress. -/
def Occupied (b : Books) (pickupPoint : Uuid) : Prop :=
  ∃ r, b.InProgress r ∧ r.pickupPoint = pickupPoint

/-- The product is on the books. -/
def Has (b : Books) (x : Product) : Prop := b.product? x.id = some x

instance (b : Books) (r : Reception) : Decidable (b.InProgress r) :=
  inferInstanceAs (Decidable (_ ∧ _))

instance (b : Books) (r : Reception) : Decidable (b.Closed r) := inferInstanceAs (Decidable (_ ∧ _))

instance (b : Books) (x : Product) : Decidable (b.Has x) := inferInstanceAs (Decidable (_ = _))

/-! ## Entries -/

/-- The books with a pickup point. -/
def putPoint (b : Books) (p : PickupPoint) : Books :=
  { b with point? := fun id => if id = p.id then some p else b.point? id }

/-- The books with a reception, in place of what they said of it. -/
def putReception (b : Books) (r : Reception) : Books :=
  { b with reception? := fun id => if id = r.id then some r else b.reception? id }

/-- The books with a product. -/
def putProduct (b : Books) (x : Product) : Books :=
  { b with product? := fun id => if id = x.id then some x else b.product? id }

/-- The books without a product. -/
def dropProduct (b : Books) (gone : Uuid) : Books :=
  { b with product? := fun id => if id = gone then none else b.product? id }

section Entries
variable (b : Books) (p : PickupPoint) (r : Reception) (x : Product) (id : Uuid)

@[simp] theorem putPoint_point? :
    (b.putPoint p).point? id = if id = p.id then some p else b.point? id := rfl

@[simp] theorem putReception_reception? :
    (b.putReception r).reception? id = if id = r.id then some r else b.reception? id := rfl

/-- The entry of a reception at its end is found under the identifier that it always had. -/
theorem putReception_ended :
    (b.putReception r.ended).reception? id = if id = r.id then some r.ended else b.reception? id :=
  rfl

@[simp] theorem putProduct_product? :
    (b.putProduct x).product? id = if id = x.id then some x else b.product? id := rfl

@[simp] theorem dropProduct_product? (id' : Uuid) :
    (b.dropProduct id).product? id' = if id' = id then none else b.product? id' := rfl

theorem has_putProduct {y : Product} :
    (b.putProduct x).Has y ↔ y = x ∨ (y.id ≠ x.id ∧ b.Has y) := by
  simp only [Has, putProduct_product?]
  by_cases hid : y.id = x.id
  · simp only [hid, if_true, Option.some.injEq, ne_eq, not_true_eq_false, false_and, or_false]
    exact eq_comm
  · simp only [hid, if_false, ne_eq, not_false_eq_true, true_and, iff_or_self]
    rintro rfl
    exact absurd rfl hid

theorem has_dropProduct {y : Product} : (b.dropProduct id).Has y ↔ y.id ≠ id ∧ b.Has y := by
  simp only [Has, dropProduct_product?]
  by_cases hid : y.id = id
  · simp [hid]
  · simp [hid]

theorem dropProduct_of_none {b : Books} {id : Uuid} (h : b.product? id = none) :
    b.dropProduct id = b := by
  refine Books.ext rfl rfl (funext fun id' => ?_)
  rw [dropProduct_product?]
  split
  · next heq => rw [heq, h]
  · rfl

/-- What is in progress once a reception has been entered. -/
theorem inProgress_putReception {r' : Reception} : (b.putReception r).InProgress r' ↔
    (r' = r ∧ r.status = some .inProgress) ∨ (r'.id ≠ r.id ∧ b.InProgress r') := by
  simp only [InProgress, putReception_reception?]
  by_cases hid : r'.id = r.id
  · simp only [hid, if_true, Option.some.injEq, ne_eq, not_true_eq_false, false_and, or_false]
    constructor
    · rintro ⟨rfl, h⟩; exact ⟨rfl, h⟩
    · rintro ⟨rfl, h⟩; exact ⟨rfl, h⟩
  · simp only [hid, if_false, ne_eq, not_false_eq_true, true_and, iff_or_self]
    rintro ⟨rfl, -⟩
    exact absurd rfl hid

theorem inProgress_putReception_ended {r' : Reception} :
    (b.putReception r.ended).InProgress r' ↔ r'.id ≠ r.id ∧ b.InProgress r' := by
  rw [inProgress_putReception]
  constructor
  · rintro (⟨-, h⟩ | h)
    · cases h
    · exact h
  · exact .inr

end Entries

section Progress
variable {b : Books} {r r' : Reception}

/-- Either a reception in progress has the identifier, or none has. -/
theorem inProgress_or (b : Books) (id : Uuid) :
    (∃ r, r.id = id ∧ b.InProgress r) ∨ ∀ r, r.id = id → ¬ b.InProgress r := by
  by_cases h : ∃ r, r.id = id ∧ b.InProgress r
  · exact .inl h
  · exact .inr fun r hid hr => h ⟨r, hid, hr⟩

theorem InProgress.eq_of_id (h : b.InProgress r) (h' : b.InProgress r') (hid : r.id = r'.id) :
    r = r' := by
  have hsame := h.1
  rw [hid, h'.1] at hsame
  exact (Option.some.inj hsame).symm

theorem InProgress.not_closed (h : b.InProgress r) (h' : b.Closed r') : r'.id ≠ r.id := by
  intro hid
  have hsame := h'.1
  rw [hid, h.1] at hsame
  have hstatus := h'.2
  rw [← Option.some.inj hsame, h.2] at hstatus
  cases hstatus

/-- A reception under a free identifier joins those in progress. -/
theorem inProgress_opened (hnew : b.reception? r.id = none) (hr : r.status = some .inProgress) :
    (b.putReception r).InProgress r' ↔ r' = r ∨ b.InProgress r' := by
  rw [inProgress_putReception]
  constructor
  · rintro (⟨h, -⟩ | ⟨-, h⟩)
    · exact .inl h
    · exact .inr h
  · rintro (h | h)
    · exact .inl ⟨h, hr⟩
    · refine .inr ⟨fun hid => ?_, h⟩
      rw [← hid, h.1] at hnew
      cases hnew

/-- A reception that ends leaves those in progress. -/
theorem inProgress_closed (hr : b.InProgress r) :
    (b.putReception r.ended).InProgress r' ↔ r' ≠ r ∧ b.InProgress r' := by
  rw [inProgress_putReception_ended]
  constructor
  · rintro ⟨hid, h⟩
    exact ⟨fun heq => hid (congrArg Reception.id heq), h⟩
  · rintro ⟨hne, h⟩
    exact ⟨fun hid => hne (h.eq_of_id hr hid), h⟩

theorem Closed.opened (h : b.Closed r') (hnew : b.reception? r.id = none) :
    (b.putReception r).Closed r' := by
  refine ⟨(if_neg fun hid => ?_).trans h.1, h.2⟩
  rw [← hid, h.1] at hnew
  cases hnew

theorem Closed.closed (h : b.Closed r') (hr : b.InProgress r) :
    (b.putReception r.ended).Closed r' :=
  ⟨(if_neg (hr.not_closed h)).trans h.1, h.2⟩

theorem closed_ended (b : Books) (r : Reception) : (b.putReception r.ended).Closed r.ended :=
  ⟨if_pos rfl, rfl⟩

end Progress

/-! ## Calls -/

/-- **What the caller owes** for a call that changes the books. -/
def Proper (b : Books) : Call → Prop
  | .addPickupPoint p => ∃ city ∈ Seed.cities, p = .inCity p.id p.registered city
  | .addReception r =>
    b.reception? r.id = none ∧ (∃ p, b.point? r.pickupPoint = some p) ∧
      r = .begun r.id r.pickupPoint r.opened
  | .moveReception _ source target => source = Seed.inProgressId ∧ target = Seed.closedId
  | .addProduct x =>
    b.product? x.id = none ∧ ∃ type ∈ Seed.productTypes, x = .ofType x.id x.reception x.added type
  | _ => True

/-- **What a store answers** and the books after the call. -/
def Step (b : Books) : (c : Call) → Answer c → Books → Prop
  | .cityByName name, a, b' => a = .ok (Seed.city? name) ∧ b' = b
  | .addPickupPoint p, a, b' =>
    (b.point? p.id = none ∧ a = .ok p ∧ b' = b.putPoint p) ∨
      (b.point? p.id ≠ none ∧ (∃ what, a = .error (.duplicate what)) ∧ b' = b)
  | .pickupPointById id, a, b' => a = .ok (b.point? id) ∧ b' = b
  | .statusOfKind kind, a, b' => a = .ok (some (Seed.status kind)) ∧ b' = b
  | .addReception r, a, b' =>
    (¬ b.Occupied r.pickupPoint ∧ a = .ok r ∧ b' = b.putReception r) ∨
      (b.Occupied r.pickupPoint ∧ (∃ what, a = .error (.duplicate what)) ∧ b' = b)
  | .receptionInStatus .inProgress p, a, b' =>
    b' = b ∧ ((∃ r, a = .ok (some r) ∧ b.InProgress r ∧ r.pickupPoint = p) ∨
      (a = .ok none ∧ ¬ b.Occupied p))
  | .moveReception id _ _, a, b' =>
    (∃ r moved, r.id = id ∧ b.InProgress r ∧ a = .ok (some moved) ∧ moved.ended = r.ended ∧
      b' = b.putReception r.ended) ∨
      ((∀ r, r.id = id → ¬ b.InProgress r) ∧ a = .ok none ∧ b' = b)
  | .productTypeByName name, a, b' => a = .ok (Seed.productType? name) ∧ b' = b
  | .addProduct x, a, b' =>
    (∃ r, r.id = x.reception ∧ b.InProgress r ∧ a = .ok (some x) ∧ b' = b.putProduct x) ∨
      ((∀ r, r.id = x.reception → ¬ b.InProgress r) ∧ a = .ok none ∧ b' = b)
  | .lastProduct r, a, b' =>
    b' = b ∧ ((∃ x, a = .ok (some x) ∧ b.Has x ∧ x.reception = r) ∨
      (a = .ok none ∧ ∀ x, b.Has x → x.reception ≠ r))
  | .deleteProduct id, a, b' => a = .ok (b.product? id).isSome ∧ b' = b.dropProduct id
  | _, _, b' => b' = b

/-- The last product is the newest of its reception. -/
def Newest (b : Books) : (c : Call) → Answer c → Prop
  | .lastProduct reception, .ok (some x) =>
    ∀ y, b.Has y → y.reception = reception → y.recency.le x.recency = true
  | _, _ => True

end Books

/-- **A store that keeps books**: while it is sound, a proper call is answered by the
books and leaves it sound. -/
class Bookkeeping (σ : Type) [Storage σ] where
  /-- What the store holds. -/
  books : σ → Books
  /-- The store is in a state that it can get into. -/
  Sound : σ → Prop
  sound_answer : ∀ {s : σ} {c : Call}, Sound s → (books s).Proper c → Sound (Storage.answer c s).2
  step_answer : ∀ {s : σ} {c : Call}, Sound s → (books s).Proper c →
    (books s).Step c (Storage.answer c s).1 (books (Storage.answer c s).2)

end PickupLedger
