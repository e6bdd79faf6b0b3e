import PickupLedger.Proofs.Books
import PickupLedger.Proofs.Requests
import PickupLedger.Store.Table

/-!
# The ledger

What the service does, told without a store: a `Ledger` is the pickup points, each with
its receptions, each with its status and its products.  A request looks at one pickup point
and changes at most that one (`Ledger.perform`), and its checks come in a fixed order, the
first that fails deciding the failure.

A reception in progress is found by looking through the receptions of its pickup point;
there is no index.  The product that is removed is the one with the latest time, and of
several with one time the one that was added last.
-/

namespace PickupLedger

/-- A product as its reception has it. -/
structure Item where
  added : Instant
  type : ProductType
  deriving DecidableEq, Repr

/-- **A reception as its pickup point has it**, with its products. -/
structure Intake where
  opened : Instant
  status : StatusKind
  items : Table Uuid Item

/-- **A pickup point** with its receptions. -/
structure Site where
  registered : Instant
  city : City
  intakes : Table Uuid Intake

/-- **All pickup points.** -/
abbrev Ledger := Table Uuid Site

/-! ## Records of a ledger -/

/-- The product as an answer shows it. -/
def Item.product (i : Item) (id reception : Uuid) : Product := .ofType id reception i.added i.type

namespace Intake

/-- The reception as an answer shows it. -/
def reception (i : Intake) (id pickupPoint : Uuid) : Reception :=
  ⟨id, pickupPoint, i.opened, (Seed.status i.status).id, some i.status⟩

/-- The reception at its end. -/
def ended (i : Intake) : Intake := { i with status := .closed }

/-- The reception with one more product. -/
def add (i : Intake) (id : Uuid) (item : Item) : Intake := { i with items := i.items.put id item }

/-- The reception without a product. -/
def remove (i : Intake) (id : Uuid) : Intake := { i with items := i.items.erase id }

/-- The product of the latest time, of several the one added last. -/
def newest? (i : Intake) : Option (Uuid × Item) :=
  greatest? (fun e => e.2.added) Instant.le i.items.entries

/-- Where a later element has a greater identifier, time and identifier choose as time alone. -/
theorem foldl_newer {e : Uuid × Item} {es : List (Uuid × Item)}
    (h : (e :: es).Pairwise fun e e' => e.1.value < e'.1.value) :
    es.foldl (fun best x => if Instant.le best.2.added x.2.added then x else best) e =
      es.foldl (fun best x =>
        if Recency.le ⟨best.2.added, best.1⟩ ⟨x.2.added, x.1⟩ then x else best) e := by
  induction es generalizing e with
  | nil => rfl
  | cons x es ih =>
    obtain ⟨hfirst, hrest⟩ := List.pairwise_cons.mp h
    have hlt := hfirst x List.mem_cons_self
    have hle : Recency.le ⟨e.2.added, e.1⟩ ⟨x.2.added, x.1⟩ = Instant.le e.2.added x.2.added := by
      rw [Bool.eq_iff_iff, Recency.le_iff]
      exact and_iff_left fun _ => Nat.le_of_lt hlt
    rw [List.foldl_cons, List.foldl_cons, hle]
    -- Whichever of the two goes on, the rest has greater identifiers than it.
    split
    · exact ih hrest
    · refine ih (List.pairwise_cons.mpr ⟨fun x' hx' => ?_, (List.pairwise_cons.mp hrest).2⟩)
      exact hfirst x' (List.mem_cons_of_mem _ hx')

/-- The product added last of those with the latest time has the greatest identifier of them. -/
theorem newest?_eq {i : Intake}
    (h : i.items.entries.Pairwise fun e e' => e.1.value < e'.1.value) :
    i.newest? = greatest? (fun e => (⟨e.2.added, e.1⟩ : Recency)) Recency.le i.items.entries := by
  rw [newest?]
  cases hes : i.items.entries with
  | nil => rfl
  | cons e es =>
    rw [hes] at h
    exact congrArg some (foldl_newer h)

end Intake

namespace Site

/-- The pickup point as an answer shows it. -/
def point (s : Site) (id : Uuid) : PickupPoint := .inCity id s.registered s.city

/-- The reception in progress. -/
def active? (s : Site) : Option (Uuid × Intake) :=
  s.intakes.entries.find? fun e => e.2.status = .inProgress

theorem of_active?_some {s : Site} {e : Uuid × Intake} (h : s.active? = some e) :
    s.intakes.get? e.1 = some e.2 ∧ e.2.status = .inProgress := by
  rw [active?] at h
  have hstatus := List.find?_some h
  exact ⟨Table.get?_eq_some_iff.mpr (List.mem_of_find?_eq_some h), of_decide_eq_true hstatus⟩

theorem of_active?_none {s : Site} (h : s.active? = none) {id : Uuid} {i : Intake}
    (hi : s.intakes.get? id = some i) : i.status ≠ .inProgress := by
  rw [active?] at h
  have hnot := List.find?_eq_none.mp h _ (Table.get?_eq_some_iff.mp hi)
  exact fun hstatus => hnot (decide_eq_true hstatus)

end Site

namespace Ledger

/-- The pickup point with a reception in progress, and that reception. -/
def active? (l : Ledger) (pickupPoint : Uuid) : Option (Site × Uuid × Intake) :=
  (l.get? pickupPoint).bind fun site => site.active?.map fun e => (site, e)

/-- The ledger with a reception of a pickup point put in place. -/
def putIntake (l : Ledger) (pickupPoint : Uuid) (site : Site) (id : Uuid) (intake : Intake) :
    Ledger :=
  l.put pickupPoint { site with intakes := site.intakes.put id intake }

/-- The reception of a pickup point under an identifier. -/
def intake? (l : Ledger) (pickupPoint id : Uuid) : Option Intake :=
  (l.get? pickupPoint).bind fun site => site.intakes.get? id

/-- The product of a reception under an identifier. -/
def item? (l : Ledger) (pickupPoint reception id : Uuid) : Option Item :=
  (l.intake? pickupPoint reception).bind fun intake => intake.items.get? id

/-- A new pickup point has no receptions. -/
theorem intake?_put_new {l : Ledger} {id : Uuid} {site : Site} (hnone : l.get? id = none)
    (hempty : site.intakes = .empty) (p id' : Uuid) :
    intake? (l.put id site) p id' = l.intake? p id' := by
  rw [intake?, Table.get?_put]
  split
  · next heq =>
    rw [intake?, heq, hnone, Option.bind_some, hempty]
    rfl
  · rfl

section PutIntake
variable {l : Ledger} {p : Uuid} {site : Site} (hsite : l.get? p = some site) (id : Uuid)
  (intake : Intake)
include hsite

theorem point_putIntake (p' : Uuid) :
    ((l.putIntake p site id intake).get? p').map (fun s => s.point p') =
      (l.get? p').map fun s => s.point p' := by
  rw [putIntake, Table.get?_put]
  split
  · next heq =>
    rw [heq, hsite]
    rfl
  · rfl

theorem intake?_putIntake (p' id' : Uuid) : (l.putIntake p site id intake).intake? p' id' =
    if p' = p ∧ id' = id then some intake else l.intake? p' id' := by
  simp only [intake?, putIntake, Table.get?_put]
  by_cases hp : p' = p
  · simp only [hp, if_true, Option.bind_some, Table.get?_put, true_and, hsite]
  · simp only [hp, if_false, false_and]

theorem item?_putIntake (p' reception id' : Uuid) :
    (l.putIntake p site id intake).item? p' reception id' =
      if p' = p ∧ reception = id then intake.items.get? id' else l.item? p' reception id' := by
  simp only [item?, intake?_putIntake hsite]
  split
  · rfl
  · rfl

/-- A product that is as it was before in its reception, is so in all of them. -/
theorem item?_putIntake_same {id' : Uuid} (h : intake.items.get? id' = l.item? p id id')
    (p' reception : Uuid) :
    (l.putIntake p site id intake).item? p' reception id' = l.item? p' reception id' := by
  rw [item?_putIntake hsite]
  split
  · next heq => rw [h, heq.1, heq.2]
  · rfl

/-- A reception that is shown as it was before, leaves all of them shown as they were. -/
theorem reception_putIntake_same {i : Intake} (hi : l.intake? p id = some i)
    (hsame : ∀ id' p', intake.reception id' p' = i.reception id' p') {id' : Uuid} {r : Reception} :
    (∃ p' j, (l.putIntake p site id intake).intake? p' id' = some j ∧ r = j.reception id' p') ↔
      ∃ p' j, l.intake? p' id' = some j ∧ r = j.reception id' p' := by
  simp only [intake?_putIntake hsite]
  constructor
  · rintro ⟨p', j, hj, hform⟩
    split at hj
    · next heq =>
      refine ⟨p, i, heq.2 ▸ hi, ?_⟩
      rw [hform, ← Option.some.inj hj, hsame, heq.1]
    · exact ⟨p', j, hj, hform⟩
  · rintro ⟨p', j, hj, hform⟩
    by_cases heq : p' = p ∧ id' = id
    · rw [heq.1, heq.2, hi] at hj
      exact ⟨p', intake, if_pos heq, by rw [hsame, hform, Option.some.inj hj]⟩
    · exact ⟨p', j, (if_neg heq).trans hj, hform⟩

end PutIntake

/-! ## Operations -/

/-- **What a request is told**, and the ledger after it. -/
def perform (l : Ledger) : Request → Verdict × Ledger
  | .create stamp id cityName registered =>
    match Seed.city? cityName with
    | none => (.error (.cityNotFound cityName), l)
    | some city =>
      match l.get? id with
      | some _ => (.error (.duplicatePickupPoint id), l)
      | none =>
        let site : Site := ⟨registered.getD stamp.now, city, .empty⟩
        (.ok (.point (site.point id)), l.put id site)
  | .get id =>
    match l.get? id with
    | none => (.error (.notFound "PickupPoint" "id" id.text), l)
    | some site => (.ok (.point (site.point id)), l)
  | .openAt stamp p =>
    match l.get? p with
    | none => (.error (.pickupPointNotFound p), l)
    | some site =>
      match l.active? p with
      | some _ => (.error (.receptionAlreadyInProgress p), l)
      | none =>
        let intake : Intake := ⟨stamp.now, .inProgress, .empty⟩
        (.ok (.reception (intake.reception stamp.fresh p)), l.putIntake p site stamp.fresh intake)
  | .closeAt p =>
    match l.active? p with
    | none => (.error (.noActiveReception p), l)
    | some (site, id, intake) =>
      (.ok (.reception (intake.ended.reception id p)), l.putIntake p site id intake.ended)
  | .addTo stamp p typeName =>
    match l.active? p with
    | none => (.error (.noActiveReception p), l)
    | some (site, id, intake) =>
      match Seed.productType? typeName with
      | none => (.error (.unknownProductType typeName), l)
      | some type =>
        let item : Item := ⟨stamp.now, type⟩
        (.ok (.product (item.product stamp.fresh id)),
          l.putIntake p site id (intake.add stamp.fresh item))
  | .removeFrom p =>
    match l.get? p with
    | none => (.error (.pickupPointNotFound p), l)
    | some _ =>
      match l.active? p with
      | none => (.error (.noActiveReception p), l)
      | some (site, id, intake) =>
        match intake.newest? with
        | none => (.error (.noProductToRemove p), l)
        | some (last, item) =>
          (.ok (.product (item.product last id)), l.putIntake p site id (intake.remove last))

/-- **Requests one after the other.** -/
def performAll (l : Ledger) : List Request → List Verdict × Ledger
  | [] => ([], l)
  | q :: qs =>
    let (v, l) := l.perform q
    let (vs, l) := performAll l qs
    (v :: vs, l)

/-- The identifier that a request gives to a record, if it comes to that. -/
def issued? (l : Ledger) (q : Request) : Option Uuid :=
  match (l.perform q).1 with
  | .ok _ => q.fresh?
  | .error _ => none

/-- **The identifiers that requests give to records**, in their order. -/
def issued (l : Ledger) : List Request → List Uuid
  | [] => []
  | q :: qs => (l.issued? q).toList ++ issued (l.perform q).2 qs

end Ledger
end PickupLedger
