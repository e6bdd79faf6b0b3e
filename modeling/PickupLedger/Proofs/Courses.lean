import PickupLedger.Proofs.Moments

/-!
# Why an operation fails

What goes on while an operation is under way is its `Course`: the account at each moment,
the calls that the operation makes, and the products that others take away.  A `Reason` for
a failure is something that was so at a moment between the first of these calls and the
last.

Often the failure is told by the very look that found the reason.  But a reception that was
found in progress may have ended when the operation gets to write, and by then another one
may be in progress at its pickup point; and the product that was found to be the last may be
gone.  The reason then lies at a moment in between, at a step that another operation took
(`Course.Regular.exists_free`, `Course.Regular.taken`).

`Program.Fair` says of a program that it fails for a reason only, whatever its course.
-/

namespace PickupLedger
open Operation Service

/-- **What goes on while an operation is under way.** -/
structure Course where
  account : Nat → Account
  /-- The operation makes a call in the step at a moment. -/
  asks : Nat → Call → Prop
  /-- Another operation takes a product away in the step at a moment. -/
  takes : Nat → Product → Prop

namespace Course

/-- What the books say at a moment. -/
def books (e : Course) (n : Nat) : Books := (e.account n).books

/-- **A course as it is when operations run side by side.** -/
structure Regular (e : Course) : Prop where
  regular : ∀ n, (e.account n).Regular
  next : ∀ n, e.account (n + 1) = e.account n ∨ (e.account n).Next (e.account (n + 1))
  /-- A product that was there and is not there any more was taken by another operation. -/
  taken : ∀ {n m : Nat} {x : Product}, n ≤ m → e.asks m (.deleteProduct x.id) →
    (e.books n).Has x → (e.books m).product? x.id = none → ∃ k, n ≤ k ∧ k < m ∧ e.takes k x

end Course

/-! ## Reasons -/

/-- The pickup point at which an operation works on receptions or products. -/
def Request.place? : Request → Option Uuid
  | .openAt _ p => some p
  | .closeAt p => some p
  | .addTo _ p _ => some p
  | .removeFrom p => some p
  | _ => none

/-- **The reason for a failure**, between the first call of the operation and the last. -/
inductive Reason (e : Course) (first last : Nat) : Request → Failure → Prop where
  /-- There is no such city. -/
  | unknownCity {stamp : Stamp} {id : Uuid} {cityName : String} {registered : Option Instant}
      (hcity : Seed.city? cityName = none) :
      Reason e first last (.create stamp id cityName registered) (.cityNotFound cityName)
  /-- The pickup point was there already. -/
  | taken {stamp : Stamp} {id : Uuid} {cityName : String} {registered : Option Instant} {k : Nat}
      (hfirst : first ≤ k) (hlast : k ≤ last) (hpoint : (e.books k).point? id ≠ none) :
      Reason e first last (.create stamp id cityName registered) (.duplicatePickupPoint id)
  /-- The pickup point that was asked for was not there. -/
  | missing {id : Uuid} {k : Nat} (hfirst : first ≤ k) (hlast : k ≤ last)
      (hpoint : (e.books k).point? id = none) :
      Reason e first last (.get id) (.notFound "PickupPoint" "id" id.text)
  /-- The pickup point to work at was not there. -/
  | nowhere {q : Request} {p : Uuid} {k : Nat} (hplace : q.place? = some p) (hfirst : first ≤ k)
      (hlast : k ≤ last) (hpoint : (e.books k).point? p = none) :
      Reason e first last q (.pickupPointNotFound p)
  /-- The pickup point had a reception in progress. -/
  | occupied {stamp : Stamp} {p : Uuid} {k : Nat} (hfirst : first ≤ k) (hlast : k ≤ last)
      (hp : (e.books k).Occupied p) :
      Reason e first last (.openAt stamp p) (.receptionAlreadyInProgress p)
  /-- The pickup point had no reception in progress. -/
  | free {q : Request} {p : Uuid} {k : Nat} (hplace : q.place? = some p) (hfirst : first ≤ k)
      (hlast : k ≤ last) (hp : ¬ (e.books k).Occupied p) :
      Reason e first last q (.noActiveReception p)
  /-- There is no such product type. -/
  | unknownType {stamp : Stamp} {p : Uuid} {typeName : String}
      (htype : Seed.productType? typeName = none) :
      Reason e first last (.addTo stamp p typeName) (.unknownProductType typeName)
  /-- The reception that the look for the one in progress found had no product when the
  operation asked for its last. -/
  | empty {p : Uuid} {r : Reception} {j k : Nat} (hfirst : first ≤ j)
      (hfound : e.asks j (.receptionInStatus .inProgress p)) (hr : (e.books j).InProgress r)
      (hp : r.pickupPoint = p) (hle : j ≤ k) (hlast : k ≤ last)
      (hasked : e.asks k (.lastProduct r.id))
      (hnone : ∀ x, (e.books k).Has x → x.reception ≠ r.id) :
      Reason e first last (.removeFrom p) (.noProductToRemove p)
  /-- Another operation took away the product that this one had found to be the last. -/
  | gone {p : Uuid} {x : Product} {j k : Nat} (hfirst : first ≤ j)
      (hfound : e.asks j (.lastProduct x.reception)) (hx : (e.books j).Has x) (hle : j ≤ k)
      (htakes : e.takes k x) (hlast : k < last) (hasked : e.asks last (.deleteProduct x.id)) :
      Reason e first last (.removeFrom p) (.notFound "Product" "id" x.id.text)

/-- **There is no reason for an internal failure.** -/
theorem Reason.kind_ne_internal {e : Course} {first last : Nat} {q : Request} {failure : Failure}
    (h : Reason e first last q failure) : failure.kind ≠ .internal := by
  cases h <;> exact nofun

/-! ## Races that are lost -/

namespace Account
variable {a a' : Account} {r : Reception}

/-- The decision that ends a reception leaves its pickup point without one in progress. -/
theorem Next.freed (hnext : a.Next a') (ha : a.Regular) (hr : a.books.InProgress r)
    (hended : ¬ a'.books.InProgress r) : ¬ a'.books.Occupied r.pickupPoint := by
  cases hnext with
  | @decide d b hdecides hfresh =>
    obtain ⟨task, request, verdict⟩ := d
    cases hdecides with
    | @opened stamp p hnew hfree =>
      exact absurd ((Books.inProgress_opened hnew rfl).mpr (.inr hr)) hended
    | @closed r' hr' =>
      have hsame : r = r' := Classical.byContradiction fun hne =>
        hended ((Books.inProgress_closed hr').mpr ⟨hne, hr⟩)
      rintro ⟨other, hother, hp⟩
      obtain ⟨hne, hother⟩ := (Books.inProgress_closed hr').mp hother
      exact hne (hsame ▸ ha.single hother hr hp)
    | _ => exact absurd hr hended

end Account

/-- **A reception that was in progress and is not any more** has left its pickup point
without one at some moment, though another may be in progress there since. -/
theorem Course.Regular.exists_free {e : Course} (he : e.Regular) {n m : Nat} {r : Reception}
    (hle : n ≤ m) (hr : (e.books n).InProgress r) (hended : ¬ (e.books m).InProgress r) :
    ∃ k, n ≤ k ∧ k ≤ m ∧ ¬ (e.books k).Occupied r.pickupPoint := by
  obtain ⟨k, hk, hlt, hin, hout⟩ :=
    exists_last (p := fun k => (e.books k).InProgress r) hle hr hended
  refine ⟨k + 1, by omega, hlt, ?_⟩
  rcases he.next k with hsame | hnext
  · rw [Course.books, hsame] at hout
    exact absurd hin hout
  · exact hnext.freed (he.regular k) hin hout

/-! ## Fair programs -/

/-- **A program fails for a reason only.** At its end, the moment is that of its last call. -/
def Program.Fair (e : Course) (first : Nat) (q : Request) : Program Verdict → Nat → Prop
  | .done (.ok _), _ => True
  | .done (.error failure), last => Reason e first last q failure
  | .count _ next, last => next.Fair e first q last
  | .ask c next, n => ∀ m, n ≤ m → e.asks m c → ∀ answer b', (e.books m).Step c answer b' →
    (next answer).Fair e first q m

namespace Operation
variable {e : Course} {first n : Nat} {q : Request}

/-- A call that only looks. -/
theorem fair_look (step : String) {c : Call} {reply : Books → c.Reply}
    {f : c.Reply → Operation Outcome}
    (hstep : ∀ (b : Books) answer b', b.Step c answer b' → answer = .ok (reply b) ∧ b' = b)
    (h : ∀ m, n ≤ m → e.asks m c → (f (reply (e.books m))).program.Fair e first q m) :
    (call step c >>= f).program.Fair e first q n := by
  rw [program_call_bind]
  intro m hle hasks answer b' hs
  obtain ⟨rfl, rfl⟩ := hstep _ _ _ hs
  exact h m hle hasks

/-- The look for the reception in progress finds it, or there is none. -/
theorem fair_active (step : String) {p : Uuid} {f : Option Reception → Operation Outcome}
    (hsome : ∀ m r, n ≤ m → e.asks m (.receptionInStatus .inProgress p) →
      (e.books m).InProgress r → r.pickupPoint = p → (f (some r)).program.Fair e first q m)
    (hnone : ∀ m, n ≤ m → ¬ (e.books m).Occupied p → (f none).program.Fair e first q m) :
    (call step (.receptionInStatus .inProgress p) >>= f).program.Fair e first q n := by
  rw [program_call_bind]
  rintro m hle hasks _ _ ⟨rfl, ⟨r, rfl, hr, hp⟩ | ⟨rfl, hfree⟩⟩
  · exact hsome m r hle hasks hr hp
  · exact hnone m hle hfree

end Operation

namespace Request
variable {e : Course} (he : e.Regular) (first : Nat)

theorem fair_create (stamp : Stamp) (id : Uuid) (cityName : String)
    (registered : Option Instant) : (create stamp id cityName registered).program.Fair e first
      (.create stamp id cityName registered) first := by
  simp only [program, operation, createPickupPoint, bind_assoc]
  refine fair_look _ (fun _ _ _ h => h) fun n₁ h₁ _ => ?_
  cases hcity : Seed.city? cityName with
  | none => exact .unknownCity hcity
  | some city =>
    simp only [program_require_some]
    rw [program_insert_bind]
    rintro n₂ h₂ - _ _ (⟨hfree, rfl, -⟩ | ⟨htaken, ⟨what, rfl⟩, -⟩)
    · trivial
    · exact .taken (by omega) (Nat.le_refl n₂) htaken

theorem fair_get (id : Uuid) : (get id).program.Fair e first (.get id) first := by
  simp only [program, operation, getPickupPoint, bind_assoc]
  refine fair_look _ (fun _ _ _ h => h) fun n₁ h₁ _ => ?_
  cases hpoint : (e.books n₁).point? id with
  | none => exact .missing h₁ (Nat.le_refl n₁) hpoint
  | some p => trivial

theorem fair_openAt (stamp : Stamp) (p : Uuid) :
    (openAt stamp p).program.Fair e first (.openAt stamp p) first := by
  simp only [program, operation, openReception, resolveStatus, bind_assoc]
  refine fair_look _ (fun _ _ _ h => h) fun n₁ h₁ _ => ?_
  cases hpoint : (e.books n₁).point? p with
  | none => exact .nowhere rfl h₁ (Nat.le_refl n₁) hpoint
  | some point =>
    simp only [program_require_some]
    refine fair_active _ (fun n₂ r h₂ _ hr hp => ?_) fun n₂ h₂ _ => ?_
    · exact .occupied (by omega) (Nat.le_refl n₂) ⟨r, hr, hp⟩
    · simp only [Option.isSome_none, Bool.false_eq_true, if_false, bind_assoc]
      refine fair_look _ (fun _ _ _ h => h) fun n₃ h₃ _ => ?_
      simp only [program_require_some]
      rw [program_insert_bind]
      rintro n₄ h₄ - _ _ (⟨hfree, rfl, -⟩ | ⟨htaken, ⟨what, rfl⟩, -⟩)
      · trivial
      · exact .occupied (by omega) (Nat.le_refl n₄) htaken

include he

/-- A closing that comes too late: the reception that it found has been closed since. -/
theorem fair_closeAt (p : Uuid) : (closeAt p).program.Fair e first (.closeAt p) first := by
  simp only [program, operation, closeReception, activeReception, resolveStatus, bind_assoc]
  refine fair_active _ (fun n₁ r h₁ _ hr hp => ?_) fun n₁ h₁ hfree =>
    .free rfl h₁ (Nat.le_refl n₁) hfree
  simp only [program_require_some]
  refine fair_look _ (fun _ _ _ h => h) fun n₂ h₂ _ => ?_
  simp only [program_require_some]
  rw [program_call_bind]
  rintro n₃ h₃ - _ _ (⟨r', moved, -, -, rfl, -, -⟩ | ⟨hended, rfl, -⟩)
  · trivial
  · obtain ⟨k, hk, hlast, hfree⟩ := he.exists_free (Nat.le_trans h₂ h₃) hr (hended r rfl)
    exact .free rfl (by omega) hlast (hp ▸ hfree)

/-- An addition that comes too late: the reception that it found has been closed since. -/
theorem fair_addTo (stamp : Stamp) (p : Uuid) (typeName : String) :
    (addTo stamp p typeName).program.Fair e first (.addTo stamp p typeName) first := by
  simp only [program, operation, addProduct, activeReception, bind_assoc]
  refine fair_active _ (fun n₁ r h₁ _ hr hp => ?_) fun n₁ h₁ hfree =>
    .free rfl h₁ (Nat.le_refl n₁) hfree
  simp only [program_require_some]
  refine fair_look _ (fun _ _ _ h => h) fun n₂ h₂ _ => ?_
  cases htype : Seed.productType? typeName with
  | none => exact .unknownType htype
  | some type =>
    simp only [program_require_some]
    rw [program_call_bind]
    rintro n₃ h₃ - _ _ (⟨r', -, -, rfl, -⟩ | ⟨hended, rfl, -⟩)
    · trivial
    · obtain ⟨k, hk, hlast, hfree⟩ := he.exists_free (Nat.le_trans h₂ h₃) hr (hended r rfl)
      exact .free rfl (by omega) hlast (hp ▸ hfree)

/-- A removal that comes too late: the product that it found has been taken since. -/
theorem fair_removeFrom (p : Uuid) : (removeFrom p).program.Fair e first (.removeFrom p) first := by
  simp only [program, operation, removeLastProduct, activeReception, bind_assoc]
  refine fair_look _ (fun _ _ _ h => h) fun n₁ h₁ _ => ?_
  cases hpoint : (e.books n₁).point? p with
  | none => exact .nowhere rfl h₁ (Nat.le_refl n₁) hpoint
  | some point =>
    simp only [program_require_some]
    refine fair_active _ (fun n₂ r h₂ hfound hr hp => ?_) fun n₂ h₂ hfree =>
      .free rfl (by omega) (Nat.le_refl n₂) hfree
    simp only [program_require_some]
    rw [program_call_bind]
    rintro n₃ h₃ hasked _ _ ⟨-, ⟨x, rfl, hx, hreception⟩ | ⟨rfl, hnone⟩⟩
    · simp only [program_require_some]
      rw [program_call_bind]
      rintro n₄ h₄ hdeletes _ _ ⟨rfl, -⟩
      cases hgone : (e.books n₄).product? x.id with
      | some x' => trivial
      | none =>
        obtain ⟨k, hk, hlast, htakes⟩ := he.taken h₄ hdeletes hx hgone
        exact .gone (by omega) (hreception ▸ hasked) hx hk htakes hlast hdeletes
    · exact .empty (by omega) hfound hr hp h₃ (Nat.le_refl n₃) hasked hnone

/-- **Every operation fails for a reason only.** -/
theorem fair (q : Request) : q.program.Fair e first q first := by
  cases q with
  | create stamp id cityName registered => exact fair_create first stamp id cityName registered
  | get id => exact fair_get first id
  | openAt stamp p => exact fair_openAt first stamp p
  | closeAt p => exact fair_closeAt he first p
  | addTo stamp p typeName => exact fair_addTo he first stamp p typeName
  | removeFrom p => exact fair_removeFrom he first p

end Request
end PickupLedger
