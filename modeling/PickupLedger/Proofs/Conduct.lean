import PickupLedger.Proofs.Accounts

/-!
# How an operation conducts itself

Between two calls of an operation others may be decided.  `Program.Follows` says that a
program bears it: whatever account it meets at its next call, as long as that account is a
later one in which its own identifier is still unissued, the call is a proper one; a call
that is not its last leaves the books as they are; and when no call is left, what it has
done is a decision on its request (`Books.Decides`).

The definition goes by the calls of the program, and so do the proofs: at each call the
answer is what the books say then, and what an earlier answer said is worth only what a
later account leaves of it.
-/

namespace PickupLedger
open Operation Service

/-- **A program follows a request**, from an account and the books after its last call. -/
def Program.Follows (q : Request) : Program Verdict → Account → Books → Prop
  | .done v, a, b => a.books.Decides q v b
  | .count _ next, a, b => next.Follows q a b
  | .ask c next, a, b => b = a.books ∧
    ∀ a', a.Reaches a' → a'.Regular → a'.Unissued q → a'.books.Proper c ∧
      ∀ answer b', a'.books.Step c answer b' → (next answer).Follows q a' b'

namespace Operation
variable {q : Request} {a : Account}

/-- A call that only looks: whatever is decided before it, it is answered by the books. -/
theorem follows_look (step : String) {c : Call} {reply : Books → c.Reply}
    {f : c.Reply → Operation Outcome} (hproper : ∀ b : Books, b.Proper c)
    (hstep : ∀ (b : Books) answer b', b.Step c answer b' → answer = .ok (reply b) ∧ b' = b)
    (h : ∀ a', a.Reaches a' → (f (reply a'.books)).program.Follows q a' a'.books) :
    (call step c >>= f).program.Follows q a a.books := by
  rw [program_call_bind]
  refine ⟨rfl, fun a' hreach _ _ => ⟨hproper _, fun answer b' hs => ?_⟩⟩
  obtain ⟨rfl, rfl⟩ := hstep _ _ _ hs
  exact h a' hreach

/-- The look for the reception in progress finds it, or there is none. -/
theorem follows_active (step : String) {p : Uuid} {f : Option Reception → Operation Outcome}
    (hsome : ∀ a' r, a.Reaches a' → a'.Regular → a'.books.InProgress r → r.pickupPoint = p →
      (f (some r)).program.Follows q a' a'.books)
    (hnone : ∀ a', a.Reaches a' → (f none).program.Follows q a' a'.books) :
    (call step (.receptionInStatus .inProgress p) >>= f).program.Follows q a a.books := by
  rw [program_call_bind]
  refine ⟨rfl, fun a' hreach ha' _ => ⟨trivial, ?_⟩⟩
  rintro _ _ ⟨rfl, ⟨r, rfl, hr, hp⟩ | ⟨rfl, -⟩⟩
  · exact hsome a' r hreach ha' hr hp
  · exact hnone a' hreach

end Operation

namespace Request

section
variable (a : Account)

theorem follows_create (stamp : Stamp) (id : Uuid) (cityName : String)
    (registered : Option Instant) :
    (create stamp id cityName registered).program.Follows
      (.create stamp id cityName registered) a a.books := by
  simp only [program, operation, createPickupPoint, bind_assoc]
  refine follows_look _ (fun _ => trivial) (fun _ _ _ h => h) fun a₁ _ => ?_
  cases hcity : Seed.city? cityName with
  | none => exact .refused ..
  | some city =>
    simp only [program_require_some]
    rw [program_insert_bind]
    refine ⟨rfl, fun a₂ _ _ _ => ⟨⟨city, List.mem_of_find?_eq_some hcity, rfl⟩, ?_⟩⟩
    rintro _ _ (⟨hfree, rfl, rfl⟩ | ⟨-, ⟨what, rfl⟩, rfl⟩)
    · exact .created hcity hfree
    · exact .refused ..

theorem follows_get (id : Uuid) : (get id).program.Follows (.get id) a a.books := by
  simp only [program, operation, getPickupPoint, bind_assoc]
  refine follows_look _ (fun _ => trivial) (fun _ _ _ h => h) fun a₁ _ => ?_
  cases hp : a₁.books.point? id with
  | none => exact .refused ..
  | some p => exact .found hp

/-- The look before the start decides nothing: what counts is the store's own check. -/
theorem follows_openAt (stamp : Stamp) (p : Uuid) :
    (openAt stamp p).program.Follows (.openAt stamp p) a a.books := by
  simp only [program, operation, openReception, resolveStatus, bind_assoc]
  refine follows_look _ (fun _ => trivial) (fun _ _ _ h => h) fun a₁ _ => ?_
  cases hpoint : a₁.books.point? p with
  | none => exact .refused ..
  | some point =>
    simp only [program_require_some]
    refine follows_active _ (fun a₂ r _ _ _ _ => .refused ..) fun a₂ h₂ => ?_
    simp only [Option.isSome_none, Bool.false_eq_true, if_false, bind_assoc]
    refine follows_look _ (fun _ => trivial) (fun _ _ _ h => h) fun a₃ h₃ => ?_
    simp only [program_require_some]
    rw [program_insert_bind]
    refine ⟨rfl, fun a₄ h₄ ha₄ hfresh => ?_⟩
    have hnew : a₄.books.reception? stamp.fresh = none := ha₄.reception?_fresh hfresh rfl
    have hpoint := h₄.point (h₃.point (h₂.point hpoint))
    refine ⟨⟨hnew, ⟨point, hpoint⟩, rfl⟩, ?_⟩
    rintro _ _ (⟨hfree, rfl, rfl⟩ | ⟨-, ⟨what, rfl⟩, rfl⟩)
    · exact .opened hnew hfree
    · exact .refused ..

/-- What ends is the reception that was found, if it is still in progress. -/
theorem follows_closeAt (p : Uuid) : (closeAt p).program.Follows (.closeAt p) a a.books := by
  simp only [program, operation, closeReception, activeReception, resolveStatus, bind_assoc]
  refine follows_active _ (fun a₁ r _ ha₁ hr hp => ?_) fun a₁ _ => .refused ..
  simp only [program_require_some]
  refine follows_look _ (fun _ => trivial) (fun _ _ _ h => h) fun a₂ h₂ => ?_
  simp only [program_require_some]
  rw [program_call_bind]
  refine ⟨rfl, fun a₃ h₃ _ _ => ⟨⟨ha₁.statusId hr, rfl⟩, ?_⟩⟩
  rintro _ _ (⟨r', moved, hid, hr', rfl, hmoved, rfl⟩ | ⟨-, rfl, rfl⟩)
  · -- A reception can only have ended since the look, so one in progress is the same.
    have hsame : r' = r := (h₂.trans h₃).inProgress_unique hr hr' hid
    rw [← hp, ← hsame]
    show a₃.books.Decides _ (.ok (.reception moved.ended)) _
    rw [hmoved]
    exact .closed hr'
  · exact .refused ..

/-- What the product goes into is the reception that was found, if it is still in progress. -/
theorem follows_addTo (stamp : Stamp) (p : Uuid) (typeName : String) :
    (addTo stamp p typeName).program.Follows (.addTo stamp p typeName) a a.books := by
  simp only [program, operation, addProduct, activeReception, bind_assoc]
  refine follows_active _ (fun a₁ r _ ha₁ hr hp => ?_) fun a₁ _ => .refused ..
  simp only [program_require_some]
  refine follows_look _ (fun _ => trivial) (fun _ _ _ h => h) fun a₂ h₂ => ?_
  cases htype : Seed.productType? typeName with
  | none => exact .refused ..
  | some type =>
    simp only [program_require_some]
    rw [program_call_bind]
    refine ⟨rfl, fun a₃ h₃ ha₃ hfresh => ?_⟩
    have hnew : a₃.books.product? stamp.fresh = none := ha₃.product?_fresh hfresh rfl
    refine ⟨⟨hnew, type, List.mem_of_find?_eq_some htype, rfl⟩, ?_⟩
    rintro _ _ (⟨r', hid, hr', rfl, rfl⟩ | ⟨-, rfl, rfl⟩)
    · have hsame : r' = r := (h₂.trans h₃).inProgress_unique hr hr' hid
      rw [← hp, ← hsame]
      exact .added htype hnew hr'
    · exact .refused ..

/-- What is removed was the last product of the reception when it was looked up; by the
time it is deleted the reception may have ended. -/
theorem follows_removeFrom (p : Uuid) :
    (removeFrom p).program.Follows (.removeFrom p) a a.books := by
  simp only [program, operation, removeLastProduct, activeReception, bind_assoc]
  refine follows_look _ (fun _ => trivial) (fun _ _ _ h => h) fun a₁ _ => ?_
  cases hpoint : a₁.books.point? p with
  | none => exact .refused ..
  | some point =>
    simp only [program_require_some]
    refine follows_active _ (fun a₂ r _ _ hr hp => ?_) fun a₂ _ => .refused ..
    simp only [program_require_some]
    rw [program_call_bind]
    refine ⟨rfl, fun a₃ h₃ ha₃ _ => ⟨trivial, ?_⟩⟩
    rintro _ _ ⟨rfl, ⟨x, rfl, hx, hreception⟩ | ⟨rfl, -⟩⟩
    · simp only [program_require_some]
      rw [program_call_bind]
      refine ⟨rfl, fun a₄ h₄ _ _ => ⟨trivial, ?_⟩⟩
      rintro _ _ ⟨rfl, rfl⟩
      rcases h₄.product (ha₃.product_issued hx) with hsame | hnone
      · have hx : a₄.books.Has x := hsame.trans hx
        rw [hx]
        simp only [Option.isSome_some, Bool.true_eq_false, if_false]
        rw [← hp]
        -- The deletion does not ask whether the reception has ended since the look.
        rcases (h₃.trans h₄).reception hr.1 with hr | hr
        · exact .removed hx (hreception ▸ hr)
        · exact .removed (r := r.ended) hx (hreception ▸ hr)
      · rw [hnone, Books.dropProduct_of_none hnone]
        exact .refused ..
    · exact .refused ..

/-- **Every operation follows its request**, from any account on. -/
theorem follows (q : Request) : q.program.Follows q a a.books := by
  cases q with
  | create stamp id cityName registered => exact follows_create a stamp id cityName registered
  | get id => exact follows_get a id
  | openAt stamp p => exact follows_openAt a stamp p
  | closeAt p => exact follows_closeAt a p
  | addTo stamp p typeName => exact follows_addTo a stamp p typeName
  | removeFrom p => exact follows_removeFrom a p

end
end Request

/-! ## Steps of a program that follows -/

namespace Program
variable {q : Request} {p : Program Verdict} {a : Account} {b : Books}

/-- A call that is not the last leaves the books as they are. -/
theorem Follows.undecided (h : p.Follows q a b) (hp : p.settled? = none) : b = a.books := by
  induction p with
  | done v => cases hp
  | count c next ih => exact ih h hp
  | ask c next ih => exact h.1

/-- The last call is a decision. -/
theorem Follows.decides {v : Verdict} (h : p.Follows q a b) (hp : p.settled? = some v) :
    a.books.Decides q v b := by
  induction p with
  | done v' => cases hp; exact h
  | count c next ih => exact ih h hp
  | ask c next ih => cases hp

/-- What others decide meanwhile does no harm. -/
theorem Follows.later {a' : Account} (h : p.Follows q a a.books) (hp : p.settled? = none)
    (hreach : a.Reaches a') : p.Follows q a' a'.books := by
  induction p with
  | done v => cases hp
  | count c next ih => exact ih h hp
  | ask c next ih => exact ⟨rfl, fun a'' hreach' => h.2 a'' (hreach.trans hreach')⟩

variable {σ : Type} [Storage σ]

theorem step_settled {w : World σ} {v : Verdict} (hp : p.settled? = some v) :
    (p.step w).1.settled? = some v ∧ (p.step w).2.store = w.store := by
  induction p generalizing w with
  | done v' => exact ⟨hp, rfl⟩
  | count c next ih => exact ih hp
  | ask c next ih => cases hp

/-- **A step of an undecided program** is one proper call. -/
theorem Follows.step [Bookkeeping σ] {w : World σ} (h : p.Follows q a a.books)
    (hp : p.settled? = none) (hs : Bookkeeping.Sound w.store)
    (hw : Bookkeeping.books w.store = a.books) (ha : a.Regular) (hq : a.Unissued q) :
    Bookkeeping.Sound (p.step w).2.store ∧
      (p.step w).1.Follows q a (Bookkeeping.books (p.step w).2.store) := by
  induction p generalizing w with
  | done v => cases hp
  | count c next ih => exact ih h hp hs hw
  | ask c next ih =>
    obtain ⟨hproper, hnext⟩ := h.2 a (.refl a) ha hq
    rw [← hw] at hproper hnext
    exact ⟨Bookkeeping.sound_answer hs hproper, hnext _ _ (Bookkeeping.step_answer hs hproper)⟩

end Program
end PickupLedger
