import PickupLedger.Proofs.Interleaving
import PickupLedger.Proofs.OnePoint

/-!
# Operations at different pickup points

Every call of an operation is about the pickup point that the operation is addressed to
(`Program.StaysAt`, `Request.staysAt`), even if others are decided between its calls: what it has
found there stays there.  So an operation comes out as it would if there were no other pickup
point, and leaves what belongs to the others as it is, call by call
(`Program.StaysAt.step`) and to its end (`Program.StaysAt.run`).

Two operations at different pickup points therefore commute; and where many run side by side, what
one pickup point sees depends on nothing but the steps of the operations that are addressed to
it (`neighbours_commute`).
-/

namespace PickupLedger
open Operation Service

/-! ## Where an operation is at work -/

/-- **The pickup point that an operation is addressed to.** -/
def Request.pickupPoint : Request → Uuid
  | .create _ id _ _ | .get id => id
  | .openAt _ p | .closeAt p | .addTo _ p _ | .removeFrom p => p

/-- **A program stays at a pickup point**: whatever account it meets at its next call, as long as
that account is a later one in which its own identifier is still unissued, the call is about that
pickup point. -/
def Program.StaysAt (p : Uuid) (q : Request) : Program Verdict → Account → Prop
  | .done _, _ => True
  | .count _ next, a => next.StaysAt p q a
  | .ask c next, a => ∀ a', a.Reaches a' → a'.Regular → a'.Unissued q → c.About p a'.books ∧
      ∀ answer b', a'.books.Step c answer b' → (next answer).StaysAt p q a'

namespace Account

/-- **A reception stays at its pickup point.** -/
theorem Reaches.isAt {a a' : Account} (h : a.Reaches a') {p id : Uuid} (hat : a.books.IsAt p id) :
    a'.books.IsAt p id := by
  obtain ⟨r, hr, hp⟩ := hat
  rcases h.reception hr with hr' | hr'
  · exact ⟨r, hr', hp⟩
  · exact ⟨r.ended, hr', hp⟩

end Account

theorem Books.InProgress.isAt {b : Books} {r : Reception} (h : b.InProgress r) :
    b.IsAt r.pickupPoint r.id :=
  ⟨r, h.1, rfl⟩

namespace Operation
variable {p : Uuid} {q : Request} {a : Account}

/-- A call that only looks, and at nothing of another pickup point. -/
theorem stays_look (step : String) {c : Call} {reply : Books → c.Reply}
    {f : c.Reply → Operation Outcome} (habout : ∀ b, c.About p b)
    (hstep : ∀ (b : Books) answer b', b.Step c answer b' → answer = .ok (reply b))
    (h : ∀ a', a.Reaches a' → (f (reply a'.books)).program.StaysAt p q a') :
    (call step c >>= f).program.StaysAt p q a := by
  rw [program_call_bind]
  refine fun a' hreach _ _ => ⟨habout _, fun answer b' hs => ?_⟩
  obtain rfl := hstep _ _ _ hs
  exact h a' hreach

/-- The look for the reception in progress finds one of the pickup point, or none. -/
theorem stays_active (step : String) {f : Option Reception → Operation Outcome}
    (hsome : ∀ a' r, a.Reaches a' → a'.books.IsAt p r.id → (f (some r)).program.StaysAt p q a')
    (hnone : ∀ a', a.Reaches a' → (f none).program.StaysAt p q a') :
    (call step (.receptionInStatus .inProgress p) >>= f).program.StaysAt p q a := by
  rw [program_call_bind]
  refine fun a' hreach _ _ => ⟨rfl, ?_⟩
  rintro _ _ ⟨-, ⟨r, rfl, hr, hp⟩ | ⟨rfl, -⟩⟩
  · exact hsome a' r hreach (hp ▸ hr.isAt)
  · exact hnone a' hreach

/-- A value that is required, and there is no call without it. -/
theorem stays_require {ρ : Type} (missing : Failure) {found : Option ρ}
    {f : ρ → Operation Outcome} (h : ∀ value, (f value).program.StaysAt p q a) :
    (require missing found >>= f).program.StaysAt p q a := by
  cases found with
  | none => trivial
  | some value => exact h value

end Operation

namespace Request

section
variable (a : Account)

theorem staysAt_create (stamp : Stamp) (id : Uuid) (cityName : String)
    (registered : Option Instant) :
    (create stamp id cityName registered).program.StaysAt id
      (.create stamp id cityName registered) a := by
  simp only [program, operation, createPickupPoint, bind_assoc]
  refine stays_look _ (fun _ => trivial) (fun _ _ _ h => h.1) fun a₁ _ =>
    stays_require _ fun city => ?_
  rw [program_insert_bind]
  refine fun a₂ _ _ _ => ⟨rfl, ?_⟩
  rintro (e | point) _ - <;> trivial

theorem staysAt_get (id : Uuid) : (get id).program.StaysAt id (.get id) a := by
  simp only [program, operation, getPickupPoint, bind_assoc]
  exact stays_look _ (fun _ => rfl) (fun _ _ _ h => h.1) fun a₁ _ =>
    stays_require _ fun point => trivial

theorem staysAt_openAt (stamp : Stamp) (p : Uuid) :
    (openAt stamp p).program.StaysAt p (.openAt stamp p) a := by
  simp only [program, operation, openReception, resolveStatus, bind_assoc]
  refine stays_look _ (fun _ => rfl) (fun _ _ _ h => h.1) fun a₁ _ =>
    stays_require _ fun point => ?_
  refine stays_active _ (fun a₂ r _ _ => trivial) fun a₂ _ => ?_
  simp only [Option.isSome_none, Bool.false_eq_true, if_false, bind_assoc]
  refine stays_look _ (fun _ => trivial) (fun _ _ _ h => h.1) fun a₃ _ =>
    stays_require _ fun status => ?_
  rw [program_insert_bind]
  refine fun a₄ _ ha₄ hfresh => ⟨⟨rfl, ha₄.reception?_fresh hfresh rfl⟩, ?_⟩
  rintro (e | r) _ - <;> trivial

/-- What the first look has found is still at its pickup point when it is moved. -/
theorem staysAt_closeAt (p : Uuid) : (closeAt p).program.StaysAt p (.closeAt p) a := by
  simp only [program, operation, closeReception, activeReception, resolveStatus, bind_assoc]
  refine stays_active _ (fun a₁ r _ hat => ?_) fun a₁ _ => trivial
  simp only [program_require_some]
  refine stays_look _ (fun _ => trivial) (fun _ _ _ h => h.1) fun a₂ h₂ =>
    stays_require _ fun status => ?_
  rw [program_call_bind]
  refine fun a₃ h₃ _ _ => ⟨h₃.isAt (h₂.isAt hat), ?_⟩
  rintro (e | (_ | moved)) _ - <;> trivial

theorem staysAt_addTo (stamp : Stamp) (p : Uuid) (typeName : String) :
    (addTo stamp p typeName).program.StaysAt p (.addTo stamp p typeName) a := by
  simp only [program, operation, addProduct, activeReception, bind_assoc]
  refine stays_active _ (fun a₁ r _ hat => ?_) fun a₁ _ => trivial
  simp only [program_require_some]
  refine stays_look _ (fun _ => trivial) (fun _ _ _ h => h.1) fun a₂ h₂ =>
    stays_require _ fun type => ?_
  rw [program_call_bind]
  refine fun a₃ h₃ ha₃ hfresh =>
    ⟨⟨h₃.isAt (h₂.isAt hat), ha₃.product?_fresh hfresh rfl⟩, ?_⟩
  rintro (e | (_ | x)) _ - <;> trivial

/-- The product that was found is of the reception that was found, or it is gone. -/
theorem staysAt_removeFrom (p : Uuid) :
    (removeFrom p).program.StaysAt p (.removeFrom p) a := by
  simp only [program, operation, removeLastProduct, activeReception, bind_assoc]
  refine stays_look _ (fun _ => rfl) (fun _ _ _ h => h.1) fun a₁ _ =>
    stays_require _ fun point => ?_
  refine stays_active _ (fun a₂ r _ hat => ?_) fun a₂ _ => trivial
  simp only [program_require_some]
  rw [program_call_bind]
  refine fun a₃ h₃ ha₃ _ => ⟨h₃.isAt hat, ?_⟩
  rintro _ _ ⟨-, ⟨x, rfl, hx, hreception⟩ | ⟨rfl, -⟩⟩
  case inr => trivial
  simp only [program_require_some]
  rw [program_call_bind]
  refine fun a₄ h₄ _ _ => ⟨fun y hy => ?_, ?_⟩
  · rcases h₄.product (ha₃.product_issued hx) with hsame | hnone
    · rw [hsame] at hy
      obtain rfl := Option.some.inj (hy.symm.trans hx)
      exact h₄.isAt (hreception ▸ h₃.isAt hat)
    · rw [hnone] at hy
      cases hy
  · rintro (e | (_ | _)) _ - <;> trivial

/-- **Every operation stays at the pickup point that it is addressed to.** -/
theorem staysAt (q : Request) : q.program.StaysAt q.pickupPoint q a := by
  cases q with
  | create stamp id cityName registered => exact staysAt_create a stamp id cityName registered
  | get id => exact staysAt_get a id
  | openAt stamp p => exact staysAt_openAt a stamp p
  | closeAt p => exact staysAt_closeAt a p
  | addTo stamp p typeName => exact staysAt_addTo a stamp p typeName
  | removeFrom p => exact staysAt_removeFrom a p

end
end Request

/-! ## To the end -/

namespace Program
variable {q : Request} {p : Program Verdict} {pickupPoint : Uuid} {a : Account}

/-- What was said of a program holds from a later account on. -/
theorem StaysAt.later {a' : Account} (h : p.StaysAt pickupPoint q a) (hreach : a.Reaches a') :
    p.StaysAt pickupPoint q a' := by
  induction p with
  | done v => trivial
  | count c next ih => exact ih h
  | ask c next ih => exact fun a'' hreach' => h a'' (hreach.trans hreach')

/-- **A program that follows a request, run to its end**, has decided it. -/
theorem Follows.run {σ : Type} [Storage σ] [Bookkeeping σ] {w : World σ}
    (h : p.Follows q a (Bookkeeping.books w.store)) (hs : Bookkeeping.Sound w.store)
    (ha : a.Regular) (hq : a.Unissued q) : Bookkeeping.Sound (p.run w).2.store ∧
      a.books.Decides q (p.run w).1 (Bookkeeping.books (p.run w).2.store) := by
  induction p generalizing w with
  | done v => exact ⟨hs, h⟩
  | count k next ih => exact ih h hs
  | ask c next ih =>
    obtain ⟨hbooks, hnext⟩ := h
    obtain ⟨hproper, hfollows⟩ := hnext a (.refl a) ha hq
    rw [← hbooks] at hproper hfollows
    exact ih _ (hfollows _ _ (Bookkeeping.step_answer hs hproper))
      (Bookkeeping.sound_answer hs hproper)

theorem run_owned {α : Type} (p : Program α) {w : World InMemory} (h : w.store.Owned) :
    (p.run w).2.store.Owned := by
  induction p generalizing w with
  | done v => exact h
  | count k next ih => exact ih h
  | ask c next ih => exact ih _ (h.answer c)

/-- **A step of a program that stays at a pickup point** makes no use of any other: it goes on in
the same way with the part of the store that belongs to it, and leaves the other parts as they
are. -/
theorem StaysAt.step {w : World InMemory} (h : p.StaysAt pickupPoint q a)
    (hfollows : p.settled? = none → p.Follows q a a.books) (hw : w.store.books = a.books)
    (hs : w.store.Sound) (howned : w.store.Owned) (ha : a.Regular)
    (hq : p.settled? = none → a.Unissued q) (counters : Counters) :
    (p.step ⟨w.store.only pickupPoint, counters⟩).1 = (p.step w).1 ∧
      (p.step ⟨w.store.only pickupPoint, counters⟩).2.store =
        (p.step w).2.store.only pickupPoint ∧
      (∀ {other}, pickupPoint ≠ other →
        (p.step w).2.store.only other = w.store.only other) ∧
      (p.step w).2.store.Owned ∧ (p.step w).1.StaysAt pickupPoint q a := by
  induction p generalizing w counters with
  | done v => exact ⟨rfl, rfl, fun _ => rfl, howned, trivial⟩
  | count k next ih =>
    exact ih (w := { w with counters := w.counters.add k }) h hfollows hw hs howned hq
      (counters.add k)
  | ask c next ih =>
    obtain ⟨hproper, -⟩ := (hfollows rfl).2 a (.refl a) ha (hq rfl)
    obtain ⟨habout, hstays⟩ := h a (.refl a) ha (hq rfl)
    rw [← hw] at hproper habout hstays
    have hpart := hs.concerns howned habout
    have hown : Storage.answer c (w.store.only pickupPoint) = _ := hpart.own
    simp only [Program.step, hown]
    exact ⟨rfl, rfl, hpart.other, howned.answer c, hstays _ _ (hs.step hproper)⟩

/-- **A program that stays at a pickup point**, run to its end, does without any other. -/
theorem StaysAt.run {w : World InMemory} (h : p.StaysAt pickupPoint q a)
    (hfollows : p.Follows q a w.store.books) (hs : w.store.Sound) (howned : w.store.Owned)
    (ha : a.Regular) (hq : a.Unissued q) (counters : Counters) :
    (p.run ⟨w.store.only pickupPoint, counters⟩).1 = (p.run w).1 ∧
      (p.run ⟨w.store.only pickupPoint, counters⟩).2.store =
        (p.run w).2.store.only pickupPoint ∧
      ∀ {other}, pickupPoint ≠ other → (p.run w).2.store.only other = w.store.only other := by
  induction p generalizing w counters with
  | done v => exact ⟨rfl, rfl, fun _ => rfl⟩
  | count k next ih =>
    exact ih (w := { w with counters := w.counters.add k }) h hfollows hs howned
      (counters.add k)
  | ask c next ih =>
    obtain ⟨hbooks, hnext⟩ := hfollows
    obtain ⟨hproper, hfollows⟩ := hnext a (.refl a) ha hq
    obtain ⟨habout, hstays⟩ := h a (.refl a) ha hq
    rw [← hbooks] at hproper hfollows habout hstays
    have hstep := hs.step hproper
    have hpart := hs.concerns howned habout
    obtain ⟨hresult, hstore, hother⟩ := ih _ (w := { w with store := (InMemory.answer c w.store).2 })
      (hstays _ _ hstep) (hfollows _ _ hstep) (hs.answer hproper) (howned.answer c) counters
    have hown : Storage.answer c (w.store.only pickupPoint) = _ := hpart.own
    simp only [Program.run, hown]
    exact ⟨hresult, hstore, fun hne => (hother hne).trans (hpart.other hne)⟩

end Program

/-! ## One after the other -/

namespace Account

/-- **A store in memory keeps an account**, and every product in it belongs to a reception. -/
structure KeptIn (a : Account) (s : InMemory) : Prop where
  sound : s.Sound
  owned : s.Owned
  books : s.books = a.books
  regular : a.Regular

section Run
variable {a : Account} {w : Program.World InMemory} (h : a.KeptIn w.store) {q : Request}
  (hq : a.Unissued q)
include h hq

/-- An operation takes a store from one account to another, and issues its own identifier. -/
theorem KeptIn.run : ∃ a' : Account, a'.KeptIn (q.program.run w).2.store ∧
    ∀ {q' : Request}, a.Unissued q' → (∀ id, q.fresh? = some id → q'.fresh? ≠ some id) →
      a'.Unissued q' := by
  have hfollows : q.program.Follows q a w.store.books := h.books ▸ q.follows a
  obtain ⟨hsound, hdecides⟩ := Program.Follows.run (w := w) hfollows h.sound h.regular hq
  have hnext := Next.decide (d := ⟨0, q, (q.program.run w).1⟩) hdecides hq
  refine ⟨_, ⟨hsound, q.program.run_owned h.owned, rfl, hnext.regular h.regular⟩, ?_⟩
  intro q' hq' hne id hid hissued
  rcases mem_issued_cons.mp hissued with hown | hissued
  · exact hne id hown hid
  · exact hq' id hid hissued

/-- **An operation does without other pickup points.** -/
theorem KeptIn.run_only (counters : Counters) :
    (q.program.run ⟨w.store.only q.pickupPoint, counters⟩).1 = (q.program.run w).1 ∧
      (q.program.run ⟨w.store.only q.pickupPoint, counters⟩).2.store =
        (q.program.run w).2.store.only q.pickupPoint ∧
      ∀ {other}, q.pickupPoint ≠ other →
        (q.program.run w).2.store.only other = w.store.only other :=
  (q.staysAt a).run (h.books ▸ q.follows a) h.sound h.owned h.regular hq counters

end Run

/-- **After an operation at another pickup point** an operation comes out as without it, and does
the same at its own. -/
theorem KeptIn.run_after {a : Account} {w : Program.World InMemory} (h : a.KeptIn w.store)
    {q q' : Request} (hq : a.Unissued q) (hq' : a.Unissued q')
    (hfresh : ∀ id, q.fresh? = some id → q'.fresh? ≠ some id)
    (hne : q.pickupPoint ≠ q'.pickupPoint) :
    (q'.program.run (q.program.run w).2).1 = (q'.program.run w).1 ∧
      (q'.program.run (q.program.run w).2).2.store.only q'.pickupPoint =
        (q'.program.run w).2.store.only q'.pickupPoint ∧
      ∀ {other}, q'.pickupPoint ≠ other →
        (q'.program.run (q.program.run w).2).2.store.only other =
          (q.program.run w).2.store.only other := by
  obtain ⟨a', h', hlater⟩ := h.run hq
  obtain ⟨-, -, hother⟩ := h.run_only hq .zero
  obtain ⟨hresult, hstore, -⟩ := h.run_only hq' .zero
  obtain ⟨hresult', hstore', hother'⟩ := h'.run_only (hlater hq' hfresh) .zero
  -- What the second operation needs is as the first one has found it.
  rw [hother hne] at hresult' hstore'
  exact ⟨hresult'.symm.trans hresult, hstore'.symm.trans hstore, hother'⟩

/-- **Two operations at different pickup points commute.** -/
theorem KeptIn.commute {a : Account} {w : Program.World InMemory} (h : a.KeptIn w.store)
    {q q' : Request} (hq : a.Unissued q) (hq' : a.Unissued q')
    (hfresh : ∀ id, q.fresh? = some id → q'.fresh? ≠ some id)
    (hne : q.pickupPoint ≠ q'.pickupPoint) :
    ∃ v v' w₁ w₂, Request.runAll [q, q'] w = ([v, v'], w₁) ∧
      Request.runAll [q', q] w = ([v', v], w₂) ∧ w₁.store.Rearranged w₂.store := by
  obtain ⟨hresult', hstore', hother'⟩ := h.run_after hq hq' hfresh hne
  obtain ⟨hresult, hstore, hother⟩ :=
    h.run_after hq' hq (fun id hid hid' => hfresh id hid' hid) hne.symm
  obtain ⟨-, -, halone⟩ := h.run_only hq .zero
  obtain ⟨-, -, halone'⟩ := h.run_only hq' .zero
  refine ⟨(q.program.run w).1, (q'.program.run w).1, (q'.program.run (q.program.run w).2).2,
    (q.program.run (q'.program.run w).2).2, ?_, ?_, ?_⟩
  · rw [← hresult']
    rfl
  · rw [← hresult]
    rfl
  · refine InMemory.Owned.rearranged (q'.program.run_owned (q.program.run_owned h.owned))
      (q.program.run_owned (q'.program.run_owned h.owned)) fun p => ?_
    -- Each of the two pickup points is as its own operation leaves it.
    by_cases hp : q.pickupPoint = p
    · subst hp
      rw [hother' hne.symm, hstore]
    · by_cases hp' : q'.pickupPoint = p
      · subst hp'
        rw [hstore', hother hne]
      · rw [hother' hp', halone hp, hother hp, halone' hp']

end Account

/-! ## Side by side -/

namespace SideBySide

/-- Every task is at work at the pickup point that its operation is addressed to. -/
structure Placed (y : SideBySide InMemory) : Prop where
  regular : y.Regular
  owned : y.world.store.Owned
  stays : ∀ {i : Nat} {t : Task}, y.tasks[i]? = some t →
    t.program.StaysAt t.request.pickupPoint t.request y.account

theorem start_placed {requests : List Request}
    (hids : (requests.filterMap Request.fresh?).Nodup) :
    (start InMemory.new requests).Placed where
  regular := start_regular InMemory.new_sound InMemory.books_new hids
  owned := InMemory.new_owned
  stays {i t} ht := by
    simp only [start, List.getElem?_map, Option.map_eq_some_iff] at ht
    obtain ⟨q, -, rfl⟩ := ht
    exact q.staysAt _

section Steps
variable {y : SideBySide InMemory} {i : Nat} {t : Task}

/-- A step does without other pickup points. -/
theorem Placed.step (hy : y.Placed) (hi : y.tasks[i]? = some t) (counters : Counters) :
    (t.program.step ⟨y.world.store.only t.request.pickupPoint, counters⟩).1 =
        (t.program.step y.world).1 ∧
      (t.program.step ⟨y.world.store.only t.request.pickupPoint, counters⟩).2.store =
        (t.program.step y.world).2.store.only t.request.pickupPoint ∧
      (∀ {other}, t.request.pickupPoint ≠ other →
        (t.program.step y.world).2.store.only other = y.world.store.only other) ∧
      (t.program.step y.world).2.store.Owned ∧
      (t.program.step y.world).1.StaysAt t.request.pickupPoint t.request y.account :=
  (hy.stays hi).step (hy.regular.follows hi) rfl hy.regular.sound hy.owned hy.regular.account
    (hy.regular.unissued hi) counters

theorem Placed.tick (hy : y.Placed) (i : Nat) : (y.tick i).Placed := by
  have hreach := hy.regular.tick_reaches i
  refine ⟨hy.regular.tick i, ?_, ?_⟩
  · cases hi : y.tasks[i]? with
    | none =>
      rw [SideBySide.tick, hi]
      exact hy.owned
    | some t =>
      rw [tick_of_some hi]
      exact (hy.step hi .zero).2.2.2.1
  · intro j u hu
    refine Program.StaysAt.later ?_ hreach
    cases hi : y.tasks[i]? with
    | none =>
      rw [SideBySide.tick, hi] at hu
      exact hy.stays hu
    | some t =>
      rw [tick_of_some hi] at hu
      rcases of_getElem?_set_task hi hu with ⟨-, rfl⟩ | ⟨-, hu⟩
      · exact (hy.step hi .zero).2.2.2.2
      · exact hy.stays hu

theorem Placed.run (hy : y.Placed) (schedule : List Nat) : (y.run schedule).Placed := by
  induction schedule generalizing y with
  | nil => exact hy
  | cons i is ih => exact ih (hy.tick i)

end Steps

/-- The task is addressed to this pickup point. -/
def isFor (y : SideBySide InMemory) (p : Uuid) (i : Nat) : Bool :=
  (y.request? i).any fun q => q.pickupPoint = p

/-- **Two states are the same at a pickup point**: the same records belong to it, and the
operations that are addressed to it have come equally far. -/
structure SameAt (p : Uuid) (y z : SideBySide InMemory) : Prop where
  part : y.world.store.only p = z.world.store.only p
  request : ∀ i, y.request? i = z.request? i
  task : ∀ {i}, y.isFor p i = true → y.tasks[i]? = z.tasks[i]?

namespace SameAt
variable {p : Uuid} {y z : SideBySide InMemory}

theorem refl (y : SideBySide InMemory) : SameAt p y y := ⟨rfl, fun _ => rfl, fun _ => rfl⟩

theorem result? (h : SameAt p y z) {i : Nat} (hi : y.isFor p i = true) :
    y.result? i = z.result? i :=
  congrArg (fun t : Option Task => t.bind _) (h.task hi)

end SameAt

theorem tick_isFor (y : SideBySide InMemory) (p : Uuid) (i j : Nat) :
    (y.tick i).isFor p j = y.isFor p j :=
  congrArg (fun q : Option Request => q.any _) (tick_request? y i j)

section Steps
variable {p : Uuid} {y z : SideBySide InMemory} {i : Nat}

/-- A step at another pickup point is not noticed. -/
theorem SameAt.tick_other (h : SameAt p y z) (hy : y.Placed) (hi : y.isFor p i = false) :
    SameAt p (y.tick i) z := by
  cases ht : y.tasks[i]? with
  | none => rwa [SideBySide.tick, ht]
  | some t =>
    have hne : t.request.pickupPoint ≠ p := by
      simpa only [SideBySide.isFor, request?, ht, Option.map_some, Option.any_some,
        decide_eq_false_iff_not] using hi
    refine ⟨?_, fun j => (tick_request? y i j).trans (h.request j), fun {j} hj => ?_⟩
    · rw [tick_of_some ht]
      exact ((hy.step ht .zero).2.2.1 hne).trans h.part
    · rw [tick_isFor] at hj
      have hij : i ≠ j := fun heq => Bool.false_ne_true (hi.symm.trans (heq ▸ hj))
      rw [tick_of_some ht, getElem?_set_task ht, if_neg hij]
      exact h.task hj

/-- A step at the pickup point goes the same way from both states. -/
theorem SameAt.tick_own (h : SameAt p y z) (hy : y.Placed) (hz : z.Placed)
    (hi : y.isFor p i = true) : SameAt p (y.tick i) (z.tick i) := by
  have hsame := h.task hi
  cases ht : y.tasks[i]? with
  | none =>
    rw [SideBySide.tick, ht, SideBySide.tick, ← hsame, ht]
    exact h
  | some t =>
    have hp : t.request.pickupPoint = p := by
      simpa only [SideBySide.isFor, request?, ht, Option.map_some, Option.any_some,
        decide_eq_true_eq] using hi
    have hz' : z.tasks[i]? = some t := hsame.symm.trans ht
    obtain ⟨hprogram, hpart, -⟩ := hy.step ht .zero
    obtain ⟨hprogram', hpart', -⟩ := hz.step hz' .zero
    rw [hp, h.part] at hprogram hpart
    rw [hp] at hprogram' hpart'
    refine ⟨?_, fun j => ?_, fun {j} hj => ?_⟩
    · rw [tick_of_some ht, tick_of_some hz']
      exact hpart.symm.trans hpart'
    · rw [tick_request?, tick_request?, h.request]
    · rw [tick_isFor] at hj
      rw [tick_of_some ht, tick_of_some hz', getElem?_set_task ht, getElem?_set_task hz',
        h.task hj, ← hprogram, hprogram']

/-- **What is the same at a pickup point stays so** if one of the two schedules leaves out the
steps at other pickup points. -/
theorem SameAt.run (h : SameAt p y z) (hy : y.Placed) (hz : z.Placed) (schedule : List Nat) :
    SameAt p (y.run schedule) (z.run (schedule.filter (y.isFor p))) := by
  induction schedule generalizing y z with
  | nil => exact h
  | cons i is ih =>
    have hfilter : y.isFor p = (y.tick i).isFor p := funext fun j => (tick_isFor y p i j).symm
    rw [List.filter_cons]
    by_cases hi : y.isFor p i = true
    · rw [if_pos hi, hfilter]
      exact ih (h.tick_own hy hz hi) (hy.tick i) (hz.tick i)
    · rw [if_neg hi, hfilter]
      exact ih (h.tick_other hy (Bool.eq_false_iff.mpr hi)) (hy.tick i) hz

end Steps

/-- A request is unissued if its identifier is none of the others'. -/
theorem unissued_of_new {requests : List Request} (hids : (requests.filterMap Request.fresh?).Nodup)
    (schedule : List Nat) {q : Request}
    (hnew : ∀ id, q.fresh? = some id → id ∉ requests.filterMap Request.fresh?) :
    ((start InMemory.new requests).run schedule).account.Unissued q := by
  intro id hid hissued
  obtain ⟨d, hd, hfresh⟩ := List.mem_filterMap.mp hissued
  obtain ⟨hrequest, -⟩ := ((start_placed hids).regular.run schedule).mem_decided.mp hd
  rw [run_request?, start_request?] at hrequest
  exact hnew id hid (List.mem_filterMap.mpr ⟨_, List.mem_of_getElem? hrequest, hfresh⟩)

end SideBySide

/-- **Pickup points do not get in each other's way.**  Over the store in memory, whatever
operations have run side by side and however far they have come:

* of two more operations at different pickup points, run in either order, each is told the same,
  and the store holds the same records after them;
* what belongs to a pickup point, and what each operation at it was told, is as if no other
  operation had taken a step. -/
theorem neighbours_commute (requests : List Request) (schedule : List Nat)
    (hids : (requests.filterMap Request.fresh?).Nodup) :
    let start := SideBySide.start InMemory.new requests
    let y := start.run schedule
    (∀ {q₁ q₂ : Request}, ((requests ++ [q₁, q₂]).filterMap Request.fresh?).Nodup →
        q₁.pickupPoint ≠ q₂.pickupPoint →
      ∃ v₁ v₂ w w', Request.runAll [q₁, q₂] y.world = ([v₁, v₂], w) ∧
        Request.runAll [q₂, q₁] y.world = ([v₂, v₁], w') ∧ w.store.Rearranged w'.store) ∧
      ∀ p, let own := start.run (schedule.filter (start.isFor p))
        y.world.store.only p = own.world.store.only p ∧
          ∀ {i q}, requests[i]? = some q → q.pickupPoint = p → y.result? i = own.result? i := by
  intro start y
  have hstart : start.Placed := SideBySide.start_placed hids
  have hy : y.Placed := hstart.run schedule
  refine ⟨?_, fun p => ?_⟩
  · intro q₁ q₂ hnodup hne
    rw [List.filterMap_append, List.nodup_append] at hnodup
    obtain ⟨-, hpair, hapart⟩ := hnodup
    have hkept : y.account.KeptIn y.world.store :=
      ⟨hy.regular.sound, hy.owned, rfl, hy.regular.account⟩
    have hnew : ∀ q ∈ [q₁, q₂], y.account.Unissued q := fun q hq =>
      SideBySide.unissued_of_new hids schedule fun id hid hmem =>
        hapart id hmem id (List.mem_filterMap.mpr ⟨q, hq, hid⟩) rfl
    refine hkept.commute (hnew q₁ List.mem_cons_self)
      (hnew q₂ (List.mem_cons_of_mem _ List.mem_cons_self)) (fun id hid hid' => ?_) hne
    rw [List.filterMap_cons_some hid, List.filterMap_cons_some hid'] at hpair
    exact (List.nodup_cons.mp hpair).1 List.mem_cons_self
  · have hsame := (SideBySide.SameAt.refl (p := p) start).run hstart hstart schedule
    refine ⟨hsame.part, fun {i q} hq hp => hsame.result? ?_⟩
    rw [SideBySide.isFor, SideBySide.run_request?, SideBySide.start_request?, hq, Option.any_some,
      decide_eq_true hp]

/-- Two pickup points with a reception each, and a product on its way to either. -/
def twoNeighbours : List Request :=
  [.create ⟨.epoch, .generated 0⟩ (.ofNat 1) "Москва" none,
    .create ⟨.epoch, .generated 0⟩ (.ofNat 2) "Казань" none,
    .openAt ⟨.epoch, .generated 1⟩ (.ofNat 1), .openAt ⟨.epoch, .generated 2⟩ (.ofNat 2),
    .addTo ⟨.epoch, .generated 3⟩ (.ofNat 2) "обувь",
    .addTo ⟨.epoch, .generated 4⟩ (.ofNat 1) "одежда"]

/-- Step by step in turn; the last product does not get there. -/
def twoNeighboursSchedule : List Nat := [0, 1, 0, 1, 2, 3, 2, 3, 2, 3, 2, 3, 4, 5, 4, 5, 4]

/-- **A product is taken back at one pickup point while the other is closed**, in either order. -/
theorem taking_back_commutes_with_closing :
    let start := SideBySide.start InMemory.new twoNeighbours
    let y := start.run twoNeighboursSchedule
    let own := start.run [1, 1, 3, 3, 3, 3, 4, 4, 4]
    let back := Request.removeFrom (.ofNat 2)
    let close := Request.closeAt (.ofNat 1)
    let x := Product.ofType (.generated 3) (.generated 2) .epoch ⟨3, "обувь"⟩
    let r := Reception.begun (.generated 1) (.ofNat 1) .epoch
    ((twoNeighbours ++ [back, close]).filterMap Request.fresh?).Nodup ∧
      (∃ w w', Request.runAll [back, close] y.world =
          ([.ok (.product x), .ok (.reception r.ended)], w) ∧
        Request.runAll [close, back] y.world =
          ([.ok (.reception r.ended), .ok (.product x)], w') ∧ w.store.Rearranged w'.store) ∧
      own.result? 4 = some (.ok (.product x)) ∧ y.result? 4 = own.result? 4 := by
  have hids : (twoNeighbours.filterMap Request.fresh?).Nodup := by decide
  have hnodup : ((twoNeighbours ++ [Request.removeFrom (.ofNat 2), .closeAt (.ofNat 1)]).filterMap
      Request.fresh?).Nodup := by decide
  have hverdicts : (Request.runAll [.removeFrom (.ofNat 2), .closeAt (.ofNat 1)]
      ((SideBySide.start InMemory.new twoNeighbours).run twoNeighboursSchedule).world).1 =
      [.ok (.product (.ofType (.generated 3) (.generated 2) .epoch ⟨3, "обувь"⟩)),
        .ok (.reception (Reception.begun (.generated 1) (.ofNat 1) .epoch).ended)] := by decide
  obtain ⟨hcommute, hown⟩ := neighbours_commute twoNeighbours twoNeighboursSchedule hids
  obtain ⟨v₁, v₂, w, w', h, h', hsame⟩ := hcommute hnodup (by decide)
  rw [h, List.cons.injEq, List.cons.injEq] at hverdicts
  obtain ⟨rfl, rfl, -⟩ := hverdicts
  exact ⟨hnodup, ⟨w, w', h, h', hsame⟩, by decide, (hown (.ofNat 2)).2 (i := 4) rfl rfl⟩

end PickupLedger
