import PickupLedger.Proofs.Backends

/-!
# Closed receptions

A closed reception stays closed and takes no product.  What it has, it keeps, but for one
gap: an operation that removes a product looks up the reception in progress, then its last
product, and then deletes that product by its identifier, whatever has become of the
reception meanwhile.  A removal that has come past its first look when the reception ends
(`SideBySide.Removing`) still takes a product from it.

That is the only way.  The two calls of a removal come only after each other and after the
look (`Program.Orderly`), and the look finds no closed reception; so no removal can start on
a reception that is closed, and a closed reception that no removal is at work on is frozen
(`SideBySide.Regular.frozen_iff`).
-/

namespace PickupLedger

/-! ## The order of the calls of a removal -/

/-- The call is neither of the last two of a removal. -/
def Call.isHarmless : Call → Bool
  | .lastProduct _ | .deleteProduct _ => false
  | _ => true

/-- What an answer allows a program to ask next: the last product of a reception after that
reception was found in progress, and a deletion after its product was found. -/
def Call.Follow : (c : Call) → Answer c → Option Call → Prop
  | .receptionInStatus .inProgress _, .ok (some r), next =>
    next = some (.lastProduct r.id) ∨ next.all isHarmless = true
  | .lastProduct _, .ok (some x), next => next = some (.deleteProduct x.id)
  | _, _, next => next.all isHarmless = true

/-- **The calls of a removal come in their order.** -/
def Program.Orderly : Program Verdict → Prop
  | .done _ => True
  | .count _ next => next.Orderly
  | .ask c next => ∀ a, c.Follow a (next a).call? ∧ (next a).Orderly

/-- A program that is at its end after an answer asks for nothing. -/
theorem Call.follow_error (c : Call) (e : StorageFailure) : c.Follow (.error e) none := by
  cases c with
  | receptionInStatus kind p => cases kind <;> rfl
  | _ => rfl

namespace Operation

/-- A failure of the store ends an operation, so only replies matter. -/
theorem orderly_call (step : String) (c : Call) {f : c.Reply → Operation Outcome}
    (h : ∀ reply, c.Follow (.ok reply) (f reply).program.call? ∧ (f reply).program.Orderly) :
    (call step c >>= f).program.Orderly := by
  rw [program_call_bind]
  rintro (e | reply)
  · exact ⟨c.follow_error e, trivial⟩
  · exact h reply

theorem orderly_insert (step : String) (taken : Failure) (c : Call)
    {f : c.Reply → Operation Outcome}
    (h : ∀ reply, c.Follow (.ok reply) (f reply).program.call? ∧ (f reply).program.Orderly) :
    (insert step taken c >>= f).program.Orderly := by
  rw [program_insert_bind]
  rintro (e | reply)
  · exact ⟨c.follow_error e, trivial⟩
  · exact h reply

end Operation

namespace Request
open Operation Service

theorem orderly_create (stamp : Stamp) (id : Uuid) (cityName : String)
    (registered : Option Instant) : (create stamp id cityName registered).program.Orderly := by
  simp only [program, operation, createPickupPoint, bind_assoc]
  refine orderly_call _ _ ?_
  rintro (_ | city)
  · exact ⟨rfl, trivial⟩
  · refine ⟨rfl, orderly_insert _ _ _ fun point => ?_⟩
    exact ⟨rfl, trivial⟩

theorem orderly_get (id : Uuid) : (get id).program.Orderly := by
  simp only [program, operation, getPickupPoint, bind_assoc]
  refine orderly_call _ _ ?_
  rintro (_ | point) <;> exact ⟨rfl, trivial⟩

theorem orderly_openAt (stamp : Stamp) (p : Uuid) : (openAt stamp p).program.Orderly := by
  simp only [program, operation, openReception, resolveStatus, bind_assoc]
  refine orderly_call _ _ ?_
  rintro (_ | point)
  · exact ⟨rfl, trivial⟩
  refine ⟨rfl, orderly_call _ _ ?_⟩
  rintro (_ | r)
  · refine ⟨rfl, ?_⟩
    simp only [Option.isSome_none, Bool.false_eq_true, if_false, bind_assoc]
    refine orderly_call _ _ ?_
    rintro (_ | status)
    · exact ⟨rfl, trivial⟩
    · refine ⟨rfl, orderly_insert _ _ _ fun created => ?_⟩
      exact ⟨rfl, trivial⟩
  · exact ⟨.inr rfl, trivial⟩

theorem orderly_closeAt (p : Uuid) : (closeAt p).program.Orderly := by
  simp only [program, operation, closeReception, activeReception, resolveStatus, bind_assoc]
  refine orderly_call _ _ ?_
  rintro (_ | r)
  · exact ⟨rfl, trivial⟩
  refine ⟨.inr rfl, orderly_call _ _ ?_⟩
  rintro (_ | status)
  · exact ⟨rfl, trivial⟩
  refine ⟨rfl, orderly_call _ _ ?_⟩
  rintro (_ | moved) <;> exact ⟨rfl, trivial⟩

theorem orderly_addTo (stamp : Stamp) (p : Uuid) (typeName : String) :
    (addTo stamp p typeName).program.Orderly := by
  simp only [program, operation, addProduct, activeReception, bind_assoc]
  refine orderly_call _ _ ?_
  rintro (_ | r)
  · exact ⟨rfl, trivial⟩
  refine ⟨.inr rfl, orderly_call _ _ ?_⟩
  rintro (_ | type)
  · exact ⟨rfl, trivial⟩
  refine ⟨rfl, orderly_call _ _ ?_⟩
  rintro (_ | added) <;> exact ⟨rfl, trivial⟩

/-- The removal itself: the look, then the last product, then its deletion. -/
theorem orderly_removeFrom (p : Uuid) : (removeFrom p).program.Orderly := by
  simp only [program, operation, removeLastProduct, activeReception, bind_assoc]
  refine orderly_call _ _ ?_
  rintro (_ | point)
  · exact ⟨rfl, trivial⟩
  refine ⟨rfl, orderly_call _ _ ?_⟩
  rintro (_ | r)
  · exact ⟨rfl, trivial⟩
  refine ⟨.inl rfl, orderly_call _ _ ?_⟩
  rintro (_ | x)
  · exact ⟨rfl, trivial⟩
  refine ⟨rfl, orderly_call _ _ ?_⟩
  rintro (_ | _) <;> exact ⟨rfl, trivial⟩

/-- **Every operation is orderly.** -/
theorem orderly (q : Request) : q.program.Orderly := by
  cases q with
  | create stamp id cityName registered => exact orderly_create stamp id cityName registered
  | get id => exact orderly_get id
  | openAt stamp p => exact orderly_openAt stamp p
  | closeAt p => exact orderly_closeAt p
  | addTo stamp p typeName => exact orderly_addTo stamp p typeName
  | removeFrom p => exact orderly_removeFrom p

end Request

/-! ## Removals at work -/

/-- The program is about to look for the last product of a reception that has one, or to
delete a product of the reception. -/
def Program.Removing (p : Program Verdict) (b : Books) (reception : Uuid) : Prop :=
  (p.call? = some (.lastProduct reception) ∧ ∃ x, b.Has x ∧ x.reception = reception) ∨
    ∃ x, p.call? = some (.deleteProduct x.id) ∧ b.Has x ∧ x.reception = reception

/-- Books with the same products of the reception leave the same to remove. -/
theorem Program.Removing.of_has_iff {p : Program Verdict} {b b' : Books} {reception : Uuid}
    (h : p.Removing b' reception)
    (hsame : ∀ x : Product, x.reception = reception → (b'.Has x ↔ b.Has x)) :
    p.Removing b reception := by
  rcases h with ⟨hcall, x, hhas, hx⟩ | ⟨x, hcall, hhas, hx⟩
  · exact .inl ⟨hcall, x, (hsame x hx).mp hhas, hx⟩
  · exact .inr ⟨x, hcall, (hsame x hx).mp hhas, hx⟩

namespace Books
variable {b b' : Books} {c : Call} {a : Answer c}

/-- What a call does to the products. -/
theorem Step.products (h : b.Step c a b') :
    b'.product? = b.product? ∨
      (∃ x r, c = .addProduct x ∧ r.id = x.reception ∧ b.InProgress r ∧ b' = b.putProduct x) ∨
      ∃ id, c = .deleteProduct id ∧ b' = b.dropProduct id := by
  cases c with
  | addPickupPoint p =>
    rcases h with ⟨-, -, rfl⟩ | ⟨-, -, rfl⟩
    · exact .inl rfl
    · exact .inl rfl
  | addReception r =>
    rcases h with ⟨-, -, rfl⟩ | ⟨-, -, rfl⟩
    · exact .inl rfl
    · exact .inl rfl
  | moveReception id source target =>
    rcases h with ⟨r, moved, -, -, -, -, rfl⟩ | ⟨-, -, rfl⟩
    · exact .inl rfl
    · exact .inl rfl
  | addProduct x =>
    rcases h with ⟨r, hid, hr, -, rfl⟩ | ⟨-, -, rfl⟩
    · exact .inr (.inl ⟨x, r, rfl, hid, hr, rfl⟩)
    · exact .inl rfl
  | deleteProduct id => exact .inr (.inr ⟨id, rfl, h.2⟩)
  | receptionInStatus kind p =>
    cases kind with
    | inProgress => exact .inl (congrArg product? h.1)
    | closed => exact .inl (congrArg product? h)
  | lastProduct reception => exact .inl (congrArg product? h.1)
  | cityByName name => exact .inl (congrArg product? h.2)
  | pickupPointById id => exact .inl (congrArg product? h.2)
  | statusOfKind kind => exact .inl (congrArg product? h.2)
  | productTypeByName name => exact .inl (congrArg product? h.2)
  | _ => exact .inl (congrArg product? h)

/-- A product comes onto the books in a reception in progress. -/
theorem Step.gained (h : b.Step c a b') {x : Product} (hbefore : ¬ b.Has x) (hafter : b'.Has x) :
    ∃ r, r.id = x.reception ∧ b.InProgress r := by
  rcases h.products with hsame | ⟨x', r, rfl, hid, hr, rfl⟩ | ⟨id, rfl, rfl⟩
  · rw [Has, hsame] at hafter
    exact absurd hafter hbefore
  · rcases (has_putProduct ..).mp hafter with rfl | ⟨-, hhad⟩
    · exact ⟨r, hid, hr⟩
    · exact absurd hhad hbefore
  · exact absurd ((has_dropProduct ..).mp hafter).2 hbefore

/-- **A call that leaves a reception its products**: it is closed, and they are not deleted. -/
theorem Step.has_iff (h : b.Step c a b') (hc : b.Proper c) {r : Reception} (hr : b.Closed r)
    {x : Product} (hx : x.reception = r.id)
    (hkeep : ∀ x, c = .deleteProduct x.id → b.Has x → x.reception ≠ r.id) :
    b'.Has x ↔ b.Has x := by
  rcases h.products with hsame | ⟨x', r', rfl, hid, hr', rfl⟩ | ⟨id, rfl, rfl⟩
  · rw [Has, hsame, Has]
  · have hne : x ≠ x' := fun heq => by
      rw [heq, ← hid] at hx
      exact hr'.not_closed hr hx.symm
    rw [has_putProduct, or_iff_right hne]
    refine and_iff_right_of_imp fun hhas hid => ?_
    have hfree := hc.1
    rw [← hid, hhas] at hfree
    cases hfree
  · rw [has_dropProduct]
    refine and_iff_right_of_imp fun hhas hid => ?_
    rw [← hid] at hkeep
    exact hkeep x rfl hhas hx

/-- A program that goes on to the last product of a reception has found it in progress. -/
theorem Step.looked (h : b.Step c a b') {id : Uuid} (hnext : c.Follow a (some (.lastProduct id))) :
    ∃ r, r.id = id ∧ b.InProgress r := by
  cases c with
  | receptionInStatus kind p =>
    cases kind with
    | inProgress =>
      obtain ⟨-, ⟨r, rfl, hr, -⟩ | ⟨rfl, -⟩⟩ := h
      · rcases hnext with hnext | hharmless
        · cases hnext
          exact ⟨r, rfl, hr⟩
        · cases hharmless
      · cases hnext
    | closed => cases hnext
  | lastProduct reception => obtain ⟨-, ⟨x, rfl, -, -⟩ | ⟨rfl, -⟩⟩ := h <;> cases hnext
  | _ => cases hnext

/-- A program that goes on to delete a product has found it to be the last of a reception. -/
theorem Step.picked (h : b.Step c a b') {id : Uuid}
    (hnext : c.Follow a (some (.deleteProduct id))) :
    ∃ x, c = .lastProduct x.reception ∧ x.id = id ∧ b.Has x := by
  cases c with
  | receptionInStatus kind p =>
    cases kind with
    | inProgress =>
      obtain ⟨-, ⟨r, rfl, -, -⟩ | ⟨rfl, -⟩⟩ := h
      · rcases hnext with hnext | hharmless
        · cases hnext
        · cases hharmless
      · cases hnext
    | closed => cases hnext
  | lastProduct reception =>
    obtain ⟨-, ⟨x, rfl, hx, rfl⟩ | ⟨rfl, -⟩⟩ := h
    · cases hnext
      exact ⟨x, rfl, rfl, hx⟩
    · cases hnext
  | _ => cases hnext

end Books

namespace Program
variable {p : Program Verdict}

/-- A program with a result makes no call, and one without makes one. -/
theorem settled?_eq_none_iff : p.settled? = none ↔ ∃ c, p.call? = some c := by
  induction p with
  | done v => simp [settled?, call?]
  | count k next ih => exact ih
  | ask c next ih => simp [settled?, call?]

theorem Follows.proper {q : Request} {a : Account} {c : Call} (h : p.Follows q a a.books)
    (hc : p.call? = some c) (ha : a.Regular) (hq : a.Unissued q) : a.books.Proper c := by
  induction p with
  | done v => cases hc
  | count k next ih => exact ih h hc
  | ask c' next ih =>
    cases hc
    exact (h.2 a (.refl a) ha hq).1

section Step
variable {σ : Type} [Storage σ] {w : World σ}

/-- A step is the next call of the program, answered by the store. -/
theorem step_call {c : Call} (hc : p.call? = some c) (ho : p.Orderly) :
    (p.step w).2.store = (Storage.answer c w.store).2 ∧
      c.Follow (Storage.answer c w.store).1 (p.step w).1.call? := by
  induction p generalizing w with
  | done v => cases hc
  | count k next ih => exact ih hc ho
  | ask c' next ih =>
    cases hc
    exact ⟨rfl, (ho _).1⟩

theorem Orderly.step (ho : p.Orderly) : (p.step w).1.Orderly := by
  induction p generalizing w with
  | done v => trivial
  | count k next ih => exact ih ho
  | ask c next ih => exact (ho _).2

end Step
end Program

namespace SideBySide
variable {σ : Type} [Storage σ]

/-- All operations go on in order. -/
def Orderly (y : SideBySide σ) : Prop :=
  ∀ (i : Nat) (t : Task), y.tasks[i]? = some t → t.program.Orderly

omit [Storage σ] in
theorem start_orderly (store : σ) (requests : List Request) : (start store requests).Orderly := by
  intro i t h
  simp only [start, List.getElem?_map, Option.map_eq_some_iff] at h
  obtain ⟨q, -, rfl⟩ := h
  exact q.orderly

theorem Orderly.tick {y : SideBySide σ} (ho : y.Orderly) (i : Nat) : (y.tick i).Orderly := by
  cases hi : y.tasks[i]? with
  | none => rw [SideBySide.tick, hi]; exact ho
  | some t =>
    rw [tick_of_some hi]
    intro j u hu
    rcases of_getElem?_set_task hi hu with ⟨-, rfl⟩ | ⟨-, hu⟩
    · exact (ho i t hi).step
    · exact ho j u hu

theorem Orderly.run {y : SideBySide σ} (ho : y.Orderly) (schedule : List Nat) :
    (y.run schedule).Orderly := by
  induction schedule generalizing y with
  | nil => exact ho
  | cons i is ih => exact ih (ho.tick i)

variable [Bookkeeping σ]

/-- **A removal is at work on a reception**: it has found it in progress, and will still
delete one of its products. -/
def Removing (y : SideBySide σ) (reception : Uuid) : Prop :=
  ∃ (i : Nat) (t : Task), y.tasks[i]? = some t ∧ t.program.Removing y.books reception

section Tick
variable {y : SideBySide σ} (hy : y.Regular) (ho : y.Orderly)
include hy

omit hy in
/-- A step of a task that has its result changes nothing. -/
theorem tick_done {i : Nat} {t : Task} (hi : y.tasks[i]? = some t)
    (hc : t.program.call? = none) :
    (y.tick i).books = y.books ∧ (t.program.step y.world).1.call? = none := by
  have hsettled : ∃ v, t.program.settled? = some v := by
    rw [← Option.ne_none_iff_exists', Ne, Program.settled?_eq_none_iff, hc]
    rintro ⟨c, h⟩
    cases h
  obtain ⟨v, hv⟩ := hsettled
  obtain ⟨hafter, hstore⟩ := Program.step_settled (w := y.world) hv
  refine ⟨?_, ?_⟩
  · rw [tick_of_some hi]
    exact congrArg Bookkeeping.books hstore
  · cases hcall : (t.program.step y.world).1.call? with
    | none => rfl
    | some c =>
      rw [Program.settled?_eq_none_iff.mpr ⟨c, hcall⟩] at hafter
      cases hafter

include ho

/-- A step of any other task is a proper call. -/
theorem Regular.tick_call {i : Nat} {t : Task} (hi : y.tasks[i]? = some t) {c : Call}
    (hc : t.program.call? = some c) : ∃ a, y.books.Proper c ∧ y.books.Step c a (y.tick i).books ∧
      c.Follow a (t.program.step y.world).1.call? := by
  have hopen := Program.settled?_eq_none_iff.mpr ⟨c, hc⟩
  have hproper := (hy.follows hi hopen).proper hc hy.account (hy.unissued hi hopen)
  obtain ⟨hstore, hfollow⟩ := Program.step_call (w := y.world) hc (ho i t hi)
  have hbooks : (y.tick i).books = Bookkeeping.books (Storage.answer c y.world.store).2 := by
    rw [tick_of_some hi, ← hstore]
    rfl
  rw [hbooks]
  exact ⟨_, hproper, Bookkeeping.step_answer hy.sound hproper, hfollow⟩

theorem Regular.lost_of_deletion {i : Nat} {t : Task} (hi : y.tasks[i]? = some t) {x : Product}
    (hcall : t.program.call? = some (.deleteProduct x.id)) : ¬ (y.tick i).books.Has x := by
  obtain ⟨a, -, hstep, -⟩ := hy.tick_call ho hi hcall
  rw [hstep.2, Books.has_dropProduct]
  exact fun h => h.1 rfl

/-- A step adds nothing to a closed reception. -/
theorem Regular.tick_not_gained {r : Reception} (hr : y.books.Closed r) (i : Nat) {x : Product}
    (hx : x.reception = r.id) (h : (y.tick i).books.Has x) : y.books.Has x := by
  cases hi : y.tasks[i]? with
  | none =>
    rw [SideBySide.tick, hi] at h
    exact h
  | some t =>
    cases hc : t.program.call? with
    | none => exact (tick_done hi hc).1 ▸ h
    | some c =>
      obtain ⟨a, -, hstep, -⟩ := hy.tick_call ho hi hc
      refine Classical.byContradiction fun hbefore => ?_
      obtain ⟨r', hid, hr'⟩ := hstep.gained hbefore h
      exact hr'.not_closed hr (hx.symm.trans hid.symm)

variable {r : Reception} (hr : y.books.Closed r) (hnot : ¬ y.Removing r.id)
include hr hnot

/-- A closed reception that no removal is at work on keeps its products at a step. -/
theorem Regular.tick_has_iff (i : Nat) {x : Product} (hx : x.reception = r.id) :
    (y.tick i).books.Has x ↔ y.books.Has x := by
  cases hi : y.tasks[i]? with
  | none => rw [SideBySide.tick, hi]
  | some t =>
    cases hc : t.program.call? with
    | none => rw [(tick_done hi hc).1]
    | some c =>
      obtain ⟨a, hproper, hstep, -⟩ := hy.tick_call ho hi hc
      refine hstep.has_iff hproper hr hx fun x' heq hhas hx' => hnot ⟨i, t, hi, .inr ?_⟩
      exact ⟨x', hc.trans (congrArg some heq), hhas, hx'⟩

/-- No removal can start on a closed reception. -/
theorem Regular.tick_not_removing (i : Nat) : ¬ (y.tick i).Removing r.id := by
  rintro ⟨j, u, hu, hremoving⟩
  have hremoving := hremoving.of_has_iff fun x hx => hy.tick_has_iff ho hr hnot i hx
  cases hi : y.tasks[i]? with
  | none =>
    rw [SideBySide.tick, hi] at hu
    exact hnot ⟨j, u, hu, hremoving⟩
  | some t =>
    rw [tick_of_some hi] at hu
    rcases of_getElem?_set_task hi hu with ⟨-, rfl⟩ | ⟨-, hu⟩
    · cases hc : t.program.call? with
      | none =>
        have hnone := (tick_done hi hc).2
        rcases hremoving with ⟨hcall, -⟩ | ⟨x, hcall, -⟩
        · cases hcall.symm.trans hnone
        · cases hcall.symm.trans hnone
      | some c =>
        obtain ⟨a, -, hstep, hfollow⟩ := hy.tick_call ho hi hc
        -- It found the reception in progress just now, or was at work on it before.
        rcases hremoving with ⟨hcall, -⟩ | ⟨x, hcall, hhas, hx⟩
        · obtain ⟨r', hid, hr'⟩ := hstep.looked (hcall ▸ hfollow)
          exact hr'.not_closed hr hid.symm
        · obtain ⟨x', rfl, hid, hhas'⟩ := hstep.picked (hcall ▸ hfollow)
          have hsame : x' = x := by
            have hfound := hhas'
            rw [Books.Has, hid, hhas] at hfound
            exact (Option.some.inj hfound).symm
          rw [hsame, hx] at hc
          exact hnot ⟨i, t, hi, .inl ⟨hc, x, hhas, hx⟩⟩
    · exact hnot ⟨j, u, hu, hremoving⟩

omit hr hnot in
/-- **A product goes** by the decision of a removal, out of a reception in progress or out
of a closed one that a removal was at work on. -/
theorem Regular.lost {i : Nat} {x : Product} (hbefore : y.books.Has x)
    (hafter : ¬ (y.tick i).books.Has x) : ∃ r, y.request? i = some (.removeFrom r.pickupPoint) ∧
      r.id = x.reception ∧ (y.books.InProgress r ∨ (y.books.Closed r ∧ y.Removing r.id)) := by
  rcases (hy.tick_account i).2 with hsame | ⟨t, v, hi, -, -, hdecides⟩
  · have hbooks : (y.tick i).books = y.books := congrArg Account.books hsame
    exact absurd (hbooks ▸ hbefore) hafter
  have hrequest : y.request? i = some t.request := congrArg (Option.map Task.request) hi
  have hkeep := fun r hr hnot (hx : x.reception = r.id) =>
    (hy.tick_has_iff ho (r := r) hr hnot i hx).mpr hbefore
  generalize (y.tick i).books = b at hafter hdecides hkeep
  generalize t.request = q at hrequest hdecides
  cases hdecides with
  | @removed x' r hx' hr' =>
    have hid : x.id = x'.id := Classical.byContradiction fun hne =>
      hafter ((Books.has_dropProduct ..).mpr ⟨hne, hbefore⟩)
    have hsame : x' = x := by
      rw [Books.Has, ← hid, hbefore] at hx'
      exact (Option.some.inj hx').symm
    rw [hsame] at hr'
    have hkey := hy.account.reception_id hr'
    have hbook : y.books.reception? r.id = some r := hkey.symm ▸ hr'
    refine ⟨r, hrequest, hkey, ?_⟩
    -- What is not in progress was closed, and loses nothing unless a removal is at work.
    rcases hy.account.form hr' with hform | hform
    · exact .inl ⟨hbook, by rw [hform]; rfl⟩
    · have hclosed : y.books.Closed r := ⟨hbook, by rw [hform]; rfl⟩
      refine .inr ⟨hclosed, Classical.byContradiction fun hnot => ?_⟩
      exact hafter (hkeep r hclosed hnot hkey.symm)
  | @added stamp r typeName type htype hnew hr =>
    refine absurd ((Books.has_putProduct ..).mpr (.inr ⟨fun hid => ?_, hbefore⟩)) hafter
    have hfound := hbefore
    rw [Books.Has, hid] at hfound
    cases hnew.symm.trans hfound
  | _ => exact absurd hbefore hafter

end Tick

section Run
variable {y : SideBySide σ} (hy : y.Regular) (ho : y.Orderly) {r : Reception}
  (hr : y.books.Closed r)
include hy ho hr

/-- A closed reception that no removal is at work on is frozen. -/
theorem Regular.run_has_iff (hnot : ¬ y.Removing r.id) (more : List Nat) {x : Product}
    (hx : x.reception = r.id) : (y.run more).books.Has x ↔ y.books.Has x := by
  induction more generalizing y with
  | nil => exact Iff.rfl
  | cons i is ih =>
    have hclosed := (hy.tick_reaches i).closed hy.account hr
    have hrest := ih (hy.tick i) (ho.tick i) hclosed (hy.tick_not_removing ho hr hnot i)
    exact hrest.trans (hy.tick_has_iff ho hr hnot i hx)

omit hr in
/-- A removal at work takes a product when it goes on. -/
theorem Regular.exists_lost (h : y.Removing r.id) :
    ∃ more x, x.reception = r.id ∧ y.books.Has x ∧ ¬ (y.run more).books.Has x := by
  obtain ⟨i, t, hi, ⟨hcall, x, hhas, hx⟩ | ⟨x, hcall, hhas, hx⟩⟩ := h
  · obtain ⟨a, -, ⟨hbooks, ⟨x', rfl, hhas', hx'⟩ | ⟨-, hnone⟩⟩, hfollow⟩ := hy.tick_call ho hi hcall
    · -- Its next call finds the last product, and the one after that deletes it.
      refine ⟨[i, i], x', hx', hhas', ?_⟩
      have hi' := getElem?_set_task hi { t with program := (t.program.step y.world).1 } i
      rw [if_pos rfl] at hi'
      have htask : (y.tick i).tasks[i]? =
          some { t with program := (t.program.step y.world).1 } := by
        rw [tick_of_some hi]
        exact hi'
      exact (hy.tick i).lost_of_deletion (ho.tick i) htask hfollow
    · exact absurd hx (hnone x hhas)
  · exact ⟨[i], x, hx, hhas, hy.lost_of_deletion ho hi hcall⟩

/-- **A closed reception is frozen exactly if no removal is at work on it.** -/
theorem Regular.frozen_iff :
    (∀ more x, x.reception = r.id → ((y.run more).books.Has x ↔ y.books.Has x)) ↔
      ¬ y.Removing r.id := by
  constructor
  · intro hfrozen h
    obtain ⟨more, x, hx, hhas, hgone⟩ := hy.exists_lost ho h
    exact hgone ((hfrozen more x hx).mpr hhas)
  · intro hnot more x hx
    exact hy.run_has_iff ho hr hnot more hx

/-- **Nothing is added to a closed reception.** -/
theorem Regular.not_gained (more : List Nat) {x : Product} (hx : x.reception = r.id)
    (h : (y.run more).books.Has x) : y.books.Has x := by
  induction more generalizing y with
  | nil => exact h
  | cons i is ih =>
    have hclosed := (hy.tick_reaches i).closed hy.account hr
    exact hy.tick_not_gained ho hr i hx (ih (hy.tick i) (ho.tick i) hclosed h)

end Run
end SideBySide

/-! ## On a store -/

/-- **A closed reception.**  Whatever operations run side by side on a new store, and in
whatever order they take their steps: a reception that is closed stays closed and takes no
product; it keeps the products that it has, however the operations go on, exactly if no
removal is at work on it; and what a removal deletes is out of a reception in progress, or
out of such a closed one. -/
theorem closed_reception_frozen_iff {store : Backend} (hnew : store.IsNew)
    {requests : List Request} (hids : (requests.filterMap Request.fresh?).Nodup)
    (schedule : List Nat) :
    let y := (SideBySide.start store requests).run schedule
    (∀ r, y.books.Closed r →
      (∀ more, (y.run more).books.Closed r) ∧
      (∀ more x, x.reception = r.id → (y.run more).books.Has x → y.books.Has x) ∧
      ((∀ more x, x.reception = r.id → ((y.run more).books.Has x ↔ y.books.Has x)) ↔
        ¬ y.Removing r.id)) ∧
    ∀ i x, y.books.Has x → ¬ (y.tick i).books.Has x → ∃ r,
      requests[i]? = some (.removeFrom r.pickupPoint) ∧ r.id = x.reception ∧
        (y.books.InProgress r ∨ (y.books.Closed r ∧ y.Removing r.id)) := by
  intro y
  have hy : y.Regular := hnew.regular hids schedule
  have ho : y.Orderly := (SideBySide.start_orderly store requests).run schedule
  refine ⟨fun r hr => ⟨fun more => ?_, fun more x hx h => ?_, ?_⟩, fun i x hbefore hafter => ?_⟩
  · exact (hy.run_reaches more).closed hy.account hr
  · exact hy.not_gained ho hr more hx h
  · exact hy.frozen_iff ho hr
  · obtain ⟨r, hrequest, hr⟩ := hy.lost ho hbefore hafter
    rw [SideBySide.run_request?, SideBySide.start_request?] at hrequest
    exact ⟨r, hrequest, hr⟩

/-- A product is added, a removal finds it, the reception is closed. -/
def lateRemoval : List Request :=
  [.create ⟨.epoch, .generated 0⟩ (.ofNat 1) "Москва" none,
    .openAt ⟨.epoch, .generated 1⟩ (.ofNat 1), .addTo ⟨.epoch, .generated 2⟩ (.ofNat 1) "обувь",
    .removeFrom (.ofNat 1), .closeAt (.ofNat 1)]

/-- The removal has one call left when the reception is closed. -/
def lateRemovalSchedule : List Nat := [0, 0, 1, 1, 1, 1, 2, 2, 2, 3, 3, 3, 4, 4, 4]

/-- Once the removal is through, the closed reception is frozen. -/
theorem closed_reception_frozen_in_the_end :
    let y := (SideBySide.start (Backend.memory .new) lateRemoval).run (lateRemovalSchedule ++ [3])
    let r := (Reception.begun (.generated 1) (.ofNat 1) .epoch).ended
    y.books.Closed r ∧ ¬ y.Removing r.id ∧
      ∀ more x, x.reception = r.id → ((y.run more).books.Has x ↔ y.books.Has x) := by
  intro y r
  have hids : (lateRemoval.filterMap Request.fresh?).Nodup := by decide
  have hclosed : y.books.Closed r := by decide
  have hnot : ¬ y.Removing r.id := by
    have hdone : ∀ t ∈ y.tasks, t.program.call?.isNone = true := by decide
    rintro ⟨i, t, hi, h⟩
    have hnone := hdone t (List.mem_of_getElem? hi)
    rcases h with ⟨hcall, -⟩ | ⟨x, hcall, -⟩
    · rw [hcall] at hnone
      cases hnone
    · rw [hcall] at hnone
      cases hnone
  have hends := closed_reception_frozen_iff .memory hids (lateRemovalSchedule ++ [3])
  exact ⟨hclosed, hnot, (hends.1 r hclosed).2.2.mpr hnot⟩

/-- **A closed reception loses a product** to a removal that comes late. -/
theorem closed_reception_loses_product :
    let y := (SideBySide.start (Backend.memory .new) lateRemoval).run lateRemovalSchedule
    let r := (Reception.begun (.generated 1) (.ofNat 1) .epoch).ended
    let x := Product.ofType (.generated 2) r.id .epoch ⟨3, "обувь"⟩
    (lateRemoval.filterMap Request.fresh?).Nodup ∧ y.books.Closed r ∧ y.books.Has x ∧
      ¬ (y.run [3]).books.Has x ∧ (y.run [3]).result? 3 = some (.ok (.product x)) := by
  refine ⟨by decide, by decide, by decide, by decide, rfl⟩

end PickupLedger
