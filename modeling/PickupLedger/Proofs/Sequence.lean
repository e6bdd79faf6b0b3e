import PickupLedger.Proofs.InMemoryBooks
import PickupLedger.Proofs.LedgerBooks

/-!
# Operations one after the other

Carried out one after the other over the store in memory, operations do what the ledger
says, every failure included, as long as the identifiers that they give to records grow.

Nothing comes between the calls of an operation now, so each answer tells the books as they
still are (`Program.Ends`), and each operation comes out where the ledger comes out
(`Request.ends`).  The order of the checks is the order of the calls, but for the last
check of an opening, a closing and a new product: the store makes it once more, and as
nothing came between it cannot fail.
-/

namespace PickupLedger
open Operation Service

/-! ## Programs that are alone -/

/-- **A program that is alone ends well**, whatever a store that keeps the books answers. -/
def Program.Ends {α : Type} (post : α → Books → Prop) : Program α → Books → Prop
  | .done v, b => post v b
  | .count _ next, b => next.Ends post b
  | .ask c next, b => b.Proper c ∧
    ∀ a b', b.Step c a b' → b.Newest c a → (next a).Ends post b'

/-- The store in memory carries a program to its end. -/
theorem Program.Ends.run {α : Type} {post : α → Books → Prop} {p : Program α}
    {w : Program.World InMemory} (h : p.Ends post w.store.books) (hs : w.store.Sound) :
    post (p.run w).1 (p.run w).2.store.books ∧ (p.run w).2.store.Sound := by
  induction p generalizing w with
  | done v => exact ⟨h, hs⟩
  | count k next ih => exact ih h hs
  | ask c next ih => exact ih _ (h.2 _ _ (hs.step h.1) (hs.newest c)) (hs.answer h.1)

namespace Operation
variable {post : Verdict → Books → Prop} {b : Books}

/-- A call that only looks is answered by the books. -/
theorem ends_look (step : String) {c : Call} {reply : c.Reply} {f : c.Reply → Operation Outcome}
    (hproper : b.Proper c)
    (hstep : ∀ answer b', b.Step c answer b' → answer = .ok reply ∧ b' = b)
    (h : (f reply).program.Ends post b) : (call step c >>= f).program.Ends post b := by
  rw [program_call_bind]
  refine ⟨hproper, fun answer b' hs _ => ?_⟩
  obtain ⟨rfl, rfl⟩ := hstep _ _ hs
  exact h

/-- The look for the reception in progress finds it, or there is none. -/
theorem ends_active (step : String) {p : Uuid} {f : Option Reception → Operation Outcome}
    (hsome : ∀ r, b.InProgress r → r.pickupPoint = p → (f (some r)).program.Ends post b)
    (hnone : ¬ b.Occupied p → (f none).program.Ends post b) :
    (call step (.receptionInStatus .inProgress p) >>= f).program.Ends post b := by
  rw [program_call_bind]
  refine ⟨trivial, ?_⟩
  rintro _ b' ⟨hb, ⟨r, rfl, hr, hp⟩ | ⟨rfl, hfree⟩⟩ -
  · rw [hb]
    exact hsome r hr hp
  · rw [hb]
    exact hnone hfree

end Operation

/-! ## One operation -/

/-- **What the ledger makes of a request**: the verdict, and the books after it. -/
def Ledger.Told (l : Ledger) (ids : List Uuid) (q : Request) (v : Verdict) (b : Books) : Prop :=
  v = (l.perform q).1 ∧ (l.perform q).2.Kept b (ids ++ (l.issued? q).toList)

/-- The identifier that a request gives to a record is greater than those before it. -/
def Ledger.Grows (l : Ledger) (ids : List Uuid) (q : Request) : Prop :=
  ∀ id, l.issued? q = some id → ∀ id' ∈ ids, id'.value < id.value

namespace Ledger
variable {l : Ledger} {b : Books} {ids : List Uuid} {q : Request}

theorem told_refused (h : l.Kept b ids) {failure : Failure}
    (hperform : l.perform q = (.error failure, l)) : l.Told ids q (.error failure) b := by
  rw [Told, issued?, hperform, Option.toList_none, List.append_nil]
  exact ⟨rfl, h⟩

theorem told {l' : Ledger} {o : Outcome} (hperform : l.perform q = (.ok o, l'))
    (h : l'.Kept b (ids ++ q.fresh?.toList)) : l.Told ids q (.ok o) b := by
  rw [Told, issued?, hperform]
  exact ⟨rfl, h⟩

/-- A request that issues no identifier leaves the list of them as it was. -/
theorem told_unissued {l' : Ledger} {o : Outcome} (hperform : l.perform q = (.ok o, l'))
    (hfresh : q.fresh? = none) (h : l'.Kept b ids) : l.Told ids q (.ok o) b := by
  refine told hperform ?_
  rw [hfresh, Option.toList_none, List.append_nil]
  exact h

theorem Grows.lt {l' : Ledger} {o : Outcome} {id : Uuid} (h : l.Grows ids q)
    (hperform : l.perform q = (.ok o, l')) (hfresh : q.fresh? = some id) :
    ∀ id' ∈ ids, id'.value < id.value := by
  refine h id ?_
  rw [issued?, hperform]
  exact hfresh

end Ledger

namespace Request

section
variable {l : Ledger} {b : Books} {ids : List Uuid} (h : l.Kept b ids)
include h

theorem ends_create (stamp : Stamp) (id : Uuid) (cityName : String) (registered : Option Instant) :
    (create stamp id cityName registered).program.Ends
      (l.Told ids (.create stamp id cityName registered)) b := by
  simp only [program, operation, createPickupPoint, bind_assoc]
  refine ends_look _ trivial (fun _ _ hs => hs) ?_
  cases hcity : Seed.city? cityName with
  | none => exact Ledger.told_refused h (by simp only [Ledger.perform, hcity])
  | some city =>
    simp only [program_require_some]
    rw [program_insert_bind]
    refine ⟨⟨city, List.mem_of_find?_eq_some hcity, rfl⟩, ?_⟩
    rintro _ b' (⟨hfree, rfl, rfl⟩ | ⟨htaken, ⟨what, rfl⟩, hb⟩) -
    · have hnone : l.get? id = none := h.get?_none hfree
      have hperform : l.perform (.create stamp id cityName registered) =
          (.ok (.point (.inCity id (registered.getD stamp.now) city)),
            l.put id ⟨registered.getD stamp.now, city, .empty⟩) := by
        simp only [Ledger.perform, hcity, hnone]
        rfl
      exact Ledger.told_unissued hperform rfl (h.create hfree rfl)
    · obtain ⟨p, hp⟩ := Option.ne_none_iff_exists'.mp htaken
      obtain ⟨site, hsite, -⟩ := h.get?_some hp
      have hsite : l.get? id = some site := hsite
      rw [hb]
      show l.Told ids _ (.error (.duplicatePickupPoint id)) b
      exact Ledger.told_refused h (by simp only [Ledger.perform, hcity, hsite])

theorem ends_get (id : Uuid) : (get id).program.Ends (l.Told ids (.get id)) b := by
  simp only [program, operation, getPickupPoint, bind_assoc]
  refine ends_look _ trivial (fun _ _ hs => hs) ?_
  cases hp : b.point? id with
  | none =>
    have hnone := h.get?_none hp
    exact Ledger.told_refused h (by simp only [Ledger.perform, hnone])
  | some p =>
    obtain ⟨site, hsite, rfl⟩ := h.get?_some hp
    exact Ledger.told_unissued (by simp only [Ledger.perform, hsite]) rfl h

theorem ends_openAt (stamp : Stamp) (p : Uuid) (hgrow : l.Grows ids (.openAt stamp p)) :
    (openAt stamp p).program.Ends (l.Told ids (.openAt stamp p)) b := by
  simp only [program, operation, openReception, resolveStatus, bind_assoc]
  refine ends_look _ trivial (fun _ _ hs => hs) ?_
  cases hp : b.point? p with
  | none =>
    have hnone := h.get?_none hp
    exact Ledger.told_refused h (by simp only [Ledger.perform, hnone])
  | some point =>
    obtain ⟨site, hsite, rfl⟩ := h.get?_some hp
    simp only [program_require_some]
    refine ends_active _ (fun r hr hpoint => ?_) fun hfree => ?_
    · obtain ⟨site', i, -, hactive, -, -⟩ := h.active?_inProgress hr
      rw [hpoint] at hactive
      exact Ledger.told_refused h (by simp only [Ledger.perform, hsite, hactive])
    simp only [Option.isSome_none, Bool.false_eq_true, if_false, bind_assoc]
    refine ends_look _ trivial (fun _ _ hs => hs) ?_
    simp only [program_require_some]
    rw [program_insert_bind]
    have hactive := h.active?_free hfree
    have hperform : l.perform (.openAt stamp p) =
        (.ok (.reception (.begun stamp.fresh p stamp.now)),
          l.putIntake p site stamp.fresh ⟨stamp.now, .inProgress, .empty⟩) := by
      simp only [Ledger.perform, hsite, hactive]
      rfl
    have hlt := hgrow.lt hperform rfl
    have hnew : b.reception? stamp.fresh = none :=
      h.regular.reception?_unissued fun hid => Nat.lt_irrefl _ (hlt _ hid)
    refine ⟨⟨hnew, ⟨_, hp⟩, rfl⟩, ?_⟩
    -- The store looks once more for a reception in progress, and again there is none.
    rintro _ b' (⟨-, rfl, rfl⟩ | ⟨htaken, -, -⟩) -
    · refine Ledger.told hperform ?_
      have hmono := h.mono fun id hid => List.mem_append_left [stamp.fresh] hid
      exact hmono.open hsite (List.mem_append_right ids List.mem_cons_self) hnew hfree
    · exact absurd htaken hfree

theorem ends_closeAt (p : Uuid) : (closeAt p).program.Ends (l.Told ids (.closeAt p)) b := by
  simp only [program, operation, closeReception, activeReception, resolveStatus, bind_assoc]
  refine ends_active _ (fun r hr hpoint => ?_) fun hfree => ?_
  · rw [← hpoint]
    obtain ⟨site, i, hsite, hactive, hi, hform⟩ := h.active?_inProgress hr
    simp only [program_require_some]
    refine ends_look _ trivial (fun _ _ hs => hs) ?_
    simp only [program_require_some]
    rw [program_call_bind]
    refine ⟨⟨h.regular.statusId hr, rfl⟩, ?_⟩
    rintro _ b' (⟨r', moved, hid, hr', rfl, hmoved, rfl⟩ | ⟨hnone, -, -⟩) -
    · rw [hr'.eq_of_id hr hid] at hmoved ⊢
      show l.Told ids _ (.ok (.reception moved.ended)) _
      rw [hmoved]
      have hperform : l.perform (.closeAt r.pickupPoint) =
          (.ok (.reception r.ended), l.putIntake r.pickupPoint site r.id i.ended) := by
        simp only [Ledger.perform, hactive]
        rw [hform]
        rfl
      have hkept := h.close hsite hi (hform ▸ hr)
      rw [← hform] at hkept
      exact Ledger.told_unissued hperform rfl hkept
    · exact absurd hr (hnone r rfl)
  · have hactive := h.active?_free hfree
    exact Ledger.told_refused h (by simp only [Ledger.perform, hactive])

theorem ends_addTo (stamp : Stamp) (p : Uuid) (typeName : String)
    (hgrow : l.Grows ids (.addTo stamp p typeName)) :
    (addTo stamp p typeName).program.Ends (l.Told ids (.addTo stamp p typeName)) b := by
  simp only [program, operation, addProduct, activeReception, bind_assoc]
  refine ends_active _ (fun r hr hpoint => ?_) fun hfree => ?_
  · obtain ⟨site, i, hsite, hactive, hi, -⟩ := h.active?_inProgress hr
    rw [hpoint] at hsite hactive hi
    simp only [program_require_some]
    refine ends_look _ trivial (fun _ _ hs => hs) ?_
    cases htype : Seed.productType? typeName with
    | none => exact Ledger.told_refused h (by simp only [Ledger.perform, hactive, htype])
    | some type =>
      simp only [program_require_some]
      rw [program_call_bind]
      have hperform : l.perform (.addTo stamp p typeName) =
          (.ok (.product (.ofType stamp.fresh r.id stamp.now type)),
            l.putIntake p site r.id (i.add stamp.fresh ⟨stamp.now, type⟩)) := by
        simp only [Ledger.perform, hactive, htype]
        rfl
      have hlt := hgrow.lt hperform rfl
      have hnew := h.regular.product?_unissued fun hid => Nat.lt_irrefl _ (hlt _ hid)
      refine ⟨⟨hnew, type, List.mem_of_find?_eq_some htype, rfl⟩, ?_⟩
      -- The reception is still in progress, so the store lets the product in.
      rintro _ b' (⟨-, -, -, rfl, rfl⟩ | ⟨hnone, -, -⟩) -
      · refine Ledger.told hperform ?_
        have hmono := h.mono fun id hid => List.mem_append_left [stamp.fresh] hid
        refine hmono.add hsite ⟨stamp.now, type⟩ hi (List.mem_append_right ids List.mem_cons_self)
          hnew fun hx => hlt _ (h.regular.product_issued hx)
      · exact absurd hr (hnone r rfl)
  · have hactive := h.active?_free hfree
    exact Ledger.told_refused h (by simp only [Ledger.perform, hactive])

theorem ends_removeFrom (p : Uuid) :
    (removeFrom p).program.Ends (l.Told ids (.removeFrom p)) b := by
  simp only [program, operation, removeLastProduct, activeReception, bind_assoc]
  refine ends_look _ trivial (fun _ _ hs => hs) ?_
  cases hp : b.point? p with
  | none =>
    have hnone := h.get?_none hp
    exact Ledger.told_refused h (by simp only [Ledger.perform, hnone])
  | some point =>
    obtain ⟨site, hsite, -⟩ := h.get?_some hp
    simp only [program_require_some]
    refine ends_active _ (fun r hr hpoint => ?_) fun hfree => ?_
    · obtain ⟨site', i, hsite', hactive, hi, -⟩ := h.active?_inProgress hr
      rw [hpoint] at hsite' hactive hi
      simp only [program_require_some]
      rw [program_call_bind]
      refine ⟨trivial, ?_⟩
      rintro _ b' ⟨hb, ⟨x, rfl, hx, hreception⟩ | ⟨rfl, hnone⟩⟩ hlast
      · rw [hb]
        obtain ⟨item, hnewest, hitem, hform⟩ := h.newest?_some hi hx hreception hlast
        simp only [program_require_some]
        rw [program_call_bind]
        refine ⟨trivial, ?_⟩
        rintro _ b'' ⟨rfl, rfl⟩ -
        have hfound : b.product? x.id = some x := hx
        rw [hfound]
        simp only [Option.isSome_some, Bool.true_eq_false, if_false]
        have hperform : l.perform (.removeFrom p) =
            (.ok (.product x), l.putIntake p site' r.id (i.remove x.id)) := by
          simp only [Ledger.perform, hsite, hactive, hnewest]
          rw [← hform]
        exact Ledger.told_unissued hperform rfl (h.remove hsite' hi hitem)
      · rw [hb]
        have hnewest := h.newest?_none hi hnone
        exact Ledger.told_refused h (by simp only [Ledger.perform, hsite, hactive, hnewest])
    · have hactive := h.active?_free hfree
      exact Ledger.told_refused h (by simp only [Ledger.perform, hsite, hactive])

/-- **Every operation ends as the ledger has it.** -/
theorem ends (q : Request) (hgrow : l.Grows ids q) : q.program.Ends (l.Told ids q) b := by
  cases q with
  | create stamp id cityName registered => exact ends_create h stamp id cityName registered
  | get id => exact ends_get h id
  | openAt stamp p => exact ends_openAt h stamp p hgrow
  | closeAt p => exact ends_closeAt h p
  | addTo stamp p typeName => exact ends_addTo h stamp p typeName hgrow
  | removeFrom p => exact ends_removeFrom h p

end
end Request

/-! ## All of them -/

theorem Ledger.Grows.of_pairwise {l : Ledger} {ids : List Uuid} {q : Request} {qs : List Request}
    (h : (ids ++ l.issued (q :: qs)).Pairwise fun id id' => id.value < id'.value) :
    l.Grows ids q := by
  intro id hid id' hid'
  refine (List.pairwise_append.mp h).2.2 id' hid' id ?_
  rw [issued, hid]
  exact List.mem_cons_self

/-- The store keeps to the ledger, request by request. -/
theorem Request.runAll_told {w : Program.World InMemory} {l : Ledger} {ids : List Uuid}
    (requests : List Request) (hs : w.store.Sound) (h : l.Kept w.store.books ids)
    (hids : (ids ++ l.issued requests).Pairwise fun id id' => id.value < id'.value) :
    (runAll requests w).1 = (l.performAll requests).1 ∧ (runAll requests w).2.store.Sound ∧
      (l.performAll requests).2.Kept (runAll requests w).2.store.books
        (ids ++ l.issued requests) := by
  induction requests generalizing w l ids with
  | nil =>
    rw [Ledger.issued, List.append_nil]
    exact ⟨rfl, hs, h⟩
  | cons q qs ih =>
    obtain ⟨⟨hverdict, hkept⟩, hsound⟩ := (q.ends h (.of_pairwise hids)).run hs
    rw [Ledger.issued, ← List.append_assoc] at hids ⊢
    obtain ⟨hverdicts, hsound, hkept⟩ := ih hsound hkept hids
    exact ⟨congrArg₂ List.cons hverdict hverdicts, hsound, hkept⟩

/-- **The store shows the ledger**: it holds the records of the ledger and no others, next to
the reference data that it was seeded with, and `active` names the receptions that are in
progress. -/
structure Ledger.Shows (l : Ledger) (s : InMemory) : Prop where
  cities : s.cities = InMemory.new.cities
  productTypes : s.productTypes = InMemory.new.productTypes
  statuses : s.statuses = InMemory.new.statuses
  point : ∀ id, s.books.point? id = (l.get? id).map fun site => site.point id
  reception : ∀ {id r}, s.books.reception? id = some r ↔
    ∃ p i, l.intake? p id = some i ∧ r = i.reception id p
  product : ∀ {id x}, s.books.product? id = some x ↔
    ∃ p reception i, l.item? p reception id = some i ∧ x = i.product id reception
  active : ∀ {p id}, s.active.get? p = some id ↔
    ∃ i, l.intake? p id = some i ∧ i.status = .inProgress

theorem Ledger.Kept.shows {l : Ledger} {s : InMemory} {ids : List Uuid}
    (h : l.Kept s.books ids) (hs : s.Sound) : l.Shows s where
  cities := hs.cities
  productTypes := hs.productTypes
  statuses := hs.statuses
  point := h.point
  reception := h.reception
  product := h.product
  active {p id} := by
    rw [hs.active_iff_inProgress]
    constructor
    · rintro ⟨r, rfl, hr, rfl⟩
      obtain ⟨-, i, -, -, hi, hform⟩ := h.active?_inProgress hr
      have hstatus : some i.status = some .inProgress :=
        (congrArg Reception.status hform).symm.trans hr.2
      exact ⟨i, hi, Option.some.inj hstatus⟩
    · rintro ⟨i, hi, hstatus⟩
      exact ⟨i.reception id p, rfl, ⟨h.reception.mpr ⟨p, i, hi, rfl⟩, congrArg some hstatus⟩, rfl⟩

/-- **Operations one after the other do what the ledger says**: every verdict is the one of
the ledger, and the store shows the ledger after them, whatever the operations are given and
whatever the times, as long as the identifiers of new records grow. -/
theorem operations_follow_ledger (counters : Counters) (requests : List Request)
    (hids : (Ledger.issued .empty requests).Pairwise fun id id' => id.value < id'.value) :
    (Request.runAll requests ⟨InMemory.new, counters⟩).1 =
        (Ledger.performAll .empty requests).1 ∧
      (Ledger.performAll .empty requests).2.Shows
        (Request.runAll requests ⟨InMemory.new, counters⟩).2.store := by
  have hempty : Ledger.Kept .empty InMemory.new.books [] := Ledger.empty_kept
  obtain ⟨hverdicts, hsound, hkept⟩ :=
    Request.runAll_told (w := ⟨InMemory.new, counters⟩) requests InMemory.new_sound hempty hids
  exact ⟨hverdicts, hkept.shows hsound⟩

/-- A reception with two products of one time, of which one is taken back, and what comes
too early, twice or too late. -/
def oneSession : List Request :=
  [.openAt ⟨.epoch, .generated 0⟩ (.ofNat 1),
    .create ⟨.epoch, .generated 0⟩ (.ofNat 1) "Москва" none,
    .create ⟨.epoch, .generated 0⟩ (.ofNat 1) "Казань" none,
    .openAt ⟨.epoch, .generated 1⟩ (.ofNat 1), .openAt ⟨.epoch, .generated 1⟩ (.ofNat 1),
    .addTo ⟨.epoch, .generated 2⟩ (.ofNat 1) "обувь",
    .addTo ⟨.epoch, .generated 3⟩ (.ofNat 1) "одежда", .removeFrom (.ofNat 1),
    .closeAt (.ofNat 1), .removeFrom (.ofNat 1)]

/-- **Of two products of one time the one added last is taken back.** -/
theorem one_session_follows_ledger :
    let final := Request.runAll oneSession ⟨InMemory.new, .zero⟩
    let point := PickupPoint.inCity (.ofNat 1) .epoch ⟨1, "Москва"⟩
    let r := Reception.begun (.generated 1) (.ofNat 1) .epoch
    let x := Product.ofType (.generated 2) r.id .epoch ⟨3, "обувь"⟩
    let y := Product.ofType (.generated 3) r.id .epoch ⟨2, "одежда"⟩
    Ledger.issued .empty oneSession = [.generated 1, .generated 2, .generated 3] ∧
      final.1 = [.error (.pickupPointNotFound (.ofNat 1)), .ok (.point point),
        .error (.duplicatePickupPoint (.ofNat 1)), .ok (.reception r),
        .error (.receptionAlreadyInProgress (.ofNat 1)), .ok (.product x), .ok (.product y),
        .ok (.product y), .ok (.reception r.ended), .error (.noActiveReception (.ofNat 1))] ∧
      (Ledger.performAll .empty oneSession).2.Shows final.2.store := by
  have hids : (Ledger.issued .empty oneSession).Pairwise fun id id' => id.value < id'.value := by
    decide
  obtain ⟨hverdicts, hshows⟩ := operations_follow_ledger .zero oneSession hids
  exact ⟨by decide, hverdicts.trans rfl, hshows⟩

end PickupLedger
