import PickupLedger.Proofs.LastInFirstOut
import PickupLedger.Proofs.Progress

/-!
# Overviews of a long history

A page of the overview has at most thirty pickup points, but nothing bounds the receptions that
these have had, and the products of all of them are asked for in one statement, which has a
parameter for each.  So over a database an overview is answered exactly if the receptions of its
page are not more than the parameters of a statement (`overview_answers_iff`).

A single pickup point gets beyond that: openings and closings there, one after the other
(`Request.rounds`), are something that the service gets into (`Backend.reached_runAll`), and each
round leaves a reception behind (`Ledger.Worn`).
-/

namespace PickupLedger
open Operation Service

/-! ## One after the other is side by side -/

namespace SideBySide
variable {σ : Type} [Storage σ] {y : SideBySide σ} {i n : Nat} {q : Request} {p : Program Verdict}

/-- A task that is done stays as it is. -/
theorem tick_of_done {v : Verdict} (hi : y.tasks[i]? = some ⟨q, .done v⟩) : y.tick i = y := by
  obtain ⟨hlt, hget⟩ := List.getElem?_eq_some_iff.mp hi
  rw [tick_of_some hi]
  show SideBySide.mk y.world (y.tasks.set i ⟨q, .done v⟩) y.decided = y
  rw [← hget, List.set_getElem_self]

theorem run_of_done {v : Verdict} (hi : y.tasks[i]? = some ⟨q, .done v⟩) (n : Nat) :
    y.run (.replicate n i) = y := by
  induction n with
  | zero => rfl
  | succ n ih => rw [List.replicate_succ, run, tick_of_done hi, ih]

/-- **An operation that takes its steps in a row** comes to its end, and the store to where the
operation alone takes it. -/
theorem run_replicate (h : p.Within n) (hi : y.tasks[i]? = some ⟨q, p⟩) :
    ∃ decided, y.run (.replicate (n + 1) i) =
      ⟨(p.run y.world).2, y.tasks.set i ⟨q, .done (p.run y.world).1⟩, decided⟩ := by
  have hset {ts : List Task} {t : Task} (h : ts[i]? = some t) (t' : Task) :
      (ts.set i t')[i]? = some t' :=
    List.getElem?_set_self (List.getElem?_eq_some_iff.mp h).1
  induction p generalizing y n with
  | done v =>
    obtain ⟨hlt, hget⟩ := List.getElem?_eq_some_iff.mp hi
    refine ⟨y.decided, (run_of_done hi _).trans ?_⟩
    show y = ⟨y.world, y.tasks.set i ⟨q, .done v⟩, y.decided⟩
    rw [← hget, List.set_getElem_self]
  | count counter next ih =>
    -- What is counted is counted with the next call, so the first step is one of the rest.
    let counted : SideBySide σ :=
      ⟨{ y.world with counters := y.world.counters.add counter }, y.tasks.set i ⟨q, next⟩, y.decided⟩
    have hcounted : counted.tasks[i]? = some ⟨q, next⟩ := hset hi _
    obtain ⟨decided, hrun⟩ := ih (y := counted) h hcounted
    refine ⟨decided, ?_⟩
    have htick : y.tick i = counted.tick i := by
      rw [tick_of_some hi, tick_of_some hcounted, List.set_set]
      rfl
    rw [List.replicate_succ, run, htick, ← run, ← List.replicate_succ, hrun, List.set_set]
    rfl
  | ask c next ih =>
    obtain ⟨hpos, hnext⟩ := h
    obtain ⟨m, rfl⟩ := Nat.exists_eq_succ_of_ne_zero (Nat.ne_of_gt hpos)
    rw [List.replicate_succ, run, tick_of_some hi]
    obtain ⟨decided, hrun⟩ := ih (Storage.answer c y.world.store).1 (n := m)
      (y := ⟨_, y.tasks.set i ⟨q, next (Storage.answer c y.world.store).1⟩, _⟩) (hnext _)
      (hset hi _)
    refine ⟨decided, hrun.trans ?_⟩
    rw [List.set_set]
    rfl

/-- **Operations one after the other** are operations side by side. -/
theorem exists_run_eq_runAll {requests : List Request} {settled : List Task}
    (hy : y.tasks = settled ++ requests.map .ofRequest) :
    ∃ schedule, (y.run schedule).world = (Request.runAll requests y.world).2 := by
  induction requests generalizing y settled with
  | nil => exact ⟨[], rfl⟩
  | cons q qs ih =>
    have hi : y.tasks[settled.length]? = some ⟨q, q.program⟩ := by
      rw [hy, List.getElem?_append_right (Nat.le_refl _), Nat.sub_self]
      rfl
    obtain ⟨decided, hrun⟩ := run_replicate q.within hi
    have htasks : y.tasks.set settled.length ⟨q, .done (q.program.run y.world).1⟩ =
        (settled ++ [⟨q, .done (q.program.run y.world).1⟩]) ++ qs.map .ofRequest := by
      rw [hy, List.set_append_right _ _ (Nat.le_refl _), Nat.sub_self, List.append_assoc]
      rfl
    obtain ⟨schedule, hrest⟩ := ih (y := ⟨(q.program.run y.world).2, _, decided⟩) htasks
    refine ⟨.replicate (q.calls + 1) settled.length ++ schedule, ?_⟩
    rw [run_append, hrun, hrest]
    rfl

end SideBySide

/-- **Operations one after the other take a new store to states that it gets into.** -/
theorem Backend.reached_runAll {new : Backend} (hnew : new.IsNew) {requests : List Request}
    (hids : (requests.filterMap Request.fresh?).Nodup) :
    (Request.runAll requests ⟨new, .zero⟩).2.store.Reached := by
  have hstart : (SideBySide.start new requests).tasks = [] ++ requests.map .ofRequest := rfl
  obtain ⟨schedule, hrun⟩ := SideBySide.exists_run_eq_runAll hstart
  exact ⟨new, requests, schedule, hnew, hids, congrArg Program.World.store hrun.symm⟩

/-! ## What an overview asks for -/

/-- A statement with too many parameters is refused. -/
theorem Database.productsOf_tooMany {db : Database} {ids : List Uuid}
    (hids : maxParameters < ids.length) (hconnected : db.connected = true) :
    db.productsOf ids = .error (.database (.query .tooManyParameters)) := by
  have hsome : ¬ ids.isEmpty = true := by
    intro h
    rw [List.isEmpty_iff.mp h] at hids
    exact Nat.not_lt_zero _ hids
  rw [Database.productsOf, if_neg hsome, Database.query, obstacle?, hconnected]
  simp only [Bool.not_true, Bool.false_eq_true, if_false, hids, if_true]

/-- **The identifiers that a call asks for**, where it asks for the records of many. -/
def Call.ids : Call → List Uuid
  | .receptionsAt ids => ids
  | .productsOf ids => ids
  | _ => []

namespace Overview

/-- **The lists that an overview is answered with**, but for the products: the pickup points of a
page and the receptions of all of them. -/
structure Answered (w : Program.World Backend) (window : DateWindow) (page : Page)
    (points : List PickupPoint) (receptions : List Reception) : Prop where
  points_eq : (Storage.answer (.pickupPointPage ⟨page, window⟩) w.store).1 = .ok points
  few : points.length ≤ page.limit.toNat
  receptions_eq : (Storage.answer (.receptionsAt (points.map PickupPoint.id)) w.store).1 =
    .ok receptions
  nodup : receptions.Nodup
  mem_iff : ∀ r, r ∈ receptions ↔
    w.store.books.HasReception r ∧ r.pickupPoint ∈ points.map PickupPoint.id

namespace Answered
variable {w : Program.World Backend} {window : DateWindow} {page : Page}
  {points : List PickupPoint} {receptions : List Reception}

/-- Without pickup points there are no receptions of them. -/
theorem receptions_nil (h : Answered w window page [] receptions) : receptions = [] := by
  rw [List.eq_nil_iff_forall_not_mem]
  exact fun r hr => List.not_mem_nil ((h.mem_iff r).mp hr).2

variable (h : Answered w window page points receptions) (hvalid : Valid window page)
include h hvalid

/-- **The calls of an overview**; where there is nothing to ask for, nothing is asked. -/
theorem calls_eq :
    ((Service.overview window page).program.exchanges w).map Exchange.call =
      .pickupPointPage ⟨page, window⟩ ::
        ((if points = [] then [] else [.receptionsAt (points.map PickupPoint.id)]) ++
          if receptions = [] then [] else [.productsOf (receptions.map Reception.id)]) := by
  rw [program_of_valid hvalid, program_call_bind]
  simp only [Program.exchanges, h.points_eq, List.map_cons]
  refine congrArg _ ?_
  have hsecond : (Storage.answer (.pickupPointPage ⟨page, window⟩) w.store).2.records =
      w.store.records := Backend.records_check rfl w.store
  cases points with
  | nil => rw [h.receptions_nil]; rfl
  | cons p ps =>
    have hreceptions := (Backend.check_congr rfl hsecond).trans h.receptions_eq
    simp only [List.isEmpty_cons, Bool.false_eq_true, if_false]
    rw [if_neg (List.cons_ne_nil p ps), program_call_bind]
    simp only [Program.exchanges, hreceptions, List.map_cons, List.singleton_append]
    refine congrArg _ ?_
    cases receptions with
    | nil => rfl
    | cons r rs =>
      simp only [overviewProducts, List.map_cons, List.isEmpty_cons, Bool.false_eq_true, if_false]
      rw [if_neg (List.cons_ne_nil r rs), program_call_bind]
      simp only [Program.exchanges, List.map_cons]
      refine congrArg _ ?_
      split <;> rfl

/-- No list of identifiers is longer than a statement may have parameters, exactly if that of
the receptions is not. -/
theorem few_iff : (∀ e ∈ (Service.overview window page).program.exchanges w,
      e.call.ids.length ≤ Database.maxParameters) ↔
    receptions.length ≤ Database.maxParameters := by
  have hcalls : (∀ e ∈ (Service.overview window page).program.exchanges w,
        e.call.ids.length ≤ Database.maxParameters) ↔
      ∀ c ∈ ((Service.overview window page).program.exchanges w).map Exchange.call,
        c.ids.length ≤ Database.maxParameters := by simp
  rw [hcalls, h.calls_eq hvalid, List.forall_mem_cons, List.forall_mem_append]
  constructor
  · rintro ⟨-, -, hlast⟩
    cases receptions with
    | nil => exact Nat.zero_le _
    | cons r rs => simpa [Call.ids] using hlast
  · intro hfew
    refine ⟨Nat.zero_le _, ?_, ?_⟩
    · split
      · exact List.forall_mem_nil _
      · exact List.forall_mem_singleton.mpr (hvalid.few h.few)
    · split <;> simp [Call.ids, hfew]

end Answered

/-- A page is answered, and not with more pickup points than asked for. -/
theorem exists_page {s : Backend} (hs : s.Sound) (window : DateWindow) (page : Page) :
    ∃ points, (Storage.answer (.pickupPointPage ⟨page, window⟩) s).1 = .ok points ∧
      points.length ≤ page.limit.toNat := by
  cases s with
  | memory store =>
    obtain ⟨ps, -, hanswer⟩ := (InMemory.Sound.filed hs).lists (.pickupPointPage ⟨page, window⟩)
    exact ⟨_, hanswer, List.length_take_le ..⟩
  | database db =>
    refine ⟨_, Database.Sound.query hs (Database.pageTables ⟨page, window⟩) (by decide) _, ?_⟩
    rw [Database.pointPage, List.length_map]
    exact List.length_take_le ..

/-- **Every page that can be asked for has its lists**, in any state of a sound store. -/
theorem exists_answered {w : Program.World Backend} (hs : w.store.Sound) {window : DateWindow}
    {page : Page} (hvalid : Valid window page) :
    ∃ points receptions, Answered w window page points receptions := by
  obtain ⟨points, hpoints, hlength⟩ := exists_page hs window page
  obtain ⟨receptions, hreceptions, hnodup, hmem⟩ := hs.receptions (hvalid.few hlength)
  exact ⟨points, receptions, hpoints, hlength, hreceptions, hnodup, hmem⟩

namespace Answered
variable {w : Program.World Backend} {window : DateWindow} {page : Page}
  {points : List PickupPoint} {receptions : List Reception}
  (h : Answered w window page points receptions) (hvalid : Valid window page)
  (hs : w.store.Sound)
include h hvalid hs

/-- **Receptions that a statement has parameters for** have their products shown. -/
theorem run_ok (hfew : receptions.length ≤ Database.maxParameters) :
    ∃ os, ((Service.overview window page).program.run w).1 = .ok os ∧
      os.map PickupPointOverview.point = points := by
  rw [← List.length_map Reception.id] at hfew
  obtain ⟨xs, hproducts, hnone⟩ := hs.products fun _ => hfew
  exact ⟨_, Overview.run_ok hvalid rfl h.points_eq h.receptions_eq hproducts
    fun hnil => hnone (by rw [hnil]; rfl), map_point_assemble _ _ _⟩

/-- **More receptions than parameters** are too many for the database. -/
theorem run_error (hdb : w.store.isDatabase = true)
    (hmany : Database.maxParameters < receptions.length) :
    ((Service.overview window page).program.run w).1 =
      .error (.internal "list overview: products" (.database (.query .tooManyParameters))) := by
  have hreceptions : receptions ≠ [] := List.ne_nil_of_length_pos (Nat.zero_lt_of_lt hmany)
  have hpoints : points ≠ [] := by
    rintro rfl
    exact hreceptions h.receptions_nil
  rw [← List.length_map Reception.id] at hmany
  have herror : (Storage.answer (.productsOf (receptions.map Reception.id)) w.store).1 =
      .error (.database (.query .tooManyParameters)) := by
    cases hstore : w.store with
    | memory store => rw [hstore] at hdb; cases hdb
    | database db =>
      rw [hstore] at hs
      exact Database.productsOf_tooMany hmany (Database.Sound.connected hs)
  rw [Overview.run_eq hvalid rfl h.points_eq h.receptions_eq, if_neg (by simp [hpoints, hreceptions]), herror]
  rfl

end Answered
end Overview

/-! ## Many receptions at one pickup point -/

/-- Either store keeps to the ledger, request by request. -/
theorem Ledger.Kept.runAll {w : Program.World Backend} {l : Ledger} {ids : List Uuid}
    {requests : List Request} (h : l.Kept w.store.books ids) (hs : w.store.InOrder)
    (hids : (ids ++ l.issued requests).Pairwise fun id id' => id.value < id'.value)
    (hyears : ∀ q ∈ requests, q.InYears) :
    (l.performAll requests).2.Kept (Request.runAll requests w).2.store.books
        (ids ++ l.issued requests) ∧
      (Request.runAll requests w).2.store.InOrder ∧
      (Request.runAll requests w).2.store.isDatabase = w.store.isDatabase := by
  induction requests generalizing w l ids with
  | nil =>
    rw [Ledger.issued, List.append_nil]
    exact ⟨h, hs, rfl⟩
  | cons q qs ih =>
    obtain ⟨⟨-, hkept⟩, hs, hkind⟩ := (q.ends h (.of_pairwise hids)).run_backend hs
      fun _ => q.portable (hyears q List.mem_cons_self)
    rw [Ledger.issued, ← List.append_assoc] at hids ⊢
    obtain ⟨hkept, hs, hkind'⟩ := ih hkept hs hids fun q' hq' => hyears q' (List.mem_cons_of_mem q hq')
    exact ⟨hkept, hs, hkind'.trans hkind⟩

namespace Request

/-- **Openings and closings** at a pickup point, each in turn. -/
def rounds (p : Uuid) (n : Nat) : List Request :=
  (List.range n).flatMap fun k => [.openAt ⟨.epoch, .generated k⟩ p, .closeAt p]

/-- A pickup point of the first day, and all that happens there. -/
def longHistory (p : Uuid) (n : Nat) : List Request :=
  .create ⟨.epoch, .ofNat 0⟩ p "Москва" none :: rounds p n

theorem rounds_succ (p : Uuid) (n : Nat) :
    rounds p (n + 1) = rounds p n ++ [.openAt ⟨.epoch, .generated n⟩ p, .closeAt p] := by
  rw [rounds, List.range_succ, List.flatMap_append, List.flatMap_singleton, rounds]

/-- A round gives one identifier to a record. -/
theorem fresh?_longHistory (p : Uuid) (n : Nat) :
    (longHistory p n).filterMap fresh? = (List.range n).map .generated := by
  show (rounds p n).filterMap fresh? = _
  induction n with
  | zero => rfl
  | succ n ih => rw [rounds_succ, List.filterMap_append, ih, List.range_succ, List.map_append]; rfl

theorem inYears_longHistory (p : Uuid) (n : Nat) : ∀ q ∈ longHistory p n, q.InYears := by
  have hepoch : Instant.epoch.InYears := by decide
  intro q hq
  rcases List.mem_cons.mp hq with rfl | hq
  · exact ⟨hepoch, fun time htime => nomatch htime⟩
  · obtain ⟨k, -, hk⟩ := List.mem_flatMap.mp hq
    rcases List.mem_pair.mp hk with rfl | rfl
    · exact hepoch
    · trivial

end Request

theorem Overview.valid_first : Valid .unbounded .first := by
  refine ⟨by decide, by decide, ?_⟩
  rintro start stop ⟨⟩

namespace Ledger

/-- Identifiers are issued to requests that ask for one. -/
theorem issued_sublist (l : Ledger) (qs : List Request) :
    (l.issued qs).Sublist (qs.filterMap Request.fresh?) := by
  induction qs generalizing l with
  | nil => exact .slnil
  | cons q qs ih =>
    have hone : (l.issued? q).toList.Sublist q.fresh?.toList := by
      rw [issued?]
      split
      · exact .refl _
      · exact List.nil_sublist _
    have hcons : (q :: qs).filterMap Request.fresh? =
        q.fresh?.toList ++ qs.filterMap Request.fresh? := by
      cases hq : q.fresh? with
      | none => exact List.filterMap_cons_none hq
      | some id => exact List.filterMap_cons_some hq
    rw [issued, hcons]
    exact hone.append (ih _)

section Put
variable {l : Ledger} {p id : Uuid} {site : Site} {i : Intake}

/-- A reception that begins at a free pickup point is the one in progress there. -/
theorem active?_putIntake_begun (hsite : l.get? p = some site) (hfree : l.active? p = none)
    (hin : i.status = .inProgress) :
    ∃ site' i', (l.putIntake p site id i).active? p = some (site', id, i') := by
  have hput := intake?_putIntake hsite id i p
  cases hactive : (l.putIntake p site id i).active? p with
  | none => exact absurd hin (of_active?_none hactive ((hput id).trans (if_pos ⟨rfl, rfl⟩)))
  | some found =>
    obtain ⟨site', id', i'⟩ := found
    obtain ⟨-, hi', hstatus⟩ := of_active?_some hactive
    by_cases hid : id' = id
    · exact ⟨site', i', by rw [hid]⟩
    · rw [hput, if_neg fun heq => hid heq.2] at hi'
      exact absurd hstatus (of_active?_none hfree hi')

/-- A reception that ends leaves its pickup point free, if no other was in progress there. -/
theorem active?_putIntake_ended (hsite : l.get? p = some site) (hend : i.status ≠ .inProgress)
    (hother : ∀ id' i', id' ≠ id → l.intake? p id' = some i' → i'.status ≠ .inProgress) :
    (l.putIntake p site id i).active? p = none := by
  cases hactive : (l.putIntake p site id i).active? p with
  | none => rfl
  | some found =>
    obtain ⟨site', id', i'⟩ := found
    obtain ⟨-, hi', hstatus⟩ := of_active?_some hactive
    rw [intake?_putIntake hsite] at hi'
    split at hi'
    · exact absurd (Option.some.inj hi' ▸ hstatus) hend
    · next hid => exact absurd hstatus (hother id' i' (fun heq => hid ⟨rfl, heq⟩) hi')

end Put

/-- **A ledger after so many rounds** at its only pickup point: its receptions are those of the
rounds, and none is in progress. -/
structure Worn (l : Ledger) (p : Uuid) (n : Nat) : Prop where
  site : ∃ site, l.get? p = some site
  only : ∀ id, id ≠ p → l.get? id = none
  free : l.active? p = none
  intake : ∀ id, (∃ i, l.intake? p id = some i) ↔ ∃ k < n, id = .generated k

/-- **One round** leaves one more. -/
theorem Worn.round {l : Ledger} {p : Uuid} {n : Nat} (h : l.Worn p n) :
    Worn (l.performAll [.openAt ⟨.epoch, .generated n⟩ p, .closeAt p]).2 p (n + 1) := by
  obtain ⟨site, hsite⟩ := h.site
  let begun : Intake := ⟨.epoch, .inProgress, .empty⟩
  have hopen : l.perform (.openAt ⟨.epoch, .generated n⟩ p) =
      (.ok (.reception (begun.reception (.generated n) p)),
        l.putIntake p site (.generated n) begun) := by
    simp only [perform, hsite, h.free]
    rfl
  obtain ⟨site', i, hactive⟩ := active?_putIntake_begun (p := p) hsite h.free (i := begun) rfl
  have hput := intake?_putIntake hsite (.generated n) begun p
  have honly : ∀ id, id ≠ p → (l.putIntake p site (.generated n) begun).get? id = none :=
    fun id hid => (Table.get?_put ..).trans ((if_neg hid).trans (h.only id hid))
  generalize l.putIntake p site (.generated n) begun = opened at hopen hactive hput honly
  obtain ⟨hsite', -, -⟩ := of_active?_some hactive
  have hclose : opened.perform (.closeAt p) =
      (.ok (.reception (i.ended.reception (.generated n) p)),
        opened.putIntake p site' (.generated n) i.ended) := by
    simp only [perform, hactive]
  have hput' := intake?_putIntake hsite' (.generated n) i.ended p
  have hlast : (l.performAll [.openAt ⟨.epoch, .generated n⟩ p, .closeAt p]).2 =
      opened.putIntake p site' (.generated n) i.ended := by
    simp only [performAll, hopen, hclose]
  rw [hlast]
  refine ⟨⟨_, Table.get?_put_self ..⟩, fun id hid => ?_, ?_, fun id => ?_⟩
  · exact (Table.get?_put ..).trans ((if_neg hid).trans (honly id hid))
  · have hended : i.ended.status ≠ .inProgress := StatusKind.noConfusion
    refine active?_putIntake_ended hsite' hended fun id i' hid hi' => ?_
    rw [hput, if_neg fun heq => hid heq.2] at hi'
    exact of_active?_none h.free hi'
  · rw [hput', hput, Nat.exists_lt_succ_right]
    split
    · next hid => exact iff_of_true ⟨_, rfl⟩ (.inr hid.2)
    · next hid =>
      rw [h.intake, or_iff_left fun heq => hid ⟨rfl, heq⟩]

section Books
variable {l : Ledger} {b : Books} {issued : List Uuid} {p : Uuid} {n : Nat} (hkept : l.Kept b issued)
  (h : l.Worn p n)
include hkept h

/-- The pickup point of the rounds is the only one. -/
theorem Worn.hasPoint_iff {site : Site} (hsite : l.get? p = some site) (found : PickupPoint) :
    b.HasPoint found ↔ found = site.point p := by
  rw [Books.HasPoint, hkept.point]
  by_cases hid : found.id = p
  · rw [hid, hsite, Option.map_some, Option.some.injEq]
    exact eq_comm
  · rw [h.only _ hid]
    refine iff_of_false nofun ?_
    rintro rfl
    exact hid rfl

/-- The receptions at it are those of the rounds. -/
theorem Worn.hasReception_iff (id : Uuid) :
    (∃ r, (b.HasReception r ∧ r.pickupPoint = p) ∧ r.id = id) ↔ ∃ k < n, id = .generated k := by
  rw [← h.intake]
  constructor
  · rintro ⟨r, ⟨hr, rfl⟩, rfl⟩
    obtain ⟨p', i, hi, hform⟩ := hkept.reception.mp hr
    have hp : r.pickupPoint = p' := congrArg Reception.pickupPoint hform
    exact ⟨i, hp ▸ hi⟩
  · rintro ⟨i, hi⟩
    exact ⟨i.reception id p, ⟨hkept.reception.mpr ⟨p, i, hi, rfl⟩, rfl⟩, rfl⟩

/-- The first page of pickup points shows it alone. -/
theorem Worn.pointPage {s : Backend} (hs : s.InOrder) (hb : s.books = b)
    {points : List PickupPoint}
    (hpoints : (Storage.answer (.pickupPointPage ⟨.first, .unbounded⟩) s).1 = .ok points) :
    points.map PickupPoint.id = [p] := by
  obtain ⟨site, hsite⟩ := h.site
  have hfits : (Call.pickupPointPage ⟨.first, .unbounded⟩).Fits := by
    refine ⟨Overview.valid_first.offset_lt, ?_, ?_⟩ <;> rintro time ⟨⟩
  obtain ⟨ps, hps, hpage⟩ := hs.sound.lists hfits.small fun hdb => (hs.years hdb).inLine hfits
  have hlist : ps = [site.point p] := by
    refine hps.unique ⟨List.pairwise_singleton .., fun found => ?_⟩
    subst hb
    rw [List.mem_singleton, ← h.hasPoint_iff hkept hsite]
    exact (and_iff_left (s.books.inWindow_of_none rfl found)).symm
  rw [Except.ok.inj (hpoints.symm.trans hpage), hlist]
  rfl

end Books

theorem worn_longHistory (p : Uuid) (n : Nat) :
    Worn (performAll .empty (Request.longHistory p n)).2 p n := by
  induction n with
  | zero =>
    have hfirst : (performAll .empty (Request.longHistory p 0)).2 =
        Table.empty.put p ⟨.epoch, ⟨1, "Москва"⟩, .empty⟩ := rfl
    rw [hfirst]
    refine ⟨⟨_, Table.get?_put_self ..⟩, fun id hid => (Table.get?_put ..).trans (if_neg hid), ?_,
      fun id => ?_⟩
    · rw [active?, Table.get?_put_self]
      rfl
    · rw [intake?, Table.get?_put_self]
      refine iff_of_false ?_ ?_
      · rintro ⟨i, ⟨⟩⟩
      · rintro ⟨k, hk, -⟩
        exact Nat.not_lt_zero k hk
  | succ n ih =>
    rw [Request.longHistory, Request.rounds_succ, ← List.cons_append, performAll_append]
    exact ih.round

end Ledger

/-- The receptions of a pickup point are as many as their identifiers. -/
theorem Books.length_receptions {b : Books} {p : Uuid} {receptions : List Reception}
    (hnodup : receptions.Nodup)
    (hmem : ∀ r, r ∈ receptions ↔ b.HasReception r ∧ r.pickupPoint = p) {ids : List Uuid}
    (hids : ids.Nodup) (hall : ∀ id, id ∈ ids ↔ ∃ r, (b.HasReception r ∧ r.pickupPoint = p) ∧ r.id = id) :
    receptions.length = ids.length := by
  have hinj : (receptions.map Reception.id).Nodup := by
    refine hnodup.map_on fun r hr r' hr' hid => ?_
    have hfound : b.reception? r'.id = some r := hid ▸ ((hmem r).mp hr).1
    exact Option.some.inj (hfound.symm.trans ((hmem r').mp hr').1)
  have hperm : (receptions.map Reception.id).Perm ids := by
    refine (List.perm_ext_iff_of_nodup hinj hids).mpr fun id => ?_
    simp only [List.mem_map, hmem, hall]
  rw [← hperm.length_eq, List.length_map]

theorem Uuid.pairwise_generated {n : Nat} (hn : n ≤ 1 <<< 62) :
    ((List.range n).map Uuid.generated).Pairwise fun id id' => id.value < id'.value := by
  refine List.pairwise_map.mpr (List.pairwise_lt_range.imp_of_mem fun _ hk hlt => ?_)
  exact Uuid.generated_lt hlt (Nat.lt_of_lt_of_le (List.mem_range.mp hk) hn)

/-- The requests of so many rounds ask for different identifiers. -/
theorem Request.nodup_longHistory (p : Uuid) {n : Nat} (hn : n ≤ 1 <<< 62) :
    ((longHistory p n).filterMap fresh?).Nodup := by
  rw [fresh?_longHistory]
  exact (Uuid.pairwise_generated hn).imp fun hlt heq => Nat.ne_of_lt hlt (congrArg Uuid.value heq)

/-- **After so many rounds** the first page has as many receptions. -/
theorem Overview.length_longHistory {p : Uuid} {n : Nat} (hn : n ≤ 1 <<< 62)
    {w : Program.World Backend}
    (hw : w = (Request.runAll (Request.longHistory p n) ⟨.database .seeded, .zero⟩).2) :
    w.store.Reached ∧ w.store.InOrder ∧ w.store.isDatabase = true ∧
      ∀ (points : List PickupPoint) (receptions : List Reception),
        (Storage.answer (.pickupPointPage ⟨.first, .unbounded⟩) w.store).1 = .ok points →
        receptions.Nodup →
        (∀ r, r ∈ receptions ↔
          w.store.books.HasReception r ∧ r.pickupPoint ∈ points.map PickupPoint.id) →
        receptions.length = n := by
  have hnodup := Request.nodup_longHistory p hn
  have hissued := Uuid.pairwise_generated hn
  rw [← Request.fresh?_longHistory p n] at hissued
  have hnew : (Backend.database .seeded).IsNew := .database
  have hreached := Backend.reached_runAll hnew hnodup
  obtain ⟨hkept, hs, hkind⟩ := (Ledger.carried_new hnew).kept.runAll
    (w := ⟨.database .seeded, .zero⟩) hnew.inOrder
    (hissued.sublist (Ledger.issued_sublist .empty _)) (Request.inYears_longHistory p n)
  have hworn := Ledger.worn_longHistory p n
  generalize (Ledger.performAll .empty (Request.longHistory p n)).2 = l at hkept hworn
  rw [← hw] at hreached hkept hs hkind
  refine ⟨hreached, hs, hkind, fun points receptions hpoints hreceptions hmem => ?_⟩
  simp only [hworn.pointPage hkept hs rfl hpoints, List.mem_singleton] at hmem
  rw [Request.fresh?_longHistory] at hnodup
  rw [Books.length_receptions hreceptions hmem hnodup fun id => ?_, List.length_map,
    List.length_range]
  rw [hworn.hasReception_iff hkept, List.mem_map]
  simp only [List.mem_range, eq_comm]

/-! ## Overviews -/

/-- **An overview over a database is answered exactly if its receptions fit into one statement.**
In any state that the service gets into, for any window and page that can be asked for: the lists
of identifiers that the overview asks for are those of the pickup points of the page, which are at
most 30, and of all receptions that these have had; none is longer than a statement may have
parameters exactly if the receptions are not more.  Then the overview shows the page, and else it
fails, with that as the only reason. -/
theorem overview_answers_iff {w : Program.World Backend} (hreached : w.store.Reached)
    (hdb : w.store.isDatabase = true) {window : DateWindow} {page : Page}
    (hvalid : Overview.Valid window page) :
    ∃ (points : List PickupPoint) (receptions : List Reception),
      (Storage.answer (.pickupPointPage ⟨page, window⟩) w.store).1 = .ok points ∧
      points.length ≤ 30 ∧ receptions.Nodup ∧
      (∀ r, r ∈ receptions ↔
        w.store.books.HasReception r ∧ r.pickupPoint ∈ points.map PickupPoint.id) ∧
      ((∀ e ∈ (Command.overview window page).exchanges w,
          e.call.ids.length ≤ Database.maxParameters) ↔
        receptions.length ≤ Database.maxParameters) ∧
      (receptions.length ≤ Database.maxParameters →
        ∃ os, ((Command.overview window page).run w).1 = .overview (.ok os) ∧
          os.map PickupPointOverview.point = points) ∧
      (Database.maxParameters < receptions.length →
        ((Command.overview window page).run w).1 = .overview (.error
          (.internal "list overview: products" (.database (.query .tooManyParameters))))) := by
  have hs := hreached.sound
  obtain ⟨points, receptions, h⟩ := Overview.exists_answered hs hvalid
  refine ⟨points, receptions, h.points_eq, Nat.le_trans h.few hvalid.2.1.2, h.nodup, h.mem_iff,
    h.few_iff hvalid, fun hfew => ?_, fun hmany => ?_⟩
  · obtain ⟨os, hrun, hpoints⟩ := h.run_ok hvalid hs hfew
    exact ⟨os, congrArg Report.overview hrun, hpoints⟩
  · exact congrArg Report.overview (h.run_error hvalid hs hdb hmany)

/-- **After 32766 rounds at its only pickup point** the first page of the overview is answered. -/
theorem overview_answers_after_32766_rounds :
    let w := (Request.runAll (Request.longHistory (.ofNat 1) 32766)
      ⟨Backend.database .seeded, .zero⟩).2
    w.store.Reached ∧ w.store.isDatabase = true ∧ Overview.Valid .unbounded .first ∧
      (∀ e ∈ (Command.overview .unbounded .first).exchanges w, e.call.ids.length ≤ 32766) ∧
      ∃ os, ((Command.overview .unbounded .first).run w).1 = .overview (.ok os) := by
  intro w
  obtain ⟨hreached, -, hdb, hlength⟩ :=
    Overview.length_longHistory (n := 32766) (by decide) (w := w) rfl
  clear_value w
  obtain ⟨points, receptions, hpoints, -, hnodup, hmem, hlists, hok, -⟩ :=
    overview_answers_iff hreached hdb Overview.valid_first
  have hfew : receptions.length ≤ 32766 := Nat.le_of_eq (hlength points receptions hpoints hnodup hmem)
  obtain ⟨os, hrun, -⟩ := hok hfew
  exact ⟨hreached, hdb, Overview.valid_first, hlists.mpr hfew, os, hrun⟩

/-- **One round more** and it fails. -/
theorem overview_fails_after_32767_rounds :
    let w := (Request.runAll (Request.longHistory (.ofNat 1) 32767)
      ⟨Backend.database .seeded, .zero⟩).2
    w.store.Reached ∧ w.store.isDatabase = true ∧ Overview.Valid .unbounded .first ∧
      (∃ e ∈ (Command.overview .unbounded .first).exchanges w, 32766 < e.call.ids.length) ∧
      ((Command.overview .unbounded .first).run w).1 = .overview (.error
        (.internal "list overview: products" (.database (.query .tooManyParameters)))) := by
  intro w
  obtain ⟨hreached, hs, hdb, hlength⟩ :=
    Overview.length_longHistory (n := 32767) (by decide) (w := w) rfl
  clear_value w
  obtain ⟨points, receptions, h⟩ := Overview.exists_answered hs.sound Overview.valid_first
  have hmany : 32766 < receptions.length :=
    Nat.lt_of_lt_of_eq (by decide) (hlength points receptions h.points_eq h.nodup h.mem_iff).symm
  refine ⟨hreached, hdb, Overview.valid_first, ?_,
    congrArg Report.overview (h.run_error Overview.valid_first hs.sound hdb hmany)⟩
  by_contra hnone
  have hfew := (h.few_iff Overview.valid_first).mp fun e he =>
    Nat.not_lt.mp fun hlong => hnone ⟨e, he, hlong⟩
  exact absurd hmany (Nat.not_lt.mpr hfew)

end PickupLedger
