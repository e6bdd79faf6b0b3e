import PickupLedger.Proofs.OverviewView
import PickupLedger.Proofs.Portability

/-!
# Two stores, one service

The service runs over a store in memory or over a database, and which one it is cannot be
told from what it reports (`stores_are_interchangeable`): over two new stores, operations
one after the other come out the same, every failure and every list included.

The stores go in step (`InStep`): after each operation they have the same books.  The six
operations on records are portable; the lists are told by the books, and as a list of
distinct records has one order, both stores give it in that order.  Times have to be in the
years 0 to 9999, where texts are in the order of times, and a page of the overview may have
only so many receptions, since a statement has a parameter for each.
-/

namespace PickupLedger
open Operation Service

/-! ## What the service is asked, and what it reports -/

/-- **An operation of the service**, the lists included. -/
inductive Command where
  | request (q : Request)
  | listAll
  | overview (window : DateWindow) (page : Page)
  deriving DecidableEq, Repr

/-- **What the service reports.** -/
inductive Report where
  | verdict (v : Verdict)
  | points (answer : Except Failure (List PickupPoint))
  | overview (answer : Except Failure (List PickupPointOverview))
  deriving DecidableEq, Repr

/-- The report has no more receptions than a statement has parameters. -/
def Report.Few : Report → Prop
  | .overview (.ok os) =>
    (os.flatMap PickupPointOverview.receptions).length ≤ Database.maxParameters
  | _ => True

namespace Command

/-- The identifier that the operation gives to a record of its own. -/
def fresh? : Command → Option Uuid
  | .request q => q.fresh?
  | _ => none

/-- All times that the operation comes with are in the years 0 to 9999. -/
def InYears : Command → Prop
  | .request q => q.InYears
  | .listAll => True
  | .overview window _ => window.InYears

/-- **One operation** over a store. -/
def run {σ : Type} [Storage σ] : Command → Program.World σ → Report × Program.World σ
  | .request q, w => (.verdict (q.program.run w).1, (q.program.run w).2)
  | .listAll, w => (.points (listPickupPoints.program.run w).1, (listPickupPoints.program.run w).2)
  | .overview window page, w =>
    (.overview ((Service.overview window page).program.run w).1,
      ((Service.overview window page).program.run w).2)

/-- **Operations one after the other** over a store. -/
def runAll {σ : Type} [Storage σ] :
    List Command → Program.World σ → List Report × Program.World σ
  | [], w => ([], w)
  | c :: cs, w =>
    let (report, w) := c.run w
    let (reports, w) := runAll cs w
    (report :: reports, w)

end Command

/-! ## Lists -/

/-- A call for a list. -/
def Call.IsList : Call → Prop
  | .pickupPointPage _ | .allPickupPoints | .receptionsAt _ | .productsOf _ => True
  | _ => False

/-- **Books tell the lists.** -/
theorem Books.Lists.unique {b : Books} {c : Call} (hc : c.IsList) {a a' : Answer c}
    (h : b.Lists c a) (h' : b.Lists c a') : a = a' := by
  cases c with
  | pickupPointPage q =>
    obtain ⟨ps, hps, rfl⟩ := h
    obtain ⟨ps', hps', rfl⟩ := h'
    rw [hps.unique hps']
  | allPickupPoints =>
    obtain ⟨ps, hps, rfl⟩ := h
    obtain ⟨ps', hps', rfl⟩ := h'
    rw [hps.unique hps']
  | receptionsAt ids =>
    obtain ⟨rs, hrs, rfl⟩ := h
    obtain ⟨rs', hrs', rfl⟩ := h'
    rw [hrs.unique hrs']
  | productsOf ids =>
    obtain ⟨xs, hxs, rfl⟩ := h
    obtain ⟨xs', hxs', rfl⟩ := h'
    rw [hxs.unique hxs']
  | _ => exact hc.elim

section InStep
variable {s : InMemory} {db : Database} {b : Books} (h : InStep s db b)
include h

theorem InStep.lists (c : Call) : b.Lists c (Storage.answer c s).1 :=
  h.memory_books ▸ h.memory.filed.lists c

/-- Stores in step give the same list and stay in step. -/
theorem InStep.list {c : Call} (hc : c.IsList) (hfits : c.Fits) :
    (Storage.answer c db).1 = (Storage.answer c s).1 ∧
      InStep (Storage.answer c s).2 (Storage.answer c db).2 b := by
  obtain ⟨hs, hdb, rfl, hbooks, hyears⟩ := h
  have hyears' : db.books.InYears := hbooks ▸ hyears
  have hlists := hdb.lists hfits.small (hyears'.inLine hfits)
  rw [hbooks] at hlists
  have hsame := hlists.unique hc (hs.filed.lists c)
  -- Any call for a list is proper, and changes nothing.
  have hkeep : ∀ b : Books, b.Proper c ∧ ∀ answer b', b.Step c answer b' → b' = b := by
    cases c with
    | pickupPointPage q => exact fun b => ⟨trivial, fun _ _ h => h⟩
    | allPickupPoints => exact fun b => ⟨trivial, fun _ _ h => h⟩
    | receptionsAt ids => exact fun b => ⟨trivial, fun _ _ h => h⟩
    | productsOf ids => exact fun b => ⟨trivial, fun _ _ h => h⟩
    | _ => exact hc.elim
  refine ⟨hsame, hs.answer (hkeep _).1, hdb.answer (hkeep _).1, ?_, ?_, hyears⟩
  · exact (hkeep _).2 _ _ (hs.step (hkeep _).1)
  · exact ((hkeep _).2 _ _ (hdb.step (hkeep _).1)).trans hbooks

end InStep

/-- A call that is answered goes on with the reply. -/
theorem Operation.run_call {σ α : Type} [Storage σ] {step : String} {c : Call}
    {f : c.Reply → Operation α} (w : Program.World σ) {reply : c.Reply}
    (h : (Storage.answer c w.store).1 = .ok reply) :
    (call step c >>= f).program.run w =
      (f reply).program.run { w with store := (Storage.answer c w.store).2 } := by
  rw [program_call_bind]
  simp only [Program.run, h]

/-- A page of a length that can be asked for starts where a signed number can say. -/
theorem Page.offset_lt {page : Page} (h : page.limit.toNat ≤ 30) : page.offset < 2 ^ 63 := by
  have hnumber := page.number.toNat_lt
  have hmul : (page.number.toNat - 1) * page.limit.toNat ≤ 2 ^ 32 * 30 :=
    Nat.mul_le_mul (by omega) h
  rw [Page.offset]
  omega

namespace Overview

theorem Valid.offset_lt {window : DateWindow} {page : Page} (h : Valid window page) :
    page.offset < 2 ^ 63 := Page.offset_lt h.2.1.2

/-- A statement has a parameter for each pickup point of a page. -/
theorem Valid.few {window : DateWindow} {page : Page} (h : Valid window page)
    {points : List PickupPoint} (hpoints : points.length ≤ page.limit.toNat) :
    (points.map PickupPoint.id).length ≤ Database.maxParameters := by
  rw [List.length_map]
  exact Nat.le_trans hpoints (Nat.le_trans h.2.1.2 (by decide))

/-- No reception is left out. -/
theorem length_le_assemble {b : Books} {ps points : List PickupPoint} {receptions : List Reception}
    {window : DateWindow}
    (hps : NewestFirst PickupPoint.recency (fun p => b.HasPoint p ∧ b.InWindow window p) ps)
    (hsub : points.Sublist ps)
    (hreceptions : OldestFirst Reception.recency
      (fun r => b.HasReception r ∧ r.pickupPoint ∈ points.map PickupPoint.id) receptions)
    (products : List Product) : receptions.length ≤
      ((assemble points receptions products).flatMap PickupPointOverview.receptions).length := by
  have hpointIds : (points.map PickupPoint.id).Nodup :=
    (nodup_ids_of_listing hps Recency.Before.asymm fun p hp => hp.1).sublist (hsub.map _)
  have hreceptionIds : (receptions.map Reception.id).Nodup :=
    nodup_ids_of_listing hreceptions Recency.Before.asymm fun r hr => hr.1
  -- All the receptions that were asked for are of the pickup points of the page.
  have hlisted : ∀ r ∈ receptions, decide (∃ p ∈ points, r.pickupPoint = p.id) = true := by
    intro r hr
    obtain ⟨p, hp, hid⟩ := List.mem_map.mp ((hreceptions.mem_iff r).mp hr).2
    exact decide_eq_true ⟨p, hp, hid.symm⟩
  have hlength := (flatMap_receptions_perm hpointIds hreceptionIds products).length_eq
  rw [List.length_map, List.filter_eq_self.mpr hlisted] at hlength
  exact Nat.le_of_eq hlength.symm

end Overview

section Commands
variable {b : Books} {w : Program.World InMemory} {w' : Program.World Database}
  (h : InStep w.store w'.store b)
include h

theorem listAll_same :
    (Command.listAll.run w).1 = (Command.listAll.run w').1 ∧
      InStep (Command.listAll.run w).2.store (Command.listAll.run w').2.store b := by
  obtain ⟨hsame, hstep⟩ := h.list (c := .allPickupPoints) trivial trivial
  have hread := congrArg
    (fun a : Answer .allPickupPoints => reading (.internal "list pickup points") a) hsame.symm
  exact ⟨congrArg Report.points hread, hstep⟩

/-- The last list of an overview has to be asked for as many receptions as will be shown. -/
theorem overviewProducts_same {points : List PickupPoint} {receptions : List Reception}
    (hall : ∀ products, receptions.length ≤ ((Overview.assemble points receptions products).flatMap
      PickupPointOverview.receptions).length) :
    let op := (overviewProducts (receptions.map Reception.id) >>= fun products =>
      pure (Overview.assemble points receptions products)).program
    Report.Few (.overview (op.run w).1) →
      (op.run w).1 = (op.run w').1 ∧ InStep (op.run w).2.store (op.run w').2.store b := by
  intro op hfew
  cases receptions with
  | nil => exact ⟨rfl, h⟩
  | cons r more =>
    have hop : op = (call "list overview: products" (.productsOf ((r :: more).map Reception.id)) >>=
        fun products : List Product =>
          pure (Overview.assemble points (r :: more) products)).program := rfl
    obtain ⟨products, -, hanswer⟩ := h.lists (.productsOf ((r :: more).map Reception.id))
    rw [hop, run_call w hanswer] at hfew
    have hfits : ((r :: more).map Reception.id).length ≤ Database.maxParameters := by
      rw [List.length_map]
      exact Nat.le_trans (hall products) hfew
    obtain ⟨hsame, hstep⟩ := h.list (c := .productsOf ((r :: more).map Reception.id)) trivial hfits
    rw [hanswer] at hsame
    rw [hop, run_call w hanswer, run_call w' hsame]
    exact ⟨rfl, hstep⟩

/-- **A page of the overview** is the same over both stores. -/
theorem overview_same {window : DateWindow} {page : Page} (hwindow : window.InYears)
    (hfew : ((Command.overview window page).run w).1.Few) :
    ((Command.overview window page).run w).1 = ((Command.overview window page).run w').1 ∧
      InStep ((Command.overview window page).run w).2.store
        ((Command.overview window page).run w').2.store b := by
  simp only [Command.run, Report.overview.injEq] at hfew ⊢
  by_cases hvalid : Overview.Valid window page
  case neg =>
    obtain ⟨text, htext⟩ := Overview.program_of_not_valid hvalid
    rw [htext]
    exact ⟨rfl, h⟩
  rw [Overview.program_of_valid hvalid] at hfew ⊢
  obtain ⟨ps, hps, hpage⟩ := h.lists (.pickupPointPage ⟨page, window⟩)
  obtain ⟨hsame, hstep⟩ := h.list (c := .pickupPointPage ⟨page, window⟩) trivial
    ⟨hvalid.offset_lt, hwindow⟩
  generalize hpoints : (ps.drop (PointQuery.offset ⟨page, window⟩)).take
    (PointQuery.limit ⟨page, window⟩) = points at hpage
  rw [hpage] at hsame
  rw [run_call w hpage] at hfew ⊢
  rw [run_call w' hsame]
  cases points with
  | nil => exact ⟨rfl, hstep⟩
  | cons p more =>
    have hfits : ((p :: more).map PickupPoint.id).length ≤ Database.maxParameters :=
      hvalid.few (hpoints ▸ List.length_take_le ..)
    obtain ⟨receptions, hreceptions, hanswer⟩ :=
      hstep.lists (.receptionsAt ((p :: more).map PickupPoint.id))
    obtain ⟨hsame, hstep⟩ := hstep.list (c := .receptionsAt ((p :: more).map PickupPoint.id))
      trivial hfits
    rw [hanswer] at hsame
    simp only [List.isEmpty_cons, Bool.false_eq_true, if_false] at hfew ⊢
    rw [run_call ⟨_, w.counters⟩ hanswer] at hfew ⊢
    rw [run_call ⟨_, w'.counters⟩ hsame]
    have hsub : (p :: more).Sublist ps :=
      hpoints ▸ (List.take_sublist ..).trans (List.drop_sublist ..)
    have hall := Overview.length_le_assemble hps hsub hreceptions
    exact @overviewProducts_same _ ⟨_, w.counters⟩ ⟨_, w'.counters⟩ hstep _ _ hall hfew

end Commands

/-! ## All of them -/

/-- **One operation** comes out the same over stores in step and leaves them in step. -/
theorem Command.run_same {c : Command} {a : Account} {w : Program.World InMemory}
    {w' : Program.World Database} (h : InStep w.store w'.store a.books) (ha : a.Regular)
    (hfresh : ∀ id, c.fresh? = some id → id ∉ a.issued) (hyears : c.InYears)
    (hfew : (c.run w).1.Few) : (c.run w).1 = (c.run w').1 ∧ ∃ a' : Account, a'.Regular ∧
      InStep (c.run w).2.store (c.run w').2.store a'.books ∧
        ∀ id ∈ a'.issued, c.fresh? = some id ∨ id ∈ a.issued := by
  cases c with
  | request q =>
    obtain ⟨hsame, b', hdecides, hstep⟩ :=
      (q.portable hyears).run (q.follows a) ha hfresh h
    have hnext : a.Next ⟨⟨0, q, (q.program.run w).1⟩ :: a.decided, b'⟩ := .decide hdecides hfresh
    exact ⟨congrArg Report.verdict hsame, _, hnext.regular ha, hstep,
      fun id => Account.mem_issued_cons.mp⟩
  | listAll =>
    obtain ⟨hsame, hstep⟩ := listAll_same h
    exact ⟨hsame, a, ha, hstep, fun id => .inr⟩
  | overview window page =>
    obtain ⟨hsame, hstep⟩ := overview_same h hyears hfew
    exact ⟨hsame, a, ha, hstep, fun id => .inr⟩

theorem Command.runAll_same {commands : List Command} {a : Account} {w : Program.World InMemory}
    {w' : Program.World Database} (h : InStep w.store w'.store a.books) (ha : a.Regular)
    (hids : (commands.filterMap fresh?).Nodup)
    (hfresh : ∀ id ∈ commands.filterMap fresh?, id ∉ a.issued)
    (hyears : ∀ c ∈ commands, c.InYears) (hfew : ∀ report ∈ (runAll commands w).1, report.Few) :
    (runAll commands w).1 = (runAll commands w').1 ∧
      (runAll commands w).2.store.books = (runAll commands w').2.store.books := by
  -- The account grows with each decided request, and so does what it has issued.
  induction commands generalizing a w w' with
  | nil => exact ⟨rfl, h.memory_books.trans h.database_books.symm⟩
  | cons c cs ih =>
    have hown : ∀ id, c.fresh? = some id → id ∉ a.issued ∧ id ∉ cs.filterMap fresh? := by
      intro id hid
      rw [List.filterMap_cons_some hid] at hids hfresh
      exact ⟨hfresh id List.mem_cons_self, (List.nodup_cons.mp hids).1⟩
    have hsub := (List.sublist_cons_self c cs).filterMap fresh?
    obtain ⟨hsame, a', ha', hstep, hissued⟩ := run_same h ha (fun id hid => (hown id hid).1)
      (hyears c List.mem_cons_self) (hfew _ List.mem_cons_self)
    have hfresh' : ∀ id ∈ cs.filterMap fresh?, id ∉ a'.issued := by
      intro id hid hmem
      rcases hissued id hmem with heq | hold
      · exact (hown id heq).2 hid
      · exact hfresh id (hsub.subset hid) hold
    obtain ⟨hrest, hbooks⟩ := ih hstep ha' (hids.sublist hsub) hfresh'
      (fun c hc => hyears c (List.mem_cons_of_mem _ hc))
      (fun report hreport => hfew report (List.mem_cons_of_mem _ hreport))
    exact ⟨congrArg₂ List.cons hsame hrest, hbooks⟩

/-- **Stores are interchangeable.**  Over a new store in memory and a new database, operations
one after the other report the same, and leave the same records, as long as each is given
an identifier of its own, all times are in the years 0 to 9999 and no page of the overview
has more receptions than a statement has parameters. -/
theorem stores_are_interchangeable (counters : Counters) (commands : List Command)
    (hids : (commands.filterMap Command.fresh?).Nodup) (hyears : ∀ c ∈ commands, c.InYears)
    (hfew : ∀ report ∈ (Command.runAll commands ⟨InMemory.new, counters⟩).1, report.Few) :
    (Command.runAll commands ⟨InMemory.new, counters⟩).1 =
        (Command.runAll commands ⟨Database.seeded, counters⟩).1 ∧
      (Command.runAll commands ⟨InMemory.new, counters⟩).2.store.books =
        (Command.runAll commands ⟨Database.seeded, counters⟩).2.store.books :=
  Command.runAll_same (a := .start) inStep_new Account.start_regular hids
    (fun _ _ => List.not_mem_nil) hyears hfew

/-- Half a second after the epoch. -/
def halfSecond : Instant :=
  { Instant.epoch with nanos := 500000000, nanos_lt := by decide, leap := by decide }

/-- The middle of a leap second at the end of the first minute. -/
def leapSecond : Instant := ⟨59, 1500000000, by decide, by decide, by decide, by decide⟩

/-- A pickup point registered in a leap second, twice, and a reception with two products of one
second, of which one is taken back. -/
def acrossLeapSecond : List Command :=
  [.request (.create ⟨.epoch, .generated 0⟩ (.ofNat 1) "Москва" (some leapSecond)),
    .request (.create ⟨.epoch, .generated 0⟩ (.ofNat 1) "Казань" none),
    .request (.openAt ⟨halfSecond, .generated 1⟩ (.ofNat 1)),
    .request (.addTo ⟨halfSecond, .generated 2⟩ (.ofNat 1) "обувь"),
    .request (.addTo ⟨.epoch, .generated 3⟩ (.ofNat 1) "одежда"),
    .request (.removeFrom (.ofNat 1)), .request (.closeAt (.ofNat 1)), .listAll,
    .overview ⟨some .epoch, some leapSecond⟩ .first]

/-- **Both stores report the same of it**: the product of the later half of the second is the
last one, though it was added first. -/
theorem stores_agree_across_leap_second :
    let p := PickupPoint.inCity (.ofNat 1) leapSecond ⟨1, "Москва"⟩
    let r := Reception.begun (.generated 1) p.id halfSecond
    let x := Product.ofType (.generated 2) r.id halfSecond ⟨3, "обувь"⟩
    let y := Product.ofType (.generated 3) r.id .epoch ⟨2, "одежда"⟩
    let reports : List Report :=
      [.verdict (.ok (.point p)), .verdict (.error (.duplicatePickupPoint (.ofNat 1))),
        .verdict (.ok (.reception r)), .verdict (.ok (.product x)), .verdict (.ok (.product y)),
        .verdict (.ok (.product x)), .verdict (.ok (.reception r.ended)), .points (.ok [p]),
        .overview (.ok [⟨p, [⟨r.ended, [y]⟩]⟩])]
    (acrossLeapSecond.filterMap Command.fresh?).Nodup ∧ (∀ c ∈ acrossLeapSecond, c.InYears) ∧
      (∀ report ∈ reports, report.Few) ∧
      (Command.runAll acrossLeapSecond ⟨InMemory.new, .zero⟩).1 = reports ∧
      (Command.runAll acrossLeapSecond ⟨Database.seeded, .zero⟩).1 = reports := by
  intro p r x y reports
  have hids : (acrossLeapSecond.filterMap Command.fresh?).Nodup := by decide
  have hepoch : Instant.epoch.InYears := by decide
  have hhalf : halfSecond.InYears := by decide
  have hleap : leapSecond.InYears := by decide
  have hyears : ∀ c ∈ acrossLeapSecond, c.InYears := by
    simp [acrossLeapSecond, Command.InYears, Request.InYears, DateWindow.InYears, hepoch, hhalf,
      hleap]
  have hfew : ∀ report ∈ reports, report.Few := by
    simp [reports, Report.Few, Database.maxParameters]
  have hreports : (Command.runAll acrossLeapSecond ⟨InMemory.new, .zero⟩).1 = reports := by
    decide +kernel
  have hsame := (stores_are_interchangeable .zero acrossLeapSecond hids hyears
    (hreports ▸ hfew)).1
  exact ⟨hids, hyears, hfew, hreports, hsame.symm.trans hreports⟩

end PickupLedger
