import PickupLedger.Proofs.Backends
import PickupLedger.Proofs.FailedOperations

/-!
# Pages of the overview

A page of the overview shows a slice of one list (`Page.slice`), the pickup points of the
window with the newest first, and slices of one length after the other are the list
(`Page.flatMap_slice`).  An overview only looks, so the next one finds the same records and
shows the next slice of the same list (`pages_partition_list`).

Over a database that takes two things more.  The list is in the order of times where the years
of the times are in line (`Books.InLine`), and a page is shown here on the condition that the
receptions of its points are not more than a statement has parameters (`Backend.Manages`).
-/

namespace PickupLedger
open Operation Service

/-! ## Slices -/

namespace Page
variable {α : Type}

/-- The rows of a list that the page shows. -/
def slice (page : Page) (xs : List α) : List α := (xs.drop page.offset).take page.limit.toNat

/-- **The first pages** of one length. -/
def firstPages (limit : UInt32) (n : Nat) : List Page :=
  (List.range n).map fun k => ⟨UInt32.ofNat (k + 1), limit⟩

theorem length_slice (page : Page) (xs : List α) :
    (page.slice xs).length = min page.limit.toNat (xs.length - page.offset) := by
  rw [slice, List.length_take, List.length_drop]

theorem length_slice_le (page : Page) (xs : List α) :
    (page.slice xs).length ≤ page.limit.toNat := List.length_take_le ..

theorem offset_firstPage {k : Nat} (hk : k + 1 < 2 ^ 32) (limit : UInt32) :
    (Page.mk (UInt32.ofNat (k + 1)) limit).offset = k * limit.toNat := by
  rw [offset, UInt32.toNat_ofNat', Nat.mod_eq_of_lt hk, Nat.add_sub_cancel]

theorem of_mem_firstPages {limit : UInt32} {n : Nat} (hn : n < 2 ^ 32) {page : Page}
    (h : page ∈ firstPages limit n) : page.limit = limit ∧ 1 ≤ page.number.toNat := by
  obtain ⟨k, hk, rfl⟩ := List.mem_map.mp h
  have hlt := List.mem_range.mp hk
  refine ⟨rfl, ?_⟩
  rw [UInt32.toNat_ofNat', Nat.mod_eq_of_lt (by omega)]
  exact Nat.le_add_left 1 k

/-- **Slices one after the other are the list**, as far as they go. -/
theorem flatMap_slice (limit : UInt32) {n : Nat} (hn : n < 2 ^ 32) (xs : List α) :
    (firstPages limit n).flatMap (fun page => page.slice xs) = xs.take (n * limit.toNat) := by
  induction n with
  | zero => simp [firstPages]
  | succ n ih =>
    have hslice : (Page.mk (UInt32.ofNat (n + 1)) limit).slice xs =
        (xs.drop (n * limit.toNat)).take limit.toNat := by
      rw [slice, offset_firstPage hn]
    have hfirst := ih (by omega)
    rw [firstPages, List.range_succ, List.map_append, List.flatMap_append, ← firstPages, hfirst,
      List.map_singleton, List.flatMap_singleton, hslice, Nat.succ_mul, List.take_add]

/-- A page that shows anything comes after full ones. -/
theorem length_slice_of_later {page page' : Page} (hlimit : page'.limit = page.limit)
    (hfirst : 1 ≤ page.number.toNat) (hlater : page.number.toNat < page'.number.toNat)
    {xs : List α} (hsome : page'.slice xs ≠ []) : (page.slice xs).length = page.limit.toNat := by
  have hpos := List.length_pos_iff.mpr hsome
  have hmul : (page.number.toNat - 1 + 1) * page.limit.toNat ≤
      (page'.number.toNat - 1) * page.limit.toNat := Nat.mul_le_mul_right _ (by omega)
  have hstep : page.offset + page.limit.toNat ≤ page'.offset := by
    rw [offset, offset, hlimit]
    rwa [Nat.succ_mul] at hmul
  rw [length_slice, hlimit] at hpos
  rw [length_slice]
  omega

/-- **The offset in words of 64 bits** is exact, whatever the page. -/
theorem offset_exact (page : Page) (hfirst : 1 ≤ page.number.toNat) :
    ((page.number - 1).toUInt64 * page.limit.toUInt64).toNat = page.offset := by
  have hnumber : (page.number - 1).toNat = page.number.toNat - 1 :=
    UInt32.toNat_sub_of_le _ _ (UInt32.le_iff_toNat_le.mpr hfirst)
  have hmul : (page.number.toNat - 1) * page.limit.toNat ≤ 2 ^ 32 * (2 ^ 32 - 1) :=
    Nat.mul_le_mul (by have := page.number.toNat_lt; omega) (by have := page.limit.toNat_lt; omega)
  rw [UInt64.toNat_mul, UInt32.toNat_toUInt64, UInt32.toNat_toUInt64, hnumber, offset]
  exact Nat.mod_eq_of_lt (by omega)

/-- The next page is a limit further. -/
theorem offset_next {page page' : Page} (hfirst : 1 ≤ page.number.toNat)
    (hlimit : page'.limit = page.limit) (hnext : page'.number.toNat = page.number.toNat + 1) :
    page'.offset = page.offset + page.limit.toNat := by
  have hnumber : page.number.toNat = page.number.toNat - 1 + 1 := by omega
  rw [offset, offset, hlimit, hnext, Nat.add_sub_cancel]
  conv_lhs => rw [hnumber]
  rw [Nat.succ_mul]

end Page

/-! ## One overview -/

namespace Overview

variable {window : DateWindow} {page : Page} (hvalid : Valid window page)
  {w : Program.World Backend} {s : Backend} (hsame : w.store.records = s.records)
  {points : List PickupPoint} {receptions : List Reception}
  (hpoints : (Storage.answer (.pickupPointPage ⟨page, window⟩) s).1 = .ok points)
  (hreceptions : (Storage.answer (.receptionsAt (points.map PickupPoint.id)) s).1 = .ok receptions)
include hvalid hsame hpoints hreceptions

/-- **The calls of an overview are answered by the records** that it starts on; where there is
nothing to ask for, nothing is asked. -/
theorem run_eq : ((Service.overview window page).program.run w).1 =
    if points = [] ∨ receptions = [] then .ok (assemble points receptions [])
    else (reading (.internal "list overview: products")
      (Storage.answer (.productsOf (receptions.map Reception.id)) s).1).map
        (assemble points receptions) := by
  rw [program_of_valid hvalid, run_call w ((Backend.check_congr rfl hsame).trans hpoints)]
  cases points with
  | nil => rfl
  | cons p ps =>
    have hsecond :
        (Storage.answer (.pickupPointPage ⟨page, window⟩) w.store).2.records = s.records :=
      (Backend.records_check rfl w.store).trans hsame
    simp only [List.isEmpty_cons, Bool.false_eq_true, if_false]
    rw [run_call _ ((Backend.check_congr rfl hsecond).trans hreceptions)]
    cases receptions with
    | nil => rfl
    | cons r rs =>
      have hthird := (Backend.records_check (c := .receptionsAt ((p :: ps).map PickupPoint.id)) rfl
        (Storage.answer (.pickupPointPage ⟨page, window⟩) w.store).2).trans hsecond
      generalize (Storage.answer (.receptionsAt ((p :: ps).map PickupPoint.id))
        (Storage.answer (.pickupPointPage ⟨page, window⟩) w.store).2).2 = third at hthird
      rw [if_neg (by simp), ← Backend.check_congr (c := .productsOf ((r :: rs).map Reception.id))
        rfl hthird, overviewProducts, List.map_cons, List.isEmpty_cons, if_neg Bool.false_ne_true,
        program_call_bind]
      simp only [Program.run]
      cases (Storage.answer (.productsOf (r.id :: rs.map Reception.id)) third).1 with
      | ok products => rfl
      | error e => rfl

/-- An overview whose products are answered shows the three lists nested. -/
theorem run_ok {products : List Product}
    (hproducts : (Storage.answer (.productsOf (receptions.map Reception.id)) s).1 = .ok products)
    (hnone : receptions = [] → products = []) :
    ((Service.overview window page).program.run w).1 =
      .ok (assemble points receptions products) := by
  rw [run_eq hvalid hsame hpoints hreceptions]
  split
  case isTrue h =>
    rcases h with rfl | rfl
    · rfl
    · rw [hnone rfl]
  case isFalse h =>
    rw [hproducts]
    rfl

omit hpoints hreceptions in
/-- An overview whose three lists are those of some books shows them nested. -/
theorem run_nested {b : Books} {ps : List PickupPoint} {products : List Product}
    (hps : NewestFirst PickupPoint.recency (fun p => b.HasPoint p ∧ b.InWindow window p) ps)
    (hpage : (Storage.answer (.pickupPointPage ⟨page, window⟩) s).1 = .ok (page.slice ps))
    (hlisted : OldestFirst Reception.recency
      (fun r => b.HasReception r ∧ r.pickupPoint ∈ (page.slice ps).map PickupPoint.id) receptions)
    (hreceptions : (Storage.answer (.receptionsAt ((page.slice ps).map PickupPoint.id)) s).1 =
      .ok receptions)
    (hadded : OldestFirst Product.recency
      (fun x => b.Has x ∧ x.reception ∈ receptions.map Reception.id) products)
    (hproducts : (Storage.answer (.productsOf (receptions.map Reception.id)) s).1 = .ok products) :
    ∃ os, ((Service.overview window page).program.run w).1 = .ok os ∧
      Nested b b (page.slice ps) os := by
  refine ⟨_, run_ok hvalid hsame hpage hreceptions hproducts ?_,
    nested_assemble hps ((List.take_sublist ..).trans (List.drop_sublist ..)) hlisted hadded⟩
  rintro rfl
  rw [List.eq_nil_iff_forall_not_mem]
  exact fun x hx => List.not_mem_nil ((hadded.mem_iff x).mp hx).2

end Overview

/-! ## Both stores -/

namespace Backend

/-- The store is a database. -/
def isDatabase : Backend → Bool
  | .memory _ => false
  | .database _ => true

/-- **The products of some pickup points can be asked for at once**: a database has only so many
parameters for their receptions. -/
def Manages (s : Backend) (points : List PickupPoint) : Prop :=
  s.isDatabase = true → ∀ rs : List Reception, rs.Nodup →
    (∀ r ∈ rs, s.books.HasReception r ∧ r.pickupPoint ∈ points.map PickupPoint.id) →
      rs.length ≤ Database.maxParameters

/-- **A store that the service gets into**, with any operations side by side. -/
def Reached (s : Backend) : Prop :=
  ∃ (new : Backend) (requests : List Request) (schedule : List Nat), new.IsNew ∧
    (requests.filterMap Request.fresh?).Nodup ∧
    s = ((SideBySide.start new requests).run schedule).world.store

theorem Reached.sound {s : Backend} (h : s.Reached) : s.Sound := by
  obtain ⟨new, requests, schedule, hnew, hids, rfl⟩ := h
  exact (hnew.regular hids schedule).sound

end Backend

namespace Database
variable {db : Database} (hs : db.Sound)
include hs

theorem Sound.receptionsAt_ok {ids : List Uuid} (hids : ids.length ≤ maxParameters) :
    ∃ rs : List Reception, db.receptionsAt ids = .ok rs ∧ rs.Nodup ∧
      ∀ r, r ∈ rs ↔ db.books.HasReception r ∧ r.pickupPoint ∈ ids := by
  refine ⟨_, hs.receptionsAt_eq hids, List.Nodup.of_map Reception.id ?_, fun r => ?_⟩
  · -- Each row is under a key of its own, and shown under that.
    rw [List.map_map]
    refine ((List.mergeSort_perm _ _).map Prod.fst).nodup_iff.mpr ?_
    exact db.records.receptions.nodup.sublist (List.filter_sublist.map _)
  · rw [List.mem_map, hs.hasReception_iff]
    simp only [receptionsWhere, List.mem_mergeSort, List.mem_filter, List.contains_iff_mem]
    exact exists_shown_iff (fun e : Uuid × ReceptionRow => shown db.records e.1 e.2)
      (R := fun r => r.pickupPoint ∈ ids) fun _ => Iff.rfl

end Database

namespace Backend
variable {s : Backend} (hs : s.Sound)
include hs

/-- **The lists of a store are those of its books**, over a database where the years are in line. -/
theorem Sound.lists {c : Call} (hc : c.Small) (hline : s.isDatabase = true → s.books.InLine c) :
    s.books.Lists c (Storage.answer c s).1 := by
  cases s with
  | memory store => exact InMemory.Sound.filed hs |>.lists c
  | database db => exact Database.Sound.lists hs hc (hline rfl)

/-- The receptions of not too many pickup points are answered. -/
theorem Sound.receptions {ids : List Uuid} (hids : ids.length ≤ Database.maxParameters) :
    ∃ rs, (Storage.answer (.receptionsAt ids) s).1 = .ok rs ∧ rs.Nodup ∧
      ∀ r, r ∈ rs ↔ s.books.HasReception r ∧ r.pickupPoint ∈ ids := by
  cases s with
  | memory store =>
    obtain ⟨rs, hrs, hanswer⟩ := (InMemory.Sound.filed hs).lists (.receptionsAt ids)
    exact ⟨rs, hanswer, hrs.nodup Recency.Before.asymm, hrs.mem_iff⟩
  | database db => exact Database.Sound.receptionsAt_ok hs hids

/-- The products of receptions are answered, over a database if these are not too many. -/
theorem Sound.products {ids : List Uuid}
    (hids : s.isDatabase = true → ids.length ≤ Database.maxParameters) :
    ∃ xs, (Storage.answer (.productsOf ids) s).1 = .ok xs ∧ (ids = [] → xs = []) := by
  cases s with
  | memory store =>
    obtain ⟨xs, hxs, hanswer⟩ := (InMemory.Sound.filed hs).lists (.productsOf ids)
    refine ⟨xs, hanswer, ?_⟩
    rintro rfl
    rw [List.eq_nil_iff_forall_not_mem]
    exact fun x hx => List.not_mem_nil ((hxs.mem_iff x).mp hx).2
  | database db =>
    refine ⟨_, Database.Sound.productsOf_eq hs (hids rfl), ?_⟩
    rintro rfl
    simp [Database.productsWhere]

end Backend

/-! ## Page after page -/

namespace Overview

/-- The pickup points that an overview shows. -/
def shown (w : Program.World Backend) (window : DateWindow) (page : Page) :
    Except Failure (List PickupPoint) :=
  ((Service.overview window page).program.run w).1.map (List.map PickupPointOverview.point)

variable {s : Backend} (hs : s.Sound) {window : DateWindow}
include hs

/-- **An overview shows its slice** of the list, where the products of it can be asked for. -/
theorem shown_eq {page : Page} (hvalid : Valid window page)
    (hline : s.isDatabase = true → s.books.InLine (.pickupPointPage ⟨page, window⟩))
    {ps : List PickupPoint} (hps : NewestFirst PickupPoint.recency
      (fun p => s.books.HasPoint p ∧ s.books.InWindow window p) ps)
    {w : Program.World Backend} (hsame : w.store.records = s.records)
    (hmanages : s.Manages (page.slice ps)) : shown w window page = .ok (page.slice ps) := by
  obtain ⟨ps', hps', hpoints⟩ :=
    hs.lists (c := .pickupPointPage ⟨page, window⟩) hvalid.offset_lt hline
  obtain rfl := hps.unique hps'
  have hpoints : (Storage.answer (.pickupPointPage ⟨page, window⟩) s).1 = .ok (page.slice ps) :=
    hpoints
  obtain ⟨rs, hreceptions, hnodup, hmem⟩ := hs.receptions (hvalid.few (page.length_slice_le ps))
  have hcount : s.isDatabase = true → (rs.map Reception.id).length ≤ Database.maxParameters := by
    intro hdb
    rw [List.length_map]
    exact hmanages hdb rs hnodup fun r hr => (hmem r).mp hr
  obtain ⟨xs, hproducts, hnone⟩ := hs.products hcount
  rw [shown, run_ok hvalid hsame hpoints hreceptions hproducts fun h => hnone (by rw [h]; rfl)]
  exact congrArg Except.ok (map_point_assemble _ _ _)

omit hs in
/-- **Overviews one after the other** find the same records, so each shows what it would have
shown at first. -/
theorem runAll_shown {f : Page → List PickupPoint} {pages : List Page} {w : Program.World Backend}
    (hsame : w.store.records = s.records)
    (h : ∀ page ∈ pages, ∀ w : Program.World Backend, w.store.records = s.records →
      shown w window page = .ok (f page)) :
    ∃ oss : List (List PickupPointOverview),
      (Command.runAll (pages.map (.overview window)) w).1 =
          oss.map (fun os => .overview (.ok os)) ∧
        oss.map (List.map PickupPointOverview.point) = pages.map f := by
  induction pages generalizing w with
  | nil => exact ⟨[], rfl, rfl⟩
  | cons page pages ih =>
    have hshown := h page List.mem_cons_self w hsame
    obtain ⟨os, hrun⟩ : ∃ os, ((Service.overview window page).program.run w).1 = .ok os := by
      cases hrun : ((Service.overview window page).program.run w).1 with
      | ok os => exact ⟨os, rfl⟩
      | error e =>
        rw [shown, hrun] at hshown
        cases hshown
    have hafter : ((Command.overview window page).run w).2.store.records = s.records :=
      (Command.Reads.records (c := .overview window page) trivial w).trans hsame
    obtain ⟨oss, hreports, hpoints⟩ :=
      ih hafter fun page hpage => h page (List.mem_cons_of_mem _ hpage)
    refine ⟨os :: oss, ?_, ?_⟩
    · rw [List.map_cons, Command.runAll, List.map_cons, ← hreports, ← hrun]
      rfl
    · rw [shown, hrun] at hshown
      rw [List.map_cons, List.map_cons, hpoints, ← Except.ok.inj hshown]

end Overview

/-- **Pages partition the list.**  In any state that the service gets into, and for any window and
limit that can be asked for, there is one list of the pickup points of the window with the newest
first, and a page shows its slice if the receptions there can be asked for at once: pages one after
the other show each pickup point of the list once, in its order, and a page that shows any comes
after full ones.  Without two ends of the window it is the list of all pickup points.  Offsets are
exact in 64 bits for every number and every limit, and for limits that can be asked for in the
signed numbers of a database. -/
theorem pages_partition_list {w : Program.World Backend} (hreached : w.store.Reached)
    {window : DateWindow} (hwindow : window.check = .ok ()) {limit : UInt32}
    (hlimit : 1 ≤ limit.toNat ∧ limit.toNat ≤ 30)
    (hline : w.store.isDatabase = true →
      w.store.books.InLine (.pickupPointPage ⟨⟨1, limit⟩, window⟩)) :
    (∃ ps, NewestFirst PickupPoint.recency
        (fun p => w.store.books.HasPoint p ∧ w.store.books.InWindow window p) ps ∧
      (window.bounds? = none → (listPickupPoints.program.run w).1 = .ok ps) ∧
      (∀ page : Page, page.limit = limit → 1 ≤ page.number.toNat →
        w.store.Manages (page.slice ps) → Overview.shown w window page = .ok (page.slice ps)) ∧
      (∀ n < 2 ^ 32, (∀ page ∈ Page.firstPages limit n, w.store.Manages (page.slice ps)) →
        ∃ oss : List (List PickupPointOverview),
          (Command.runAll ((Page.firstPages limit n).map (.overview window)) w).1 =
              oss.map (fun os => .overview (.ok os)) ∧
            oss.flatten.map PickupPointOverview.point = ps.take (n * limit.toNat)) ∧
      ∀ page page' : Page, page.limit = limit → page'.limit = limit → 1 ≤ page.number.toNat →
        page.number.toNat < page'.number.toNat → page'.slice ps ≠ [] →
          (page.slice ps).length = limit.toNat) ∧
    ∀ page page' : Page, 1 ≤ page.number.toNat →
      ((page.number - 1).toUInt64 * page.limit.toUInt64).toNat = page.offset ∧
        (page.limit.toNat ≤ 30 → page.offset < 2 ^ 63) ∧
        (page'.limit = page.limit → page'.number.toNat = page.number.toNat + 1 →
          page'.offset = page.offset + page.limit.toNat) := by
  have hs := hreached.sound
  have hvalid {page : Page} (hpage : page.limit = limit) (hfirst : 1 ≤ page.number.toNat) :
      Overview.Valid window page :=
    ⟨hfirst, hpage ▸ hlimit, Overview.window_check_eq_ok.mp hwindow⟩
  have hsmall : (Call.pickupPointPage ⟨⟨1, limit⟩, window⟩).Small := Page.offset_lt hlimit.2
  obtain ⟨ps, hps, -⟩ := hs.lists hsmall hline
  have hshown {page : Page} (hpage : page.limit = limit) (hfirst : 1 ≤ page.number.toNat)
      {w' : Program.World Backend} (hsame : w'.store.records = w.store.records) :
      w.store.Manages (page.slice ps) → Overview.shown w' window page = .ok (page.slice ps) :=
    Overview.shown_eq hs (hvalid hpage hfirst) hline hps hsame
  refine ⟨⟨ps, hps, fun hnone => ?_, fun page hpage hfirst => hshown hpage hfirst rfl,
    fun n hn hmanages => ?_, ?_⟩, fun page page' hfirst => ?_⟩
  · obtain ⟨all, hall, hanswer⟩ := hs.lists (c := .allPickupPoints) trivial fun hdb => (hline hdb).1
    have hunbounded := hall.congr fun p =>
      (and_iff_left (w.store.books.inWindow_of_none hnone p)).symm
    rw [hps.unique hunbounded]
    exact congrArg (reading (.internal "list pickup points")) hanswer
  · obtain ⟨oss, hreports, hpoints⟩ := Overview.runAll_shown (w := w) rfl
      fun page hmem w' hsame =>
        hshown (Page.of_mem_firstPages hn hmem).1 (Page.of_mem_firstPages hn hmem).2 hsame
          (hmanages page hmem)
    refine ⟨oss, hreports, ?_⟩
    rw [List.map_flatten, hpoints, ← List.flatMap_def, Page.flatMap_slice limit hn]
  · intro page page' hpage hpage' hfirst hlater hsome
    rw [Page.length_slice_of_later (hpage'.trans hpage.symm) hfirst hlater hsome, hpage]
  · exact ⟨page.offset_exact hfirst, Page.offset_lt, Page.offset_next hfirst⟩

/-- Three pickup points of one moment. -/
def threeAtOnce : List Request :=
  [.create ⟨.epoch, .ofNat 0⟩ (.ofNat 1) "Москва" none,
    .create ⟨.epoch, .ofNat 0⟩ (.ofNat 2) "Москва" none,
    .create ⟨.epoch, .ofNat 0⟩ (.ofNat 3) "Казань" none]

/-- The three as rows. -/
def threeRows : Table Uuid Database.PointRow :=
  ((Table.empty.put (.ofNat 1) ⟨.epoch, 1⟩).put (.ofNat 2) ⟨.epoch, 1⟩).put (.ofNat 3) ⟨.epoch, 3⟩

/-- A database with the three. -/
def withThree : Database :=
  { Database.seeded with records := { Database.seeded.records with pickupPoints := threeRows } }

/-- **Three pickup points on pages of two**: of one moment the greatest identifier comes first. -/
theorem three_points_on_two_pages :
    let w : Program.World Backend := ⟨.database withThree, .zero⟩
    let p (n : Nat) : PickupPoint := .inCity (.ofNat n) .epoch ⟨1, "Москва"⟩
    let q : PickupPoint := .inCity (.ofNat 3) .epoch ⟨3, "Казань"⟩
    w.store.Reached ∧
      (w.store.isDatabase = true →
        w.store.books.InLine (.pickupPointPage ⟨⟨1, 2⟩, .unbounded⟩)) ∧
      (listPickupPoints.program.run w).1 = .ok [q, p 2, p 1] ∧
      Overview.shown w .unbounded ⟨1, 2⟩ = .ok [q, p 2] ∧
      Overview.shown w .unbounded ⟨2, 2⟩ = .ok [p 1] ∧
      Overview.shown w .unbounded ⟨3, 2⟩ = .ok [] := by
  intro w p q
  have hreached : w.store.Reached :=
    ⟨.database .seeded, threeAtOnce, [0, 0, 0, 1, 1, 1, 2, 2, 2], .database, by decide, rfl⟩
  have hpoint (found : PickupPoint) : withThree.books.HasPoint found ↔ found ∈ [q, p 2, p 1] := by
    have hentries : withThree.records.pickupPoints.entries.map
        (fun e => Database.pointOf withThree.records e.1 e.2) = [p 1, p 2, q] := rfl
    rw [Database.hasPoint_iff, ← List.mem_map, hentries]
    simp only [List.mem_cons, List.not_mem_nil, or_false]
    tauto
  have hline : withThree.books.InLine (.pickupPointPage ⟨⟨1, 2⟩, .unbounded⟩) := by
    refine ⟨fun {found found'} hfound hfound' => ?_, nofun⟩
    have hyears : ∀ found ∈ [q, p 2, p 1], found.registered.InYears := by decide
    exact (hyears _ ((hpoint _).mp hfound)).inLine (hyears _ ((hpoint _).mp hfound'))
  have hmanages (points : List PickupPoint) : w.store.Manages points := by
    intro _ rs _ hrs
    cases rs with
    | nil => exact Nat.zero_le _
    | cons r rs => exact nomatch (hrs r List.mem_cons_self).1
  obtain ⟨⟨ps, hps, hall, hshown, -⟩, -⟩ := pages_partition_list (w := w) hreached
    (show DateWindow.unbounded.check = .ok () from rfl)
    (show 1 ≤ (2 : UInt32).toNat ∧ (2 : UInt32).toNat ≤ 30 by decide) fun _ => hline
  -- There is one list of the three in this order.
  have hlist : ps = [q, p 2, p 1] := by
    refine hps.unique ⟨by decide, fun found => ?_⟩
    exact (hpoint found).symm.trans
      (and_iff_left (withThree.books.inWindow_of_none rfl found)).symm
  rw [hlist] at hall hshown
  exact ⟨hreached, fun _ => hline, hall rfl, hshown ⟨1, 2⟩ rfl (by decide) (hmanages _),
    hshown ⟨2, 2⟩ rfl (by decide) (hmanages _), hshown ⟨3, 2⟩ rfl (by decide) (hmanages _)⟩

/-- 2025-01-01T00:00:00Z. -/
def newYear2025 : Instant :=
  { Instant.epoch with
    seconds := 1735689600, first_le := by decide, le_last := by decide, leap := by decide }

/-- +10000-01-01T00:00:00Z. -/
def newYear10000 : Instant :=
  { Instant.epoch with
    seconds := 253402300800, first_le := by decide, le_last := by decide, leap := by decide }

/-- **Where the years are not in line** a page may miss a pickup point of its window: the end of the
window has a sign, and its text comes before those of all receptions.  And where the limit is one
that cannot be asked for, an offset need not be a signed number. -/
theorem window_to_year_10000_misses_point :
    let p : PickupPoint := .inCity (.ofNat 1) newYear2025 ⟨1, "Москва"⟩
    let w := ((SideBySide.start (.database .seeded)
      [.create ⟨newYear2025, .ofNat 0⟩ (.ofNat 1) "Москва" none,
        .openAt ⟨newYear2025, .generated 1⟩ (.ofNat 1)]).run [0, 0, 0, 1, 1, 1, 1, 1]).world
    let window : DateWindow := ⟨some newYear2025, some newYear10000⟩
    w.store.Reached ∧ window.check = .ok () ∧ p.registered.InYears ∧
      w.store.books.HasPoint p ∧ w.store.books.InWindow window p ∧
      Overview.shown w window .first = .ok [] ∧
      ¬ (Page.mk 4294967295 4294967295).offset < 2 ^ 63 := by
  intro p w window
  have hpoint : w.store.books.point? p.id = some p := by decide +kernel
  have hreception : w.store.books.reception? (.generated 1) =
      some (.begun (.generated 1) p.id newYear2025) := by decide +kernel
  refine ⟨⟨_, _, _, .database, by decide, rfl⟩, rfl, by decide, hpoint, ?_, by decide +kernel,
    by decide⟩
  rintro start stop ⟨⟩ ⟨⟩
  exact ⟨.begun (.generated 1) p.id newYear2025, hreception, rfl, by decide, by decide⟩

end PickupLedger
