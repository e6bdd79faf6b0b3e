import PickupLedger.Proofs.InMemoryLists
import PickupLedger.Proofs.Interleaving
import PickupLedger.Proofs.Nesting

/-!
# The overview as a nested view

An overview asks for three lists, and between two of its calls others may write.  Each list
is told by the books at its own moment (`Books.Lists`), and nesting puts every child under
its parent (`Overview.assemble_eq`).  So the overview shows the pickup points of the first
moment, under each of them all its receptions of the second, and under each of these all its
products of the third (`Overview.Shows`); where it can stop early, what it has not asked for
is empty.  What cannot be asked for is refused before any call.

The calls of others are arbitrary here (`Program.among`); those of operations under way are
some of them (`SideBySide.exists_calls`).
-/

namespace PickupLedger
open Operation Service

/-! ## Calls of others -/

/-- The store after others have made calls. -/
def InMemory.after (s : InMemory) (calls : List Call) : InMemory :=
  calls.foldl (fun s c => (answer c s).2) s

theorem InMemory.Filed.after {s : InMemory} (hs : s.Filed) (calls : List Call) :
    (s.after calls).Filed := by
  induction calls generalizing s with
  | nil => exact hs
  | cons c cs ih => exact ih (hs.answer c)

/-- **A program with others in between**, who make the calls `others n` before its call of
this number: its result, and the states of the store in which its calls are answered. -/
def Program.among {α : Type} (others : Nat → List Call) :
    Program α → Nat → InMemory → α × List InMemory
  | .done a, _, _ => (a, [])
  | .count _ next, n, s => next.among others n s
  | .ask c next, n, s =>
    let s := s.after (others n)
    let (a, states) := (next (InMemory.answer c s).1).among others (n + 1) (InMemory.answer c s).2
    (a, s :: states)

/-- A step of a program makes one call of the store, or none. -/
theorem Program.exists_calls_step {α : Type} (p : Program α) (w : World InMemory) :
    ∃ calls, (p.step w).2.store = w.store.after calls := by
  induction p generalizing w with
  | done a => exact ⟨[], rfl⟩
  | count counter next ih => exact ih _
  | ask c next ih => exact ⟨[c], rfl⟩

/-- **What operations that run side by side do to the store, calls do.** -/
theorem SideBySide.exists_calls (y : SideBySide InMemory) (schedule : List Nat) :
    ∃ calls, (y.run schedule).world.store = y.world.store.after calls := by
  induction schedule generalizing y with
  | nil => exact ⟨[], rfl⟩
  | cons i is ih =>
    obtain ⟨more, hmore⟩ := ih (y.tick i)
    rw [run, hmore]
    cases hi : y.tasks[i]? with
    | none => exact ⟨more, by rw [tick, hi]⟩
    | some t =>
      obtain ⟨calls, hcalls⟩ := t.program.exists_calls_step y.world
      refine ⟨calls ++ more, ?_⟩
      rw [tick_of_some hi, hcalls, InMemory.after, InMemory.after, InMemory.after,
        List.foldl_append]

/-- A call that is answered goes on with the reply. -/
theorem Operation.among_call {α : Type} {others : Nat → List Call} {step : String} {c : Call}
    {f : c.Reply → Operation α} {n : Nat} {s : InMemory} {reply : c.Reply} {a : Except Failure α}
    {states : List InMemory} (h : (InMemory.answer c (s.after (others n))).1 = .ok reply)
    (hnext : (f reply).program.among others (n + 1) (InMemory.answer c (s.after (others n))).2 =
      (a, states)) :
    (call step c >>= f).program.among others n s = (a, s.after (others n) :: states) := by
  rw [program_call_bind, Program.among, h]
  simp only [hnext]

/-! ## References -/

namespace InMemory

theorem get?_new_cities_eq (id : RefId) :
    new.cities.get? id = Seed.cities.find? fun city => city.id = id := by
  have hentries : new.cities.entries = Seed.cities.map fun city => (city.id, city) := rfl
  rw [Table.get?, hentries, List.find?_map, Option.map_map]
  exact Option.map_id_apply

theorem get?_new_productTypes_eq (id : RefId) :
    new.productTypes.get? id = Seed.productTypes.find? fun type => type.id = id := by
  have hentries : new.productTypes.entries =
      Seed.productTypes.map fun type => (type.id, type) := rfl
  rw [Table.get?, hentries, List.find?_map, Option.map_map]
  exact Option.map_id_apply

section Attached
variable {s : InMemory} (hs : s.Filed)
include hs

/-- A pickup point on the books has its city. -/
theorem Filed.city {p : PickupPoint} (h : s.books.HasPoint p) :
    p.city = Seed.cities.find? fun city => city.id = p.cityId := by
  obtain ⟨row, -, rfl⟩ := hs.hasPoint_iff.mp h
  rw [resolvePoint, hs.cities, get?_new_cities_eq]

/-- A reception on the books has its status. -/
theorem Filed.status {r : Reception} (h : s.books.HasReception r) :
    ∃ kind, r.status = some kind ∧ r.statusId = (Seed.status kind).id := by
  obtain ⟨row, hrow, rfl⟩ := hs.hasReception_iff.mp h
  obtain ⟨⟨id, row⟩, hmem, rfl⟩ := List.mem_map.mp hrow
  obtain ⟨kind, hid⟩ := hs.known (Table.get?_eq_some_iff.mpr hmem)
  refine ⟨kind, ?_, hid⟩
  rw [shown, hid, hs.kindOf]
  rfl

/-- A product on the books has the name of its type. -/
theorem Filed.typeName {x : Product} (h : s.books.Has x) : x.typeName =
    (Seed.productTypes.find? fun type => type.id = x.typeId).map ProductType.name := by
  obtain ⟨row, -, rfl⟩ := hs.hasProduct_iff.mp h
  rw [resolveProduct, hs.productTypes, get?_new_productTypes_eq]

end Attached
end InMemory

/-! ## What can be asked for -/

namespace Overview

/-- **A page and a window that can be asked for**: a page number from 1 on, 1 to 30 rows, and
no window that starts after its end. -/
def Valid (window : DateWindow) (page : Page) : Prop :=
  1 ≤ page.number.toNat ∧ (1 ≤ page.limit.toNat ∧ page.limit.toNat ≤ 30) ∧
    ∀ start stop, window.start = some start → window.stop = some stop → start.le stop = true

theorem page_check_eq_ok {page : Page} : page.check = .ok () ↔
    1 ≤ page.number.toNat ∧ 1 ≤ page.limit.toNat ∧ page.limit.toNat ≤ 30 := by
  have hone : (1 : UInt32).toNat = 1 := rfl
  have hmax : Page.maxLimit.toNat = 30 := rfl
  simp only [Page.check, UInt32.lt_iff_toNat_lt, hone, hmax]
  split
  · next h => exact iff_of_false nofun (by omega)
  · split
    · next h => exact iff_of_false nofun (by omega)
    · exact iff_of_true rfl (by omega)

theorem window_check_eq_ok {window : DateWindow} : window.check = .ok () ↔
    ∀ start stop, window.start = some start → window.stop = some stop → start.le stop = true := by
  cases hbounds : window.bounds? with
  | none =>
    rw [DateWindow.check, hbounds]
    refine iff_of_true rfl fun start stop hstart hstop => ?_
    cases hbounds.symm.trans (DateWindow.bounds?_of_some hstart hstop)
  | some bounds =>
    obtain ⟨start, stop⟩ := bounds
    obtain ⟨hstart, hstop⟩ := DateWindow.bounds?_eq_some_iff.mp hbounds
    simp only [DateWindow.check, hbounds, hstart, hstop, Option.some.injEq]
    split
    · next h => exact iff_of_true rfl (by rintro _ _ rfl rfl; exact h)
    · next h => exact iff_of_false nofun fun hle => h (hle start stop rfl rfl)

theorem accept_ok {check : Except ListFault Unit} (h : check = .ok ()) :
    accept check = (pure () : Operation Unit) := by rw [h]; rfl

theorem accept_error {check : Except ListFault Unit} (h : check ≠ .ok ()) :
    ∃ text, ∀ (α : Type) (f : Unit → Operation α),
      (accept check >>= f).program = .done (.error (.validation text)) := by
  match check, h with
  | .ok (), h => exact absurd rfl h
  | .error fault, _ => exact ⟨fault.message, fun _ _ => rfl⟩

/-- **What cannot be asked for is refused**, without a call. -/
theorem program_of_not_valid {window : DateWindow} {page : Page} (h : ¬ Valid window page) :
    ∃ text, (overview window page).program = .done (.error (.validation text)) := by
  rw [overview]
  by_cases hpage : page.check = .ok ()
  · have hwindow : window.check ≠ .ok () := fun hwindow => by
      obtain ⟨hnumber, hlimit⟩ := page_check_eq_ok.mp hpage
      exact h ⟨hnumber, hlimit, window_check_eq_ok.mp hwindow⟩
    obtain ⟨text, htext⟩ := accept_error hwindow
    exact ⟨text, by rw [accept_ok hpage, pure_bind, htext]⟩
  · obtain ⟨text, htext⟩ := accept_error hpage
    exact ⟨text, htext _ _⟩

/-- What can be asked for is asked for at once. -/
theorem program_of_valid {window : DateWindow} {page : Page} (h : Valid window page) :
    (overview window page).program =
      (call "list overview: pickup points" (.pickupPointPage ⟨page, window⟩) >>=
        fun points : List PickupPoint =>
          if points.isEmpty then pure []
          else call "list overview: receptions" (.receptionsAt (points.map PickupPoint.id)) >>=
            fun receptions : List Reception =>
              overviewProducts (receptions.map Reception.id) >>= fun products =>
                pure (assemble points receptions products)).program := by
  obtain ⟨hnumber, hlimit, hwindow⟩ := h
  simp only [overview, accept_ok (page_check_eq_ok.mpr ⟨hnumber, hlimit⟩),
    accept_ok (window_check_eq_ok.mpr hwindow), pure_bind]

/-! ## What is shown -/

/-- **A page of the overview shows the store** as it was at three moments. -/
structure Shows (s₁ s₂ s₃ : InMemory) (window : DateWindow) (page : Page)
    (os : List PickupPointOverview) : Prop where
  /-- The pickup points of the window, the newest first, from the page's place on. -/
  points : ∃ ps,
    NewestFirst PickupPoint.recency (fun p => s₁.books.HasPoint p ∧ s₁.books.InWindow window p) ps ∧
      os.map PickupPointOverview.point =
        (ps.drop ((page.number.toNat - 1) * page.limit.toNat)).take page.limit.toNat
  /-- All receptions of each, also those outside the window, the oldest first. -/
  receptions : ∀ o ∈ os,
    OldestFirst Reception.recency (fun r => s₂.books.HasReception r ∧ r.pickupPoint = o.point.id)
      (o.receptions.map ReceptionOverview.reception)
  /-- All products of each, the oldest first. -/
  products : ∀ o ∈ os, ∀ i ∈ o.receptions,
    OldestFirst Product.recency (fun x => s₃.books.Has x ∧ x.reception = i.reception.id) i.products
  city : ∀ o ∈ os, o.point.city = Seed.cities.find? fun city => city.id = o.point.cityId
  status : ∀ o ∈ os, ∀ i ∈ o.receptions,
    ∃ kind, i.reception.status = some kind ∧ i.reception.statusId = (Seed.status kind).id
  typeName : ∀ o ∈ os, ∀ i ∈ o.receptions, ∀ x ∈ i.products,
    x.typeName = (Seed.productTypes.find? fun type => type.id = x.typeId).map ProductType.name

/-- Records of a listing that are found by their identifiers have distinct ones. -/
theorem nodup_ids_of_listing {α : Type} {before : α → α → Prop} {P : α → Prop} {xs : List α}
    {id : α → Uuid} {get? : Uuid → Option α} (h : Listing before P xs)
    (hasymm : ∀ {a b}, before a b → ¬ before b a) (hget : ∀ x, P x → get? (id x) = some x) :
    (xs.map id).Nodup := by
  refine (h.nodup hasymm).map_on fun x hx y hy hid => ?_
  have hsame := hget x ((h.mem_iff x).mp hx)
  rw [hid, hget y ((h.mem_iff y).mp hy)] at hsame
  exact (Option.some.inj hsame).symm

/-- The children of one parent, out of a listing of those of several, are a listing of their
own. -/
theorem oldestFirst_children {α : Type} {key : α → Recency} {P : α → Prop} {parent : α → Uuid}
    {ids : List Uuid} {xs : List α} (h : OldestFirst key (fun x => P x ∧ parent x ∈ ids) xs)
    {id : Uuid} (hid : id ∈ ids) :
    OldestFirst key (fun x => P x ∧ parent x = id) (xs.filter fun x => parent x = id) := by
  refine (h.filter _).congr fun x => ?_
  rw [decide_eq_true_eq]
  constructor
  · rintro ⟨⟨hx, -⟩, heq⟩
    exact ⟨hx, heq⟩
  · rintro ⟨hx, heq⟩
    exact ⟨⟨hx, heq ▸ hid⟩, heq⟩

/-- **Pickup points with their children**: under each its receptions on some books, and under
each of these its products on others, the oldest first. -/
structure Nested (b b' : Books) (points : List PickupPoint) (os : List PickupPointOverview) :
    Prop where
  points : os.map PickupPointOverview.point = points
  receptions : ∀ o ∈ os,
    OldestFirst Reception.recency (fun r => b.HasReception r ∧ r.pickupPoint = o.point.id)
      (o.receptions.map ReceptionOverview.reception)
  products : ∀ o ∈ os, ∀ i ∈ o.receptions,
    OldestFirst Product.recency (fun x => b'.Has x ∧ x.reception = i.reception.id) i.products

/-- **The three lists nested**, each of them a listing of some books. -/
theorem nested_assemble {b₁ b₂ b₃ : Books} {window : DateWindow} {ps points : List PickupPoint}
    {receptions : List Reception} {products : List Product}
    (hps : NewestFirst PickupPoint.recency (fun p => b₁.HasPoint p ∧ b₁.InWindow window p) ps)
    (hsub : points.Sublist ps)
    (hreceptions : OldestFirst Reception.recency
      (fun r => b₂.HasReception r ∧ r.pickupPoint ∈ points.map PickupPoint.id) receptions)
    (hproducts : OldestFirst Product.recency
      (fun x => b₃.Has x ∧ x.reception ∈ receptions.map Reception.id) products) :
    Nested b₂ b₃ points (assemble points receptions products) := by
  have hpointIds : (points.map PickupPoint.id).Nodup :=
    (nodup_ids_of_listing hps Recency.Before.asymm fun p hp => hp.1).sublist (hsub.map _)
  have hreceptionIds : (receptions.map Reception.id).Nodup :=
    nodup_ids_of_listing hreceptions Recency.Before.asymm fun r hr => hr.1
  refine ⟨map_point_assemble points receptions products, ?_, ?_⟩
  all_goals
    rw [assemble_eq hpointIds hreceptionIds]
    simp only [List.mem_map]
  · rintro _ ⟨p, hp, rfl⟩
    rw [List.map_map]
    exact (List.map_id' (receptions.filter fun r => r.pickupPoint = p.id)).symm ▸
      oldestFirst_children hreceptions (List.mem_map_of_mem hp)
  · rintro _ ⟨p, hp, rfl⟩ _ hi
    obtain ⟨r, hr, rfl⟩ := List.mem_map.mp hi
    exact oldestFirst_children hproducts (List.mem_map_of_mem (List.mem_filter.mp hr).1)

/-- The three lists of three moments, nested, are what is shown. -/
theorem shows_assemble {s₁ s₂ s₃ : InMemory} (h₁ : s₁.Filed) (h₂ : s₂.Filed) (h₃ : s₃.Filed)
    {window : DateWindow} {page : Page} {ps points : List PickupPoint}
    {receptions : List Reception} {products : List Product}
    (hps : NewestFirst PickupPoint.recency
      (fun p => s₁.books.HasPoint p ∧ s₁.books.InWindow window p) ps)
    (hpoints : points = (ps.drop ((page.number.toNat - 1) * page.limit.toNat)).take
      page.limit.toNat)
    (hreceptions : OldestFirst Reception.recency
      (fun r => s₂.books.HasReception r ∧ r.pickupPoint ∈ points.map PickupPoint.id) receptions)
    (hproducts : OldestFirst Product.recency
      (fun x => s₃.books.Has x ∧ x.reception ∈ receptions.map Reception.id) products) :
    Shows s₁ s₂ s₃ window page (assemble points receptions products) := by
  have hsub : points.Sublist ps := by
    rw [hpoints]
    exact (List.take_sublist ..).trans (List.drop_sublist ..)
  have hnested := nested_assemble hps hsub hreceptions hproducts
  -- What is shown is on the books, and so its references are resolved.
  have hpoint : ∀ o ∈ assemble points receptions products, s₁.books.HasPoint o.point := by
    intro o ho
    have hmem : o.point ∈ points := hnested.points ▸ List.mem_map_of_mem ho
    exact ((hps.mem_iff _).mp (hsub.subset hmem)).1
  have hreception : ∀ o ∈ assemble points receptions products, ∀ i ∈ o.receptions,
      s₂.books.HasReception i.reception := fun o ho i hi =>
    (((hnested.receptions o ho).mem_iff _).mp (List.mem_map_of_mem hi)).1
  exact ⟨⟨ps, hps, hnested.points.trans hpoints⟩, hnested.receptions, hnested.products,
    fun o ho => h₁.city (hpoint o ho), fun o ho i hi => h₂.status (hreception o ho i hi),
    fun o ho i hi x hx => h₃.typeName (((hnested.products o ho i hi).mem_iff x).mp hx).1⟩

end Overview

/-- **The overview is a nested view.**  Whatever calls others make before and between its
own: what cannot be asked for is refused without a call, and anything else is answered in at
most three calls, with the pickup points that the store had at the first, their receptions
at the second and the products of these at the third. -/
theorem overview_is_nested_view (window : DateWindow) (page : Page) (others : Nat → List Call) :
    let op := (overview window page).program
    let s₁ := InMemory.new.after (others 0)
    let s₂ := s₁.countList.after (others 1)
    let s₃ := s₂.countList.after (others 2)
    (¬ Overview.Valid window page → ∃ text, op = .done (.error (.validation text))) ∧
      (Overview.Valid window page → ∃ os states, op.among others 0 .new = (.ok os, states) ∧
        states <+: [s₁, s₂, s₃] ∧ Overview.Shows s₁ s₂ s₃ window page os) := by
  intro op s₁ s₂ s₃
  refine ⟨Overview.program_of_not_valid, fun hvalid => ?_⟩
  have h₁ : s₁.Filed := InMemory.new_filed.after (others 0)
  have h₂ : s₂.Filed := (h₁.answer (.pickupPointPage ⟨page, window⟩)).after (others 1)
  have h₃ : s₃.Filed := (h₂.answer (.receptionsAt [])).after (others 2)
  obtain ⟨ps, hps, hpoints⟩ := h₁.lists (.pickupPointPage ⟨page, window⟩)
  generalize hpage : (ps.drop (PointQuery.offset ⟨page, window⟩)).take
    (PointQuery.limit ⟨page, window⟩) = points at hpoints
  have hshows := fun receptions products =>
    @Overview.shows_assemble s₁ s₂ s₃ h₁ h₂ h₃ window page ps points receptions products hps
      hpage.symm
  have hop : op = _ := Overview.program_of_valid hvalid
  rw [hop]
  cases points with
  | nil =>
    -- Without pickup points nothing more is asked.
    refine ⟨[], [s₁], among_call hpoints rfl, ⟨[s₂, s₃], rfl⟩, hshows [] [] ?_ ?_⟩
    · exact ⟨.nil, by simp⟩
    · exact ⟨.nil, by simp⟩
  | cons p rest =>
    obtain ⟨receptions, hreceptions, hanswer⟩ :=
      h₂.lists (.receptionsAt ((p :: rest).map PickupPoint.id))
    cases receptions with
    | nil =>
      refine ⟨_, [s₁, s₂], among_call hpoints (among_call hanswer rfl), ⟨[s₃], rfl⟩,
        hshows [] [] hreceptions ⟨.nil, by simp⟩⟩
    | cons r more =>
      obtain ⟨products, hproducts, hlast⟩ := h₃.lists (.productsOf ((r :: more).map Reception.id))
      exact ⟨_, [s₁, s₂, s₃],
        among_call hpoints (among_call hanswer (among_call hlast rfl)), List.prefix_rfl,
        hshows _ _ hreceptions hproducts⟩

/-- Before the overview a product goes into a reception; then the reception is closed, and at
last the product is deleted. -/
def writesInBetween : Nat → List Call
  | 0 => [.addPickupPoint (.inCity (.ofNat 1) .epoch ⟨1, "Москва"⟩),
      .addReception (.begun (.generated 1) (.ofNat 1) .epoch),
      .addProduct (.ofType (.generated 2) (.generated 1) .epoch ⟨3, "обувь"⟩)]
  | 1 => [.moveReception (.generated 1) Seed.inProgressId Seed.closedId]
  | 2 => [.deleteProduct (.generated 2)]
  | _ => []

/-- **An overview with writes in between**: the reception is shown closed, and without its
product. -/
theorem overview_shows_writes_in_between :
    let op := (overview .unbounded .first).program
    let s₁ := InMemory.new.after (writesInBetween 0)
    let s₂ := s₁.countList.after (writesInBetween 1)
    let s₃ := s₂.countList.after (writesInBetween 2)
    (op.among writesInBetween 0 .new).1 =
        .ok [⟨.inCity (.ofNat 1) .epoch ⟨1, "Москва"⟩,
          [⟨(Reception.begun (.generated 1) (.ofNat 1) .epoch).ended, []⟩]⟩] ∧
      Overview.Valid .unbounded .first ∧
      ∃ os states, op.among writesInBetween 0 .new = (.ok os, states) ∧
        states <+: [s₁, s₂, s₃] ∧ Overview.Shows s₁ s₂ s₃ .unbounded .first os := by
  have hvalid : Overview.Valid .unbounded .first := ⟨by decide, by decide, by rintro _ _ ⟨⟩⟩
  obtain ⟨-, hshows⟩ := overview_is_nested_view .unbounded .first writesInBetween
  exact ⟨by decide +kernel, hvalid, hshows hvalid⟩

end PickupLedger
