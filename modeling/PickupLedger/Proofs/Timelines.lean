import PickupLedger.Proofs.LastInFirstOut

/-!
# Timelines

A list of receptions is in the order of their times, and of their identifiers where times tie.
That is the order in which they were opened as long as the clock never goes back and identifiers
grow; and since a reception is only opened where none is in progress, what comes before another
on the list is closed, with all its products added by then (`timelines_are_ordered`).

The ledger has the receptions of a pickup point in the order in which they were opened
(`Ledger.timeline`), so that is where the invariant is kept (`Ledger.Timely`): what comes before
the last reception is never touched again (`Intake.Precedes`), and a request changes the last one
or puts another behind it (`Timely.step`).
-/

namespace PickupLedger

/-! ## What was opened -/

/-- The reception that was opened at a pickup point. -/
def Deed.opened? (pickupPoint : Uuid) : Deed → Option Reception
  | (.request (.openAt _ p), .verdict (.ok (.reception r))) =>
    if p = pickupPoint then some r else none
  | _ => none

/-- **The receptions that were opened at a pickup point**, in their order. -/
def Past.opened (pickupPoint : Uuid) (past : List Deed) : List Reception :=
  past.filterMap (Deed.opened? pickupPoint)

theorem Past.opened_snoc (p : Uuid) (past : List Deed) (d : Deed) :
    opened p (past ++ [d]) = opened p past ++ (d.opened? p).toList := by
  rw [opened, List.filterMap_append]
  cases h : d.opened? p <;> simp [opened, h]

theorem Command.runAll_snoc {σ : Type} [Storage σ] (cs : List Command) (c : Command)
    (w : Program.World σ) : runAll (cs ++ [c]) w =
      ((runAll cs w).1 ++ [(c.run (runAll cs w).2).1], (c.run (runAll cs w).2).2) := by
  induction cs generalizing w with
  | nil => rfl
  | cons c' cs ih =>
    exact congrArg (fun r : List Report × Program.World σ => ((c'.run w).1 :: r.1, r.2))
      (ih (c'.run w).2)

/-- **A timeline**: the receptions of a pickup point in the order in which they were opened.  Only
the last can be in progress, and the products of each were added between its own opening and those
of the receptions after it. -/
structure Books.Timeline (b : Books) (p : Uuid) (past : List Deed) (rs : List Reception) : Prop where
  mem_iff : ∀ r, r ∈ rs ↔ b.HasReception r ∧ r.pickupPoint = p
  order : rs.map Reception.recency = (Past.opened p past).map Reception.recency
  closed : rs.Pairwise fun r _ => b.Closed r
  after : ∀ r ∈ rs, ∀ x, b.Has x → x.reception = r.id → r.opened.le x.added = true
  before : rs.Pairwise fun r r' => ∀ x, b.Has x → x.reception = r.id → x.added.le r'.opened = true

/-! ## Timelines of a ledger -/

/-- What comes before nothing is last. -/
theorem exists_eq_append_singleton {α : Type} {before : α → α → Prop} {xs : List α}
    (h : xs.Pairwise before) {x : α} (hx : x ∈ xs) (hlast : ∀ y, ¬ before x y) :
    ∃ ys, xs = ys ++ [x] := by
  obtain ⟨ys, zs, rfl⟩ := List.append_of_mem hx
  have hrest := (List.pairwise_cons.mp (List.pairwise_append.mp h).2.1).1
  cases zs with
  | nil => exact ⟨ys, rfl⟩
  | cons z zs => exact absurd (hrest z List.mem_cons_self) (hlast z)

/-- **A reception comes before another**: it was opened no later, under a smaller identifier, and
is closed with all its products added by the time of the other. -/
structure Intake.Precedes (e e' : Uuid × Intake) : Prop where
  id : e.1.value < e'.1.value
  opened : e.2.opened.le e'.2.opened = true
  closed : e.2.status = .closed
  items : ∀ item ∈ e.2.items.entries, item.2.added.le e'.2.opened = true

namespace Ledger

/-- **The receptions of a pickup point**, the one opened last at the end. -/
def timeline (l : Ledger) (p : Uuid) : List (Uuid × Intake) :=
  ((l.get? p).map fun site => site.intakes.entries).getD []

theorem timeline_of_some {l : Ledger} {p : Uuid} {site : Site} (h : l.get? p = some site) :
    l.timeline p = site.intakes.entries := by
  rw [timeline, h]
  rfl

theorem mem_timeline {l : Ledger} {p : Uuid} {e : Uuid × Intake} :
    e ∈ l.timeline p ↔ l.intake? p e.1 = some e.2 := by
  rw [timeline, intake?]
  cases l.get? p with
  | none => exact iff_of_false List.not_mem_nil fun h => by cases h
  | some site => exact Table.get?_eq_some_iff.symm

theorem mem_timeline_of_intake? {l : Ledger} {p id : Uuid} {i : Intake}
    (hi : l.intake? p id = some i) : (id, i) ∈ l.timeline p := mem_timeline.mpr hi

/-- A new pickup point has no receptions. -/
theorem timeline_put_new {l : Ledger} {id : Uuid} {site : Site} (hnone : l.get? id = none)
    (hempty : site.intakes = .empty) (p : Uuid) : timeline (l.put id site) p = l.timeline p := by
  rw [timeline, Table.get?_put]
  split
  case isTrue h =>
    rw [timeline, h, hnone, Option.map_some, hempty]
    rfl
  case isFalse => rfl

theorem timeline_putIntake {l : Ledger} {p id : Uuid} {site : Site} {i : Intake} (p' : Uuid) :
    (l.putIntake p site id i).timeline p' =
      if p' = p then (site.intakes.put id i).entries else l.timeline p' := by
  rw [timeline, putIntake, Table.get?_put]
  split <;> rfl

/-- **A ledger is in time**: what was opened at a pickup point is there in the order of times and
identifiers, and everything at its time, as read off the clock so far. -/
structure Timely (l : Ledger) (past : List Deed) (times : List Instant) : Prop where
  opened : ∀ p, (l.timeline p).map (fun e => (⟨e.2.opened, e.1⟩ : Recency)) =
    (Past.opened p past).map Reception.recency
  succession : ∀ p, (l.timeline p).Pairwise Intake.Precedes
  begun : ∀ {p e}, e ∈ l.timeline p →
    ∀ item ∈ e.2.items.entries, e.2.opened.le item.2.added = true
  dated : ∀ {p e}, e ∈ l.timeline p → e.2.opened ∈ times

theorem empty_timely : Timely .empty [] [] where
  opened _ := rfl
  succession _ := .nil
  begun he := (List.not_mem_nil he).elim
  dated he := (List.not_mem_nil he).elim

section Timely
variable {l : Ledger} {past : List Deed} {times times' : List Instant} (h : l.Timely past times)
  (htimes : ∀ t ∈ times, t ∈ times') {d : Deed}
include h

/-- A reception in progress is the last of its pickup point. -/
theorem Timely.active_last {p id : Uuid} {site : Site} {i : Intake}
    (hactive : l.active? p = some (site, id, i)) :
    ∃ es, site.intakes.entries = es ++ [(id, i)] := by
  obtain ⟨hsite, hi, hin⟩ := of_active?_some hactive
  rw [← timeline_of_some hsite]
  refine exists_eq_append_singleton (h.succession p) (mem_timeline_of_intake? hi) fun e he => ?_
  rw [he.closed] at hin
  cases hin

include htimes

/-- A deed that opens nothing, and no reception is changed. -/
theorem Timely.same {l' : Ledger} (hd : ∀ p, d.opened? p = none)
    (htimeline : ∀ p, l'.timeline p = l.timeline p) : l'.Timely (past ++ [d]) times' where
  opened p := by
    rw [Past.opened_snoc, hd, Option.toList_none, List.append_nil, htimeline, h.opened]
  succession p := htimeline p ▸ h.succession p
  begun he := h.begun (htimeline _ ▸ he)
  dated he := htimes _ (h.dated (htimeline _ ▸ he))

/-- A reception put at the end, in place of what was there or behind it. -/
theorem Timely.putIntake {p id : Uuid} {site : Site} {i : Intake} {es : List (Uuid × Intake)}
    (hentries : (site.intakes.put id i).entries = es ++ [(id, i)])
    (hes : es.Sublist (l.timeline p)) (hlast : ∀ e ∈ es, Intake.Precedes e (id, i))
    (hitems : ∀ item ∈ i.items.entries, i.opened.le item.2.added = true)
    (hdated : i.opened ∈ times')
    (hopened : es.map (fun e => (⟨e.2.opened, e.1⟩ : Recency)) ++ [⟨i.opened, id⟩] =
      (Past.opened p (past ++ [d])).map Reception.recency)
    (hother : ∀ p', p' ≠ p → d.opened? p' = none) :
    (l.putIntake p site id i).Timely (past ++ [d]) times' := by
  have hmem : ∀ {p' e}, e ∈ (l.putIntake p site id i).timeline p' →
      e ∈ l.timeline p' ∨ e = (id, i) := by
    intro p' e he
    rw [timeline_putIntake] at he
    split at he
    case isTrue hp =>
      rw [hentries, List.mem_append, List.mem_singleton] at he
      exact he.imp_left fun he => hp ▸ hes.subset he
    case isFalse => exact .inl he
  refine ⟨fun p' => ?_, fun p' => ?_, fun {p' e} he => ?_, fun {p' e} he => ?_⟩
  · rw [timeline_putIntake]
    split
    case isTrue hp => rw [hp, hentries, List.map_append, ← hopened]; rfl
    case isFalse hp =>
      rw [Past.opened_snoc, hother p' hp, Option.toList_none, List.append_nil, h.opened]
  · rw [timeline_putIntake]
    split
    case isTrue =>
      rw [hentries, List.pairwise_append]
      refine ⟨(h.succession p).sublist hes, List.pairwise_singleton _ _, fun e he e' he' => ?_⟩
      rw [List.mem_singleton.mp he']
      exact hlast e he
    case isFalse => exact h.succession p'
  · rcases hmem he with he | rfl
    · exact h.begun he
    · exact hitems
  · rcases hmem he with he | rfl
    · exact htimes _ (h.dated he)
    · exact hdated

/-- The reception in progress, with another status or other products. -/
theorem Timely.putActive {p id : Uuid} {site : Site} {i i' : Intake}
    (hactive : l.active? p = some (site, id, i)) (hi' : i'.opened = i.opened)
    (hitems : ∀ item ∈ i'.items.entries, i'.opened.le item.2.added = true)
    (hd : ∀ p, d.opened? p = none) : (l.putIntake p site id i').Timely (past ++ [d]) times' := by
  obtain ⟨es, hentries⟩ := h.active_last hactive
  obtain ⟨hsite, hi, -⟩ := of_active?_some hactive
  have htimeline : l.timeline p = es ++ [(id, i)] := (timeline_of_some hsite).trans hentries
  have hprecedes := h.succession p
  have hopened := h.opened p
  rw [htimeline] at hprecedes hopened
  refine h.putIntake htimes (Table.entries_put_of_entries hentries i') ?_ (fun e he => ?_) hitems ?_ ?_
    fun p' _ => hd p'
  · rw [htimeline]
    exact List.sublist_append_left _ _
  · -- Only the time of the opening matters to what comes before.
    obtain ⟨hid, hle, hclosed, hadded⟩ :=
      (List.pairwise_append.mp hprecedes).2.2 e he (id, i) List.mem_cons_self
    exact ⟨hid, hi' ▸ hle, hclosed, hi' ▸ hadded⟩
  · rw [hi']
    exact htimes _ (h.dated (mem_timeline_of_intake? hi))
  · rw [Past.opened_snoc, hd, Option.toList_none, List.append_nil, ← hopened, List.map_append, hi']
    rfl

end Timely

/-! ## One request -/

section Step
variable {l : Ledger} {b : Books} {ids : List Uuid} {past : List Deed} {times : List Instant}
  (h : l.Timely past times) (hkept : l.Kept b ids)
include h hkept

/-- A reception that is opened comes after all others of its pickup point. -/
theorem Timely.open (hstacked : l.Stacked past times) {stamp : Stamp} {p : Uuid} {site : Site}
    (hsite : l.get? p = some site) (hfree : l.active? p = none)
    (hlt : ∀ id ∈ ids, id.value < stamp.fresh.value)
    (htimes : ∀ t ∈ times, t.le stamp.now = true) :
    (l.putIntake p site stamp.fresh ⟨stamp.now, .inProgress, .empty⟩).Timely
      (past ++ [(.request (.openAt stamp p),
        .verdict (.ok (.reception (.begun stamp.fresh p stamp.now))))])
      (times ++ [stamp.now]) := by
  have hnew : site.intakes.get? stamp.fresh = none := by
    have hnone := hkept.intake?_fresh hlt p
    rwa [intake?, hsite, Option.bind_some] at hnone
  have hopened : ∀ p', Deed.opened? p' (.request (.openAt stamp p),
      .verdict (.ok (.reception (.begun stamp.fresh p stamp.now)))) =
        if p = p' then some (.begun stamp.fresh p stamp.now) else none := fun _ => rfl
  refine h.putIntake (fun t ht => List.mem_append_left _ ht) (Table.entries_put_of_none hnew _)
    (timeline_of_some hsite ▸ List.Sublist.refl _) (fun e he => ?_)
    (fun _ hitem => (List.not_mem_nil hitem).elim) (List.mem_append_right _ List.mem_cons_self) ?_
    fun p' hp' => (hopened p').trans (if_neg hp'.symm)
  · rw [← timeline_of_some hsite] at he
    have hi := mem_timeline.mp he
    refine ⟨hlt _ (hkept.regular.reception_issued (hkept.reception.mpr ⟨p, e.2, hi, rfl⟩)),
      htimes _ (h.dated he), ?_, fun item hitem => htimes _ (hstacked.dated hi item hitem)⟩
    cases hstatus : e.2.status with
    | inProgress => exact absurd hstatus (of_active?_none hfree hi)
    | closed => rfl
  · rw [Past.opened_snoc, hopened, if_pos rfl, List.map_append, ← h.opened, timeline_of_some hsite]
    rfl

/-- **A request leaves the ledger in time.** -/
theorem Timely.step (hstacked : l.Stacked past times) {q : Request} (hgrow : l.Grows ids q)
    (htimes : ∀ t ∈ times, ∀ t' ∈ q.reading?, t.le t' = true) :
    (l.perform q).2.Timely (past ++ [(.request q, .verdict (l.perform q).1)])
      (times ++ q.reading?.toList) := by
  have hmono : ∀ t ∈ times, t ∈ times ++ q.reading?.toList := fun t ht =>
    List.mem_append_left _ ht
  have hturns := l.perform_turns q
  obtain ⟨v, l', hperform⟩ : ∃ v l', l.perform q = (v, l') := ⟨_, _, rfl⟩
  rw [hperform] at hturns ⊢
  show l'.Timely (past ++ [(.request q, .verdict v)]) _
  change l.Turns q v l' at hturns
  cases hturns with
  | refused q failure => exact h.same hmono (fun _ => by cases q <;> rfl) fun _ => rfl
  | created hfree hempty => exact h.same hmono (fun _ => rfl) (timeline_put_new hfree hempty)
  | found => exact h.same hmono (fun _ => rfl) fun _ => rfl
  | opened hsite hfree =>
    exact h.open hkept hstacked hsite hfree (hgrow.lt hperform rfl) fun t ht => htimes t ht _ rfl
  | closed hactive =>
    obtain ⟨-, hi, -⟩ := of_active?_some hactive
    exact h.putActive hmono hactive rfl (h.begun (mem_timeline_of_intake? hi)) fun _ => rfl
  | @added stamp p id typeName type site i hactive =>
    obtain ⟨-, hi, -⟩ := of_active?_some hactive
    have hbefore := mem_timeline_of_intake? hi
    refine h.putActive hmono hactive rfl (fun item hitem => ?_) fun _ => rfl
    rw [← Table.get?_eq_some_iff (k := item.1), Intake.add, Table.get?_put] at hitem
    split at hitem
    · rw [← Option.some.inj hitem]
      exact htimes _ (h.dated hbefore) _ rfl
    · exact h.begun hbefore item (Table.get?_eq_some_iff.mp hitem)
  | removed hactive hlast =>
    obtain ⟨-, hi, -⟩ := of_active?_some hactive
    refine h.putActive hmono hactive rfl (fun item hitem => ?_) fun _ => rfl
    exact h.begun (mem_timeline_of_intake? hi) item (List.mem_filter.mp hitem).1

end Step

/-! ## What the books show -/

section Books
variable {l : Ledger} {b : Books} {ids : List Uuid} {past : List Deed} {times : List Instant}
  (h : l.Timely past times) (hkept : l.Kept b ids)
include h hkept

/-- The receptions on the books are in the order of the ledger. -/
theorem Timely.oldestFirst (p : Uuid) :
    OldestFirst Reception.recency (fun r => b.HasReception r ∧ r.pickupPoint = p)
      ((l.timeline p).map fun e => e.2.reception e.1 p) := by
  refine ⟨List.pairwise_map.mpr ((h.succession p).imp fun {e e'} hprecedes => ?_), fun r => ?_⟩
  · refine Recency.before_of_le (Recency.le_iff.mpr ⟨hprecedes.opened, fun _ => ?_⟩) ?_
    · exact Nat.le_of_lt hprecedes.id
    · exact fun hsame => Nat.ne_of_lt hprecedes.id (congrArg Uuid.value hsame)
  · rw [List.mem_map]
    constructor
    · rintro ⟨e, he, rfl⟩
      exact ⟨hkept.reception.mpr ⟨p, e.2, mem_timeline.mp he, rfl⟩, rfl⟩
    · rintro ⟨hr, rfl⟩
      obtain ⟨p, i, hi, hform⟩ := hkept.reception.mp hr
      obtain rfl : r.pickupPoint = p := congrArg Reception.pickupPoint hform
      exact ⟨(r.id, i), mem_timeline.mpr hi, hform.symm⟩

/-- **Receptions that are listed are a timeline.** -/
theorem Timely.timeline {p : Uuid} {rs : List Reception} (hrs : OldestFirst Reception.recency
    (fun r => b.HasReception r ∧ r.pickupPoint = p) rs) : b.Timeline p past rs := by
  have hlisted := h.oldestFirst hkept p
  obtain rfl := hrs.unique hlisted
  have hadded : ∀ {e x}, e ∈ l.timeline p → b.Has x → x.reception = e.1 →
      ∃ item ∈ e.2.items.entries, x.added = item.2.added := by
    intro e x he hx hreception
    obtain ⟨item, hitem, hform⟩ := hkept.item_of_has (mem_timeline.mp he) hx hreception
    exact ⟨(x.id, item), Table.get?_eq_some_iff.mp hitem, congrArg Product.added hform⟩
  refine ⟨hlisted.mem_iff, ?_, ?_, ?_, ?_⟩
  · rw [List.map_map]
    exact h.opened p
  · refine List.pairwise_map.mpr ((h.succession p).imp_of_mem fun {e e'} he _ hprecedes => ?_)
    exact ⟨((hlisted.mem_iff _).mp (List.mem_map_of_mem he)).1, congrArg some hprecedes.closed⟩
  · intro r hr x hx hreception
    obtain ⟨e, he, rfl⟩ := List.mem_map.mp hr
    obtain ⟨item, hitem, hsame⟩ := hadded he hx hreception
    rw [hsame]
    exact h.begun he item hitem
  · refine List.pairwise_map.mpr ((h.succession p).imp_of_mem fun {e e'} he _ hprecedes => ?_)
    intro x hx hreception
    obtain ⟨item, hitem, hsame⟩ := hadded he hx hreception
    rw [hsame]
    exact hprecedes.items item hitem

end Books

/-! ## Operations one after the other -/

/-- **One operation leaves the ledger in time.** -/
theorem Carried.timely {l : Ledger} {w : Program.World Backend} {past : List Deed}
    {ids : List Uuid} {times : List Instant} (h : l.Carried w.store past ids times)
    (htimely : l.Timely past times) (c : Command)
    (hids : (ids ++ l.issued (Command.requests [c])).Pairwise fun id id' => id.value < id'.value)
    (htimes : (times ++ Command.readings [c]).Pairwise fun t t' => t.le t' = true)
    (hyears : w.store.isDatabase = true → ∀ q ∈ Command.requests [c], q.InYears) :
    (l.performAll (Command.requests [c])).2.Timely (past ++ [(c, (c.run w).1)])
      (times ++ Command.readings [c]) := by
  have hmono : ∀ t ∈ times, t ∈ times ++ Command.readings [c] := fun t ht =>
    List.mem_append_left _ ht
  cases c with
  | request q =>
    have hgrow : l.Grows ids q := .of_pairwise hids
    obtain ⟨⟨hverdict, -⟩, -⟩ := (q.ends h.kept hgrow).run_backend h.inOrder fun hdb =>
      q.portable (hyears hdb q List.mem_cons_self)
    have hreport : ((Command.request q).run w).1 = .verdict (l.perform q).1 :=
      congrArg Report.verdict hverdict
    rw [Command.readings_request] at htimes ⊢
    rw [hreport]
    refine htimely.step h.kept h.stacked hgrow fun t ht t' ht' => ?_
    exact (List.pairwise_append.mp htimes).2.2 t ht t' (Option.mem_toList.mpr ht')
  | listAll => exact htimely.same hmono (fun _ => rfl) fun _ => rfl
  | overview window page => exact htimely.same hmono (fun _ => rfl) fun _ => rfl

/-- **Operations one after the other** on a new store: the ledger that it carries out is in time. -/
theorem timely_run {store : Backend} (hnew : store.IsNew) (counters : Counters)
    (cs : List Command)
    (hids : (issued .empty (Command.requests cs)).Pairwise fun id id' => id.value < id'.value)
    (htimes : (Command.readings cs).Pairwise fun t t' => t.le t' = true)
    (hyears : store.isDatabase = true → ∀ q ∈ Command.requests cs, q.InYears) :
    (performAll .empty (Command.requests cs)).2.Timely
      (cs.zip (Command.runAll cs ⟨store, counters⟩).1) (Command.readings cs) := by
  induction cs using List.reverseRecOn with
  | nil => exact empty_timely
  | append_singleton cs c ih =>
    rw [Command.requests_append] at hids hyears ⊢
    rw [Command.readings_append] at htimes ⊢
    rw [issued_append] at hids
    have hids' := (List.pairwise_append.mp hids).1
    have htimes' := (List.pairwise_append.mp htimes).1
    have hyears' := fun hdb q hq => hyears hdb q (List.mem_append_left _ hq)
    obtain ⟨-, hcarried, hkind⟩ :=
      (carried_new hnew).run (w := ⟨store, counters⟩) cs hids' htimes' hyears'
    rw [Command.runAll_snoc, List.zip_append (Command.length_runAll ..).symm, performAll_append]
    exact hcarried.timely (ih hids' htimes' hyears') c hids htimes fun hdb q hq =>
      hyears (hkind ▸ hdb) q (List.mem_append_right _ hq)

end Ledger

/-- The lists of a store in memory are those of its books, however long they are. -/
theorem Backend.Sound.lists_of_memory {s : Backend} (hs : s.Sound)
    (hmemory : s.isDatabase = false) (c : Call) : s.books.Lists c (Storage.answer c s).1 := by
  cases s with
  | memory store => exact (InMemory.Sound.filed hs).lists c
  | database db => cases hmemory

/-- An overview of a store in memory, with no writes in between. -/
theorem Overview.nested_of_memory {w : Program.World Backend} (hs : w.store.Sound)
    (hmemory : w.store.isDatabase = false) {window : DateWindow} {page : Page}
    (hvalid : Valid window page) :
    ∃ ps os, NewestFirst PickupPoint.recency
        (fun p => w.store.books.HasPoint p ∧ w.store.books.InWindow window p) ps ∧
      ((Service.overview window page).program.run w).1 = .ok os ∧
        Nested w.store.books w.store.books (page.slice ps) os := by
  have hlists := hs.lists_of_memory hmemory
  obtain ⟨ps, hps, hpage⟩ := hlists (.pickupPointPage ⟨page, window⟩)
  obtain ⟨rs, hrs, hanswer⟩ := hlists (.receptionsAt ((page.slice ps).map PickupPoint.id))
  obtain ⟨xs, hxs, hlast⟩ := hlists (.productsOf (rs.map Reception.id))
  obtain ⟨os, hrun, hnested⟩ := run_nested hvalid rfl hps hpage hrs hanswer hxs hlast
  exact ⟨ps, os, hps, hrun, hnested⟩

/-- **Timelines are in order.**  Over the store in memory, whatever operations are done one after
the other, as long as the clock never goes back and the identifiers of new records grow: the
receptions of a pickup point are listed in the order in which they were opened, only the last of
them can be in progress, and the products of each were added no earlier than it was opened and no
later than the next one.  The overview lists them so as well, with these products. -/
theorem timelines_are_ordered (counters : Counters) (commands : List Command)
    (hids : (Ledger.issued .empty (Command.requests commands)).Pairwise
      fun id id' => id.value < id'.value)
    (htimes : (Command.readings commands).Pairwise fun t t' => t.le t' = true) :
    let after := Command.runAll commands ⟨Backend.memory .new, counters⟩
    let past := commands.zip after.1
    let b := after.2.store.books
    (∀ ids, ∃ rs, (Storage.answer (.receptionsAt ids) after.2.store).1 = .ok rs ∧
        ∀ p ∈ ids, b.Timeline p past (rs.filter fun r => r.pickupPoint = p)) ∧
      ∀ {window page}, Overview.Valid window page →
        ∃ os, ((Service.overview window page).program.run after.2).1 = .ok os ∧
          ∀ o ∈ os, b.Timeline o.point.id past (o.receptions.map ReceptionOverview.reception) ∧
            ∀ i ∈ o.receptions, OldestFirst Product.recency
              (fun x => b.Has x ∧ x.reception = i.reception.id) i.products := by
  intro after past b
  have htimely : Ledger.Timely _ past _ :=
    Ledger.timely_run .memory counters commands hids htimes nofun
  obtain ⟨-, hcarried, hkind⟩ := (Ledger.carried_new .memory).run
    (w := ⟨Backend.memory .new, counters⟩) commands hids htimes nofun
  have hkept : Ledger.Kept _ b _ := hcarried.kept
  have hsound : after.2.store.Sound := hcarried.inOrder.sound
  refine ⟨fun ids => ?_, fun {window page} hvalid => ?_⟩
  · obtain ⟨rs, hrs, hanswer⟩ := hsound.lists_of_memory hkind (.receptionsAt ids)
    refine ⟨rs, hanswer, fun p hp => htimely.timeline hkept ((hrs.filter _).congr fun r => ?_)⟩
    rw [decide_eq_true_eq, and_assoc]
    exact and_congr_right fun _ => ⟨And.right, fun heq => ⟨heq ▸ hp, heq⟩⟩
  · obtain ⟨_, os, -, hrun, hnested⟩ := Overview.nested_of_memory hsound hkind hvalid
    exact ⟨os, hrun, fun o ho =>
      ⟨htimely.timeline hkept (hnested.receptions o ho), hnested.products o ho⟩⟩

/-- Two receptions of one pickup point, one of another and what is refused, all at one time. -/
def oneMoment : List Command :=
  [.request (.create ⟨.epoch, .generated 0⟩ (.ofNat 1) "Москва" none),
    .request (.openAt ⟨.epoch, .generated 1⟩ (.ofNat 1)),
    .request (.addTo ⟨.epoch, .generated 2⟩ (.ofNat 1) "обувь"),
    .request (.openAt ⟨.epoch, .generated 3⟩ (.ofNat 1)),
    .request (.closeAt (.ofNat 1)), .overview .unbounded .first,
    .request (.create ⟨.epoch, .generated 0⟩ (.ofNat 2) "Казань" none),
    .request (.openAt ⟨.epoch, .generated 3⟩ (.ofNat 2)),
    .request (.openAt ⟨.epoch, .generated 4⟩ (.ofNat 1)),
    .request (.addTo ⟨.epoch, .generated 5⟩ (.ofNat 1) "одежда")]

/-- **Receptions of one time** are listed in the order in which they were opened. -/
theorem one_moment_has_timeline :
    let after := Command.runAll oneMoment ⟨Backend.memory .new, .zero⟩
    let past := oneMoment.zip after.1
    let r := Reception.begun (.generated 1) (.ofNat 1) .epoch
    let r' := Reception.begun (.generated 4) (.ofNat 1) .epoch
    Ledger.issued .empty (Command.requests oneMoment) =
        [.generated 1, .generated 2, .generated 3, .generated 4, .generated 5] ∧
      Command.readings oneMoment = List.replicate 8 .epoch ∧
      after.2.store.books.Closed r.ended ∧ after.2.store.books.InProgress r' ∧
      ∃ rs, (Storage.answer (.receptionsAt [.ofNat 1, .ofNat 2]) after.2.store).1 = .ok rs ∧
        (rs.filter fun r => r.pickupPoint = .ofNat 1).map Reception.recency =
          [r.recency, r'.recency] ∧
        after.2.store.books.Timeline (.ofNat 1) past
          (rs.filter fun r => r.pickupPoint = .ofNat 1) := by
  intro after past r r'
  have hids : (Ledger.issued .empty (Command.requests oneMoment)).Pairwise
      fun id id' => id.value < id'.value := by decide
  have htimes : (Command.readings oneMoment).Pairwise fun t t' => t.le t' = true := by decide
  have hopened : Past.opened (.ofNat 1) past = [r, r'] := by decide +kernel
  obtain ⟨hlisted, -⟩ := timelines_are_ordered .zero oneMoment hids htimes
  obtain ⟨rs, hrs, htimeline⟩ := hlisted [.ofNat 1, .ofNat 2]
  have htimeline := htimeline (.ofNat 1) List.mem_cons_self
  exact ⟨by decide, by decide, by decide +kernel, by decide +kernel, rs, hrs,
    htimeline.order.trans (congrArg _ hopened), htimeline⟩

end PickupLedger
