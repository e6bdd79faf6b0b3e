import PickupLedger.Proofs.OverviewPages
import PickupLedger.Proofs.StackedLedger

/-!
# Last in, first out

Over either store, operations one after the other take receptions for stacks, as long as the clock
never goes back and identifiers grow (`ledger_is_stack`).  The store carries out what the ledger
says, and the ledger is told by what was reported so far as stacks (`Ledger.Carried`): each
operation, a look at lists among them, keeps that.

The store in memory does so whatever the times are.  A database finds the last product by the
text of its time, so there times have to be in the years 0 to 9999 (`Backend.InOrder`).
-/

namespace PickupLedger

/-! ## Both stores -/

namespace Backend

/-- **The store finds the newest product**: it is sound, and over a database all times are in the
years 0 to 9999. -/
structure InOrder (s : Backend) : Prop where
  sound : s.Sound
  years : s.isDatabase = true → s.books.InYears

theorem IsNew.inOrder {s : Backend} (hnew : s.IsNew) : s.InOrder where
  sound := hnew.sound
  years _ := (show s.books = .empty from hnew.books) ▸ Books.inYears_empty

/-- **One call** is answered by the books, the newest product included. -/
theorem InOrder.answer {s : Backend} (hs : s.InOrder) {c : Call}
    (hfits : s.isDatabase = true → c.Fits) (hproper : s.books.Proper c) :
    s.books.Step c (Storage.answer c s).1 (Storage.answer c s).2.books ∧
      s.books.Newest c (Storage.answer c s).1 ∧ (Storage.answer c s).2.InOrder ∧
        (Storage.answer c s).2.isDatabase = s.isDatabase := by
  obtain ⟨hsound, hyears⟩ := hs
  cases s with
  | memory store =>
    have hs : store.Sound := hsound
    exact ⟨hs.step hproper, hs.newest c, ⟨hs.answer hproper, nofun⟩, rfl⟩
  | database db =>
    have hs : db.Sound := hsound
    have hfits := hfits rfl
    have hyears : db.books.InYears := hyears rfl
    have hstep := hs.step hproper
    exact ⟨hstep, hs.newest (hyears.inLine hfits),
      ⟨hs.answer hproper, fun _ => hyears.step hfits hstep⟩, rfl⟩

/-- Stores with the same records have the same books. -/
theorem of_records {s s' : Backend} (h : s'.records = s.records) :
    s'.books = s.books ∧ s'.isDatabase = s.isDatabase ∧ (s.InOrder → s'.InOrder) := by
  cases s with
  | memory store =>
    cases s' with
    | database db => cases h
    | memory store' =>
      obtain ⟨⟩ := store
      obtain ⟨⟩ := store'
      simp only [records, memory.injEq, InMemory.mk.injEq] at h
      obtain ⟨rfl, rfl, rfl, rfl, rfl, rfl, rfl, -⟩ := h
      refine ⟨rfl, rfl, fun hs => ⟨?_, nofun⟩⟩
      have hsound : InMemory.Sound _ := hs.sound
      exact { hsound with }
  | database db =>
    cases s' with
    | memory store => cases h
    | database db' =>
      obtain rfl : db' = db := database.inj h
      exact ⟨rfl, rfl, id⟩

end Backend

/-- Either store carries a program to its end. -/
theorem Program.Ends.run_backend {α : Type} {post : α → Books → Prop} {p : Program α}
    {w : Program.World Backend} (h : p.Ends post w.store.books) (hs : w.store.InOrder)
    (hportable : w.store.isDatabase = true → p.Portable) :
    post (p.run w).1 (p.run w).2.store.books ∧ (p.run w).2.store.InOrder ∧
      (p.run w).2.store.isDatabase = w.store.isDatabase := by
  induction p generalizing w with
  | done v => exact ⟨h, hs, rfl⟩
  | count k next ih => exact ih h hs hportable
  | ask c next ih =>
    obtain ⟨hstep, hnewest, hs', hkind⟩ := hs.answer (fun hdb => (hportable hdb).2.1) h.1
    have hnext : (Storage.answer c w.store).2.isDatabase = true →
        (next (Storage.answer c w.store).1).Portable :=
      fun hdb => ((hportable (hkind ▸ hdb)).2.2 _).2
    obtain ⟨hpost, hs', hkind'⟩ :=
      @ih _ ⟨(Storage.answer c w.store).2, w.counters⟩ (h.2 _ _ hstep hnewest) hs' hnext
    exact ⟨hpost, hs', hkind'.trans hkind⟩

/-! ## Commands -/

/-- The request is for a product. -/
def Request.OfProduct : Request → Prop
  | .addTo .. | .removeFrom _ => True
  | _ => False

namespace Command

/-- The request, if it is one. -/
def request? : Command → Option Request
  | .request q => some q
  | _ => none

theorem eq_of_request? {c : Command} {q : Request} (h : c.request? = some q) : c = .request q := by
  cases c with
  | request q' => exact congrArg Command.request (Option.some.inj h)
  | _ => cases h

/-- The requests among operations. -/
def requests (commands : List Command) : List Request := commands.filterMap request?

/-- **The readings of the clock** that operations take, in their order. -/
def readings (commands : List Command) : List Instant :=
  (requests commands).filterMap Request.reading?

theorem length_runAll {σ : Type} [Storage σ] (commands : List Command) (w : Program.World σ) :
    (runAll commands w).1.length = commands.length := by
  induction commands generalizing w with
  | nil => rfl
  | cons c cs ih => exact congrArg Nat.succ (ih _)

theorem requests_append (cs cs' : List Command) :
    requests (cs ++ cs') = requests cs ++ requests cs' := List.filterMap_append

theorem readings_append (cs cs' : List Command) :
    readings (cs ++ cs') = readings cs ++ readings cs' := by
  rw [readings, requests_append, List.filterMap_append]
  rfl

theorem readings_request (q : Request) : readings [.request q] = q.reading?.toList := by
  show [q].filterMap Request.reading? = _
  cases hq : q.reading? with
  | none => exact List.filterMap_cons_none hq
  | some t => exact List.filterMap_cons_some hq

/-- Any operation but a request only looks. -/
theorem reads_of_request? {c : Command} (hc : c.request? = none) : c.Reads := by
  cases c with
  | request q => cases hc
  | listAll => trivial
  | overview window page => trivial

end Command

namespace Ledger

theorem issued_append (l : Ledger) (qs qs' : List Request) :
    l.issued (qs ++ qs') = l.issued qs ++ (l.performAll qs).2.issued qs' := by
  induction qs generalizing l with
  | nil => rfl
  | cons q qs ih =>
    rw [List.cons_append, issued, issued, ih, List.append_assoc]
    rfl

theorem performAll_append (l : Ledger) (qs qs' : List Request) :
    (l.performAll (qs ++ qs')).2 = ((l.performAll qs).2.performAll qs').2 := by
  induction qs generalizing l with
  | nil => rfl
  | cons q qs ih => exact ih _

/-- **A store carries out a ledger**, which is told by the past as stacks. -/
structure Carried (l : Ledger) (s : Backend) (past : List Deed) (ids : List Uuid)
    (times : List Instant) : Prop where
  inOrder : s.InOrder
  kept : l.Kept s.books ids
  stacked : l.Stacked past times

theorem carried_new {s : Backend} (hnew : s.IsNew) : Carried .empty s [] [] [] where
  inOrder := hnew.inOrder
  kept := (show s.books = .empty from hnew.books) ▸ empty_kept
  stacked := empty_stacked

namespace Carried
variable {l : Ledger} {w : Program.World Backend} {past : List Deed} {ids : List Uuid}
  {times : List Instant} (h : l.Carried w.store past ids times)
include h

/-- **A request** is told what it is told on stacks, and the store carries out the ledger after
it. -/
theorem request {q : Request} (hgrow : l.Grows ids q)
    (htimes : ∀ t ∈ times, ∀ t' ∈ q.reading?, t.le t' = true)
    (hyears : w.store.isDatabase = true → q.InYears) :
    let after := (Command.request q).run w
    Deed.AsStack past (.request q, after.1) ∧
      (l.perform q).2.Carried after.2.store (past ++ [(.request q, after.1)])
        (ids ++ (l.issued? q).toList) (times ++ q.reading?.toList) ∧
      after.2.store.isDatabase = w.store.isDatabase := by
  intro after
  obtain ⟨⟨hverdict, hkept⟩, hs, hkind⟩ :=
    (q.ends h.kept hgrow).run_backend h.inOrder fun hdb => q.portable (hyears hdb)
  have hreport : after.1 = .verdict (l.perform q).1 := congrArg Report.verdict hverdict
  rw [hreport]
  exact ⟨h.stacked.asStack h.kept hgrow, ⟨hs, hkept, h.stacked.step h.kept hgrow htimes⟩, hkind⟩

/-- A look at the lists changes nothing. -/
theorem look {c : Command} (hc : c.request? = none) :
    Deed.AsStack past (c, (c.run w).1) ∧
      l.Carried (c.run w).2.store (past ++ [(c, (c.run w).1)]) ids times ∧
      (c.run w).2.store.isDatabase = w.store.isDatabase := by
  have hsame := (Command.reads_of_request? hc).records w
  obtain ⟨hbooks, hkind, hinOrder⟩ := Backend.of_records hsame
  have hregistered : ∀ report, Past.registered (past ++ [(c, report)]) = Past.registered past := by
    intro report
    rw [Past.registered_snoc]
    cases c with
    | request q => cases hc
    | listAll => exact List.append_nil _
    | overview window page => exact List.append_nil _
  refine ⟨?_, ⟨hinOrder h.inOrder, hbooks ▸ h.kept, ?_⟩, hkind⟩
  · cases c with
    | request q => cases hc
    | listAll => trivial
    | overview window page => trivial
  · refine h.stacked.snoc ?_ ?_ ?_ (fun _ _ => rfl) fun p => ?_
    · cases c <;> first | rfl | cases hc
    · cases c <;> first | rfl | cases hc
    · cases c <;> first | exact fun _ _ => rfl | cases hc
    · rw [hregistered]
      exact h.stacked.registered p

/-- **One operation** is told what it is told on stacks. -/
theorem command (c : Command)
    (hids : (ids ++ l.issued (Command.requests [c])).Pairwise fun id id' => id.value < id'.value)
    (htimes : (times ++ Command.readings [c]).Pairwise fun t t' => t.le t' = true)
    (hyears : w.store.isDatabase = true → ∀ q ∈ Command.requests [c], q.InYears) :
    Deed.AsStack past (c, (c.run w).1) ∧
      (l.performAll (Command.requests [c])).2.Carried (c.run w).2.store
        (past ++ [(c, (c.run w).1)]) (ids ++ l.issued (Command.requests [c]))
        (times ++ Command.readings [c]) ∧
      (c.run w).2.store.isDatabase = w.store.isDatabase := by
  cases hc : c.request? with
  | none =>
    have hnone : Command.requests [c] = [] := List.filterMap_cons_none hc
    rw [Command.readings, hnone, List.filterMap_nil, issued, List.append_nil, List.append_nil]
    exact h.look hc
  | some q =>
    obtain rfl := Command.eq_of_request? hc
    have hissued : l.issued (Command.requests [.request q]) = (l.issued? q).toList :=
      List.append_nil _
    rw [Command.readings_request] at htimes ⊢
    rw [hissued]
    have hnow : ∀ t ∈ times, ∀ t' ∈ q.reading?, t.le t' = true := by
      intro t ht t' ht'
      exact (List.pairwise_append.mp htimes).2.2 t ht t' (Option.mem_toList.mpr ht')
    exact h.request (.of_pairwise hids) hnow fun hdb => hyears hdb q List.mem_cons_self

end Carried

/-- **Operations one after the other** take receptions for stacks, and the store carries out the
ledger after them. -/
theorem Carried.run {l : Ledger} {w : Program.World Backend} {past : List Deed} {ids : List Uuid}
    {times : List Instant} (h : l.Carried w.store past ids times) (cs : List Command)
    (hids : (ids ++ l.issued (Command.requests cs)).Pairwise fun id id' => id.value < id'.value)
    (htimes : (times ++ Command.readings cs).Pairwise fun t t' => t.le t' = true)
    (hyears : w.store.isDatabase = true → ∀ q ∈ Command.requests cs, q.InYears) :
    let after := Command.runAll cs w
    AsStacks past (cs.zip after.1) ∧
      (l.performAll (Command.requests cs)).2.Carried after.2.store (past ++ cs.zip after.1)
        (ids ++ l.issued (Command.requests cs)) (times ++ Command.readings cs) ∧
      after.2.store.isDatabase = w.store.isDatabase := by
  induction cs generalizing l w past ids times with
  | nil =>
    show True ∧ l.Carried w.store (past ++ []) (ids ++ []) (times ++ []) ∧ _
    rw [List.append_nil, List.append_nil, List.append_nil]
    exact ⟨trivial, h, rfl⟩
  | cons c cs ih =>
    rw [← List.singleton_append, Command.requests_append] at hids hyears ⊢
    rw [← List.singleton_append, Command.readings_append, ← List.append_assoc] at htimes
    rw [issued_append, ← List.append_assoc] at hids
    obtain ⟨hd, hcarried, hkind⟩ := h.command c (List.pairwise_append.mp hids).1
      (List.pairwise_append.mp htimes).1 fun hdb q hq => hyears hdb q (List.mem_append_left _ hq)
    obtain ⟨hrest, hafter, hkind'⟩ := ih hcarried hids htimes fun hdb q hq =>
      hyears (hkind ▸ hdb) q (List.mem_append_right _ hq)
    rw [List.append_assoc] at hafter
    rw [issued_append, performAll_append, Command.readings_append, ← List.append_assoc,
      ← List.append_assoc]
    exact ⟨⟨hd, hrest⟩, hafter, hkind'.trans hkind⟩

/-! ## What the store has -/

section Books
variable {l l' : Ledger} {s s' : Backend} {past past' : List Deed} {ids ids' : List Uuid}
  {times times' : List Instant}

/-- **The store has the products on the stack** of a reception, the newest on top. -/
theorem Carried.newestFirst (h : l.Carried s past ids times) (reception : Uuid) :
    NewestFirst Product.recency (fun x => s.books.Has x ∧ x.reception = reception)
      (Past.stack reception past) := by
  by_cases hnone : ∀ p, l.intake? p reception = none
  · rw [h.stacked.unopened hnone]
    refine ⟨.nil, fun x => iff_of_false List.not_mem_nil ?_⟩
    rintro ⟨hx, hreception⟩
    obtain ⟨p, reception', item, hitem, hform⟩ := h.kept.product.mp hx
    have hsame : reception' = reception := (congrArg Product.reception hform).symm.trans hreception
    rw [item?, hsame, hnone p] at hitem
    cases hitem
  · obtain ⟨p, hsome⟩ := not_forall.mp hnone
    obtain ⟨i, hi⟩ := Option.ne_none_iff_exists'.mp hsome
    rw [← List.reverse_reverse (Past.stack reception past), h.stacked.stack hi]
    refine Listing.reverse ⟨List.pairwise_map.mpr ?_, fun x => ?_⟩
    · -- Neither times nor identifiers decrease from the bottom to the top.
      refine (h.stacked.inOrder hi).imp₂ (fun e e' htime hid => ?_) (h.kept.ordered hi)
      refine Recency.before_of_le (Recency.le_iff.mpr ⟨htime, fun _ => Nat.le_of_lt hid⟩) ?_
      exact fun hsame => Nat.ne_of_lt hid (congrArg Uuid.value hsame)
    · rw [Intake.products, List.mem_map]
      constructor
      · rintro ⟨e, he, rfl⟩
        exact ⟨h.kept.has_of_item hi (Table.get?_eq_some_iff.mpr he), rfl⟩
      · rintro ⟨hx, hreception⟩
        obtain ⟨item, hitem, hform⟩ := h.kept.item_of_has hi hx hreception
        exact ⟨(x.id, item), Table.get?_eq_some_iff.mp hitem, hform.symm⟩

/-- The reception in progress on the books is the one that the past tells. -/
theorem Carried.active_iff (h : l.Carried s past ids times) {p id : Uuid} :
    Past.active? p past = some id ↔
      ∃ r, s.books.InProgress r ∧ r.pickupPoint = p ∧ r.id = id := by
  rw [h.stacked.active]
  constructor
  · rintro ⟨i, hi, hin⟩
    exact ⟨i.reception id p, ⟨h.kept.reception.mpr ⟨p, i, hi, rfl⟩, congrArg some hin⟩, rfl, rfl⟩
  · rintro ⟨r, hr, rfl, rfl⟩
    obtain ⟨_, i, -, hactive, hi, -⟩ := h.kept.active?_inProgress hr
    exact ⟨i, hi, (of_active?_some hactive).2.2⟩

/-- Stores with the same stacks have the same products. -/
theorem Carried.product?_eq (h : l.Carried s past ids times) (h' : l'.Carried s' past' ids' times')
    (hstack : ∀ id, Past.stack id past' = Past.stack id past) :
    s'.books.product? = s.books.product? := by
  have hhas : ∀ x, s'.books.Has x ↔ s.books.Has x := by
    intro x
    have hx := (h.newestFirst x.reception).mem_iff x
    have hx' := (h'.newestFirst x.reception).mem_iff x
    rw [hstack, hx] at hx'
    simpa only [and_true] using hx'.symm
  funext id
  refine Option.ext fun x => ⟨fun hx => ?_, fun hx => ?_⟩
  · obtain rfl := h'.kept.regular.product_id hx
    exact (hhas x).mp hx
  · obtain rfl := h.kept.regular.product_id hx
    exact (hhas x).mpr hx

/-- **The same pickup points and receptions**, whatever products there are. -/
structure SameReceptions (l l' : Ledger) : Prop where
  point : ∀ p, (l'.get? p).map (fun s => s.point p) = (l.get? p).map fun s => s.point p
  reception : ∀ {id r}, (∃ p i, l'.intake? p id = some i ∧ r = i.reception id p) ↔
    ∃ p i, l.intake? p id = some i ∧ r = i.reception id p

theorem sameReceptions_perform (l : Ledger) {q : Request} (hq : q.OfProduct) :
    l.SameReceptions (l.perform q).2 := by
  have hput : ∀ {p id : Uuid} {site : Site} {i i' : Intake},
      l.active? p = some (site, id, i) →
      (∀ id' p', i'.reception id' p' = i.reception id' p') →
        l.SameReceptions (l.putIntake p site id i') := by
    intro p id site i i' hactive hsame
    obtain ⟨hsite, hi, -⟩ := of_active?_some hactive
    exact ⟨point_putIntake hsite id i', reception_putIntake_same hsite id i' hi hsame⟩
  have hturns := l.perform_turns q
  generalize (l.perform q).1 = v at hturns
  generalize (l.perform q).2 = l' at hturns ⊢
  cases hturns with
  | refused _ failure => exact ⟨fun _ => rfl, Iff.rfl⟩
  | added hactive => exact hput hactive fun _ _ => rfl
  | removed hactive hlast => exact hput hactive fun _ _ => rfl
  | _ => exact hq.elim

theorem sameReceptions_performAll (l : Ledger) {qs : List Request} (hqs : ∀ q ∈ qs, q.OfProduct) :
    l.SameReceptions (l.performAll qs).2 := by
  induction qs generalizing l with
  | nil => exact ⟨fun _ => rfl, Iff.rfl⟩
  | cons q qs ih =>
    obtain ⟨hq, hqs⟩ := List.forall_mem_cons.mp hqs
    have hfirst := l.sameReceptions_perform hq
    have hrest := ih (l.perform q).2 hqs
    exact ⟨fun p => (hrest.point p).trans (hfirst.point p), hrest.reception.trans hfirst.reception⟩

/-- Stores of the same receptions with the same stacks have the same books. -/
theorem Carried.books_eq (h : l.Carried s past ids times) (h' : l'.Carried s' past' ids' times')
    (hsame : l.SameReceptions l') (hstack : ∀ id, Past.stack id past' = Past.stack id past) :
    s'.books = s.books := by
  refine Books.ext (funext fun id => ?_) (funext fun id => ?_) (h.product?_eq h' hstack)
  · rw [h'.kept.point, h.kept.point, hsame.point]
  · refine Option.ext fun r => ?_
    exact h'.kept.reception.trans (hsame.reception.trans h.kept.reception.symm)

end Books

end Ledger

/-! ## Additions and removals in a row -/

namespace Command

theorem requests_additions (p : Uuid) (adds : List (Stamp × String)) :
    requests (additions p adds) = adds.map fun a => .addTo a.1 p a.2 := by
  induction adds with
  | nil => rfl
  | cons a adds ih => exact congrArg _ ih

theorem requests_removals (p : Uuid) (n : Nat) :
    requests (removals p n) = List.replicate n (.removeFrom p) :=
  List.filterMap_replicate_of_some rfl

/-- Removals do not read the clock. -/
theorem readings_removals (p : Uuid) (n : Nat) : readings (removals p n) = [] := by
  rw [readings, requests_removals]
  exact List.filterMap_replicate_of_none rfl

/-- Removals give no identifiers. -/
theorem issued_removals (l : Ledger) (p : Uuid) (n : Nat) : l.issued (requests (removals p n)) = [] := by
  rw [requests_removals]
  induction n generalizing l with
  | zero => rfl
  | succ n ih =>
    rw [List.replicate_succ, Ledger.issued, ih, List.append_nil, Ledger.issued?]
    cases (l.perform (.removeFrom p)).1 <;> rfl

theorem ofProduct_requests (p : Uuid) (adds : List (Stamp × String)) (n : Nat) :
    ∀ q ∈ requests (additions p adds ++ removals p n), q.OfProduct := by
  intro q hq
  rw [requests_append, requests_additions, requests_removals, List.mem_append] at hq
  rcases hq with hq | hq
  · obtain ⟨a, -, rfl⟩ := List.mem_map.mp hq
    trivial
  · rw [List.eq_of_mem_replicate hq]
    trivial

end Command

/-- **As many removals as additions** give the products back in the reverse order, and leave the
store as it was. -/
theorem Ledger.Carried.thereAndBack {l : Ledger} {w : Program.World Backend} {past : List Deed}
    {ids : List Uuid} {times : List Instant} (h : l.Carried w.store past ids times) {p : Uuid}
    {adds : List (Stamp × String)}
    (hids : (ids ++ l.issued (Command.requests (Command.additions p adds))).Pairwise
      fun id id' => id.value < id'.value)
    (htimes : (times ++ Command.readings (Command.additions p adds)).Pairwise
      fun t t' => t.le t' = true)
    (hyears : w.store.isDatabase = true →
      ∀ q ∈ Command.requests (Command.additions p adds), q.InYears)
    (hok : ∀ report ∈ (Command.runAll (Command.additions p adds) w).1,
      ∃ x, report = .verdict (.ok (.product x))) :
    let added := Command.runAll (Command.additions p adds) w
    let removed := Command.runAll (Command.removals p adds.length) added.2
    removed.1 = added.1.reverse ∧ removed.2.store.books = w.store.books := by
  intro added removed
  obtain ⟨hadding, hadded, -⟩ := h.run _ hids htimes hyears
  have hremovals : ∀ q ∈ Command.requests (Command.removals p adds.length), q.InYears := by
    intro q hq
    rw [Command.requests_removals] at hq
    rw [List.eq_of_mem_replicate hq]
    trivial
  obtain ⟨hremoving, hremoved, -⟩ := hadded.run (Command.removals p adds.length)
    (by rwa [Command.issued_removals, List.append_nil])
    (by rwa [Command.readings_removals, List.append_nil]) fun _ => hremovals
  obtain ⟨hback, hstack⟩ := AsStacks.thereAndBack
    ((Command.length_runAll _ _).trans (List.length_map _))
    ((Command.length_runAll _ _).trans List.length_replicate) hok hadding hremoving
  have hsame := Ledger.sameReceptions_performAll l
    (Command.ofProduct_requests p adds adds.length)
  rw [Command.requests_append, performAll_append] at hsame
  exact ⟨hback, h.books_eq hremoved hsame hstack⟩

/-- **The ledger is a stack.**  Over a new store of either kind, whatever operations are done one
after the other on whatever pickup points, receptions are stacks as long as the clock never goes
back and the identifiers of new records grow, and over a database all times are in the years 0 to
9999: an opening starts an empty one, an addition puts its product on the one in progress, and a
removal takes the product on top of it, if there is one, and never one of another reception.  The
store has the products on the stacks, which are those added and not removed.  So as many removals
as additions before them give the products back in the reverse order and leave the store as it
was. -/
theorem ledger_is_stack {store : Backend} (hnew : store.IsNew) (counters : Counters)
    (commands : List Command)
    (hids : (Ledger.issued .empty (Command.requests commands)).Pairwise
      fun id id' => id.value < id'.value)
    (htimes : (Command.readings commands).Pairwise fun t t' => t.le t' = true)
    (hyears : store.isDatabase = true → ∀ q ∈ Command.requests commands, q.InYears) :
    let after := Command.runAll commands ⟨store, counters⟩
    let past := commands.zip after.1
    AsStacks [] past ∧
      (∀ p id, Past.active? p past = some id ↔
        ∃ r, after.2.store.books.InProgress r ∧ r.pickupPoint = p ∧ r.id = id) ∧
      (∀ reception,
        NewestFirst Product.recency
            (fun x => after.2.store.books.Has x ∧ x.reception = reception)
            (Past.stack reception past) ∧
          Past.additions reception past =
            Past.removals reception past + (Past.stack reception past).length) ∧
      ∀ before p adds, commands = before ++ Command.additions p adds →
        let start := (Command.runAll before ⟨store, counters⟩).2
        let added := Command.runAll (Command.additions p adds) start
        let removed := Command.runAll (Command.removals p adds.length) added.2
        (∀ report ∈ added.1, ∃ x, report = .verdict (.ok (.product x))) →
          removed.1 = added.1.reverse ∧ removed.2.store.books = start.store.books := by
  intro after past
  have hempty : Ledger.Carried .empty store [] [] [] := Ledger.carried_new hnew
  obtain ⟨hstacks, hcarried, -⟩ := hempty.run (w := ⟨store, counters⟩) commands hids htimes hyears
  refine ⟨hstacks, fun p id => hcarried.active_iff, fun reception => ?_, ?_⟩
  · exact ⟨hcarried.newestFirst reception, AsStacks.counted hstacks reception⟩
  · intro before p adds hcommands start added removed hok
    rw [hcommands, Command.requests_append] at hids hyears
    rw [Ledger.issued_append] at hids
    rw [hcommands, Command.readings_append] at htimes
    obtain ⟨-, hstart, hkind⟩ := hempty.run (w := ⟨store, counters⟩) before
      (List.pairwise_append.mp hids).1 (List.pairwise_append.mp htimes).1
      fun hdb q hq => hyears hdb q (List.mem_append_left _ hq)
    exact hstart.thereAndBack hids htimes
      (fun hdb q hq => hyears (hkind ▸ hdb) q (List.mem_append_right _ hq)) hok

/-- Two pickup points with a reception each, and a product at the second. -/
def twoReceptions : List Command :=
  [.request (.create ⟨.epoch, .generated 0⟩ (.ofNat 1) "Москва" none), .listAll,
    .request (.create ⟨.epoch, .generated 0⟩ (.ofNat 2) "Казань" none),
    .request (.openAt ⟨.epoch, .generated 1⟩ (.ofNat 1)),
    .request (.openAt ⟨.epoch, .generated 2⟩ (.ofNat 2)),
    .request (.addTo ⟨.epoch, .generated 3⟩ (.ofNat 2) "обувь")]

/-- **Two products of one time** at the first pickup point come back the latest first, over a
database. -/
theorem two_products_come_back_reversed :
    let adds : List (Stamp × String) :=
      [(⟨.epoch, .generated 4⟩, "обувь"), (⟨.epoch, .generated 5⟩, "одежда")]
    let commands := twoReceptions ++ Command.additions (.ofNat 1) adds
    let start := (Command.runAll twoReceptions ⟨Backend.database .seeded, .zero⟩).2
    let added := Command.runAll (Command.additions (.ofNat 1) adds) start
    let removed := Command.runAll (Command.removals (.ofNat 1) 2) added.2
    let x := Product.ofType (.generated 4) (.generated 1) .epoch ⟨3, "обувь"⟩
    let y := Product.ofType (.generated 5) (.generated 1) .epoch ⟨2, "одежда"⟩
    Ledger.issued .empty (Command.requests commands) =
        [.generated 1, .generated 2, .generated 3, .generated 4, .generated 5] ∧
      (∀ q ∈ Command.requests commands, q.InYears) ∧
      added.1 = [.verdict (.ok (.product x)), .verdict (.ok (.product y))] ∧
      removed.1 = [.verdict (.ok (.product y)), .verdict (.ok (.product x))] ∧
      removed.2.store.books = start.store.books := by
  intro adds commands start added removed x y
  have hids : (Ledger.issued .empty (Command.requests commands)).Pairwise
      fun id id' => id.value < id'.value := by decide
  have htimes : (Command.readings commands).Pairwise fun t t' => t.le t' = true := by decide
  have hepoch : Instant.epoch.InYears := by decide
  have hcommands : ∀ c ∈ commands, c.InYears := by
    simp [commands, twoReceptions, adds, Command.additions, Command.InYears, Request.InYears, hepoch]
  have hyears : ∀ q ∈ Command.requests commands, q.InYears := by
    intro q hq
    obtain ⟨c, hc, hrequest⟩ := List.mem_filterMap.mp hq
    obtain rfl := Command.eq_of_request? hrequest
    exact hcommands _ hc
  have hadded : added.1 = [.verdict (.ok (.product x)), .verdict (.ok (.product y))] := by
    decide +kernel
  obtain ⟨-, -, -, hback⟩ := ledger_is_stack .database .zero commands hids htimes fun _ => hyears
  obtain ⟨hremoved, hbooks⟩ := hback twoReceptions (.ofNat 1) adds rfl (by
    show ∀ report ∈ added.1, ∃ x, report = .verdict (.ok (.product x))
    rw [hadded]
    simp)
  exact ⟨by decide, hyears, hadded, hremoved.trans (congrArg List.reverse hadded), hbooks⟩

end PickupLedger
