import PickupLedger.Proofs.Sequence
import PickupLedger.Proofs.Stacks

/-!
# The ledger as stacks

A ledger takes out the product with the latest time, and of several the one added last.  That is
the product on top of the stack as long as the clock never goes back: the products of a reception
stand in the order in which they were added, so their times do not decrease either
(`Ledger.Stacked`), whatever was done at other pickup points in between and however often the
reception's own pickup point was opened before.
-/

namespace PickupLedger

/-- The reading of the clock that a request takes. -/
def Request.reading? : Request → Option Instant
  | .create stamp _ _ none => some stamp.now
  | .openAt stamp _ => some stamp.now
  | .addTo stamp _ _ => some stamp.now
  | _ => none

/-! ## Intakes -/

namespace Intake

/-- The products of the reception in the order in which they were added. -/
def products (i : Intake) (reception : Uuid) : List Product :=
  i.items.entries.map fun e => e.2.product e.1 reception

/-- Where no time is later than the last one, the product added last is the newest. -/
theorem newest?_of_last {i : Intake} {es : List (Uuid × Item)} {e : Uuid × Item}
    (hentries : i.items.entries = es ++ [e]) (h : ∀ e' ∈ es, e'.2.added.le e.2.added = true) :
    i.newest? = some e := by
  rw [newest?, hentries]
  exact greatest?_append_last h

/-- The reception without its last product. -/
theorem entries_remove_last {i : Intake} {es : List (Uuid × Item)} {e : Uuid × Item}
    (hentries : i.items.entries = es ++ [e]) : (i.remove e.1).items.entries = es := by
  have hnodup := i.items.nodup
  rw [hentries, List.map_append, List.nodup_append] at hnodup
  have hne : ∀ e' ∈ es, e'.1 ≠ e.1 := fun e' he' =>
    hnodup.2.2 e'.1 (List.mem_map_of_mem he') e.1 List.mem_cons_self
  have hkeep : es.filter (fun e' => e'.1 ≠ e.1) = es :=
    List.filter_eq_self.mpr fun e' he' => decide_eq_true (hne e' he')
  show i.items.entries.filter (fun e' => e'.1 ≠ e.1) = es
  rw [hentries, List.filter_append, hkeep]
  simp

end Intake

namespace Ledger

/-! ## What a request can do -/

theorem of_active?_some {l : Ledger} {p id : Uuid} {site : Site} {i : Intake}
    (h : l.active? p = some (site, id, i)) :
    l.get? p = some site ∧ l.intake? p id = some i ∧ i.status = .inProgress := by
  obtain ⟨site', hsite, hfound⟩ := Option.bind_eq_some_iff.mp h
  obtain ⟨e, he, heq⟩ := Option.map_eq_some_iff.mp hfound
  cases heq
  obtain ⟨hget, hstatus⟩ := Site.of_active?_some he
  exact ⟨hsite, Option.bind_eq_some_iff.mpr ⟨site, hsite, hget⟩, hstatus⟩

theorem of_active?_none {l : Ledger} {p id : Uuid} {i : Intake} (h : l.active? p = none)
    (hi : l.intake? p id = some i) : i.status ≠ .inProgress := by
  obtain ⟨site, hsite, hget⟩ := Option.bind_eq_some_iff.mp hi
  rw [active?, hsite, Option.bind_some, Option.map_eq_none_iff] at h
  exact Site.of_active?_none h hget

/-- **What a request can be told**, and the ledger after it. -/
inductive Turns (l : Ledger) : Request → Verdict → Ledger → Prop where
  | refused (q : Request) (failure : Failure) : Turns l q (.error failure) l
  | created {stamp : Stamp} {id : Uuid} {cityName : String} {registered : Option Instant}
      {site : Site} (hfree : l.get? id = none) (hempty : site.intakes = .empty) :
      Turns l (.create stamp id cityName registered) (.ok (.point (site.point id)))
        (l.put id site)
  | found {id : Uuid} {site : Site} : Turns l (.get id) (.ok (.point (site.point id))) l
  | opened {stamp : Stamp} {p : Uuid} {site : Site} (hsite : l.get? p = some site)
      (hfree : l.active? p = none) :
      Turns l (.openAt stamp p) (.ok (.reception (.begun stamp.fresh p stamp.now)))
        (l.putIntake p site stamp.fresh ⟨stamp.now, .inProgress, .empty⟩)
  | closed {p id : Uuid} {site : Site} {i : Intake} (hactive : l.active? p = some (site, id, i)) :
      Turns l (.closeAt p) (.ok (.reception (i.ended.reception id p)))
        (l.putIntake p site id i.ended)
  | added {stamp : Stamp} {p id : Uuid} {typeName : String} {type : ProductType} {site : Site}
      {i : Intake} (hactive : l.active? p = some (site, id, i)) :
      Turns l (.addTo stamp p typeName)
        (.ok (.product (Item.product ⟨stamp.now, type⟩ stamp.fresh id)))
        (l.putIntake p site id (i.add stamp.fresh ⟨stamp.now, type⟩))
  | removed {p id : Uuid} {site : Site} {i : Intake} {e : Uuid × Item}
      (hactive : l.active? p = some (site, id, i)) (hlast : i.newest? = some e) :
      Turns l (.removeFrom p) (.ok (.product (e.2.product e.1 id)))
        (l.putIntake p site id (i.remove e.1))

theorem perform_turns (l : Ledger) (q : Request) : l.Turns q (l.perform q).1 (l.perform q).2 := by
  cases q with
  | create stamp id cityName registered =>
    rw [perform]
    cases Seed.city? cityName with
    | none => exact .refused _ _
    | some city =>
      cases hsite : l.get? id with
      | some site => exact .refused _ _
      | none => exact .created hsite rfl
  | get id =>
    rw [perform]
    cases l.get? id with
    | none => exact .refused _ _
    | some site => exact .found
  | openAt stamp p =>
    rw [perform]
    cases hsite : l.get? p with
    | none => exact .refused _ _
    | some site =>
      cases hactive : l.active? p with
      | some found => exact .refused _ _
      | none => exact .opened hsite hactive
  | closeAt p =>
    rw [perform]
    cases hactive : l.active? p with
    | none => exact .refused _ _
    | some found => exact .closed hactive
  | addTo stamp p typeName =>
    rw [perform]
    cases hactive : l.active? p with
    | none => exact .refused _ _
    | some found =>
      cases Seed.productType? typeName with
      | none => exact .refused _ _
      | some type => exact .added hactive
  | removeFrom p =>
    rw [perform]
    cases l.get? p with
    | none => exact .refused _ _
    | some site =>
      cases hactive : l.active? p with
      | none => exact .refused _ _
      | some found =>
        obtain ⟨site, id, i⟩ := found
        cases hlast : i.newest? with
        | none =>
          simp only [hlast]
          exact .refused _ _
        | some e =>
          simp only [hlast]
          exact .removed hactive hlast

/-! ## Stacks of a ledger -/

/-- **A ledger is told by its past as stacks**: each reception has the products on its stack, and
their times, all of them read off the clock so far, do not decrease. -/
structure Stacked (l : Ledger) (past : List Deed) (times : List Instant) : Prop where
  registered : ∀ p, p ∈ Past.registered past ↔ ∃ site, l.get? p = some site
  active : ∀ {p id}, Past.active? p past = some id ↔
    ∃ i, l.intake? p id = some i ∧ i.status = .inProgress
  stack : ∀ {p id i}, l.intake? p id = some i → (Past.stack id past).reverse = i.products id
  unopened : ∀ {id}, (∀ p, l.intake? p id = none) → Past.stack id past = []
  inOrder : ∀ {p id i}, l.intake? p id = some i →
    i.items.entries.Pairwise fun e e' => e.2.added.le e'.2.added = true
  dated : ∀ {p id i}, l.intake? p id = some i → ∀ e ∈ i.items.entries, e.2.added ∈ times

theorem empty_stacked : Stacked .empty [] [] where
  registered p := by
    refine iff_of_false List.not_mem_nil ?_
    rintro ⟨site, h⟩
    cases h
  active := by
    refine iff_of_false (by simp [Past.active?]) ?_
    rintro ⟨i, h, -⟩
    cases h
  stack h := by cases h
  unopened _ := rfl
  inOrder h := by cases h
  dated h := by cases h

section Stacked
variable {l : Ledger} {b : Books} {ids : List Uuid} {past : List Deed} {times : List Instant}
  (h : l.Stacked past times)

include h in
/-- Later readings of the clock change nothing. -/
theorem Stacked.mono {times' : List Instant} (htimes : ∀ t ∈ times, t ∈ times') :
    l.Stacked past times' :=
  { h with dated := fun hi e he => htimes _ (h.dated hi e he) }

include h in
/-- A deed that changes no reception leaves them as they were. -/
theorem Stacked.snoc {l' : Ledger} {d : Deed} (hadded : d.added? = none)
    (hremoved : d.removed? = none) (hactive : ∀ p active, d.activeAfter p active = active)
    (hintake : ∀ p id, l'.intake? p id = l.intake? p id)
    (hregistered : ∀ p, p ∈ Past.registered (past ++ [d]) ↔ ∃ site, l'.get? p = some site) :
    l'.Stacked (past ++ [d]) times := by
  have hstack : ∀ id, Past.stack id (past ++ [d]) = Past.stack id past := by
    intro id
    rw [Past.stack_snoc, Deed.stackAfter, hadded, hremoved]
  refine ⟨hregistered, ?_, ?_, ?_, ?_, ?_⟩
  · intro p id
    rw [Past.active?_snoc, hactive, hintake]
    exact h.active
  · intro p id i hi
    rw [hstack]
    exact h.stack (hintake p id ▸ hi)
  · intro id hnone
    rw [hstack]
    exact h.unopened fun p => hintake p id ▸ hnone p
  · exact fun hi => h.inOrder (hintake _ _ ▸ hi)
  · exact fun hi => h.dated (hintake _ _ ▸ hi)

include h in
/-- A deed that changes one reception. -/
theorem Stacked.putIntake {p : Uuid} {site : Site} (hsite : l.get? p = some site) {id : Uuid}
    {i' : Intake} {d : Deed} {after : Option Uuid} (hregistered : d.registered? = none)
    (hactive : ∀ p', d.activeAfter p' (Past.active? p' past) =
      if p' = p then after else Past.active? p' past)
    (hafter : ∀ id', after = some id' ↔ id' = id ∧ i'.status = .inProgress)
    (hfree : ∀ id' i, l.intake? p id' = some i → i.status = .inProgress → id' = id)
    (hone : ∀ p' i, l.intake? p' id = some i → p' = p)
    (hstack : (d.stackAfter id (Past.stack id past)).reverse = i'.products id)
    (hother : ∀ id', id' ≠ id → d.stackAfter id' (Past.stack id' past) = Past.stack id' past)
    (hinOrder : i'.items.entries.Pairwise fun e e' => e.2.added.le e'.2.added = true)
    (hdated : ∀ e ∈ i'.items.entries, e.2.added ∈ times) :
    (l.putIntake p site id i').Stacked (past ++ [d]) times where
  registered p' := by
    rw [Past.registered_snoc, hregistered, Option.toList_none, List.append_nil, h.registered,
      Ledger.putIntake, Table.get?_put]
    split
    · next heq =>
      rw [heq, hsite]
      exact iff_of_true ⟨_, rfl⟩ ⟨_, rfl⟩
    · rfl
  active {p' id'} := by
    have hentry := intake?_putIntake hsite id i' p' id'
    rw [Past.active?_snoc, hactive]
    by_cases hp : p' = p
    · rw [if_pos hp, hafter, hp]
      by_cases hid : id' = id
      · rw [if_pos ⟨hp, hid⟩, hp] at hentry
        rw [hentry]
        constructor
        · exact fun hin => ⟨i', rfl, hin.2⟩
        · rintro ⟨i, hi, hstatus⟩
          exact ⟨hid, Option.some.inj hi ▸ hstatus⟩
      · rw [if_neg fun heq => hid heq.2, hp] at hentry
        rw [hentry]
        refine iff_of_false (fun hin => hid hin.1) ?_
        rintro ⟨i, hi, hstatus⟩
        exact hid (hfree id' i hi hstatus)
    · rw [if_neg fun heq => hp heq.1] at hentry
      rw [hentry, if_neg hp]
      exact h.active
  stack {p' id' i} hi := by
    rw [intake?_putIntake hsite] at hi
    rw [Past.stack_snoc]
    split at hi
    · next heq => rw [heq.2, hstack, Option.some.inj hi]
    · next hne =>
      have hid : id' ≠ id := fun hid => hne ⟨hone p' i (hid ▸ hi), hid⟩
      rw [hother id' hid]
      exact h.stack hi
  unopened {id'} hnone := by
    simp only [intake?_putIntake hsite] at hnone
    have hid : id' ≠ id := by
      intro hid
      have hnew := hnone p
      rw [if_pos ⟨rfl, hid⟩] at hnew
      cases hnew
    rw [Past.stack_snoc, hother id' hid]
    refine h.unopened fun p' => ?_
    have hold := hnone p'
    rwa [if_neg fun heq => hid heq.2] at hold
  inOrder {p' id' i} hi := by
    rw [intake?_putIntake hsite] at hi
    split at hi
    · rw [← Option.some.inj hi]
      exact hinOrder
    · exact h.inOrder hi
  dated {p' id' i} hi := by
    rw [intake?_putIntake hsite] at hi
    split at hi
    · rw [← Option.some.inj hi]
      exact hdated
    · exact h.dated hi

include h in
theorem Stacked.active?_some {p id : Uuid} {site : Site} {i : Intake}
    (hactive : l.active? p = some (site, id, i)) : Past.active? p past = some id := by
  obtain ⟨-, hi, hin⟩ := of_active?_some hactive
  exact h.active.mpr ⟨i, hi, hin⟩

include h in
theorem Stacked.active?_none {p : Uuid} (hfree : l.active? p = none) :
    Past.active? p past = none := by
  rw [Option.eq_none_iff_forall_ne_some]
  intro id hid
  obtain ⟨i, hi, hin⟩ := h.active.mp hid
  exact of_active?_none hfree hi hin

include h in
/-- A reception in progress that stays so, with other products. -/
theorem Stacked.putItems (hkept : l.Kept b ids) {p id : Uuid} {site : Site} {i i' : Intake}
    (hactive : l.active? p = some (site, id, i)) (hstatus : i'.status = i.status) {d : Deed}
    (hregistered : d.registered? = none) (hsame : ∀ p' active, d.activeAfter p' active = active)
    (hstack : (d.stackAfter id (Past.stack id past)).reverse = i'.products id)
    (hother : ∀ id', id' ≠ id → d.stackAfter id' (Past.stack id' past) = Past.stack id' past)
    (hinOrder : i'.items.entries.Pairwise fun e e' => e.2.added.le e'.2.added = true)
    (hdated : ∀ e ∈ i'.items.entries, e.2.added ∈ times) :
    (l.putIntake p site id i').Stacked (past ++ [d]) times := by
  obtain ⟨hsite, hi, hin⟩ := of_active?_some hactive
  have hafter : ∀ p', d.activeAfter p' (Past.active? p' past) =
      if p' = p then some id else Past.active? p' past := by
    intro p'
    rw [hsame]
    split
    · next hp => exact hp ▸ h.active?_some hactive
    · rfl
  refine h.putIntake hsite hregistered hafter (fun id' => ?_) (fun id' j hj hin' => ?_)
    (fun p' j hj => ?_) hstack hother hinOrder hdated
  · rw [hstatus, Option.some.injEq, eq_comm]
    exact (and_iff_left hin).symm
  · exact hkept.inProgress_unique hi hin hj hin'
  · exact hkept.intake_unique hi hj

end Stacked

/-! ## One request -/

section Step
variable {l : Ledger} {b : Books} {ids : List Uuid} {past : List Deed} {times : List Instant}
  (h : l.Stacked past times) (hkept : l.Kept b ids)
include h hkept

/-- A product that was added under an identifier of its own is the last one. -/
theorem Stacked.add {stamp : Stamp} {p id : Uuid} {typeName : String} {type : ProductType}
    {site : Site} {i : Intake} (hactive : l.active? p = some (site, id, i))
    (hlt : ∀ id' ∈ ids, id'.value < stamp.fresh.value)
    (htimes : ∀ t ∈ times, t.le stamp.now = true) :
    let item : Item := ⟨stamp.now, type⟩
    (l.putIntake p site id (i.add stamp.fresh item)).Stacked
      (past ++ [(.request (.addTo stamp p typeName),
        .verdict (.ok (.product (item.product stamp.fresh id))))]) (times ++ [stamp.now]) := by
  intro item
  obtain ⟨-, hi, -⟩ := of_active?_some hactive
  have hnew : i.items.get? stamp.fresh = none := by
    cases hfound : i.items.get? stamp.fresh with
    | none => rfl
    | some old =>
      have hissued := hkept.regular.product_issued (hkept.has_of_item hi hfound)
      exact absurd (hlt _ hissued) (Nat.lt_irrefl _)
  have hentries : (i.add stamp.fresh item).items.entries =
      i.items.entries ++ [(stamp.fresh, item)] := Table.entries_put_of_none hnew item
  have hmono : l.Stacked past (times ++ [stamp.now]) :=
    h.mono fun t ht => List.mem_append_left _ ht
  refine hmono.putItems hkept hactive ?_ ?_ ?_ ?_ (fun id' hid => ?_) ?_ ?_
  · rfl
  · rfl
  · exact fun _ _ => rfl
  · have hown : (item.product stamp.fresh id).reception = id := rfl
    rw [Deed.stackAfter_added, if_pos hown, List.reverse_cons, h.stack hi, Intake.products,
      Intake.products, hentries, List.map_append]
    rfl
  · exact if_neg (Ne.symm hid)
  · rw [hentries, List.pairwise_append]
    refine ⟨h.inOrder hi, List.pairwise_singleton _ _, fun e he e' he' => ?_⟩
    rw [List.mem_singleton.mp he']
    exact htimes _ (h.dated hi e he)
  · intro e he
    rw [hentries] at he
    rcases List.mem_append.mp he with he | he
    · exact List.mem_append_left _ (h.dated hi e he)
    · rw [List.mem_singleton.mp he]
      exact List.mem_append_right _ List.mem_cons_self

omit hkept in
/-- The newest product is the one on top. -/
theorem Stacked.of_newest? {p id : Uuid} {i : Intake} {e : Uuid × Item}
    (hi : l.intake? p id = some i) (hlast : i.newest? = some e) :
    ∃ rest, Past.stack id past = e.2.product e.1 id :: rest ∧
      rest.reverse = (i.remove e.1).products id ∧ ∃ es, i.items.entries = es ++ [e] := by
  rcases List.eq_nil_or_concat i.items.entries with hnone | ⟨es, last, hentries⟩
  · rw [Intake.newest?, hnone] at hlast
    cases hlast
  · rw [List.concat_eq_append] at hentries
    have hinOrder := h.inOrder hi
    rw [hentries] at hinOrder
    have hle := (List.pairwise_append.mp hinOrder).2.2
    have hnewest := Intake.newest?_of_last hentries fun e' he' =>
      hle e' he' last List.mem_cons_self
    obtain rfl : last = e := Option.some.inj (hnewest.symm.trans hlast)
    have hstack := h.stack hi
    rw [Intake.products, hentries, List.map_append, List.reverse_eq_iff, List.reverse_append,
      List.map_singleton, List.reverse_singleton, List.singleton_append] at hstack
    refine ⟨_, hstack, ?_, es, hentries⟩
    rw [List.reverse_reverse, Intake.products, Intake.entries_remove_last hentries]

/-- The newest product is taken from the top. -/
theorem Stacked.remove {p id : Uuid} {site : Site} {i : Intake} {e : Uuid × Item}
    (hactive : l.active? p = some (site, id, i)) (hlast : i.newest? = some e) :
    (l.putIntake p site id (i.remove e.1)).Stacked
      (past ++ [(.request (.removeFrom p), .verdict (.ok (.product (e.2.product e.1 id))))])
      times := by
  obtain ⟨-, hi, -⟩ := of_active?_some hactive
  obtain ⟨rest, hstack, hrest, es, hentries⟩ := h.of_newest? hi hlast
  have hinOrder := h.inOrder hi
  rw [hentries] at hinOrder
  refine h.putItems hkept hactive ?_ ?_ ?_ ?_ (fun id' hid => ?_) ?_ ?_
  · rfl
  · rfl
  · exact fun _ _ => rfl
  · rw [Deed.stackAfter_removed, hstack, List.erase_cons_head, hrest]
  · exact List.erase_of_not_mem fun hmem => hid (Past.reception_of_mem_stack hmem).symm
  · rw [Intake.entries_remove_last hentries]
    exact (List.pairwise_append.mp hinOrder).1
  · intro e' he'
    rw [Intake.entries_remove_last hentries] at he'
    exact h.dated hi e' (hentries ▸ List.mem_append_left _ he')

/-- **A request leaves the ledger told by its past as stacks.** -/
theorem Stacked.step {q : Request} (hgrow : l.Grows ids q)
    (htimes : ∀ t ∈ times, ∀ t' ∈ q.reading?, t.le t' = true) :
    (l.perform q).2.Stacked (past ++ [(.request q, .verdict (l.perform q).1)])
      (times ++ q.reading?.toList) := by
  have hmono : l.Stacked past (times ++ q.reading?.toList) :=
    h.mono fun t ht => List.mem_append_left _ ht
  have hturns := l.perform_turns q
  obtain ⟨v, l', hperform⟩ : ∃ v l', l.perform q = (v, l') := ⟨_, _, rfl⟩
  rw [hperform] at hturns ⊢
  show l'.Stacked (past ++ [(.request q, .verdict v)]) _
  change l.Turns q v l' at hturns
  cases hturns with
  | refused q failure =>
    refine hmono.snoc ?_ ?_ ?_ (fun _ _ => rfl) fun p => ?_
    · cases q <;> rfl
    · cases q <;> rfl
    · cases q <;> exact fun _ _ => rfl
    · have hregistered : Deed.registered? (.request q, .verdict (.error failure)) = none := by
        cases q <;> rfl
      rw [Past.registered_snoc, hregistered, Option.toList_none, List.append_nil]
      exact h.registered p
  | @created stamp id cityName registered site hfree hempty =>
    refine hmono.snoc rfl rfl (fun _ _ => rfl) (intake?_put_new hfree hempty) fun p => ?_
    rw [Past.registered_snoc, List.mem_append, h.registered, Table.get?_put]
    by_cases hp : p = id
    · rw [if_pos hp, hp]
      exact iff_of_true (.inr List.mem_cons_self) ⟨site, rfl⟩
    · rw [if_neg hp]
      exact or_iff_left fun hmem => hp (List.mem_singleton.mp hmem)
  | found =>
    refine hmono.snoc rfl rfl (fun _ _ => rfl) (fun _ _ => rfl) fun p => ?_
    rw [Past.registered_snoc]
    exact (List.append_nil _).symm ▸ h.registered p
  | @opened stamp p site hsite hfree =>
    have hlt := hgrow.lt hperform rfl
    have hnew := hkept.intake?_fresh hlt
    have hafter : ∀ p', Deed.activeAfter p' (Past.active? p' past)
        (.request (.openAt stamp p), .verdict (.ok (.reception (.begun stamp.fresh p stamp.now)))) =
          if p' = p then some stamp.fresh else Past.active? p' past := fun _ => rfl
    refine hmono.putIntake hsite rfl hafter (fun id' => ?_) (fun id' i hi hin => ?_)
      (fun p' i hi => ?_) ?_ (fun _ _ => rfl) .nil fun _ he => (List.not_mem_nil he).elim
    · show some stamp.fresh = some id' ↔ id' = stamp.fresh ∧ StatusKind.inProgress = .inProgress
      rw [Option.some.injEq, eq_comm]
      exact (and_iff_left rfl).symm
    · exact absurd hin (of_active?_none hfree hi)
    · rw [hnew p'] at hi
      cases hi
    · exact congrArg List.reverse (h.unopened hnew)
  | @closed p id site i hactive =>
    obtain ⟨hsite, hi, hin⟩ := of_active?_some hactive
    have hinOrder := h.inOrder hi
    have hdated := hmono.dated hi
    have hstack := h.stack hi
    refine hmono.putIntake hsite rfl (fun _ => rfl) (fun id' => ?_) (fun id' j hj hin' => ?_)
      (fun p' j hj => ?_) hstack (fun _ _ => rfl) hinOrder hdated
    · exact iff_of_false nofun fun hclosed => nomatch hclosed.2
    · exact hkept.inProgress_unique hi hin hj hin'
    · exact hkept.intake_unique hi hj
  | @added stamp p id typeName type site i hactive =>
    exact h.add hkept hactive (hgrow.lt hperform rfl) fun t ht => htimes t ht _ rfl
  | removed hactive hlast => exact hmono.remove hkept hactive hlast

omit hkept in
/-- An addition is told what it is told on a stack. -/
theorem Stacked.addition (stamp : Stamp) (p : Uuid) (typeName : String) :
    (l.perform (.addTo stamp p typeName)).1 = Past.addition stamp p typeName past := by
  rw [perform, Past.addition]
  cases hactive : l.active? p with
  | none => rw [h.active?_none hactive]
  | some found =>
    rw [h.active?_some hactive]
    cases Seed.productType? typeName <;> rfl

omit hkept in
/-- A removal is told what it is told on a stack. -/
theorem Stacked.removal (p : Uuid) : (l.perform (.removeFrom p)).1 = Past.removal p past := by
  rw [perform, Past.removal]
  cases hsite : l.get? p with
  | none =>
    have hfree : l.active? p = none := by rw [active?, hsite]; rfl
    have hunknown : p ∉ Past.registered past := by
      rw [h.registered, hsite]
      rintro ⟨site, hsome⟩
      cases hsome
    simp only [h.active?_none hfree, if_neg hunknown]
  | some site =>
    have hknown : p ∈ Past.registered past := (h.registered p).mpr ⟨site, hsite⟩
    cases hactive : l.active? p with
    | none => simp only [h.active?_none hactive, if_pos hknown]
    | some found =>
      obtain ⟨site', id, i⟩ := found
      obtain ⟨-, hi, -⟩ := of_active?_some hactive
      simp only [h.active?_some hactive]
      cases hlast : i.newest? with
      | some e =>
        obtain ⟨rest, hstack, -⟩ := h.of_newest? hi hlast
        simp only [hstack]
      | none =>
        have hentries : i.items.entries = [] := greatest?_eq_none.mp hlast
        have hstack := h.stack hi
        rw [Intake.products, hentries, List.map_nil, List.reverse_eq_nil_iff] at hstack
        simp only [hstack]

/-- **A request is told what it is told on stacks.** -/
theorem Stacked.asStack {q : Request} (hgrow : l.Grows ids q) :
    Deed.AsStack past (.request q, .verdict (l.perform q).1) := by
  cases q with
  | openAt stamp p =>
    have hturns := l.perform_turns (.openAt stamp p)
    obtain ⟨v, l', hperform⟩ : ∃ v l', l.perform (.openAt stamp p) = (v, l') := ⟨_, _, rfl⟩
    rw [hperform] at hturns ⊢
    change l.Turns _ v l' at hturns
    cases hturns with
    | refused _ failure => trivial
    | opened hsite hfree =>
      exact h.unopened (hkept.intake?_fresh (hgrow.lt hperform rfl))
  | addTo stamp p typeName => exact congrArg Report.verdict (h.addition stamp p typeName)
  | removeFrom p =>
    refine ⟨congrArg Report.verdict (h.removal p), fun x hx => ?_⟩
    have hremoval : Past.removal p past = .ok (.product x) :=
      (h.removal p).symm.trans (Report.verdict.inj hx)
    obtain ⟨reception, y, rest, hactive, hstack, hy⟩ := Past.of_removal_eq_ok hremoval
    obtain rfl := Outcome.product.inj hy
    have hmem : x ∈ Past.stack reception past := hstack ▸ List.mem_cons_self
    rw [hactive, Past.reception_of_mem_stack hmem]
  | _ => trivial

end Step

end Ledger
end PickupLedger
