import Mathlib.Data.List.Induction
import PickupLedger.Proofs.Interchange

/-!
# Receptions as stacks

What operations one after the other have reported tells what is in every reception: the
products that were added to it and not taken back since, the latest on top (`Past.stack`).  It also
tells which reception of a pickup point is in progress (`Past.active?`).  So the past says what the
next operation has to report if receptions are stacks (`Deed.AsStack`): an opening starts an
empty one, an addition puts its product on the one in progress, and a removal takes from its
top (`Past.removal`).

So as many products were added to a reception as were removed and are in it
(`AsStacks.counted`), and as many removals as additions before them take the products out again
in the reverse order (`AsStacks.thereAndBack`).
-/

namespace PickupLedger

/-- **An operation and what it reported.** -/
abbrev Deed := Command × Report

/-! ## What the past tells -/

namespace Deed

/-- The product that was added. -/
def added? : Deed → Option Product
  | (.request (.addTo ..), .verdict (.ok (.product x))) => some x
  | _ => none

/-- The product that was removed. -/
def removed? : Deed → Option Product
  | (.request (.removeFrom _), .verdict (.ok (.product x))) => some x
  | _ => none

/-- The pickup point that was registered. -/
def registered? : Deed → Option Uuid
  | (.request (.create _ id _ _), .verdict (.ok _)) => some id
  | _ => none

/-- What is in a reception after the deed. -/
def stackAfter (reception : Uuid) (xs : List Product) (d : Deed) : List Product :=
  match d.added?, d.removed? with
  | some x, _ => if x.reception = reception then x :: xs else xs
  | none, some x => xs.erase x
  | none, none => xs

/-- The reception of a pickup point that is in progress after the deed. -/
def activeAfter (pickupPoint : Uuid) (active : Option Uuid) : Deed → Option Uuid
  | (.request (.openAt _ p), .verdict (.ok (.reception r))) =>
    if pickupPoint = p then some r.id else active
  | (.request (.closeAt p), .verdict (.ok _)) => if pickupPoint = p then none else active
  | _ => active

end Deed

namespace Past

/-- **What is in a reception**: the products that were added to it and not removed since, the
latest on top. -/
def stack (reception : Uuid) (past : List Deed) : List Product :=
  past.foldl (Deed.stackAfter reception) []

/-- **The reception in progress at a pickup point**: the one opened last, unless it was closed. -/
def active? (pickupPoint : Uuid) (past : List Deed) : Option Uuid :=
  past.foldl (Deed.activeAfter pickupPoint) none

/-- The pickup points that were registered. -/
def registered (past : List Deed) : List Uuid := past.filterMap Deed.registered?

/-- How many products of a reception there are among those that deeds tell of. -/
def count (product? : Deed → Option Product) (reception : Uuid) (past : List Deed) : Nat :=
  (past.filterMap product?).countP fun x => x.reception = reception

/-- How many products were added to a reception. -/
def additions (reception : Uuid) (past : List Deed) : Nat := count Deed.added? reception past

/-- How many products were removed from a reception. -/
def removals (reception : Uuid) (past : List Deed) : Nat := count Deed.removed? reception past

/-! ## What operations on a stack report -/

/-- **What an addition reports**: the new product, in the reception in progress. -/
def addition (stamp : Stamp) (pickupPoint : Uuid) (typeName : String) (past : List Deed) :
    Verdict :=
  match active? pickupPoint past with
  | none => .error (.noActiveReception pickupPoint)
  | some reception =>
    match Seed.productType? typeName with
    | none => .error (.unknownProductType typeName)
    | some type => .ok (.product (.ofType stamp.fresh reception stamp.now type))

/-- **What a removal reports**: the product on top of the reception in progress. -/
def removal (pickupPoint : Uuid) (past : List Deed) : Verdict :=
  match active? pickupPoint past with
  | none =>
    if pickupPoint ∈ registered past then .error (.noActiveReception pickupPoint)
    else .error (.pickupPointNotFound pickupPoint)
  | some reception =>
    match stack reception past with
    | [] => .error (.noProductToRemove pickupPoint)
    | x :: _ => .ok (.product x)

end Past

open Past

/-- **The deed takes receptions for stacks.**  What is removed is from the reception in progress
and no other. -/
def Deed.AsStack (past : List Deed) : Deed → Prop
  | (.request (.openAt _ _), .verdict (.ok (.reception r))) => stack r.id past = []
  | (.request (.addTo stamp p typeName), report) =>
    report = .verdict (addition stamp p typeName past)
  | (.request (.removeFrom p), report) =>
    report = .verdict (removal p past) ∧
      ∀ x, report = .verdict (.ok (.product x)) → active? p past = some x.reception
  | _ => True

/-- **Deeds that take receptions for stacks**, one after the other. -/
def AsStacks (past : List Deed) : List Deed → Prop
  | [] => True
  | d :: ds => d.AsStack past ∧ AsStacks (past ++ [d]) ds

namespace Deed

@[simp] theorem stackAfter_added {stamp : Stamp} {p reception : Uuid} {typeName : String}
    {x : Product} {xs : List Product} :
    stackAfter reception xs (.request (.addTo stamp p typeName), .verdict (.ok (.product x))) =
      if x.reception = reception then x :: xs else xs := rfl

@[simp] theorem stackAfter_removed {p reception : Uuid} {x : Product} {xs : List Product} :
    stackAfter reception xs (.request (.removeFrom p), .verdict (.ok (.product x))) =
      xs.erase x := rfl

theorem of_added? {d : Deed} {x : Product} (h : d.added? = some x) : ∃ stamp p typeName,
    d = (.request (.addTo stamp p typeName), .verdict (.ok (.product x))) := by
  rw [added?.eq_def] at h
  split at h
  · exact ⟨_, _, _, by rw [Option.some.inj h]⟩
  · cases h

theorem of_removed? {d : Deed} {x : Product} (h : d.removed? = some x) :
    ∃ p, d = (.request (.removeFrom p), .verdict (.ok (.product x))) := by
  rw [removed?.eq_def] at h
  split at h
  · exact ⟨_, by rw [Option.some.inj h]⟩
  · cases h

end Deed

namespace Past
variable {past : List Deed} {reception p : Uuid}

theorem stack_snoc (d : Deed) :
    stack reception (past ++ [d]) = d.stackAfter reception (stack reception past) := by
  rw [stack, List.foldl_append]
  rfl

theorem active?_snoc (d : Deed) : active? p (past ++ [d]) = d.activeAfter p (active? p past) := by
  rw [active?, List.foldl_append]
  rfl

theorem registered_snoc (d : Deed) :
    registered (past ++ [d]) = registered past ++ d.registered?.toList := by
  rw [registered, List.filterMap_append]
  cases h : d.registered? <;> simp [registered, h]

theorem count_snoc (product? : Deed → Option Product) (d : Deed) :
    count product? reception (past ++ [d]) = count product? reception past +
      (product? d).toList.countP fun x => x.reception = reception := by
  rw [count, List.filterMap_append, List.countP_append, ← count]
  cases h : product? d <;> simp [h]

/-- A reception has products of its own. -/
theorem reception_of_mem_stack {x : Product} (h : x ∈ stack reception past) :
    x.reception = reception := by
  induction past using List.reverseRecOn with
  | nil => cases h
  | append_singleton past d ih =>
    rw [stack_snoc, Deed.stackAfter] at h
    split at h
    · split at h
      · next hown =>
        rcases List.mem_cons.mp h with rfl | h
        · exact hown
        · exact ih h
      · exact ih h
    · exact ih (List.mem_of_mem_erase h)
    · exact ih h

/-- The product on top goes, and other receptions have not got it. -/
theorem stack_removed {x : Product} {rest : List Product} (hstack : stack reception past = x :: rest)
    (p id : Uuid) :
    stack id (past ++ [(.request (.removeFrom p), .verdict (.ok (.product x)))]) =
      if id = reception then rest else stack id past := by
  rw [stack_snoc, Deed.stackAfter_removed]
  split
  · next hid => rw [hid, hstack, List.erase_cons_head]
  · next hid =>
    have hmem : x ∈ stack reception past := by
      rw [hstack]
      exact List.mem_cons_self
    have hown := reception_of_mem_stack hmem
    exact List.erase_of_not_mem fun hmem' => hid ((reception_of_mem_stack hmem').symm.trans hown)

/-- An addition of a product puts it in the reception in progress. -/
theorem of_addition_eq_ok {stamp : Stamp} {typeName : String} {o : Outcome}
    (h : addition stamp p typeName past = .ok o) : ∃ reception type,
      active? p past = some reception ∧
        o = .product (.ofType stamp.fresh reception stamp.now type) := by
  rw [addition] at h
  cases hactive : active? p past with
  | none =>
    rw [hactive] at h
    cases h
  | some reception =>
    cases htype : Seed.productType? typeName with
    | none =>
      rw [hactive, htype] at h
      cases h
    | some type =>
      rw [hactive, htype] at h
      exact ⟨reception, type, rfl, (Except.ok.inj h).symm⟩

/-- A removal of a product finds it on top of the reception in progress. -/
theorem of_removal_eq_ok {o : Outcome} (h : removal p past = .ok o) : ∃ reception x rest,
    active? p past = some reception ∧ stack reception past = x :: rest ∧ o = .product x := by
  rw [removal] at h
  cases hactive : active? p past with
  | none =>
    rw [hactive] at h
    dsimp only at h
    split at h <;> cases h
  | some reception =>
    rw [hactive] at h
    cases hstack : stack reception past with
    | nil =>
      simp only [hstack] at h
      cases h
    | cons x rest =>
      simp only [hstack] at h
      exact ⟨reception, x, rest, rfl, hstack, (Except.ok.inj h).symm⟩

end Past

/-! ## Deeds in a row -/

/-- Additions to one pickup point in a row, each with what it is given. -/
def Command.additions (p : Uuid) (adds : List (Stamp × String)) : List Command :=
  adds.map fun a => .request (.addTo a.1 p a.2)

/-- As many removals from one pickup point in a row. -/
def Command.removals (p : Uuid) (n : Nat) : List Command :=
  List.replicate n (.request (.removeFrom p))

namespace AsStacks
variable {past ds ds' : List Deed} {p reception : Uuid}

theorem append : AsStacks past (ds ++ ds') ↔ AsStacks past ds ∧ AsStacks (past ++ ds) ds' := by
  induction ds generalizing past with
  | nil => simp [AsStacks]
  | cons d ds ih =>
    rw [List.cons_append, AsStacks, AsStacks, ih, List.append_assoc, and_assoc]
    rfl

/-- **As many products as were added** and not removed are in a reception. -/
theorem counted (h : AsStacks [] past) (reception : Uuid) :
    additions reception past = removals reception past + (stack reception past).length := by
  induction past using List.reverseRecOn with
  | nil => rfl
  | append_singleton past d ih =>
    obtain ⟨hpast, hd, -⟩ := append.mp h
    have hbefore := ih hpast
    rw [additions, removals] at hbefore ⊢
    rw [count_snoc, count_snoc, stack_snoc, Deed.stackAfter]
    cases hadded : d.added? with
    | some x =>
      obtain ⟨stamp, p, typeName, rfl⟩ := Deed.of_added? hadded
      have hremoved : Deed.removed? (.request (.addTo stamp p typeName), .verdict (.ok (.product x))) =
          none := rfl
      rw [hremoved]
      by_cases hown : x.reception = reception
      · simp only [Option.toList_some, Option.toList_none, List.countP_nil, List.countP_singleton,
          hown, decide_true, if_true, List.length_cons]
        omega
      · simp only [Option.toList_some, Option.toList_none, List.countP_nil, List.countP_singleton,
          hown, decide_false, Bool.false_eq_true, if_false]
        omega
    | none =>
    cases hremoved : d.removed? with
    | none => exact hbefore
    | some x =>
      obtain ⟨p, rfl⟩ := Deed.of_removed? hremoved
      obtain ⟨own, y, rest, -, hstack, hy⟩ := of_removal_eq_ok (Report.verdict.inj hd.1).symm
      obtain rfl := Outcome.product.inj hy
      have hown : x.reception = own := reception_of_mem_stack (hstack ▸ List.mem_cons_self)
      have hafter := stack_removed hstack p reception
      rw [stack_snoc, Deed.stackAfter_removed] at hafter
      simp only [Option.toList_none, Option.toList_some, List.countP_nil, List.countP_singleton,
        decide_eq_true_eq, hown]
      rw [List.nil_append] at hstack hafter
      rw [hafter]
      by_cases hreception : reception = own
      · rw [hreception] at hbefore ⊢
        rw [hstack, List.length_cons] at hbefore
        rw [if_pos rfl, if_pos rfl]
        omega
      · rw [if_neg hreception, if_neg (Ne.symm hreception)]
        omega

/-- **Additions in a row** put their products on top of one reception, the latest first. -/
theorem adding {adds : List (Stamp × String)} {reports : List Report}
    (hactive : active? p past = some reception) (hlength : reports.length = adds.length)
    (hok : ∀ report ∈ reports, ∃ x, report = .verdict (.ok (.product x)))
    (h : AsStacks past ((Command.additions p adds).zip reports)) :
    let past' := past ++ (Command.additions p adds).zip reports
    ∃ xs : List Product, reports = xs.map (fun x => .verdict (.ok (.product x))) ∧
      active? p past' = some reception ∧
      ∀ id, stack id past' =
        if id = reception then xs.reverse ++ stack reception past else stack id past := by
  induction adds generalizing past reports with
  | nil =>
    obtain rfl := List.eq_nil_of_length_eq_zero hlength
    refine ⟨[], rfl, by simpa using hactive, fun id => ?_⟩
    by_cases hid : id = reception <;> simp [hid]
  | cons a adds ih =>
    obtain ⟨report, reports, rfl⟩ := List.exists_cons_of_length_eq_add_one hlength
    obtain ⟨⟨x, rfl⟩, hok'⟩ := List.forall_mem_cons.mp hok
    obtain ⟨hd, hrest⟩ := h
    obtain ⟨own, type, hown, hx⟩ := of_addition_eq_ok (Report.verdict.inj hd).symm
    have hreception : x.reception = reception := by
      rw [Outcome.product.inj hx, Option.some.inj (hactive.symm.trans hown)]
      rfl
    have hactive' : active? p (past ++
        [(.request (.addTo a.1 p a.2), .verdict (.ok (.product x)))]) = some reception :=
      (active?_snoc _).trans hactive
    obtain ⟨xs, hreports, hactive', hstack⟩ := ih hactive' (Nat.succ.inj hlength) hok' hrest
    rw [List.append_assoc] at hactive' hstack
    refine ⟨x :: xs, congrArg _ hreports, hactive', fun id => (hstack id).trans ?_⟩
    rw [stack_snoc, stack_snoc]
    by_cases hid : id = reception
    · simp [hid, hreception]
    · have hne : ¬ x.reception = id := fun heq => hid (heq.symm.trans hreception)
      simp [hid, hne]

/-- **Removals in a row** take the products from the top of one reception. -/
theorem removing {xs ys : List Product} {reports : List Report}
    (hactive : active? p past = some reception) (hstack : stack reception past = xs ++ ys)
    (hlength : reports.length = xs.length)
    (h : AsStacks past ((Command.removals p xs.length).zip reports)) :
    let past' := past ++ (Command.removals p xs.length).zip reports
    reports = xs.map (fun x => .verdict (.ok (.product x))) ∧
      ∀ id, stack id past' = if id = reception then ys else stack id past := by
  induction xs generalizing past reports with
  | nil =>
    obtain rfl := List.eq_nil_of_length_eq_zero hlength
    refine ⟨rfl, fun id => ?_⟩
    by_cases hid : id = reception
    · simp [hid, hstack]
    · simp [hid]
  | cons x xs ih =>
    obtain ⟨report, reports, rfl⟩ := List.exists_cons_of_length_eq_add_one hlength
    obtain ⟨⟨hreport, -⟩, hrest⟩ := h
    have hremoval : removal p past = .ok (.product x) := by
      rw [removal, hactive]
      simp only [hstack, List.cons_append]
    rw [hremoval] at hreport
    subst hreport
    have hafter := stack_removed (hstack.trans (List.cons_append ..)) p
    have hstack' := hafter reception
    rw [if_pos rfl] at hstack'
    have hactive' : active? p (past ++
        [(.request (.removeFrom p), .verdict (.ok (.product x)))]) = some reception :=
      (active?_snoc _).trans hactive
    obtain ⟨hreports, hstacks⟩ := ih hactive' hstack' (Nat.succ.inj hlength) hrest
    refine ⟨congrArg _ hreports, fun id => ?_⟩
    have hid := hstacks id
    rw [List.append_assoc, hafter] at hid
    refine hid.trans ?_
    split <;> rfl

/-- **As many removals as additions** take the products out again in the reverse order, and all
receptions are as they were. -/
theorem thereAndBack {adds : List (Stamp × String)} {reports reports' : List Report}
    (hlength : reports.length = adds.length) (hlength' : reports'.length = adds.length)
    (hok : ∀ report ∈ reports, ∃ x, report = .verdict (.ok (.product x)))
    (h : AsStacks past ((Command.additions p adds).zip reports))
    (h' : AsStacks (past ++ (Command.additions p adds).zip reports)
      ((Command.removals p adds.length).zip reports')) :
    reports' = reports.reverse ∧
      ∀ id, stack id (past ++ (Command.additions p adds).zip reports ++
        (Command.removals p adds.length).zip reports') = stack id past := by
  by_cases hnone : adds = []
  · subst hnone
    obtain rfl := List.eq_nil_of_length_eq_zero hlength
    obtain rfl := List.eq_nil_of_length_eq_zero hlength'
    refine ⟨rfl, fun id => ?_⟩
    simp [Command.additions, Command.removals]
  · -- The first product goes into the reception in progress, and so do the others.
    obtain ⟨reception, hactive⟩ : ∃ reception, active? p past = some reception := by
      obtain ⟨first, rest, rfl⟩ := List.exists_cons_of_ne_nil hnone
      obtain ⟨report, reports, rfl⟩ := List.exists_cons_of_length_eq_add_one hlength
      obtain ⟨x, hreport⟩ := hok report List.mem_cons_self
      have hfirst : report = .verdict (addition first.1 p first.2 past) := h.1
      rw [hreport] at hfirst
      obtain ⟨reception, -, hactive, -⟩ := of_addition_eq_ok (Report.verdict.inj hfirst).symm
      exact ⟨reception, hactive⟩
    obtain ⟨xs, hreports, hactive', hstacks⟩ := adding hactive hlength hok h
    have hxs : xs.reverse.length = adds.length := by
      rw [List.length_reverse, ← hlength, hreports, List.length_map]
    have hstack := hstacks reception
    rw [if_pos rfl] at hstack
    rw [← hxs] at h' hlength' ⊢
    obtain ⟨hback, hstacks'⟩ := removing hactive' hstack hlength' h'
    refine ⟨by rw [hback, hreports, List.map_reverse], fun id => (hstacks' id).trans ?_⟩
    by_cases hid : id = reception
    · rw [if_pos hid, hid]
    · rw [if_neg hid, hstacks, if_neg hid]

end AsStacks

end PickupLedger
