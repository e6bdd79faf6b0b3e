import PickupLedger.Proofs.RowOrder

/-!
# What belongs to one pickup point

The records of all pickup points share the tables of the store in memory.  `InMemory.only` cuts
out what belongs to one of them: itself, its receptions, its entry in `active`, and the products
of its receptions.

A call that is about a pickup point (`Call.About`) needs no more than that: it is answered as if
there were no other, does to the part what it does to the whole, and leaves what belongs to any
other as it is (`InMemory.Concerns`, `InMemory.Sound.concerns`).  Since every product belongs to
some reception (`InMemory.Owned`), the parts make up the whole (`InMemory.Owned.rearranged`).
-/

namespace PickupLedger

attribute [ext] InMemory

/-! ## Parts of a table -/

namespace Table
variable {κ ρ : Type} [DecidableEq κ] {t : Table κ ρ} {k : κ} {r : ρ}

omit [DecidableEq κ] in
theorem entries_keep (t : Table κ ρ) (p : κ → ρ → Bool) :
    (t.keep p).entries = t.entries.filter fun e => p e.1 e.2 := rfl

theorem get?_keep (t : Table κ ρ) (p : κ → ρ → Bool) (k : κ) :
    (t.keep p).get? k = (t.get? k).filter (p k) := by
  refine Option.ext fun r => ?_
  rw [get?_eq_some_iff, keep, List.mem_filter, Option.filter_eq_some_iff, get?_eq_some_iff]

/-- The same test on the rows that are there. -/
theorem keep_congr {p p' : κ → ρ → Bool} (h : ∀ {k r}, t.get? k = some r → p k r = p' k r) :
    t.keep p = t.keep p' :=
  ext (List.filter_congr fun _ he => h (get?_eq_some_iff.mpr he))

/-- A row put in place of one that passes the test as it does: it takes its place among those that
pass, or is none of them. -/
theorem keep_put {p : κ → ρ → Bool} (hold : ∀ r', t.get? k = some r' → p k r' = p k r) :
    (t.put k r).keep p = if p k r = true then (t.keep p).put k r else t.keep p := by
  refine ext ?_
  rw [apply_ite Table.entries]
  cases hget : t.get? k with
  | none =>
    have hkeep : (t.keep p).get? k = none := by rw [get?_keep, hget, Option.filter_none]
    rw [entries_put_of_none hkeep, entries_keep, entries_put_of_none hget, List.filter_append,
      ← entries_keep]
    by_cases hr : p k r = true
    · simp only [hr, if_true, List.filter_cons, List.filter_nil]
    · simp only [hr, Bool.false_eq_true, if_false, List.filter_cons, List.filter_nil,
        List.append_nil]
  | some r' =>
    obtain ⟨before, after, hentries⟩ := List.append_of_mem (get?_eq_some_iff.mp hget)
    have hput := entries_put_of_entries hentries r
    have hkeep : (t.keep p).entries =
        before.filter (fun e => p e.1 e.2) ++ ((k, r') :: after).filter fun e => p e.1 e.2 := by
      rw [entries_keep, hentries, List.filter_append]
    rw [List.filter_cons, hold r' hget] at hkeep
    rw [entries_keep, hput, List.filter_append, List.filter_cons]
    by_cases hr : p k r = true
    · simp only [hr, if_true] at hkeep ⊢
      exact (entries_put_of_entries hkeep r).symm
    · simp only [hr, Bool.false_eq_true, if_false] at hkeep ⊢
      exact hkeep.symm

theorem keep_put_of_pos {p : κ → ρ → Bool} (hr : p k r = true)
    (hold : ∀ r', t.get? k = some r' → p k r' = true) :
    (t.put k r).keep p = (t.keep p).put k r :=
  (keep_put fun r' h => (hold r' h).trans hr.symm).trans (if_pos hr)

theorem keep_put_of_neg {p : κ → ρ → Bool} (hr : p k r = false)
    (hold : ∀ r', t.get? k = some r' → p k r' = false) : (t.put k r).keep p = t.keep p :=
  (keep_put fun r' h => (hold r' h).trans hr.symm).trans (if_neg (ne_true_of_eq_false hr))

theorem keep_erase (t : Table κ ρ) (p : κ → ρ → Bool) (k : κ) :
    (t.erase k).keep p = (t.keep p).erase k :=
  ext (by simp only [keep, erase, List.filter_filter, Bool.and_comm])

/-! A test on keys only. -/

section Keys
variable {key : κ}

theorem get?_keep_key : (t.keep fun k _ => k = key).get? key = t.get? key := by
  rw [get?_keep]
  cases t.get? key with
  | none => rfl
  | some r => rw [Option.filter_some, if_pos (decide_eq_true rfl)]

theorem keep_key_put : (t.put key r).keep (fun k _ => k = key) =
    (t.keep fun k _ => k = key).put key r :=
  keep_put_of_pos (p := fun k _ => k = key) (decide_eq_true rfl) fun _ _ => decide_eq_true rfl

theorem keep_key_put_of_ne (hne : k ≠ key) : (t.put k r).keep (fun k _ => k = key) =
    t.keep fun k _ => k = key :=
  keep_put_of_neg (p := fun k _ => k = key) (decide_eq_false hne) fun _ _ => decide_eq_false hne

end Keys

/-- What fails the test may go. -/
theorem keep_erase_of_neg {p : κ → ρ → Bool} (hold : ∀ r', t.get? k = some r' → p k r' = false) :
    (t.erase k).keep p = t.keep p := by
  rw [keep_erase]
  refine erase_of_none ?_
  rw [get?_keep]
  cases hrow : t.get? k with
  | none => rfl
  | some r => rw [Option.filter_some, hold r hrow]; rfl

end Table

/-! ## The part of one pickup point -/

/-- The reception is on the books, at this pickup point. -/
def Books.IsAt (b : Books) (p reception : Uuid) : Prop :=
  ∃ r, b.reception? reception = some r ∧ r.pickupPoint = p

namespace InMemory

/-- The reception is one of this pickup point. -/
def isAt (s : InMemory) (p reception : Uuid) : Bool :=
  (s.receptions.get? reception).any fun r => r.pickupPoint = p

/-- The product is of a reception of this pickup point. -/
def hasProduct (s : InMemory) (p _id : Uuid) (x : Product) : Bool := s.isAt p x.reception

/-- **The store with what belongs to one pickup point**, and no other records. -/
def only (s : InMemory) (p : Uuid) : InMemory :=
  { s with
    pickupPoints := s.pickupPoints.keep fun id _ => id = p
    receptions := s.receptions.keep fun _ r => r.pickupPoint = p
    active := s.active.keep fun id _ => id = p
    products := s.products.keep (s.hasProduct p) }

/-- **Every product belongs to a reception.** -/
def Owned (s : InMemory) : Prop :=
  ∀ id x, s.products.get? id = some x → ∃ r, s.receptions.get? x.reception = some r

section Reading
variable {s : InMemory} {p reception : Uuid}

theorem isAt_iff : s.isAt p reception = true ↔
    ∃ r, s.receptions.get? reception = some r ∧ r.pickupPoint = p := by
  simp only [isAt, Option.any_eq_true, decide_eq_true_eq]

theorem Filed.isAt_iff (hs : s.Filed) : s.books.IsAt p reception ↔ s.isAt p reception = true := by
  rw [InMemory.isAt_iff]
  constructor
  · rintro ⟨r, hr, hp⟩
    obtain ⟨row, hrow, hshown⟩ := Option.bind_eq_some_iff.mp hr
    have hmem : row ∈ s.receptions.rows := List.mem_map_of_mem (Table.get?_eq_some_iff.mp hrow)
    rw [hs.resolveReception hmem] at hshown
    obtain rfl := Option.some.inj hshown
    exact ⟨row, hrow, hp⟩
  · rintro ⟨row, hrow, hp⟩
    have hmem : row ∈ s.receptions.rows := List.mem_map_of_mem (Table.get?_eq_some_iff.mp hrow)
    refine ⟨s.shown row, ?_, hp⟩
    simp only [books, hrow, Option.bind_some, hs.resolveReception hmem]
    rfl

end Reading
/-! ## What is found in a part -/

section Parts
variable {s : InMemory} {p : Uuid}

@[simp] theorem only_kindOf : (s.only p).kindOf = s.kindOf := rfl

@[simp] theorem only_statusOf? : (s.only p).statusOf? = s.statusOf? := rfl

@[simp] theorem only_resolveReception : (s.only p).resolveReception = s.resolveReception := rfl

@[simp] theorem only_resolveProduct : (s.only p).resolveProduct = s.resolveProduct := rfl

theorem only_pickupPoints : (s.only p).pickupPoints.get? p = s.pickupPoints.get? p :=
  Table.get?_keep_key

theorem only_active : (s.only p).active.get? p = s.active.get? p := Table.get?_keep_key

theorem only_receptions {id : Uuid} (h : s.isAt p id = true) :
    (s.only p).receptions.get? id = s.receptions.get? id := by
  obtain ⟨row, hrow, hp⟩ := isAt_iff.mp h
  rw [only, Table.get?_keep, hrow, Option.filter_some, if_pos (decide_eq_true hp)]

theorem only_products {id : Uuid}
    (h : ∀ x, s.products.get? id = some x → s.isAt p x.reception = true) :
    (s.only p).products.get? id = s.products.get? id := by
  rw [only, Table.get?_keep]
  cases hrow : s.products.get? id with
  | none => rfl
  | some x => rw [Option.filter_some, hasProduct, if_pos (h x hrow)]

theorem only_lastProduct? {reception : Uuid} (h : s.isAt p reception = true) :
    (s.only p).lastProduct? reception = s.lastProduct? reception := by
  have hrows : (s.only p).products.rows = s.products.rows.filter fun x => s.isAt p x.reception := by
    rw [Table.rows, Table.rows, List.filter_map]
    rfl
  rw [lastProduct?, lastProduct?, hrows, List.filter_filter]
  refine congrArg Product.newest? (List.filter_congr fun x _ => ?_)
  by_cases hx : x.reception = reception
  · simp only [hx, h, decide_true, Bool.and_true]
  · simp only [hx, decide_false, Bool.false_and]

end Parts

end InMemory

/-! ## Calls about a pickup point -/

/-- **A call that is about a pickup point**: it concerns that pickup point, one of its receptions
or a product of one, or no record at all; what it adds is new. -/
def Call.About (p : Uuid) (b : Books) : Call → Prop
  | .cityByName _ | .statusOfKind _ | .productTypeByName _ => True
  | .addPickupPoint point => point.id = p
  | .pickupPointById id => id = p
  | .addReception r => r.pickupPoint = p ∧ b.reception? r.id = none
  | .receptionInStatus .inProgress pickupPoint => pickupPoint = p
  | .moveReception id _ _ => b.IsAt p id
  | .addProduct x => b.IsAt p x.reception ∧ b.product? x.id = none
  | .lastProduct reception => b.IsAt p reception
  | .deleteProduct id => ∀ x, b.product? id = some x → b.IsAt p x.reception
  | _ => False

namespace InMemory

/-! ## Writes, part by part -/

section Writes
variable {s : InMemory} {p : Uuid}

theorem only_putPoint (row : PickupPoint) :
    InMemory.only { s with pickupPoints := s.pickupPoints.put p row } p =
      { s.only p with pickupPoints := (s.only p).pickupPoints.put p row } :=
  InMemory.ext rfl rfl rfl Table.keep_key_put rfl rfl rfl rfl

theorem only_putPoint_other (row : PickupPoint) {other : Uuid} (hne : p ≠ other) :
    InMemory.only { s with pickupPoints := s.pickupPoints.put p row } other = s.only other :=
  InMemory.ext rfl rfl rfl (Table.keep_key_put_of_ne hne) rfl rfl rfl rfl

section Receptions
variable (howned : s.Owned) {id : Uuid} {row : Reception}
  (hsame : ∀ old, s.receptions.get? id = some old → old.pickupPoint = row.pickupPoint)
include howned hsame

/-- A reception that is new or stays at its pickup point changes the place of no product. -/
theorem Owned.products_putReception (active : Table Uuid Uuid) (q : Uuid) :
    (InMemory.only { s with active, receptions := s.receptions.put id row } q).products =
      (s.only q).products := by
  show s.products.keep _ = s.products.keep _
  refine Table.keep_congr fun {_ x} hx => ?_
  obtain ⟨r, hr⟩ := howned _ x hx
  simp only [hasProduct, isAt, Table.get?_put]
  split
  case isTrue heq =>
    rw [heq] at hr
    simp only [heq, hr, Option.any_some, hsame r hr]
  case isFalse => rfl

theorem Owned.only_putReception (active : Table Uuid Uuid) (hp : row.pickupPoint = p) :
    InMemory.only { s with active, receptions := s.receptions.put id row } p =
      { s.only p with
        active := active.keep fun q _ => q = p
        receptions := (s.only p).receptions.put id row } := by
  refine InMemory.ext rfl rfl rfl rfl ?_ rfl (howned.products_putReception hsame active p) rfl
  exact Table.keep_put_of_pos (p := fun _ r => r.pickupPoint = p) (decide_eq_true hp)
    fun old hold => decide_eq_true ((hsame old hold).trans hp)

theorem Owned.only_putReception_other {active : Table Uuid Uuid} {other : Uuid}
    (hne : row.pickupPoint ≠ other)
    (hactive : (active.keep fun q _ => q = other) = (s.only other).active) :
    InMemory.only { s with active, receptions := s.receptions.put id row } other =
      s.only other := by
  refine InMemory.ext rfl rfl rfl rfl ?_ hactive (howned.products_putReception hsame active other) rfl
  exact Table.keep_put_of_neg (p := fun _ r => r.pickupPoint = other) (decide_eq_false hne)
    fun old hold => decide_eq_false fun heq => hne ((hsame old hold).symm.trans heq)

end Receptions

/-- A product of the pickup point put into the store under an identifier that was free. -/
theorem only_putProduct {id : Uuid} (row : Product) (hrow : s.isAt p row.reception = true)
    (hnew : s.products.get? id = none) :
    InMemory.only { s with products := s.products.put id row } p =
      { s.only p with products := (s.only p).products.put id row } := by
  refine InMemory.ext rfl rfl rfl rfl rfl rfl ?_ rfl
  refine Table.keep_put_of_pos (p := s.hasProduct p) hrow fun old hold => ?_
  rw [hnew] at hold
  cases hold

/-- A reception belongs to one pickup point. -/
theorem isAt_other {reception other : Uuid} (h : s.isAt p reception = true) (hne : p ≠ other) :
    s.isAt other reception = false := by
  obtain ⟨row, hrow, rfl⟩ := isAt_iff.mp h
  rw [isAt, hrow, Option.any_some, decide_eq_false hne]

theorem only_putProduct_other {id : Uuid} (row : Product) (hrow : s.isAt p row.reception = true)
    (hnew : s.products.get? id = none) {other : Uuid} (hne : p ≠ other) :
    InMemory.only { s with products := s.products.put id row } other = s.only other := by
  refine InMemory.ext rfl rfl rfl rfl rfl rfl ?_ rfl
  refine Table.keep_put_of_neg (p := s.hasProduct other) (isAt_other hrow hne) fun old hold => ?_
  rw [hnew] at hold
  cases hold

theorem only_dropProduct (id : Uuid) : InMemory.only { s with products := s.products.erase id } p =
    { s.only p with products := (s.only p).products.erase id } :=
  InMemory.ext rfl rfl rfl rfl rfl rfl (Table.keep_erase _ (s.hasProduct p) _) rfl

theorem only_dropProduct_other {id : Uuid}
    (hold : ∀ x, s.products.get? id = some x → s.isAt p x.reception = true) {other : Uuid}
    (hne : p ≠ other) :
    InMemory.only { s with products := s.products.erase id } other = s.only other :=
  InMemory.ext rfl rfl rfl rfl rfl rfl
    (Table.keep_erase_of_neg (p := s.hasProduct other) fun x hx => isAt_other (hold x hx) hne) rfl

end Writes
/-! ## Calls, part by part -/

/-- **A call that concerns one part**: it is answered by the part as by the whole, does to the
part what it does to the whole, and leaves every other part as it is. -/
structure Concerns (s : InMemory) (p : Uuid) (c : Call) : Prop where
  own : answer c (s.only p) = ((answer c s).1, (answer c s).2.only p)
  other : ∀ {q}, p ≠ q → (answer c s).2.only q = s.only q

section Calls
variable {s : InMemory} {p : Uuid}

theorem Concerns.of_eq {c : Call} {a : Answer c} {s' t' : InMemory} (hwhole : answer c s = (a, s'))
    (hpart : answer c (s.only p) = (a, t')) (hown : s'.only p = t')
    (hother : ∀ {q}, p ≠ q → s'.only q = s.only q) : s.Concerns p c where
  own := by rw [hwhole, hpart, hown]
  other hne := by rw [hwhole]; exact hother hne

/-- What only looks at what is in the part. -/
theorem Concerns.of_look {c : Call} {a : Answer c} (hwhole : answer c s = (a, s))
    (hpart : answer c (s.only p) = (a, s.only p)) : s.Concerns p c :=
  .of_eq hwhole hpart rfl fun _ => rfl

theorem concerns_addPickupPoint (point : PickupPoint) :
    s.Concerns point.id (.addPickupPoint point) := by
  have hcontains : (s.only point.id).pickupPoints.contains point.id =
      s.pickupPoints.contains point.id := congrArg Option.isSome only_pickupPoints
  by_cases htaken : s.pickupPoints.contains point.id = true
  · refine .of_look (a := .error (.duplicate ("pickup_points.id = " ++ point.id.text))) ?_ ?_
    · simp only [answer, addPickupPoint, htaken, if_true]
    · simp only [answer, addPickupPoint, hcontains, htaken, if_true]
  · refine .of_eq (a := .ok point) ?_ ?_ (only_putPoint { point with city := none })
      fun hne => only_putPoint_other _ hne
    · simp only [answer, addPickupPoint, htaken, Bool.false_eq_true, if_false]
    · simp only [answer, addPickupPoint, hcontains, htaken, Bool.false_eq_true, if_false]

theorem concerns_pickupPointById : s.Concerns p (.pickupPointById p) :=
  .of_look rfl (by simp only [answer, only_pickupPoints]; rfl)

theorem Owned.concerns_addReception (howned : s.Owned) {r : Reception}
    (hnew : s.receptions.get? r.id = none) : s.Concerns r.pickupPoint (.addReception r) := by
  have hcontains : (s.only r.pickupPoint).active.contains r.pickupPoint =
      s.active.contains r.pickupPoint := congrArg Option.isSome only_active
  have hsame : ∀ old, s.receptions.get? r.id = some old →
      old.pickupPoint = ({ r with status := none } : Reception).pickupPoint := fun old hold => by
    rw [hnew] at hold
    cases hold
  cases hkind : s.kindOf r.statusId with
  | error e =>
    refine .of_look (a := .error e) ?_ ?_
    · simp only [answer, addReception, hkind]
    · simp only [answer, addReception, only_kindOf, hkind]
  | ok kind =>
    cases kind with
    | closed =>
      refine .of_eq (a := .ok r) ?_ ?_ (howned.only_putReception hsame s.active rfl)
        fun hne => howned.only_putReception_other hsame hne rfl
      · simp only [answer, addReception, hkind]
      · simp only [answer, addReception, only_kindOf, hkind]
        rfl
    | inProgress =>
      by_cases htaken : s.active.contains r.pickupPoint = true
      · refine .of_look (a := .error (occupied r.pickupPoint)) ?_ ?_
        · simp only [answer, addReception, hkind, htaken, if_true]
        · simp only [answer, addReception, only_kindOf, hkind, hcontains, htaken, if_true]
      · refine .of_eq (a := .ok r) ?_ ?_
          (howned.only_putReception hsame (s.active.put r.pickupPoint r.id) rfl)
          fun hne => howned.only_putReception_other hsame hne (Table.keep_key_put_of_ne hne)
        · simp only [answer, addReception, hkind, htaken, Bool.false_eq_true, if_false]
        · simp only [answer, addReception, only_kindOf, hkind, hcontains, htaken,
            Bool.false_eq_true, if_false, Table.keep_key_put]
          rfl

/-- The entry of a pickup point is cut out with it. -/
theorem shiftActive_only {row : Reception} (hp : row.pickupPoint = p) (source target : StatusKind) :
    (s.only p).shiftActive row source target =
      (s.shiftActive row source target).map (Option.map fun active => active.keep fun q _ => q = p) := by
  have hcontains : (s.only p).active.contains p = s.active.contains p :=
    congrArg Option.isSome only_active
  cases source <;> cases target <;> simp only [shiftActive, hp, only_active, hcontains]
  case inProgress.closed =>
    split
    · exact congrArg (fun t => Except.ok (some t)) (Table.keep_erase ..).symm
    · rfl
  case closed.inProgress =>
    split
    · rfl
    · exact congrArg (fun t => Except.ok (some t)) Table.keep_key_put.symm
  all_goals rfl

/-- The entries of other pickup points stay. -/
theorem shiftActive_other_part {row : Reception} {source target : StatusKind}
    {active : Table Uuid Uuid} (h : s.shiftActive row source target = .ok (some active)) {q : Uuid}
    (hne : row.pickupPoint ≠ q) :
    (active.keep fun p _ => p = q) = s.active.keep fun p _ => p = q := by
  cases source <;> cases target <;> simp only [shiftActive] at h
  case inProgress.closed =>
    split at h
    · rw [← Option.some.inj (Except.ok.inj h)]
      exact Table.keep_erase_of_neg (p := fun p _ => p = q) fun _ _ => decide_eq_false hne
    · cases h
  case closed.inProgress =>
    split at h
    · cases h
    · rw [← Option.some.inj (Except.ok.inj h)]
      exact Table.keep_key_put_of_ne hne
  all_goals rw [← Option.some.inj (Except.ok.inj h)]

theorem Sound.concerns_receptionInStatus (hs : s.Sound) :
    s.Concerns p (.receptionInStatus .inProgress p) := by
  have hfound : (s.only p).inStatus? .inProgress p = s.inStatus? .inProgress p := by
    simp only [inStatus?, only_statusOf?, hs.statusOf?, only_active]
    cases hactive : s.active.get? p with
    | none => rfl
    | some id =>
      obtain ⟨row, hrow, hp, -⟩ := hs.active_iff.mp hactive
      exact only_receptions (isAt_iff.mpr ⟨row, hrow, hp⟩)
  refine .of_look (a := (InMemory.answer (.receptionInStatus .inProgress p) s).1) rfl ?_
  simp only [InMemory.answer, hfound, only_resolveReception]

theorem Owned.concerns_moveReception (howned : s.Owned) {id : Uuid} (hat : s.isAt p id = true)
    (source target : RefId) : s.Concerns p (.moveReception id source target) := by
  obtain ⟨row, hrow, hp⟩ := isAt_iff.mp hat
  have hpart := (only_receptions hat).trans hrow
  have hsame : ∀ old, s.receptions.get? id = some old →
      old.pickupPoint = ({ row with statusId := target } : Reception).pickupPoint := fun old hold => by
    rw [← Option.some.inj (hrow.symm.trans hold)]
  cases hsource : s.kindOf source with
  | error e =>
    refine .of_look (a := .error e) ?_ ?_
    · simp only [answer, moveReception, hsource]
    · simp only [answer, moveReception, only_kindOf, hsource]
  | ok sourceKind =>
    cases htarget : s.kindOf target with
    | error e =>
      refine .of_look (a := .error e) ?_ ?_
      · simp only [answer, moveReception, hsource, htarget]
      · simp only [answer, moveReception, only_kindOf, hsource, htarget]
    | ok targetKind =>
      by_cases hstatus : row.statusId = source
      case neg =>
        refine .of_look (a := .ok none) ?_ ?_
        · simp only [answer, moveReception, hsource, htarget, hrow, hstatus, if_false]
        · simp only [answer, moveReception, only_kindOf, hsource, htarget, hpart, hstatus, if_false]
      case pos =>
        have hshift' := shiftActive_only (s := s) hp sourceKind targetKind
        cases hshift : s.shiftActive row sourceKind targetKind with
        | error e =>
          rw [hshift] at hshift'
          refine .of_look (a := .error e) ?_ ?_
          · simp only [answer, moveReception, hsource, htarget, hrow, hstatus, if_true, hshift]
          · simp only [answer, moveReception, only_kindOf, hsource, htarget, hpart, hstatus, if_true,
              hshift', Except.map]
        | ok shifted =>
          rw [hshift] at hshift'
          cases shifted with
          | none =>
            refine .of_look (a := .ok none) ?_ ?_
            · simp only [answer, moveReception, hsource, htarget, hrow, hstatus, if_true, hshift]
            · simp only [answer, moveReception, only_kindOf, hsource, htarget, hpart, hstatus,
                if_true, hshift', Except.map, Option.map_none]
          | some active =>
            refine .of_eq (a := .ok (some { row with statusId := target })) ?_ ?_
              (howned.only_putReception hsame active hp)
              fun hne => howned.only_putReception_other hsame (hp.trans_ne hne)
                (shiftActive_other_part hshift (hp.trans_ne hne))
            · simp only [answer, moveReception, hsource, htarget, hrow, hstatus, if_true, hshift]
            · simp only [answer, moveReception, only_kindOf, hsource, htarget, hpart, hstatus,
                if_true, hshift', Except.map, Option.map_some]

theorem concerns_addProduct {x : Product} (hat : s.isAt p x.reception = true)
    (hnew : s.products.get? x.id = none) : s.Concerns p (.addProduct x) := by
  obtain ⟨row, hrow, hp⟩ := isAt_iff.mp hat
  have hpart := (only_receptions hat).trans hrow
  by_cases hactive : s.active.get? p = some x.reception
  · refine .of_eq (a := .ok (some x)) ?_ ?_
      (only_putProduct { x with typeName := none } hat hnew)
      fun hne => only_putProduct_other { x with typeName := none } hat hnew hne
    · simp only [answer, addProduct, hrow, hp, hactive, if_true]
    · simp only [answer, addProduct, hpart, hp, only_active, hactive, if_true]
  · refine .of_look (a := .ok none) ?_ ?_
    · simp only [answer, addProduct, hrow, hp, hactive, if_false]
    · simp only [answer, addProduct, hpart, hp, only_active, hactive, if_false]

theorem concerns_lastProduct {reception : Uuid} (hat : s.isAt p reception = true) :
    s.Concerns p (.lastProduct reception) := by
  refine .of_look rfl ?_
  simp only [answer, only_lastProduct? hat, only_resolveProduct]

theorem concerns_deleteProduct {id : Uuid}
    (hat : ∀ x, s.products.get? id = some x → s.isAt p x.reception = true) :
    s.Concerns p (.deleteProduct id) := by
  have hcontains : (s.only p).products.contains id = s.products.contains id :=
    congrArg Option.isSome (only_products hat)
  refine .of_eq rfl ?_ (only_dropProduct id) fun hne => only_dropProduct_other hat hne
  simp only [answer, hcontains]

/-- **A call that is about a pickup point concerns its part only.** -/
theorem Sound.concerns (hs : s.Sound) (howned : s.Owned) {c : Call} (h : c.About p s.books) :
    s.Concerns p c := by
  have hf := hs.filed
  cases c with
  | cityByName name => exact .of_look rfl rfl
  | statusOfKind kind => exact .of_look rfl rfl
  | productTypeByName name => exact .of_look rfl rfl
  | addPickupPoint point =>
    obtain rfl : point.id = p := h
    exact concerns_addPickupPoint point
  | pickupPointById id =>
    obtain rfl : id = p := h
    exact concerns_pickupPointById
  | addReception r =>
    obtain ⟨rfl, hnew⟩ := h
    exact howned.concerns_addReception (hs.reception?_eq_none hnew)
  | receptionInStatus kind pickupPoint =>
    cases kind with
    | closed => exact h.elim
    | inProgress =>
      obtain rfl : pickupPoint = p := h
      exact hs.concerns_receptionInStatus
  | moveReception id source target =>
    exact howned.concerns_moveReception (hf.isAt_iff.mp h) source target
  | addProduct x =>
    exact concerns_addProduct (hf.isAt_iff.mp h.1) (Option.map_eq_none_iff.mp h.2)
  | lastProduct reception => exact concerns_lastProduct (hf.isAt_iff.mp h)
  | deleteProduct id =>
    refine concerns_deleteProduct fun x hx => hf.isAt_iff.mp (h (s.resolveProduct x) ?_)
    exact congrArg (Option.map s.resolveProduct) hx
  | _ => exact h.elim

end Calls

/-! ## The parts make up the whole -/

section Whole
variable {s t : InMemory}

theorem new_owned : new.Owned := fun _ _ hx => absurd hx (Option.some_ne_none _).symm

/-- Receptions stay, and the store asks for one before it takes a product. -/
theorem Owned.answer (hs : s.Owned) (c : Call) : (InMemory.answer c s).2.Owned := by
  have hput : ∀ (id : Uuid) (row : Reception) (active : Table Uuid Uuid),
      Owned { s with active, receptions := s.receptions.put id row } := by
    intro id row active key x hx
    simp only [Table.get?_put]
    split
    case isTrue => exact ⟨row, rfl⟩
    case isFalse => exact hs key x hx
  cases c with
  | addPickupPoint point =>
    rw [InMemory.answer, addPickupPoint]
    split <;> exact hs
  | addReception r =>
    rw [InMemory.answer, addReception]
    cases s.kindOf r.statusId with
    | error e => exact hs
    | ok kind =>
      cases kind with
      | closed => exact hput _ _ _
      | inProgress =>
        simp only
        split
        case isTrue => exact hs
        case isFalse => exact hput _ _ _
  | moveReception id source target =>
    rw [InMemory.answer, moveReception]
    split
    · exact hs
    · exact hs
    · split
      · exact hs
      · split
        · split
          · exact hs
          · exact hs
          · exact hput _ _ _
        · exact hs
  | addProduct x =>
    rw [InMemory.answer, addProduct]
    cases hrow : s.receptions.get? x.reception with
    | none => exact hs
    | some r =>
      simp only
      split
      · intro key y hy
        rw [Table.get?_put] at hy
        split at hy
        · rw [← Option.some.inj hy]
          exact ⟨r, hrow⟩
        · exact hs key y hy
      · exact hs
  | deleteProduct id =>
    intro key y hy
    rw [InMemory.answer, Table.get?_erase] at hy
    split at hy
    · cases hy
    · exact hs key y hy
  | _ => exact hs

/-- **Stores that agree at every pickup point** hold the same records. -/
theorem Owned.rearranged (hs : s.Owned) (ht : t.Owned) (h : ∀ p, s.only p = t.only p) :
    s.Rearranged t := by
  have hreception : ∀ {s t : InMemory}, (∀ p, s.only p = t.only p) → ∀ {id r},
      s.receptions.get? id = some r → t.receptions.get? id = some r := by
    intro s t h id r hr
    have hrow := only_receptions (isAt_iff.mpr ⟨r, hr, rfl⟩)
    rw [h, hr] at hrow
    simp only [only, Table.get?_keep, Option.filter_eq_some_iff] at hrow
    exact hrow.1
  have hproduct : ∀ {s t : InMemory}, s.Owned → (∀ p, s.only p = t.only p) → ∀ {id x},
      s.products.get? id = some x → t.products.get? id = some x := by
    intro s t hs h id x hx
    obtain ⟨r, hr⟩ := hs id x hx
    have hrow : (s.only r.pickupPoint).products.get? id = s.products.get? id :=
      only_products fun y hy => by
        rw [← Option.some.inj (hx.symm.trans hy)]
        exact isAt_iff.mpr ⟨r, hr, rfl⟩
    rw [h, hx] at hrow
    simp only [only, Table.get?_keep, Option.filter_eq_some_iff] at hrow
    exact hrow.1
  have hback : ∀ p, t.only p = s.only p := fun p => (h p).symm
  have hshared : ∀ {α : Type} (f : InMemory → α), (∀ s p, f (s.only p) = f s) → f s = f t :=
    fun f hf => (hf s default).symm.trans ((congrArg f (h default)).trans (hf t default))
  exact {
    cities := hshared cities (fun _ _ => rfl) ▸ .refl _
    productTypes := hshared productTypes (fun _ _ => rfl) ▸ .refl _
    statuses := (hshared statuses fun _ _ => rfl).symm
    pickupPoints := Table.same_iff.mpr fun id => by
      rw [← only_pickupPoints, ← h, only_pickupPoints]
    receptions := Table.same_iff.mpr fun id => Option.ext fun r =>
      ⟨hreception hback, hreception h⟩
    active := Table.same_iff.mpr fun p => by rw [← only_active, ← h, only_active]
    products := Table.same_iff.mpr fun id => Option.ext fun x =>
      ⟨hproduct ht hback, hproduct hs h⟩ }

end Whole
end InMemory
end PickupLedger
