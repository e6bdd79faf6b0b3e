import PickupLedger.Proofs.ActiveIndex

/-!
# Answers and the order of rows

The tables of the store in memory have no order of their own: where an answer begins with a scan
of all rows, it comes to them in any order.  Two stores with the same rows in any orders
(`InMemory.Rearranged`) answer alike what is looked up by key, what is found by a name that one
row has, and what is sorted or chosen by time and identifier, since identifiers tell rows of one
time apart.

One answer is chosen by time alone: the closed reception of a pickup point.  Over all orders it
is each of the closed receptions that were opened last (`InMemory.Filed.lastClosed_iff`).  So it
is the one with the greatest time and identifier in every order, if and only if no two of them
were opened at that time (`reads_ignore_row_order_iff`).
-/

namespace PickupLedger

/-! ## Scans -/

section Scans
variable {α : Type} {xs ys : List α}

/-- What only one element passes is found in any order. -/
theorem find?_eq_of_perm {p : α → Bool} (h : xs.Perm ys)
    (hone : ∀ x ∈ xs, ∀ y ∈ xs, p x = true → p y = true → x = y) : ys.find? p = xs.find? p := by
  have hfound : ∀ {zs : List α} {z : α}, (∀ x, x ∈ zs ↔ x ∈ xs) → z ∈ zs → p z = true →
      zs.find? p = some z := by
    intro zs z hzs hz hp
    obtain ⟨y, hy⟩ := Option.isSome_iff_exists.mp (List.find?_isSome.mpr ⟨z, hz, hp⟩)
    have hmem := (hzs y).mp (List.mem_of_find?_eq_some hy)
    rw [hy, hone y hmem z ((hzs z).mp hz) (List.find?_some hy) hp]
  cases hx : xs.find? p with
  | none =>
    rw [List.find?_eq_none] at hx ⊢
    exact fun y hy => hx y (h.mem_iff.mpr hy)
  | some x =>
    have hmem := List.mem_of_find?_eq_some hx
    exact hfound (fun _ => h.mem_iff.symm) (h.mem_iff.mp hmem) (List.find?_some hx)

/-- What is sorted by time and identifier comes out the same from any order. -/
theorem mergeSort_eq_of_perm (key : α → Recency) (h : xs.Perm ys)
    (hids : (xs.map fun x => (key x).id).Nodup) :
    (ys.mergeSort fun a b => (key a).le (key b)) = xs.mergeSort fun a b => (key a).le (key b) := by
  have hids' := (h.map fun x => (key x).id).nodup_iff.mp hids
  exact OldestFirst.unique ((oldestFirst_mergeSort key hids').congr fun _ => h.mem_iff.symm)
    (oldestFirst_mergeSort key hids)

theorem mergeSort_flip_eq_of_perm (key : α → Recency) (h : xs.Perm ys)
    (hids : (xs.map fun x => (key x).id).Nodup) :
    (ys.mergeSort fun a b => (key b).le (key a)) = xs.mergeSort fun a b => (key b).le (key a) := by
  have hids' := (h.map fun x => (key x).id).nodup_iff.mp hids
  exact NewestFirst.unique ((newestFirst_mergeSort key hids').congr fun _ => h.mem_iff.symm)
    (newestFirst_mergeSort key hids)

/-- An element above all others is the greatest. -/
theorem greatest?_eq_some {κ : Type} {key : α → κ} {le : κ → κ → Bool} {top : α}
    (refl : ∀ k, le k k = true) (total : ∀ j k, (le j k || le k j) = true)
    (trans : ∀ {i j k}, le i j = true → le j k = true → le i k = true) (hmem : top ∈ xs)
    (htop : ∀ x ∈ xs, le (key top) (key x) = true → x = top) :
    greatest? key le xs = some top := by
  cases hbest : greatest? key le xs with
  | none =>
    rw [greatest?_eq_none.mp hbest] at hmem
    cases hmem
  | some best =>
    have hle := le_greatest? refl total trans hbest hmem
    rw [htop best (mem_of_greatest? hbest) hle]

/-- What is greatest by time and identifier is so in any order. -/
theorem greatest?_eq_of_perm (key : α → Recency) (h : xs.Perm ys)
    (hids : (xs.map fun x => (key x).id).Nodup) :
    greatest? key Recency.le ys = greatest? key Recency.le xs := by
  cases hbest : greatest? key Recency.le xs with
  | none =>
    rw [greatest?_eq_none] at hbest ⊢
    exact List.perm_nil.mp (hbest ▸ h.symm)
  | some best =>
    have hmem := mem_of_greatest? hbest
    refine greatest?_eq_some Recency.le_refl Recency.le_total Recency.le_trans (h.mem_iff.mp hmem)
      fun x hx hle => ?_
    have hx := h.mem_iff.mpr hx
    have hge := le_greatest? Recency.le_refl Recency.le_total Recency.le_trans hbest hx
    have hid : (key x).id = (key best).id := congrArg Recency.id (Recency.le_antisymm hge hle)
    exact List.inj_on_of_nodup_map hids hx hmem hid

end Scans

/-! ## The same rows -/

namespace Table
variable {κ ρ : Type} [DecidableEq κ] {t u : Table κ ρ}

/-- **Tables with the same rows**, in any orders. -/
def Same (t u : Table κ ρ) : Prop := t.entries.Perm u.entries

theorem same_iff : t.Same u ↔ ∀ k, u.get? k = t.get? k := by
  have hmem : (∀ e, e ∈ t.entries ↔ e ∈ u.entries) ↔ ∀ k, u.get? k = t.get? k := by
    constructor
    · intro h k
      refine Option.ext fun r => ?_
      rw [get?_eq_some_iff, get?_eq_some_iff, h]
    · intro h e
      rw [← get?_eq_some_iff (k := e.1) (r := e.2), ← get?_eq_some_iff (k := e.1) (r := e.2), h]
  exact (List.perm_ext_iff_of_nodup (.of_map _ t.nodup) (.of_map _ u.nodup)).trans hmem

theorem Same.get? (h : t.Same u) (k : κ) : u.get? k = t.get? k := same_iff.mp h k

omit [DecidableEq κ] in
theorem Same.rows (h : t.Same u) : t.rows.Perm u.rows := h.map Prod.snd

/-- The rows with one of them moved to the end. -/
theorem exists_same_last {k : κ} {r : ρ} (h : t.get? k = some r) :
    ∃ u : Table κ ρ, t.Same u ∧ ∃ rs, u.rows = rs ++ [r] := by
  obtain ⟨before, after, hentries⟩ := List.append_of_mem (get?_eq_some_iff.mp h)
  have hperm : t.entries.Perm (before ++ after ++ [(k, r)]) := by
    rw [hentries, List.append_assoc]
    exact (List.perm_append_singleton _ after).symm.append_left before
  refine ⟨⟨before ++ after ++ [(k, r)], (hperm.map Prod.fst).nodup_iff.mp t.nodup⟩, hperm,
    (before ++ after).map Prod.snd, ?_⟩
  rw [Table.rows, List.map_append]
  rfl

end Table

namespace InMemory

/-- **Stores with the same contents**, whatever the order of their rows. -/
structure Rearranged (s t : InMemory) : Prop where
  cities : s.cities.Same t.cities
  productTypes : s.productTypes.Same t.productTypes
  statuses : t.statuses = s.statuses
  pickupPoints : s.pickupPoints.Same t.pickupPoints
  receptions : s.receptions.Same t.receptions
  active : s.active.Same t.active
  products : s.products.Same t.products

theorem Rearranged.refl (s : InMemory) : s.Rearranged s :=
  ⟨.refl _, .refl _, rfl, .refl _, .refl _, .refl _, .refl _⟩

section Reads
variable {s t : InMemory} (h : s.Rearranged t)
include h

theorem Rearranged.kindOf (id : RefId) : t.kindOf id = s.kindOf id := by
  rw [InMemory.kindOf, h.statuses, InMemory.kindOf]

theorem Rearranged.statusOf? (kind : StatusKind) : t.statusOf? kind = s.statusOf? kind := by
  rw [InMemory.statusOf?, h.statuses, InMemory.statusOf?]

theorem Rearranged.resolvePoint : t.resolvePoint = s.resolvePoint := by
  funext p
  rw [InMemory.resolvePoint, h.cities.get?, InMemory.resolvePoint]

theorem Rearranged.resolveReception : t.resolveReception = s.resolveReception := by
  funext r
  rw [InMemory.resolveReception, h.kindOf, InMemory.resolveReception]

theorem Rearranged.resolveProduct : t.resolveProduct = s.resolveProduct := by
  funext x
  rw [InMemory.resolveProduct, h.productTypes.get?, InMemory.resolveProduct]

theorem Rearranged.inWindow (hs : s.Filed) (window : DateWindow) :
    t.inWindow window = s.inWindow window := by
  have hnewest : t.newestFirst = s.newestFirst :=
    mergeSort_flip_eq_of_perm PickupPoint.recency h.pickupPoints.rows (nodup_ids hs.point_id)
  have hhad : ∀ bounds, t.hadReception bounds = s.hadReception bounds := fun bounds =>
    funext fun p => h.receptions.rows.any_eq.symm
  rw [InMemory.inWindow, InMemory.inWindow, hnewest]
  cases window.bounds? with
  | none => rfl
  | some bounds => simp only [hhad]

theorem Rearranged.receptionsAt (hs : s.Filed) (ids : List Uuid) :
    t.receptionsAt ids = s.receptionsAt ids :=
  mergeSort_eq_of_perm Reception.recency (h.receptions.rows.filter _)
    ((nodup_ids hs.reception_id).sublist (List.filter_sublist.map _))

theorem Rearranged.lastProduct? (hs : s.Filed) (reception : Uuid) :
    t.lastProduct? reception = s.lastProduct? reception :=
  greatest?_eq_of_perm Product.recency (h.products.rows.filter _)
    ((nodup_ids hs.product_id).sublist (List.filter_sublist.map _))

theorem Rearranged.productsOf (hs : s.Filed) (ids : List Uuid) :
    t.productsOf ids = s.productsOf ids :=
  mergeSort_eq_of_perm Product.recency (h.products.rows.filter _)
    ((nodup_ids hs.product_id).sublist (List.filter_sublist.map _))

theorem Rearranged.receptionInStatus_inProgress (p : Uuid) :
    (InMemory.answer (.receptionInStatus .inProgress p) t).1 =
      (InMemory.answer (.receptionInStatus .inProgress p) s).1 := by
  have hget : t.receptions.get? = s.receptions.get? := funext h.receptions.get?
  simp only [InMemory.answer, inStatus?, h.statusOf?, h.active.get?, hget, h.resolveReception]

/-- **All reads but one come out the same in any order.** -/
theorem Rearranged.read (hs : s.Filed) {c : Call} (hread : c.isWrite = false)
    (hclosed : ∀ p, c ≠ .receptionInStatus .closed p) :
    (InMemory.answer c t).1 = (InMemory.answer c s).1 := by
  cases c with
  | cityByName name =>
    -- No two cities have one name.
    have hone : ∀ x ∈ new.cities.rows, ∀ y ∈ new.cities.rows, x.name = y.name → x = y := by decide
    simp only [InMemory.answer]
    rw [find?_eq_of_perm h.cities.rows]
    intro x hx y hy hname hname'
    rw [hs.cities] at hx hy
    exact hone x hx y hy ((of_decide_eq_true hname).trans (of_decide_eq_true hname').symm)
  | productTypeByName name =>
    have hone : ∀ x ∈ new.productTypes.rows, ∀ y ∈ new.productTypes.rows,
        x.name = y.name → x = y := by decide
    simp only [InMemory.answer]
    rw [find?_eq_of_perm h.productTypes.rows]
    intro x hx y hy hname hname'
    rw [hs.productTypes] at hx hy
    exact hone x hx y hy ((of_decide_eq_true hname).trans (of_decide_eq_true hname').symm)
  | cityById id => simp only [InMemory.answer, h.cities.get?]
  | pickupPointById id => simp only [InMemory.answer, h.pickupPoints.get?, h.resolvePoint]
  | pickupPointPage q => simp only [InMemory.answer, pointPage, h.inWindow hs, h.resolvePoint]
  | allPickupPoints =>
    have hnewest : t.newestFirst = s.newestFirst := h.inWindow hs .unbounded
    simp only [InMemory.answer, hnewest, h.resolvePoint]
  | statusOfKind kind => simp only [InMemory.answer, h.statusOf?]
  | receptionInStatus kind p =>
    cases kind with
    | inProgress => exact h.receptionInStatus_inProgress p
    | closed => exact absurd rfl (hclosed p)
  | receptionsAt ids => simp only [InMemory.answer, h.receptionsAt hs, h.resolveReception]
  | lastProduct reception => simp only [InMemory.answer, h.lastProduct? hs, h.resolveProduct]
  | productsOf ids => simp only [InMemory.answer, h.productsOf hs, h.resolveProduct]
  | _ => cases hread

end Reads

/-! ## The reception in a status that was opened last -/

/-- The rows of a pickup point's receptions in a status. -/
def inStatusAt (s : InMemory) (kind : StatusKind) (p : Uuid) : List Reception :=
  s.receptions.rows.filter fun r => r.pickupPoint = p && r.statusId = (Seed.status kind).id

/-- **The reception in a status with the greatest time and identifier.** -/
def latest? (s : InMemory) (kind : StatusKind) (p : Uuid) : Option Reception :=
  (greatest? Reception.recency Recency.le (s.inStatusAt kind p)).map
    fun r => { r with status := some kind }

/-- No closed reception of the pickup point was opened after this one. -/
def LastClosed (s : InMemory) (p : Uuid) (r : Reception) : Prop :=
  r ∈ s.inStatusAt .closed p ∧ ∀ other ∈ s.inStatusAt .closed p, other.opened.le r.opened = true

/-- **Two closed receptions of the pickup point were opened last**, at the same time. -/
def Tied (s : InMemory) (p : Uuid) : Prop :=
  ∃ r r', s.LastClosed p r ∧ s.LastClosed p r' ∧ r.id ≠ r'.id

/-- **The entry of the pickup point is none of its receptions in progress.** -/
def Stale (s : InMemory) (p : Uuid) : Prop :=
  ∃ id, s.active.get? p = some id ∧ ∀ r ∈ s.inStatusAt .inProgress p, r.id ≠ id

section InStatus
variable {s : InMemory} (hs : s.Filed) {p : Uuid}

theorem mem_inStatusAt {kind : StatusKind} {r : Reception} : r ∈ s.inStatusAt kind p ↔
    r ∈ s.receptions.rows ∧ r.pickupPoint = p ∧ r.statusId = (Seed.status kind).id := by
  simp only [inStatusAt, List.mem_filter, Bool.and_eq_true, decide_eq_true_eq]

theorem Rearranged.inStatusAt {t : InMemory} (h : s.Rearranged t) (kind : StatusKind) (p : Uuid) :
    (s.inStatusAt kind p).Perm (t.inStatusAt kind p) :=
  h.receptions.rows.filter _

include hs

theorem Filed.statusOf? (kind : StatusKind) : s.statusOf? kind = some (Seed.status kind) := by
  rw [InMemory.statusOf?, hs.statuses]
  cases kind <;> rfl

theorem Filed.nodup_inStatusAt (kind : StatusKind) :
    ((s.inStatusAt kind p).map Reception.id).Nodup :=
  (nodup_ids hs.reception_id).sublist (List.filter_sublist.map _)

theorem Filed.eq_of_id {kind : StatusKind} {r r' : Reception} (h : r ∈ s.inStatusAt kind p)
    (h' : r' ∈ s.inStatusAt kind p) (hid : r.id = r'.id) : r = r' :=
  List.inj_on_of_nodup_map (hs.nodup_inStatusAt kind) h h' hid

section Orders
variable {t : InMemory} (h : s.Rearranged t)
include h

/-- A look-up by status answers with the row that it finds in that status. -/
theorem Filed.receptionInStatus {kind : StatusKind} {found : Option Reception}
    (hfound : t.inStatus? kind p = found) (hmem : ∀ r ∈ found, r ∈ t.inStatusAt kind p) :
    (InMemory.answer (.receptionInStatus kind p) t).1 =
      .ok (found.map fun r => { r with status := some kind }) := by
  simp only [InMemory.answer, hfound]
  cases found with
  | none => rfl
  | some r =>
    obtain ⟨-, -, hid⟩ := mem_inStatusAt.mp (hmem r rfl)
    simp only [InMemory.resolveReception, hid, h.kindOf, hs.kindOf, Except.map, Option.map_some]

/-- **The closed reception that is found.** -/
theorem Filed.receptionInStatus_closed : (InMemory.answer (.receptionInStatus .closed p) t).1 =
    .ok ((greatest? Reception.opened Instant.le (t.inStatusAt .closed p)).map
      fun r => { r with status := some .closed }) := by
  refine hs.receptionInStatus h ?_ fun r hr => mem_of_greatest? hr
  simp only [inStatus?, h.statusOf?, hs.statusOf?]
  rfl

end Orders

/-- **Over all orders, the closed reception that is found is each of those opened last.** -/
theorem Filed.lastClosed_iff {r : Reception} : s.LastClosed p r ↔ ∃ t, s.Rearranged t ∧
    greatest? Reception.opened Instant.le (t.inStatusAt .closed p) = some r := by
  constructor
  · rintro ⟨hmem, hlast⟩
    obtain ⟨hrow, hp, hid⟩ := mem_inStatusAt.mp hmem
    obtain ⟨receptions, hsame, rows, hrows⟩ := Table.exists_same_last (hs.get?_of_mem_rows hrow)
    have ht : s.Rearranged { s with receptions } :=
      { Rearranged.refl s with receptions := hsame }
    refine ⟨_, ht, ?_⟩
    -- In this order the row comes last, and so it is the one that stays.
    obtain ⟨rest, hrest⟩ : ∃ rest,
        InMemory.inStatusAt { s with receptions } .closed p = rest ++ [r] := by
      refine ⟨rows.filter fun r => r.pickupPoint = p && r.statusId = (Seed.status .closed).id, ?_⟩
      rw [inStatusAt, hrows, List.filter_append, List.filter_cons_of_pos (by simp [hp, hid]),
        List.filter_nil]
    have hperm := ht.inStatusAt .closed p
    rw [hrest] at hperm ⊢
    exact greatest?_append_last fun other hother =>
      hlast other (hperm.mem_iff.mpr (List.mem_append_left _ hother))
  · rintro ⟨t, ht, hbest⟩
    have hperm := ht.inStatusAt .closed p
    exact ⟨hperm.mem_iff.mpr (mem_of_greatest? hbest), fun other hother =>
      le_greatest? Instant.le_refl Instant.le_total Instant.le_trans hbest
        (hperm.mem_iff.mp hother)⟩

/-- If the closed reception that is found is the same in all orders, there is no tie. -/
theorem Filed.not_tied {a : Answer (.receptionInStatus .closed p)}
    (hall : ∀ t, s.Rearranged t → (InMemory.answer (.receptionInStatus .closed p) t).1 = a) :
    ¬ s.Tied p := by
  have hone : ∀ r, s.LastClosed p r → a = .ok (some { r with status := some .closed }) := by
    intro r hr
    obtain ⟨t, ht, hbest⟩ := hs.lastClosed_iff.mp hr
    rw [← hall t ht, hs.receptionInStatus_closed ht, hbest]
    rfl
  rintro ⟨r, r', hr, hr', hid⟩
  have hsame := Option.some.inj (Except.ok.inj ((hone r hr).symm.trans (hone r' hr')))
  exact hid (Reception.mk.inj hsame).1

/-- If there is no tie, it is the one with the greatest time and identifier. -/
theorem Filed.closed_of_not_tied (htied : ¬ s.Tied p) {t : InMemory} (ht : s.Rearranged t) :
    (InMemory.answer (.receptionInStatus .closed p) t).1 = .ok (s.latest? .closed p) := by
  rw [hs.receptionInStatus_closed ht, latest?]
  cases hlatest : greatest? Reception.recency Recency.le (s.inStatusAt .closed p) with
  | none =>
    have hnil := ht.inStatusAt .closed p
    rw [greatest?_eq_none.mp hlatest, List.nil_perm] at hnil
    rw [hnil]
    rfl
  | some best =>
    have hmem := mem_of_greatest? hlatest
    have hlast : s.LastClosed p best := ⟨hmem, fun other hother =>
      (Recency.le_iff.mp
        (le_greatest? Recency.le_refl Recency.le_total Recency.le_trans hlatest hother)).1⟩
    cases hfound : greatest? Reception.opened Instant.le (t.inStatusAt .closed p) with
    | none =>
      have hnil := ht.inStatusAt .closed p
      rw [greatest?_eq_none.mp hfound, List.perm_nil] at hnil
      rw [hnil] at hmem
      cases hmem
    | some r =>
      have hr := hs.lastClosed_iff.mpr ⟨t, ht, hfound⟩
      have hid : r.id = best.id := by_contra fun hne => htied ⟨r, best, hr, hlast, hne⟩
      rw [hs.eq_of_id hr.1 hmem hid]

end InStatus

/-! ## The reception in progress -/

/-- Every entry has a row. -/
def Entered (s : InMemory) : Prop :=
  ∀ {p id}, s.active.get? p = some id → ∃ r, s.receptions.get? id = some r

theorem Change.entered {s s' : InMemory} {anew : Prop}
    (h : Change s anew s'.active s'.receptions) (hs : s.Entered) : s'.Entered := by
  -- Rows are written and never erased.
  have hput : ∀ (row : Reception) {id r}, s.receptions.get? id = some r →
      ∃ r', (s.receptions.put row.id row).get? id = some r' := by
    intro row id r hr
    rw [Table.get?_put]
    split
    case isTrue => exact ⟨row, rfl⟩
    case isFalse => exact ⟨r, hr⟩
  intro p id hp
  generalize s'.active = active, s'.receptions = receptions at h hp ⊢
  cases h with
  | nothing => exact hs hp
  | enter row =>
    rw [Table.get?_put] at hp
    split at hp
    case isTrue =>
      obtain rfl := Option.some.inj hp
      exact ⟨row, by rw [Table.get?_put, if_pos rfl]⟩
    case isFalse => exact (hs hp).elim fun _ => hput row
  | record row => exact (hs hp).elim fun _ => hput row
  | leave row =>
    rw [Table.get?_erase] at hp
    split at hp
    case isTrue => cases hp
    case isFalse => exact (hs hp).elim fun _ => hput { row with statusId := Seed.closedId }
  | again row => exact (hs hp).elim fun _ => hput row

theorem Entered.after {s : InMemory} (hf : s.Filed) (hs : s.Entered) (calls : List Call) :
    (s.after calls).Entered := by
  induction calls generalizing s with
  | nil => exact hs
  | cons c cs ih => exact ih (hf.answer c) ((hf.change c).entered hs)

/-- An exact index has no stale entry. -/
theorem Exact.not_stale {s : InMemory} (hs : s.Exact) (hf : s.Filed) (p : Uuid) : ¬ s.Stale p := by
  rintro ⟨id, hentry, hnone⟩
  obtain ⟨r, hr, hp, hin⟩ := hs hentry
  have hrow : r ∈ s.receptions.rows := List.mem_map_of_mem (Table.get?_eq_some_iff.mp hr)
  exact hnone r (mem_inStatusAt.mpr ⟨hrow, hp, hin⟩) (hf.reception_id hr)

section InProgress
variable {s : InMemory} (hf : s.Filed) (hs : s.Indexed) {p : Uuid}
include hf hs

/-- The entry of a pickup point is its only reception in progress. -/
theorem Indexed.inStatus?_of_not_stale (hstale : ¬ s.Stale p) : s.inStatus? .inProgress p =
    greatest? Reception.recency Recency.le (s.inStatusAt .inProgress p) := by
  have hentry : ∀ r ∈ s.inStatusAt .inProgress p, s.active.get? p = some r.id := fun r hr => by
    obtain ⟨hrow, rfl, hin⟩ := mem_inStatusAt.mp hr
    exact hs (hf.get?_of_mem_rows hrow) hin
  simp only [inStatus?, hf.statusOf?]
  cases hactive : s.active.get? p with
  | none =>
    have hnil : s.inStatusAt .inProgress p = [] :=
      List.eq_nil_iff_forall_not_mem.mpr fun r hr => by
        rw [hentry r hr] at hactive
        cases hactive
    rw [hnil]
    rfl
  | some id =>
    obtain ⟨r, hr, rfl⟩ : ∃ r ∈ s.inStatusAt .inProgress p, r.id = id := by
      by_contra hnone
      exact hstale ⟨id, hactive, fun r hr hid => hnone ⟨r, hr, hid⟩⟩
    have honly : greatest? Reception.recency Recency.le (s.inStatusAt .inProgress p) = some r := by
      refine greatest?_eq_some Recency.le_refl Recency.le_total Recency.le_trans hr ?_
      intro x hx _
      exact hf.eq_of_id hx hr (Option.some.inj ((hentry x hx).symm.trans hactive))
    rw [honly, Option.bind_some, hf.get?_of_mem_rows (mem_inStatusAt.mp hr).1]

/-- **The look-up of the reception in progress is right if its entry is not stale.** -/
theorem Indexed.receptionInStatus_iff (hentered : s.Entered) :
    (InMemory.answer (.receptionInStatus .inProgress p) s).1 = .ok (s.latest? .inProgress p) ↔
      ¬ s.Stale p := by
  constructor
  · rintro hanswer ⟨id, hactive, hnone⟩
    obtain ⟨r, hr⟩ := hentered hactive
    have hrow : r ∈ s.receptions.rows := List.mem_map_of_mem (Table.get?_eq_some_iff.mp hr)
    have hfound : s.inStatus? .inProgress p = some r := by
      simp only [inStatus?, hf.statusOf?, hactive, Option.bind_some, hr]
    simp only [InMemory.answer, hfound, hf.resolveReception hrow] at hanswer
    obtain ⟨best, hbest, hshown⟩ := Option.map_eq_some_iff.mp (Except.ok.inj hanswer).symm
    -- The answer has the identifier of the entry, and what is in progress has another.
    have hid : best.id = r.id := (Reception.mk.inj hshown).1
    exact hnone best (mem_of_greatest? hbest) (hid.trans (hf.reception_id hr))
  · intro hstale
    refine hf.receptionInStatus (.refl s) (hs.inStatus?_of_not_stale hf hstale) fun r hr => ?_
    exact mem_of_greatest? hr

end InProgress
end InMemory

open InMemory

/-- **Which reads depend on the order of rows.**  After any calls:

* every read but the look-up of a closed reception is answered alike in all orders;
* the look-up of a closed reception is answered alike in all orders, and with the one that has
  the greatest time and identifier, if and only if no two closed receptions of the pickup point
  were opened last;
* the look-up of a reception in progress is answered with the one that has the greatest time and
  identifier, if and only if the entry of the pickup point is not stale, and none is unless a
  reception was added under an identifier that was taken. -/
theorem reads_ignore_row_order_iff (calls : List Call) :
    let s := InMemory.new.after calls
    (∀ t, s.Rearranged t → ∀ c : Call, c.isWrite = false → (∀ p, c ≠ .receptionInStatus .closed p) →
      (InMemory.answer c t).1 = (InMemory.answer c s).1) ∧
    (∀ p, ((∀ t, s.Rearranged t → (InMemory.answer (.receptionInStatus .closed p) t).1 =
        (InMemory.answer (.receptionInStatus .closed p) s).1) ↔ ¬ s.Tied p) ∧
      ((∀ t, s.Rearranged t → (InMemory.answer (.receptionInStatus .closed p) t).1 =
        .ok (s.latest? .closed p)) ↔ ¬ s.Tied p)) ∧
    (∀ p, (∀ t, s.Rearranged t → (InMemory.answer (.receptionInStatus .inProgress p) t).1 =
        .ok (s.latest? .inProgress p)) ↔ ¬ s.Stale p) ∧
    (InMemory.new.AllAnew calls → ∀ p, ¬ s.Stale p) := by
  intro s
  have hf : s.Filed := new_filed.after calls
  have hs : s.Indexed := Indexed.after new_filed nofun calls
  have hentered : s.Entered := Entered.after new_filed nofun calls
  refine ⟨fun t ht c hread hclosed => ht.read hf hread hclosed, fun p => ⟨⟨?_, ?_⟩, ?_, ?_⟩,
    fun p => ⟨?_, ?_⟩, fun hanew p => ?_⟩
  · exact fun hall => hf.not_tied hall
  · intro htied t ht
    rw [hf.closed_of_not_tied htied ht, hf.closed_of_not_tied htied (.refl s)]
  · exact fun hall => hf.not_tied hall
  · exact fun htied t ht => hf.closed_of_not_tied htied ht
  · exact fun hall => (hs.receptionInStatus_iff hf hentered).mp (hall s (.refl s))
  · intro hstale t ht
    rw [ht.receptionInStatus_inProgress]
    exact (hs.receptionInStatus_iff hf hentered).mpr hstale
  · have hexact : s.Exact := Exact.after new_filed nofun hanew
    exact hexact.not_stale hf p

/-- Two receptions of a pickup point, each opened at its time and closed. -/
def inTurn (first second : Uuid × Instant) : List Call :=
  [first, second].flatMap fun (id, time) =>
    [.addReception (.begun id (.ofNat 1) time),
      .moveReception id Seed.inProgressId Seed.closedId]

/-- The first second after the epoch. -/
def oneSecondLater : Instant := (Instant.ofParts? 1 0).get rfl

/-- **The one that was opened later is found** in any order of rows. -/
theorem later_closed_reception_found :
    let s := InMemory.new.after (inTurn (.generated 1, .epoch) (.generated 2, oneSecondLater))
    let r : Reception :=
      ⟨.generated 2, .ofNat 1, oneSecondLater, Seed.closedId, some .closed⟩
    ∀ t, s.Rearranged t →
      (InMemory.answer (.receptionInStatus .closed (.ofNat 1)) t).1 = .ok (some r) ∧
      (InMemory.answer (.receptionInStatus .inProgress (.ofNat 1)) t).1 = .ok none := by
  intro s r t ht
  have hanew : InMemory.new.AllAnew
      (inTurn (.generated 1, .epoch) (.generated 2, oneSecondLater)) :=
    ⟨rfl, trivial, rfl, trivial, trivial⟩
  obtain ⟨-, hclosed, hinProgress, hstale⟩ := reads_ignore_row_order_iff
    (inTurn (.generated 1, .epoch) (.generated 2, oneSecondLater))
  have hlast : ∀ r ∈ s.inStatusAt .closed (.ofNat 1),
      (∀ other ∈ s.inStatusAt .closed (.ofNat 1), other.opened.le r.opened = true) →
      r.id = .generated 2 := by decide
  have htied : ¬ s.Tied (.ofNat 1) := fun ⟨a, b, ha, hb, hne⟩ =>
    hne ((hlast a ha.1 ha.2).trans (hlast b hb.1 hb.2).symm)
  exact ⟨(hclosed _).2.mpr htied t ht, (hinProgress _).mpr (hstale hanew _) t ht⟩

/-- **Of two that were opened at one time, the order of rows decides.** -/
theorem tied_closed_reception_found :
    let s := InMemory.new.after (inTurn (.generated 1, .epoch) (.generated 2, .epoch))
    let t := InMemory.new.after (inTurn (.generated 2, .epoch) (.generated 1, .epoch))
    let r (id : Uuid) : Reception := ⟨id, .ofNat 1, .epoch, Seed.closedId, some .closed⟩
    s.Rearranged t ∧
      (InMemory.answer (.receptionInStatus .closed (.ofNat 1)) s).1 = .ok (some (r (.generated 2))) ∧
      (InMemory.answer (.receptionInStatus .closed (.ofNat 1)) t).1 = .ok (some (r (.generated 1))) ∧
      t.latest? .closed (.ofNat 1) = some (r (.generated 2)) := by
  refine ⟨⟨.refl _, .refl _, rfl, .refl _, ?_, .refl _, .refl _⟩, by decide, by decide, by decide⟩
  exact List.Perm.swap _ _ []

end PickupLedger
