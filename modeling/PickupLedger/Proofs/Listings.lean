import Mathlib.Data.List.Dedup
import PickupLedger.Proofs.Books
import PickupLedger.Store.Table

/-!
# Lists of records

A list of records in a strict order is told by what is on it: there is one such list
(`Listing.unique`).  So the answers of a store to the calls for lists are told by its books,
whatever tables it keeps and however it sorts them (`Books.Lists`): the pickup points of a
window with the newest first, the receptions of pickup points and the products of receptions
with the oldest first, each with its references resolved.
-/

namespace PickupLedger

/-- **Strictly older.** -/
def Recency.Before (a b : Recency) : Prop := a.le b = true ∧ a ≠ b

instance (a b : Recency) : Decidable (a.Before b) := inferInstanceAs (Decidable (_ ∧ _))

theorem Recency.Before.asymm {a b : Recency} (h : a.Before b) : ¬ b.Before a :=
  fun h' => h.2 (le_antisymm h.1 h'.1)

/-- Keys of distinct identifiers that are in order, are so strictly. -/
theorem Recency.before_of_le {a b : Recency} (h : a.le b = true) (hid : a.id ≠ b.id) : a.Before b :=
  ⟨h, fun heq => hid (congrArg Recency.id heq)⟩

/-! ## Strictly ordered lists -/

/-- **All that has a property**, in a strict order. -/
structure Listing {α : Type} (before : α → α → Prop) (P : α → Prop) (xs : List α) : Prop where
  ordered : xs.Pairwise before
  mem_iff : ∀ x, x ∈ xs ↔ P x

namespace Listing
variable {α : Type} {before : α → α → Prop} {P : α → Prop} {xs ys : List α}

theorem nodup (hasymm : ∀ {a b}, before a b → ¬ before b a) (h : Listing before P xs) :
    xs.Nodup := by
  refine h.ordered.imp ?_
  rintro a b hab rfl
  exact hasymm hab hab

/-- **There is one listing.** -/
theorem unique (hasymm : ∀ {a b}, before a b → ¬ before b a) (h : Listing before P xs)
    (h' : Listing before P ys) : xs = ys := by
  have hperm : xs.Perm ys := (List.perm_ext_iff_of_nodup (h.nodup hasymm) (h'.nodup hasymm)).mpr
    fun x => (h.mem_iff x).trans (h'.mem_iff x).symm
  exact hperm.eq_of_pairwise (fun a b _ _ hab hba => absurd hba (hasymm hab)) h.ordered h'.ordered

theorem congr {Q : α → Prop} (h : Listing before P xs) (hPQ : ∀ x, P x ↔ Q x) :
    Listing before Q xs :=
  ⟨h.ordered, fun x => (h.mem_iff x).trans (hPQ x)⟩

theorem reverse (h : Listing before P xs) : Listing (fun a b => before b a) P xs.reverse :=
  ⟨List.pairwise_reverse.mpr h.ordered, fun x => List.mem_reverse.trans (h.mem_iff x)⟩

theorem filter (h : Listing before P xs) (p : α → Bool) :
    Listing before (fun x => P x ∧ p x = true) (xs.filter p) :=
  ⟨h.ordered.filter p, fun x => by rw [List.mem_filter, h.mem_iff]⟩

end Listing

/-- All that has a property, the oldest first. -/
def OldestFirst {α : Type} (key : α → Recency) : (α → Prop) → List α → Prop :=
  Listing fun a b => (key a).Before (key b)

/-- All that has a property, the newest first. -/
def NewestFirst {α : Type} (key : α → Recency) : (α → Prop) → List α → Prop :=
  Listing fun a b => (key b).Before (key a)

section Order
variable {α β : Type} {key : α → Recency} {P : α → Prop} {xs ys : List α}

theorem OldestFirst.unique (h : OldestFirst key P xs) (h' : OldestFirst key P ys) : xs = ys :=
  Listing.unique Recency.Before.asymm h h'

theorem NewestFirst.unique (h : NewestFirst key P xs) (h' : NewestFirst key P ys) : xs = ys :=
  Listing.unique Recency.Before.asymm h h'

/-- Records shown in a way that keeps their keys keep their order. -/
theorem OldestFirst.map {key' : β → Recency} (h : OldestFirst key P xs) (f : α → β)
    (hf : ∀ a, key' (f a) = key a) : OldestFirst key' (fun y => ∃ x, P x ∧ f x = y) (xs.map f) := by
  refine ⟨List.pairwise_map.mpr ?_, fun y => by simp only [List.mem_map, h.mem_iff]⟩
  simp only [hf]
  exact h.ordered

theorem NewestFirst.map {key' : β → Recency} (h : NewestFirst key P xs) (f : α → β)
    (hf : ∀ a, key' (f a) = key a) : NewestFirst key' (fun y => ∃ x, P x ∧ f x = y) (xs.map f) := by
  refine ⟨List.pairwise_map.mpr ?_, fun y => by simp only [List.mem_map, h.mem_iff]⟩
  simp only [hf]
  exact h.ordered

/-- A list in the order of an order that tells records apart by their identifiers. -/
theorem pairwise_mergeSort_of_ids (key : α → Recency) (le : α → α → Bool)
    (htrans : ∀ a b c, le a b → le b c → le a c)
    (htotal : ∀ a b, (le a b || le b a) = true)
    (hids : (xs.map fun x => (key x).id).Nodup) :
    (xs.mergeSort le).Pairwise fun a b => le a b = true ∧ (key a).id ≠ (key b).id := by
  have hperm := List.mergeSort_perm xs le
  have hnodup := (hperm.map fun x => (key x).id).nodup_iff.mpr hids
  exact (List.pairwise_mergeSort htrans htotal xs).imp₂ (fun a b hab hne => ⟨hab, hne⟩)
    (List.pairwise_map.mp hnodup)

theorem oldestFirst_mergeSort (key : α → Recency) (hids : (xs.map fun x => (key x).id).Nodup) :
    OldestFirst key (· ∈ xs) (xs.mergeSort fun a b => (key a).le (key b)) := by
  refine ⟨?_, fun x => (List.mergeSort_perm ..).mem_iff⟩
  have hsorted := pairwise_mergeSort_of_ids key (fun a b => (key a).le (key b))
    (fun a b c => Recency.le_trans) (fun a b => Recency.le_total _ _) hids
  exact hsorted.imp fun h => Recency.before_of_le h.1 h.2

theorem newestFirst_mergeSort (key : α → Recency) (hids : (xs.map fun x => (key x).id).Nodup) :
    NewestFirst key (· ∈ xs) (xs.mergeSort fun a b => (key b).le (key a)) := by
  refine ⟨?_, fun x => (List.mergeSort_perm ..).mem_iff⟩
  have hsorted := pairwise_mergeSort_of_ids key (fun a b => (key b).le (key a))
    (fun a b c h h' => Recency.le_trans h' h) (fun a b => Recency.le_total _ _) hids
  exact hsorted.imp fun h => Recency.before_of_le h.1 (Ne.symm h.2)

end Order

/-! ## What is on the lists of a store -/

theorem DateWindow.bounds?_eq_some_iff {window : DateWindow} {bounds : Instant × Instant} :
    window.bounds? = some bounds ↔
      window.start = some bounds.1 ∧ window.stop = some bounds.2 := by
  obtain ⟨start, stop⟩ := window
  cases start <;> cases stop <;> simp [bounds?, Prod.ext_iff]

theorem DateWindow.bounds?_of_some {window : DateWindow} {start stop : Instant}
    (hstart : window.start = some start) (hstop : window.stop = some stop) :
    window.bounds? = some (start, stop) :=
  bounds?_eq_some_iff.mpr ⟨hstart, hstop⟩

namespace Books
variable (b : Books)

/-- The pickup point is on the books. -/
def HasPoint (p : PickupPoint) : Prop := b.point? p.id = some p

/-- The reception is on the books. -/
def HasReception (r : Reception) : Prop := b.reception? r.id = some r

/-- The pickup point had a reception in the window, if that has two ends. -/
def InWindow (window : DateWindow) (p : PickupPoint) : Prop :=
  ∀ start stop, window.start = some start → window.stop = some stop →
    ∃ r, b.HasReception r ∧ r.pickupPoint = p.id ∧ start.le r.opened = true ∧
      r.opened.le stop = true

/-- A window that is not bounded leaves no pickup point out. -/
theorem inWindow_of_none {window : DateWindow} (h : window.bounds? = none) (p : PickupPoint) :
    b.InWindow window p := by
  intro start stop hstart hstop
  cases h.symm.trans (DateWindow.bounds?_of_some hstart hstop)

theorem inWindow_iff_of_some {window : DateWindow} {bounds : Instant × Instant}
    (h : window.bounds? = some bounds) (p : PickupPoint) :
    b.InWindow window p ↔ ∃ r, b.HasReception r ∧ r.pickupPoint = p.id ∧
      bounds.1.le r.opened = true ∧ r.opened.le bounds.2 = true := by
  obtain ⟨hstart, hstop⟩ := DateWindow.bounds?_eq_some_iff.mp h
  constructor
  · exact fun hin => hin _ _ hstart hstop
  · intro hin start stop hstart' hstop'
    rw [← Option.some.inj (hstart.symm.trans hstart'), ← Option.some.inj (hstop.symm.trans hstop')]
    exact hin

/-- **What the calls for lists are answered.** -/
def Lists : (c : Call) → Answer c → Prop
  | .pickupPointPage q, a =>
    ∃ ps, NewestFirst PickupPoint.recency (fun p => b.HasPoint p ∧ b.InWindow q.window p) ps ∧
      a = .ok ((ps.drop q.offset).take q.limit)
  | .allPickupPoints, a => ∃ ps, NewestFirst PickupPoint.recency b.HasPoint ps ∧ a = .ok ps
  | .receptionsAt ids, a =>
    ∃ rs, OldestFirst Reception.recency (fun r => b.HasReception r ∧ r.pickupPoint ∈ ids) rs ∧
      a = .ok rs
  | .productsOf ids, a =>
    ∃ xs, OldestFirst Product.recency (fun x => b.Has x ∧ x.reception ∈ ids) xs ∧ a = .ok xs
  | _, _ => True

end Books

/-- Rows under their own identifiers, each shown in some way: what is shown under an
identifier is what is shown of one of the entries. -/
theorem Table.map_get?_iff {ρ α : Type} (t : Table Uuid ρ) (f : Uuid → ρ → α) (key : α → Uuid)
    (hkey : ∀ e ∈ t.entries, key (f e.1 e.2) = e.1) {x : α} :
    (t.get? (key x)).map (f (key x)) = some x ↔ ∃ e ∈ t.entries, f e.1 e.2 = x := by
  simp only [Option.map_eq_some_iff, Table.get?_eq_some_iff]
  constructor
  · rintro ⟨row, hmem, hx⟩
    exact ⟨(key x, row), hmem, hx⟩
  · rintro ⟨e, hmem, hx⟩
    have hid : key x = e.1 := by rw [← hx, hkey e hmem]
    rw [hid]
    exact ⟨e.2, hmem, hx⟩

/-- What is shown of the records that pass a test, if the test is one on what is shown. -/
theorem exists_shown_iff {α β : Type} {P Q : α → Prop} {R : β → Prop} (f : α → β) {y : β}
    (hQ : ∀ x, Q x ↔ R (f x)) :
    (∃ x, (P x ∧ Q x) ∧ f x = y) ↔ (∃ x, P x ∧ f x = y) ∧ R y := by
  constructor
  · rintro ⟨x, ⟨hP, hx⟩, rfl⟩
    exact ⟨⟨x, hP, rfl⟩, (hQ x).mp hx⟩
  · rintro ⟨⟨x, hP, rfl⟩, hy⟩
    exact ⟨x, ⟨hP, (hQ x).mpr hy⟩, rfl⟩

/-- Steps that all succeed make one list. -/
theorem mapM_ok {ε α β : Type} {f : α → Except ε β} {g : α → β} {xs : List α}
    (h : ∀ x ∈ xs, f x = .ok (g x)) : xs.mapM f = .ok (xs.map g) := by
  induction xs with
  | nil => rfl
  | cons x xs ih =>
    rw [List.mapM_cons, h x List.mem_cons_self, ih fun y hy => h y (List.mem_cons_of_mem _ hy)]
    rfl

end PickupLedger
