import PickupLedger.Proofs.Moments
import PickupLedger.Proofs.ProductGate

/-!
# No product is lost

Products come onto the books and leave them only by operations that say so.  The step that
puts a product there is the one that settles an addition with this product
(`SideBySide.Regular.insertsAt_iff`), and the step that takes it away is the one that
settles a removal with it (`SideBySide.Regular.deletesAt_iff`); an operation is settled
once, an addition brings an identifier of its own, and a product that is gone does not come
back.  So what has come in is there until it is removed, once (`SideBySide.Conserves`).
-/

namespace PickupLedger
namespace SideBySide

variable {σ : Type} [Storage σ] [Bookkeeping σ]

/-- **A step of a task takes a product off the books.** -/
def Deletes (y : SideBySide σ) (i : Nat) (x : Product) : Prop :=
  y.books.Has x ∧ ¬ (y.tick i).books.Has x

/-- The step of a schedule at some place is one of the task, and takes a product off the books. -/
def DeletesAt (y : SideBySide σ) (schedule : List Nat) (n i : Nat) (x : Product) : Prop :=
  schedule[n]? = some i ∧ (y.moment schedule n).Deletes i x

section Steps
variable {y : SideBySide σ} (hy : y.Regular) {schedule : List Nat} {n i : Nat} {x : Product}
include hy

/-- **What an addition returns, it has put on the books** in the step that settles it. -/
theorem Regular.insertsAt_iff : y.InsertsAt schedule n i x ↔
    y.SettlesAt schedule n i (.ok (.product x)) ∧
      ∃ stamp p typeName, y.request? i = some (.addTo stamp p typeName) := by
  constructor
  · rintro ⟨hstep, hinserts⟩
    obtain ⟨stamp, typeName, r, hrequest, hopen, hresult, -⟩ :=
      (hy.moment schedule n).inserts hinserts
    rw [moment_request?] at hrequest
    rw [← moment_succ hstep] at hresult
    exact ⟨⟨hstep, hopen, hresult⟩, stamp, _, typeName, hrequest⟩
  · rintro ⟨hsettles, stamp, p, typeName, hrequest⟩
    obtain ⟨q, hq, hdecides⟩ := hy.settlesAt_decides hsettles
    rw [hrequest] at hq
    cases hq
    refine ⟨hsettles.step, ?_⟩
    show (¬ (y.moment schedule n).books.Has x) ∧ ((y.moment schedule n).tick i).books.Has x
    rw [← moment_succ hsettles.step]
    generalize (y.moment schedule (n + 1)).books = b at hdecides
    cases hdecides with
    | added htype hnew hr =>
      refine ⟨fun hhas => ?_, (Books.has_putProduct ..).mpr (.inl rfl)⟩
      cases hnew.symm.trans hhas

/-- **What a removal returns, it has taken off the books** in the step that settles it. -/
theorem Regular.deletesAt_iff : y.DeletesAt schedule n i x ↔
    y.SettlesAt schedule n i (.ok (.product x)) ∧ ∃ p, y.request? i = some (.removeFrom p) := by
  constructor
  · rintro ⟨hstep, hbefore, hafter⟩
    rw [← moment_succ hstep] at hafter
    have hbooks : (y.moment schedule (n + 1)).books ≠ (y.moment schedule n).books :=
      fun heq => hafter (heq ▸ hbefore)
    obtain ⟨v, hsettles⟩ := hy.settlesAt_of_books hstep hbooks
    obtain ⟨q, hrequest, hdecides⟩ := hy.settlesAt_decides hsettles
    generalize (y.moment schedule (n + 1)).books = b at hafter hdecides
    cases hdecides with
    | @removed x' r hx' hr =>
      have hid : x.id = x'.id := Classical.byContradiction fun hne =>
        hafter ((Books.has_dropProduct ..).mpr ⟨hne, hbefore⟩)
      have hsame : x' = x := by
        rw [Books.Has, ← hid, hbefore] at hx'
        exact (Option.some.inj hx').symm
      rw [hsame] at hsettles
      exact ⟨hsettles, _, hrequest⟩
    | @added stamp r typeName type htype hnew hr =>
      refine absurd ((Books.has_putProduct ..).mpr (.inr ⟨fun hid => ?_, hbefore⟩)) hafter
      have hfound := hbefore
      rw [Books.Has, hid] at hfound
      cases hnew.symm.trans hfound
    | _ => exact absurd hbefore hafter
  · rintro ⟨hsettles, p, hrequest⟩
    obtain ⟨q, hq, hdecides⟩ := hy.settlesAt_decides hsettles
    rw [hrequest] at hq
    cases hq
    refine ⟨hsettles.step, ?_⟩
    show (y.moment schedule n).books.Has x ∧ ¬ ((y.moment schedule n).tick i).books.Has x
    rw [← moment_succ hsettles.step]
    generalize (y.moment schedule (n + 1)).books = b at hdecides
    cases hdecides with
    | removed hx hr =>
      exact ⟨hx, fun hhas => ((Books.has_dropProduct ..).mp hhas).1 rfl⟩

/-! ## Once and for all -/

/-- An addition gives its product the identifier that it came with. -/
theorem Regular.fresh_of_insertsAt (h : y.InsertsAt schedule n i x) :
    ∃ q, y.request? i = some q ∧ q.fresh? = some x.id := by
  obtain ⟨hsettles, stamp, p, typeName, hrequest⟩ := hy.insertsAt_iff.mp h
  obtain ⟨q, hq, hdecides⟩ := hy.settlesAt_decides hsettles
  rw [hrequest] at hq
  cases hq
  refine ⟨_, hrequest, ?_⟩
  generalize (y.moment schedule (n + 1)).books = b at hdecides
  cases hdecides with
  | added htype hnew hr => rfl

/-- **A product comes in once.** -/
theorem Regular.insertsAt_once {n' i' : Nat} (h : y.InsertsAt schedule n i x)
    (h' : y.InsertsAt schedule n' i' x) : n' = n ∧ i' = i := by
  obtain ⟨q, hq, hfresh⟩ := hy.fresh_of_insertsAt h
  obtain ⟨q', hq', hfresh'⟩ := hy.fresh_of_insertsAt h'
  obtain ⟨t, ht, rfl⟩ := Option.map_eq_some_iff.mp hq
  obtain ⟨t', ht', rfl⟩ := Option.map_eq_some_iff.mp hq'
  have hsame : i' = i := hy.distinct ht' ht hfresh' hfresh
  rw [hsame] at h'
  exact ⟨(hy.insertsAt_unique h h').1, hsame⟩

/-- A product that was taken off the books does not come back. -/
theorem Regular.not_has_after_deletion (h : y.DeletesAt schedule n i x) {m : Nat} (hlt : n < m) :
    ¬ (y.moment schedule m).books.Has x := by
  obtain ⟨hstep, hbefore, hafter⟩ := h
  rw [← moment_succ hstep] at hafter
  have hissued := (hy.moment schedule n).account.product_issued hbefore
  -- From the deletion on its identifier is free, and it is not issued again.
  have hnone : (y.moment schedule (n + 1)).books.product? x.id = none := by
    rcases (hy.moment_reaches schedule (Nat.le_succ n)).product hissued with hsame | hnone
    · exact absurd (hsame.trans hbefore) hafter
    · exact hnone
  have hissued := (hy.moment_reaches schedule (Nat.le_succ n)).issued hissued
  intro hhas
  rcases (hy.moment_reaches schedule hlt).product hissued with hsame | hgone
  · cases hnone.symm.trans (hsame.symm.trans hhas)
  · cases hgone.symm.trans hhas

/-- **A product goes once.** -/
theorem Regular.deletesAt_once {n' i' : Nat} (h : y.DeletesAt schedule n i x)
    (h' : y.DeletesAt schedule n' i' x) : n' = n ∧ i' = i := by
  have hsame : n' = n := by
    rcases Nat.lt_trichotomy n n' with hlt | heq | hlt
    · exact absurd h'.2.1 (hy.not_has_after_deletion h hlt)
    · exact heq.symm
    · exact absurd h.2.1 (hy.not_has_after_deletion h' hlt)
  have hstep := h'.1
  rw [hsame, h.1] at hstep
  exact ⟨hsame, (Option.some.inj hstep).symm⟩

omit hy in
/-- A product that was not there at first and is there now has come in at some step. -/
theorem exists_insertsAt_of_has (hbefore : ¬ y.books.Has x)
    (hafter : (y.run schedule).books.Has x) :
    ∃ n i, y.InsertsAt schedule n i x := by
  have hend : ¬ ¬ (y.moment schedule schedule.length).books.Has x := by
    rw [moment_of_length_le (Nat.le_refl _)]
    exact not_not_intro hafter
  obtain ⟨n, -, hlt, hnot, hhas⟩ := exists_last
    (p := fun n => ¬ (y.moment schedule n).books.Has x) (Nat.zero_le _) hbefore hend
  have hstep : schedule[n]? = some schedule[n] := List.getElem?_eq_getElem hlt
  rw [moment_succ hstep, Classical.not_not] at hhas
  exact ⟨n, _, hstep, hnot, hhas⟩

omit hy in
/-- A product that is there at some moment and not in the end has gone at some step. -/
theorem exists_deletesAt_of_has {m : Nat} (hbefore : (y.moment schedule m).books.Has x)
    (hafter : ¬ (y.run schedule).books.Has x) : ∃ n i, y.DeletesAt schedule n i x := by
  have hle : m ≤ schedule.length := by
    refine Nat.le_of_not_le fun hle => ?_
    rw [moment_of_length_le hle] at hbefore
    exact hafter hbefore
  rw [← moment_of_length_le (y := y) (Nat.le_refl schedule.length)] at hafter
  obtain ⟨n, -, hlt, hhas, hnot⟩ := exists_last
    (p := fun n => (y.moment schedule n).books.Has x) hle hbefore hafter
  have hstep : schedule[n]? = some schedule[n] := List.getElem?_eq_getElem hlt
  rw [moment_succ hstep] at hnot
  exact ⟨n, _, hstep, hhas, hnot⟩

end Steps

/-- **Products are conserved**: each comes in by one addition and goes by one removal, which
return it; operations that return a product have moved it, and those that fail have not
moved any; and what is there in the end has come in and has not gone. -/
structure Conserves (y : SideBySide σ) (schedule : List Nat) : Prop where
  entered : ∀ {n i x}, y.InsertsAt schedule n i x →
    (∃ stamp p typeName, y.request? i = some (.addTo stamp p typeName)) ∧
      (y.run schedule).result? i = some (.ok (.product x))
  entered_once : ∀ {n n' i i' x}, y.InsertsAt schedule n i x → y.InsertsAt schedule n' i' x →
    n' = n ∧ i' = i
  left : ∀ {n i x}, y.DeletesAt schedule n i x →
    (∃ p, y.request? i = some (.removeFrom p)) ∧
      (y.run schedule).result? i = some (.ok (.product x))
  left_once : ∀ {n n' i i' x}, y.DeletesAt schedule n i x → y.DeletesAt schedule n' i' x →
    n' = n ∧ i' = i
  added : ∀ {i stamp p typeName x}, y.request? i = some (.addTo stamp p typeName) →
    (y.run schedule).result? i = some (.ok (.product x)) → ∃ n, y.InsertsAt schedule n i x
  removed : ∀ {i p x}, y.request? i = some (.removeFrom p) →
    (y.run schedule).result? i = some (.ok (.product x)) → ∃ n, y.DeletesAt schedule n i x
  failed : ∀ {i failure}, (y.run schedule).result? i = some (.error failure) →
    ∀ n x, ¬ y.InsertsAt schedule n i x ∧ ¬ y.DeletesAt schedule n i x
  stored_iff : ∀ x, (y.run schedule).books.Has x ↔
    (∃ n i, y.InsertsAt schedule n i x) ∧ ¬ ∃ n i, y.DeletesAt schedule n i x

/-- Operations that start on books without products conserve them. -/
theorem Regular.conserves {y : SideBySide σ} (hy : y.Regular) (hopen : ∀ i, y.result? i = none)
    (hempty : ∀ x, ¬ y.books.Has x) (schedule : List Nat) : y.Conserves schedule where
  entered h := ⟨(hy.insertsAt_iff.mp h).2, (hy.insertsAt_iff.mp h).1.result⟩
  entered_once := hy.insertsAt_once
  left h := ⟨(hy.deletesAt_iff.mp h).2, (hy.deletesAt_iff.mp h).1.result⟩
  left_once := hy.deletesAt_once
  added {i stamp p typeName x} hrequest hresult := by
    obtain ⟨n, hsettles⟩ := exists_settlesAt (hopen i) hresult
    exact ⟨n, hy.insertsAt_iff.mpr ⟨hsettles, stamp, p, typeName, hrequest⟩⟩
  removed {i p x} hrequest hresult := by
    obtain ⟨n, hsettles⟩ := exists_settlesAt (hopen i) hresult
    exact ⟨n, hy.deletesAt_iff.mpr ⟨hsettles, p, hrequest⟩⟩
  failed {i failure} hresult n x := by
    constructor
    · intro h
      have hok := (hy.insertsAt_iff.mp h).1.result
      rw [hresult] at hok
      cases hok
    · intro h
      have hok := (hy.deletesAt_iff.mp h).1.result
      rw [hresult] at hok
      cases hok
  stored_iff x := by
    constructor
    · intro hhas
      refine ⟨exists_insertsAt_of_has (hempty x) hhas, ?_⟩
      rintro ⟨n, i, h⟩
      obtain ⟨hlt, -⟩ := List.getElem?_eq_some_iff.mp h.1
      rw [← moment_of_length_le (y := y) (Nat.le_refl schedule.length)] at hhas
      exact hy.not_has_after_deletion h hlt hhas
    · rintro ⟨⟨n, i, h⟩, hkept⟩
      refine Classical.byContradiction fun hgone => hkept ?_
      have hhas := h.2.2
      have hstep : (y.run (schedule.take n)).tick i = y.moment schedule (n + 1) :=
        (moment_succ h.1).symm
      rw [hstep] at hhas
      exact exists_deletesAt_of_has hhas hgone

end SideBySide
end PickupLedger
