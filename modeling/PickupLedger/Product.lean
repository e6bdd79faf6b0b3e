import PickupLedger.Recency
import PickupLedger.Reference

/-!
# Products

A product is one item that was logged into a reception.  `Product.newest?` is the
item that is removed first.
-/

namespace PickupLedger

/-- **A product** of a reception. -/
structure Product where
  id : Uuid
  added : Instant
  typeId : RefId
  /-- The name of the type behind `typeId`, once it has been resolved. -/
  typeName : Option String
  reception : Uuid
  deriving DecidableEq, Repr

namespace Product

/-- A product of a type that is known. -/
def ofType (id reception : Uuid) (added : Instant) (type : ProductType) : Product :=
  ⟨id, added, type.id, some type.name, reception⟩

/-- The order key of a product: when it was added. -/
def recency (p : Product) : Recency := ⟨p.added, p.id⟩

end Product

/-- **The element with the greatest key**, of several the last. -/
def greatest? {α κ : Type} (key : α → κ) (le : κ → κ → Bool) : List α → Option α
  | [] => none
  | a :: as => some (as.foldl (fun best x => if le (key best) (key x) then x else best) a)

section Greatest
variable {α κ : Type} {key : α → κ} {le : κ → κ → Bool} {as : List α} {a best : α}

theorem greatest?_eq_none : greatest? key le as = none ↔ as = [] := by
  cases as <;> simp [greatest?]

private theorem foldl_greater_mem :
    as.foldl (fun best x => if le (key best) (key x) then x else best) a ∈ a :: as := by
  induction as generalizing a with
  | nil => simp
  | cons x as ih =>
    rw [List.foldl_cons]
    split
    · exact List.mem_cons_of_mem _ ih
    · rcases List.mem_cons.mp (ih (a := a)) with h | h
      · rw [h]; exact List.mem_cons_self
      · exact List.mem_cons_of_mem _ (List.mem_cons_of_mem _ h)

theorem mem_of_greatest? (h : greatest? key le as = some best) : best ∈ as := by
  cases as with
  | nil => cases h
  | cons a as =>
    rw [← Option.some.inj h]
    exact foldl_greater_mem

private theorem le_foldl_greater (refl : ∀ k, le k k = true)
    (total : ∀ j k, (le j k || le k j) = true)
    (trans : ∀ {i j k}, le i j = true → le j k = true → le i k = true) {x : α} (hx : x ∈ a :: as) :
    le (key x)
      (key (as.foldl (fun best x => if le (key best) (key x) then x else best) a)) = true := by
  induction as generalizing a x with
  | nil => rw [List.mem_singleton.mp hx]; exact refl _
  | cons y as ih =>
    rw [List.foldl_cons]
    split
    · next hle =>
      rcases List.mem_cons.mp hx with rfl | hx
      · exact trans hle (ih List.mem_cons_self)
      · exact ih hx
    · next hle =>
      rcases List.mem_cons.mp hx with rfl | hx
      · exact ih List.mem_cons_self
      rcases List.mem_cons.mp hx with rfl | hx
      · have hge : le (key x) (key a) = true := by simpa [hle] using total (key a) (key x)
        exact trans hge (ih List.mem_cons_self)
      · exact ih (List.mem_cons_of_mem _ hx)

/-- Over a total order no key is above that of the greatest element. -/
theorem le_greatest? (refl : ∀ k, le k k = true) (total : ∀ j k, (le j k || le k j) = true)
    (trans : ∀ {i j k}, le i j = true → le j k = true → le i k = true)
    (h : greatest? key le as = some best) {x : α} (hx : x ∈ as) : le (key x) (key best) = true := by
  cases as with
  | nil => cases h
  | cons a as =>
    rw [← Option.some.inj h]
    exact le_foldl_greater refl total trans hx

/-- Of the elements with the greatest key the last one is chosen. -/
theorem greatest?_append_last {last : α} (hlast : ∀ a ∈ as, le (key a) (key last) = true) :
    greatest? key le (as ++ [last]) = some last := by
  cases as with
  | nil => rfl
  | cons a as =>
    rw [List.cons_append, greatest?, List.foldl_append]
    have hbest : greatest? key le (a :: as) = some _ := rfl
    exact congrArg some (if_pos (hlast _ (mem_of_greatest? hbest)))

end Greatest

/-- The product that was added last. -/
def Product.newest? (ps : List Product) : Option Product :=
  greatest? Product.recency Recency.le ps

end PickupLedger
