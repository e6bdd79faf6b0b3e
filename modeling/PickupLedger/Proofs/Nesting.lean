import PickupLedger.Service.Overview

/-!
# Nesting

The overview nests three flat lists by way of groups: each product goes to the group of its
reception, each reception takes its group and goes to the group of its pickup point, and
each pickup point takes its group in the end.  A group is taken by the first that it belongs
to and is gone then, so a second reception under one identifier would find none; with
distinct identifiers every child ends up under its parent, in its order
(`Overview.assemble_eq`).

Put one after the other, the children of distinct parents are the children that have a parent
among them, each as often as it was there (`Overview.flatMap_filter_perm`).  Taken twice, from
receptions to pickup points and from products to receptions, this says what nesting keeps:
whatever has no parent on the lists is left out, and all else is shown once
(`Overview.nesting_is_exact`).
-/

namespace PickupLedger.Overview

namespace Groups
variable {α : Type}

/-- The children of a parent, in their order. -/
def of (g : Groups α) (parent : Uuid) : List α := (g.get? parent).getD []

@[simp] theorem of_empty (parent : Uuid) : of (Table.empty : Groups α) parent = [] := rfl

theorem of_push (g : Groups α) (parent : Uuid) (child : α) (k : Uuid) :
    of (g.push parent child) k = of g k ++ (if parent = k then [child] else []) := by
  simp only [of, push, Table.get?_put]
  by_cases h : parent = k
  · simp [h]
  · simp [h, Ne.symm h]

theorem of_erase {g : Groups α} {taken k : Uuid} (h : k ≠ taken) :
    of (Table.erase g taken) k = of g k := by
  rw [of, Table.get?_erase, if_neg h, of]

end Groups

/-- Children that are pushed one after the other come after those that were there. -/
theorem foldl_push {α : Type} (parent : α → Uuid) (xs : List α) (g : Groups α) (k : Uuid) :
    (xs.foldl (fun g x => g.push (parent x) x) g).of k =
      g.of k ++ xs.filter fun x => parent x = k := by
  induction xs generalizing g with
  | nil => simp
  | cons x xs ih =>
    rw [List.foldl_cons, ih, Groups.of_push, List.append_assoc, List.filter_cons]
    by_cases h : parent x = k <;> simp [h]

theorem groupProducts_of (products : List Product) (k : Uuid) :
    (groupProducts products).of k = products.filter fun x => x.reception = k := by
  rw [groupProducts, foldl_push Product.reception, Groups.of_empty, List.nil_append]

/-- A reception takes its group of products and goes to the group of its pickup point. -/
def file (gs : Groups ReceptionOverview × Groups Product) (r : Reception) :
    Groups ReceptionOverview × Groups Product :=
  (gs.1.push r.pickupPoint ⟨r, gs.2.of r.id⟩, Table.erase gs.2 r.id)

theorem groupReceptions_eq_foldl (receptions : List Reception) (products : Groups Product) :
    groupReceptions receptions products = (receptions.foldl file (.empty, products)).1 := rfl

/-- A reception with the products of its group. -/
def withGroup (products : Groups Product) (r : Reception) : ReceptionOverview :=
  ⟨r, products.of r.id⟩

/-- Receptions of distinct identifiers each find their own group. -/
theorem groupReceptions_of {receptions : List Reception}
    (hids : (receptions.map Reception.id).Nodup) (products : Groups Product) (k : Uuid) :
    (groupReceptions receptions products).of k =
      (receptions.filter fun r => r.pickupPoint = k).map (withGroup products) := by
  suffices h : ∀ g : Groups ReceptionOverview, (receptions.foldl file (g, products)).1.of k =
      g.of k ++ (receptions.filter fun r => r.pickupPoint = k).map (withGroup products) by
    rw [groupReceptions_eq_foldl, h, Groups.of_empty, List.nil_append]
  induction receptions generalizing products with
  | nil => simp
  | cons r rs ih =>
    intro g
    rw [List.map_cons, List.nodup_cons] at hids
    rw [List.foldl_cons, file, ih hids.2, Groups.of_push, List.append_assoc, List.filter_cons]
    -- The group that the first reception took is that of none of the others.
    have hothers : (rs.filter fun r => r.pickupPoint = k).map
        (withGroup (Table.erase products r.id)) =
        (rs.filter fun r => r.pickupPoint = k).map (withGroup products) := by
      refine List.map_congr_left fun r' hr' => ?_
      have hne : r'.id ≠ r.id := fun heq =>
        hids.1 (heq ▸ List.mem_map_of_mem (List.mem_filter.mp hr').1)
      rw [withGroup, Groups.of_erase hne, withGroup]
    rw [hothers]
    by_cases h : r.pickupPoint = k
    · simp [h, withGroup, Groups.of]
    · simp [h]

theorem attach_eq {points : List PickupPoint} (hids : (points.map PickupPoint.id).Nodup)
    (groups : Groups ReceptionOverview) :
    attach points groups = points.map fun p => ⟨p, groups.of p.id⟩ := by
  induction points generalizing groups with
  | nil => rfl
  | cons p ps ih =>
    rw [List.map_cons, List.nodup_cons] at hids
    rw [attach, List.map_cons]
    simp only [Groups.take]
    rw [ih hids.2]
    refine congrArg _ (List.map_congr_left fun p' hp' => ?_)
    have hne : p'.id ≠ p.id := fun heq => hids.1 (heq ▸ List.mem_map_of_mem hp')
    rw [Groups.of_erase hne]

/-- **The three lists nested**: under each pickup point its receptions, and under each of
these its products. -/
theorem assemble_eq {points : List PickupPoint} {receptions : List Reception}
    (hpoints : (points.map PickupPoint.id).Nodup)
    (hreceptions : (receptions.map Reception.id).Nodup) (products : List Product) :
    assemble points receptions products = points.map fun p =>
      ⟨p, (receptions.filter fun r => r.pickupPoint = p.id).map fun r =>
        ⟨r, products.filter fun x => x.reception = r.id⟩⟩ := by
  rw [assemble, attach_eq hpoints]
  refine List.map_congr_left fun p _ => ?_
  rw [groupReceptions_of hreceptions]
  refine congrArg _ (List.map_congr_left fun r _ => ?_)
  rw [withGroup, groupProducts_of]

/-! ## What nesting keeps -/

theorem map_point_attach (points : List PickupPoint) (groups : Groups ReceptionOverview) :
    (attach points groups).map PickupPointOverview.point = points := by
  induction points generalizing groups with
  | nil => rfl
  | cons p ps ih => exact congrArg _ (ih _)

/-- Nesting leaves no pickup point out. -/
theorem map_point_assemble (points : List PickupPoint) (receptions : List Reception)
    (products : List Product) :
    (assemble points receptions products).map PickupPointOverview.point = points :=
  map_point_attach points _

/-- Elements that pass one of two tests, of which none passes both: those of one test and those
of the other. -/
theorem filter_or_perm {α : Type} {p q : α → Prop} [DecidablePred p] [DecidablePred q]
    (hdisjoint : ∀ x, q x → ¬ p x) (xs : List α) :
    (xs.filter fun x => p x ∨ q x).Perm ((xs.filter fun x => p x) ++ xs.filter fun x => q x) := by
  have hfirst : ((xs.filter fun x => p x ∨ q x).filter fun x => p x) = xs.filter fun x => p x := by
    rw [List.filter_filter]
    exact List.filter_congr fun x _ => by grind
  have hothers : ((xs.filter fun x => p x ∨ q x).filter fun x => !decide (p x)) =
      xs.filter fun x => q x := by
    rw [List.filter_filter]
    exact List.filter_congr fun x _ => by grind
  rw [← hfirst, ← hothers]
  exact (List.filter_append_perm _ _).symm

/-- **The children of distinct parents**, put one after the other, are the children that have
one of these parents. -/
theorem flatMap_filter_perm {α β : Type} (key : α → Uuid) (parent : β → Uuid) {as : List α}
    (hkeys : (as.map key).Nodup) (xs : List β) :
    (as.flatMap fun a => xs.filter fun x => parent x = key a).Perm
      (xs.filter fun x => ∃ a ∈ as, parent x = key a) := by
  induction as with
  | nil => simp
  | cons a as ih =>
    rw [List.map_cons, List.nodup_cons] at hkeys
    -- No child has two parents.
    have hone : ∀ x, (∃ b ∈ as, parent x = key b) → ¬ parent x = key a := by
      rintro x ⟨b, hb, hx⟩ heq
      exact hkeys.1 (heq ▸ hx ▸ List.mem_map_of_mem hb)
    simp only [List.flatMap_cons, List.mem_cons, exists_eq_or_imp]
    exact ((ih hkeys.2).append_left _).trans (filter_or_perm hone xs).symm

section Distinct
variable {points : List PickupPoint} {receptions : List Reception}
  (hpoints : (points.map PickupPoint.id).Nodup)
  (hreceptions : (receptions.map Reception.id).Nodup) (products : List Product)
include hpoints hreceptions

/-- The receptions that an overview shows are those of its pickup points, each with all its
products. -/
theorem flatMap_receptions_perm :
    ((assemble points receptions products).flatMap PickupPointOverview.receptions).Perm
      ((receptions.filter fun r => ∃ p ∈ points, r.pickupPoint = p.id).map fun r =>
        ⟨r, products.filter fun x => x.reception = r.id⟩) := by
  rw [assemble_eq hpoints hreceptions, List.flatMap_map, ← List.map_flatMap]
  exact (flatMap_filter_perm PickupPoint.id Reception.pickupPoint hpoints receptions).map _

/-- The products that an overview shows are those of the receptions of its pickup points. -/
theorem flatMap_products_perm :
    (((assemble points receptions products).flatMap PickupPointOverview.receptions).flatMap
        ReceptionOverview.products).Perm
      (products.filter fun x =>
        ∃ r ∈ receptions, (∃ p ∈ points, r.pickupPoint = p.id) ∧ x.reception = r.id) := by
  have hlisted : ((receptions.filter fun r => ∃ p ∈ points, r.pickupPoint = p.id).map
      Reception.id).Nodup := hreceptions.sublist (List.filter_sublist.map _)
  have hproducts := flatMap_filter_perm Reception.id Product.reception hlisted products
  have hshown := (flatMap_receptions_perm hpoints hreceptions products).flatMap_right
    ReceptionOverview.products
  rw [List.flatMap_map] at hshown
  refine hshown.trans ?_
  simpa [and_assoc] using hproducts

end Distinct

/-- **An overview that is three lists nested**, with nothing lost and nothing shown twice. -/
structure ExactNesting (points : List PickupPoint) (receptions : List Reception)
    (products : List Product) (os : List PickupPointOverview) : Prop where
  /-- The pickup points in their order, under each its receptions in theirs, and under each of
  these its products in theirs. -/
  nested : os = points.map fun p =>
    ⟨p, (receptions.filter fun r => r.pickupPoint = p.id).map fun r =>
      ⟨r, products.filter fun x => x.reception = r.id⟩⟩
  /-- Each reception of a pickup point that is listed is shown once, and no other. -/
  receptionsOnce :
    ((os.flatMap PickupPointOverview.receptions).map ReceptionOverview.reception).Perm
      (receptions.filter fun r => ∃ p ∈ points, r.pickupPoint = p.id)
  /-- Each product of a reception that is shown is shown once, and no other. -/
  productsOnce :
    ((os.flatMap PickupPointOverview.receptions).flatMap ReceptionOverview.products).Perm
      (products.filter fun x =>
        ∃ r ∈ receptions, (∃ p ∈ points, r.pickupPoint = p.id) ∧ x.reception = r.id)

/-- **Nesting is exact**: with distinct pickup points and distinct receptions every child goes
to its parent, and only what has none on the lists is left out.  The products may be any. -/
theorem nesting_is_exact {points : List PickupPoint} {receptions : List Reception}
    (hpoints : (points.map PickupPoint.id).Nodup)
    (hreceptions : (receptions.map Reception.id).Nodup) (products : List Product) :
    ExactNesting points receptions products (assemble points receptions products) where
  nested := assemble_eq hpoints hreceptions products
  receptionsOnce := by
    have hshown := (flatMap_receptions_perm hpoints hreceptions products).map
      ReceptionOverview.reception
    rw [List.map_map] at hshown
    exact hshown.trans (.of_eq (List.map_id' _))
  productsOnce := flatMap_products_perm hpoints hreceptions products

/-- Two pickup points, in the order of a page. -/
def twoPoints : List PickupPoint :=
  [.inCity (.ofNat 2) .epoch ⟨1, "Москва"⟩, .inCity (.ofNat 1) .epoch ⟨3, "Казань"⟩]

/-- A reception at a pickup point. -/
def receptionAt (point id : Nat) : Reception :=
  ⟨.ofNat id, .ofNat point, .epoch, Seed.inProgressId, some .inProgress⟩

/-- Shoes in a reception. -/
def shoesIn (reception id : Nat) : Product :=
  .ofType (.ofNat id) (.ofNat reception) .epoch ⟨3, "обувь"⟩

/-- **Orphans are left out**: a reception of a third pickup point with its product, and a product
of no reception at all.  A product that is there twice is shown twice. -/
theorem orphans_are_left_out :
    let receptions := [receptionAt 1 11, receptionAt 3 12, receptionAt 2 13, receptionAt 1 14]
    let products := [shoesIn 14 21, shoesIn 12 22, shoesIn 19 23, shoesIn 11 24, shoesIn 14 21]
    (twoPoints.map PickupPoint.id).Nodup ∧ (receptions.map Reception.id).Nodup ∧
      (assemble twoPoints receptions products).map PickupPointOverview.receptions =
        [[⟨receptionAt 2 13, []⟩],
          [⟨receptionAt 1 11, [shoesIn 11 24]⟩,
            ⟨receptionAt 1 14, [shoesIn 14 21, shoesIn 14 21]⟩]] ∧
      ExactNesting twoPoints receptions products (assemble twoPoints receptions products) := by
  intro receptions products
  have hpoints : (twoPoints.map PickupPoint.id).Nodup := by decide
  have hreceptions : (receptions.map Reception.id).Nodup := by decide
  exact ⟨hpoints, hreceptions, by decide +kernel, nesting_is_exact hpoints hreceptions products⟩

end PickupLedger.Overview
