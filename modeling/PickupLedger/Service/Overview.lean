import PickupLedger.Service.Program
import PickupLedger.Store.Table

/-!
# The overview

The overview shows a page of pickup points with their receptions, and these with
their products.  Three lists are asked for, whatever the size of the page
(`Service.overview`), and nested afterwards (`Overview.assemble`): products are
grouped by reception and receptions by pickup point, and each group is taken by the
first that it belongs to.
-/

namespace PickupLedger

/-- A reception with its products. -/
structure ReceptionOverview where
  reception : Reception
  products : List Product
  deriving DecidableEq, Repr

/-- **A pickup point with its receptions.** -/
structure PickupPointOverview where
  point : PickupPoint
  receptions : List ReceptionOverview
  deriving DecidableEq, Repr

namespace Overview

/-- Children grouped under their parents, in their order. -/
abbrev Groups (α : Type) := Table Uuid (List α)

/-- The groups with one more child at the end of its parent's. -/
def Groups.push {α : Type} (g : Groups α) (parent : Uuid) (child : α) : Groups α :=
  g.put parent ((g.get? parent).getD [] ++ [child])

/-- The group of a parent, and the groups without it. -/
def Groups.take {α : Type} (g : Groups α) (parent : Uuid) : List α × Groups α :=
  ((g.get? parent).getD [], g.erase parent)

/-- Products by their receptions. -/
def groupProducts (products : List Product) : Groups Product :=
  products.foldl (fun g p => g.push p.reception p) .empty

/-- Receptions by their pickup points; each takes its group of products. -/
def groupReceptions (receptions : List Reception) (products : Groups Product) :
    Groups ReceptionOverview :=
  (receptions.foldl
    (fun (g, products) r =>
      let (own, products) := Groups.take products r.id
      (Groups.push g r.pickupPoint ⟨r, own⟩, products))
    ((.empty, products) : Groups ReceptionOverview × Groups Product)).1

/-- Pickup points in their order; each takes its group of receptions. -/
def attach : List PickupPoint → Groups ReceptionOverview → List PickupPointOverview
  | [], _ => []
  | p :: ps, g =>
    let (own, g) := Groups.take g p.id
    ⟨p, own⟩ :: attach ps g

/-- **Three lists nested.** -/
def assemble (points : List PickupPoint) (receptions : List Reception) (products : List Product) :
    List PickupPointOverview :=
  attach points (groupReceptions receptions (groupProducts products))

end Overview

namespace Service

/-- The products of receptions; none are asked for if there are no receptions. -/
def overviewProducts (receptions : List Uuid) : Operation (List Product) :=
  if receptions.isEmpty then pure []
  else .call "list overview: products" (.productsOf receptions)

/-- A page or window that cannot be asked for ends the operation. -/
def accept (check : Except ListFault Unit) : Operation Unit :=
  match check with
  | .ok () => pure ()
  | .error fault => .fail (.ofListFault fault)

/-- **A page of the overview**, of the pickup points that had a reception in a window. -/
def overview (window : DateWindow) (page : Page) : Operation (List PickupPointOverview) := do
  accept page.check
  accept window.check
  let points : List PickupPoint ← .call "list overview: pickup points" (.pickupPointPage ⟨page, window⟩)
  if points.isEmpty then return []
  let receptions : List Reception ←
    .call "list overview: receptions" (.receptionsAt (points.map PickupPoint.id))
  let products ← overviewProducts (receptions.map Reception.id)
  return Overview.assemble points receptions products

end Service
end PickupLedger
