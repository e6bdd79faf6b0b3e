import PickupLedger.Http.Percent
import PickupLedger.Text.Pieces
import PickupLedger.Uuid

/-!
# Resources

The paths of the service.  A `Resource` is what a path names, with the segments that
are its own; its template is the path with names for such segments, under which
requests are counted.  A segment of a path is never empty, and letters count.
-/

namespace PickupLedger.Http

/-- **What a path names.** -/
inductive Resource where
  /-- The pickup points. -/
  | points
  | allPoints
  /-- One pickup point, by a segment that should be its identifier. -/
  | point (segment : String)
  /-- The end of a pickup point's reception. -/
  | closing (segment : String)
  /-- The removal of a pickup point's last product. -/
  | removal (segment : String)
  | receptions
  | products
  | health
  | metrics
  /-- The documentation, under a path that leads to it. -/
  | docs
  | docsIndex
  | docsFile (path : String)
  /-- The description of the interface. -/
  | description
  deriving DecidableEq, Repr

namespace Resource

/-- The path with names for its variable segments. -/
def template : Resource → String
  | .points => "/api/v1/pvz"
  | .allPoints => "/api/v1/pvz/all"
  | .point _ => "/api/v1/pvz/\x7bpvz_id\x7d"
  | .closing _ => "/api/v1/pvz/\x7bpvz_id\x7d/close_last_reception"
  | .removal _ => "/api/v1/pvz/\x7bpvz_id\x7d/delete_last_product"
  | .receptions => "/api/v1/receptions"
  | .products => "/api/v1/products"
  | .health => "/health"
  | .metrics => "/metrics"
  | .docs => "/docs"
  | .docsIndex => "/docs/"
  | .docsFile _ => "/docs/\x7b*rest\x7d"
  | .description => "/api-doc/openapi.json"

/-- A resource can be read. -/
def canGet : Resource → Bool
  | .closing _ | .removal _ | .receptions | .products => false
  | _ => true

/-- A resource can be posted to. -/
def canPost : Resource → Bool
  | .points | .closing _ | .removal _ | .receptions | .products => true
  | _ => false

/-- The methods of a resource, as a refusal names them. -/
def allowed (r : Resource) : String :=
  if r.canGet then (if r.canPost then "GET,HEAD,POST" else "GET,HEAD") else "POST"

/-- A resource of the interface itself, which answers in envelopes. -/
def isApi : Resource → Bool
  | .points | .allPoints | .point _ | .closing _ | .removal _ | .receptions | .products => true
  | _ => false

/-- The resource of the segments behind the first slash. -/
def ofSegments (metrics : Bool) : List String → Option Resource
  | ["api", "v1", "pvz"] => some .points
  | ["api", "v1", "pvz", "all"] => some .allPoints
  | ["api", "v1", "pvz", id] => if id.isEmpty then none else some (.point id)
  | ["api", "v1", "pvz", id, "close_last_reception"] =>
    if id.isEmpty then none else some (.closing id)
  | ["api", "v1", "pvz", id, "delete_last_product"] =>
    if id.isEmpty then none else some (.removal id)
  | ["api", "v1", "receptions"] => some .receptions
  | ["api", "v1", "products"] => some .products
  | ["health"] => some .health
  | ["metrics"] => if metrics then some .metrics else none
  | ["docs"] => some .docs
  | ["docs", ""] => some .docsIndex
  | "docs" :: rest => some (.docsFile ("/".intercalate rest))
  | ["api-doc", "openapi.json"] => some .description
  | _ => none

/-- **The resource of a path**; there are metrics only if they are on. -/
def ofPath (metrics : Bool) (path : String) : Option Resource :=
  match path.toList with
  | '/' :: rest => ofSegments metrics ((Text.pieces '/' rest).map String.ofList)
  | _ => none

end Resource

/-- Why a segment is no identifier. -/
inductive SegmentFault where
  /-- Its bytes are no text. -/
  | notText
  | notIdentifier (value : String)
  deriving DecidableEq, Repr

/-- The words of a fault. -/
def SegmentFault.message : SegmentFault → String
  | .notText => "Invalid URL: Invalid UTF-8 in \x60pvz_id\x60"
  | .notIdentifier value =>
    "Invalid URL: Cannot parse \x60pvz_id\x60 with value \x60" ++ value ++ "\x60: UUID parsing failed"

/-- The identifier of a segment. -/
def segmentId (segment : String) : Except SegmentFault Uuid :=
  match segmentText? segment with
  | none => .error .notText
  | some value =>
    match Uuid.ofString? value with
    | some id => .ok id
    | none => .error (.notIdentifier value)

end PickupLedger.Http
