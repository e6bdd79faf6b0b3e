import PickupLedger.Http.Percent

/-!
# Where a database is kept

The address of a database is `sqlite:`, perhaps two slashes, and a place: `:memory:` or
the path of a file.  Parameters may follow a question mark, written as in a query; the
mode says whether a file that is missing is created, or that the place is in memory after
all.  An address of another kind, or with a parameter that is not known, leads nowhere.
-/

namespace PickupLedger

/-- **Where a database is kept.** -/
inductive DatabasePlace where
  | memory
  /-- A file, which may be created if it is missing. -/
  | file (path : String) (create : Bool)
  deriving DecidableEq, Repr

namespace DatabasePlace

/-- The place with another mode; what is in memory stays there. -/
def inMode (place : DatabasePlace) : String → Option DatabasePlace
  | "memory" => some .memory
  | "rwc" =>
    match place with
    | .memory => some .memory
    | .file path _ => some (.file path true)
  | "rw" | "ro" => some place
  | _ => none

/-- The place with one more parameter of its address. -/
def withParameter (place : DatabasePlace) (name value : String) : Option DatabasePlace :=
  match name with
  | "mode" => place.inMode value
  | "cache" => if ["private", "shared"].contains value then some place else none
  | "immutable" => if ["true", "false", "1", "0"].contains value then some place else none
  | "vfs" => some place
  | _ => none

/-- The place that stands in an address, without parameters. -/
def ofName (name : String) : DatabasePlace :=
  if name = ":memory:" then .memory else .file ((Http.segmentText? name).getD name) false

/-- The text behind a beginning, if it has it. -/
def behind (beginning cs : List Char) : Option (List Char) :=
  if beginning.isPrefixOf cs then some (cs.drop beginning.length) else none

/-- **The place of an address.** -/
def ofUrl? (url : String) : Option DatabasePlace := do
  let rest ← behind "sqlite:".toList url.toList
  let rest := (behind "//".toList rest).getD rest
  let name := rest.takeWhile (· ≠ '?')
  let parameters := Http.queryPairs (String.ofList (rest.drop (name.length + 1)))
  parameters.foldlM (fun place p => place.withParameter p.1 p.2) (ofName (String.ofList name))

end DatabasePlace
end PickupLedger
