import PickupLedger.Toml.Value

/-!
# Tables in the making

A document builds its tables line by line.  A `Node` remembers how a table has come
about, for that decides who may still add to it: a header opens a table once, though
tables of longer headers may have implied it before; keys with points lead into tables
that such keys have made, and into no table that a header has opened; and a value that
has been given, a table in braces among them, is never added to.
-/

namespace PickupLedger.Toml

/-- How a table has come about. -/
inductive Origin where
  /-- It has a header of its own. -/
  | opened
  /-- A longer header has implied it. -/
  | implied
  /-- A key with points has led to it. -/
  | dotted
  deriving DecidableEq, Repr

/-- **What stands under a key.** -/
inductive Node where
  | value (value : Value)
  | table (origin : Origin) (members : List (String × Node))
  /-- Tables under one header; the last one is being filled. -/
  | tables (last : List (String × Node)) (earlier : List (List (String × Node)))
  deriving Inhabited

/-- The keys of a table with what stands under them. -/
abbrev Members := List (String × Node)

namespace Members

/-- What stands under a key. -/
def find? (ms : Members) (key : String) : Option Node :=
  (List.find? (fun m : String × Node => m.1 = key) ms).map Prod.snd

/-- The members with a node under a key. -/
def put (key : String) (node : Node) : Members → Members
  | [] => [(key, node)]
  | m :: ms => if m.1 = key then (key, node) :: ms else m :: put key node ms

/-- The members with a change made at the end of a path of headers; tables that are
missing on the way are implied. -/
def within (change : Members → Option Members) : List String → Members → Option Members
  | [], ms => change ms
  | key :: path, ms =>
    match ms.find? key with
    | none => (within change path []).map fun inner => ms.put key (.table .implied inner)
    | some (.value _) => none
    | some (.table origin inner) =>
      (within change path inner).map fun inner => ms.put key (.table origin inner)
    | some (.tables last earlier) =>
      (within change path last).map fun last => ms.put key (.tables last earlier)

/-- The members with the table of a header. -/
def openTable (key : String) (ms : Members) : Option Members :=
  match ms.find? key with
  | none => some (ms.put key (.table .opened []))
  | some (.table .implied inner) => some (ms.put key (.table .opened inner))
  | _ => none

/-- The members with one more of the tables of a header. -/
def pushTable (key : String) (ms : Members) : Option Members :=
  match ms.find? key with
  | none => some (ms.put key (.tables [] []))
  | some (.tables last earlier) => some (ms.put key (.tables [] (last :: earlier)))
  | _ => none

/-- **The members with one more value**, at the end of a path of keys with points between
them; `here` says whether the value may stand in the table that is looked at. -/
def assign (value : Value) (here : Bool) : List String → Members → Option Members
  | [], _ => none
  | [key], ms =>
    if here && (ms.find? key).isNone then some (ms ++ [(key, .value value)]) else none
  | key :: path, ms =>
    match ms.find? key with
    | none => (assign value true path []).map fun inner => ms.put key (.table .dotted inner)
    | some (.value _) => none
    | some (.table .opened _) => none
    | some (.table origin inner) =>
      (assign value (origin = .dotted) path inner).map fun inner =>
        ms.put key (.table origin inner)
    | some (.tables last earlier) =>
      (assign value false path last).map fun last => ms.put key (.tables last earlier)

end Members

/-! ## Values -/

mutual

/-- The value of a node. -/
def Node.toValue : Node → Value
  | .value v => v
  | .table _ ms => .table (memberValues ms)
  | .tables last earlier => .array (tableValues [] (last :: earlier))

/-- The values of members. -/
def memberValues : List (String × Node) → List (String × Value)
  | [] => []
  | (key, node) :: ms => (key, node.toValue) :: memberValues ms

/-- The values of tables, the last of which come first, in front of others. -/
def tableValues (after : List Value) : List (List (String × Node)) → List Value
  | [] => after
  | t :: ts => tableValues (.table (memberValues t) :: after) ts

end

end PickupLedger.Toml
