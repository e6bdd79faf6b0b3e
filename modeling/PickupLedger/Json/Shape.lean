import PickupLedger.Json.Misfit
import PickupLedger.Reference
import PickupLedger.Time.Reading
import PickupLedger.Uuid

/-!
# Values from a JSON text

A `Reader` takes a value from a draft and reports the first problem of the text, from
left to right.  A record is described by a `Shape`: its fields in their order, each
with its key and reader.  It is read from an object, whose members may come in any
order and among others that are not known, or from an array of its fields.

In an object the members are looked at in their order; a key that is known may come
once; and only when the object is closed are the missing fields told, in the order of
the shape.  What a member holds that is not known is only checked to be JSON.
-/

namespace PickupLedger.Json

/-- **Takes a value from a draft.** -/
abbrev Reader (α : Type) := Draft → Except Problem α

/-- Why there is no value: it does not fit, here. -/
def misfit {α : Type} (m : Misfit) : Except Problem α := .error (.unfit [] m)

namespace Draft

mutual

/-- The draft is a whole JSON value. -/
def isWhole : Draft → Bool
  | .broken => false
  | .null | .bool _ | .number _ | .string _ => true
  | .array items closed => closed && allWhole items
  | .object members closed => closed && membersWhole members

/-- All of these are whole. -/
def allWhole : List Draft → Bool
  | [] => true
  | d :: ds => d.isWhole && allWhole ds

/-- All values of these members are whole. -/
def membersWhole : List (Option String × Draft) → Bool
  | [] => true
  | (_, d) :: ms => d.isWhole && membersWhole ms

end

/-- What is found where something else was expected. -/
def found (d : Draft) : Except Problem Found :=
  match d with
  | .broken | .string none => .error .malformed
  | .null => .ok .null
  | .bool b => .ok (.bool b)
  | .number n =>
    match n.integer? with
    | some i => .ok (.integer i)
    | none =>
      if n.isRepresentable then .ok (.double (String.ofList n.doubleText)) else .error .malformed
  | .string (some s) => .ok (.string s)
  | .array .. => .ok .sequence
  | .object .. => .ok .map

/-- The refusal of what is found. -/
def refuse {α : Type} (d : Draft) (expected : String) : Except Problem α :=
  match d.found with
  | .ok found => misfit (.wrongType found expected)
  | .error e => .error e

end Draft

/-! ## Scalars -/

namespace Reader

/-- Any JSON value, left unread. -/
def ignored : Reader Unit := fun d => if d.isWhole then .ok () else .error .malformed

/-- A string. -/
def string : Reader String
  | .string (some s) => .ok s
  | d => d.refuse "a string"

/-- A boolean. -/
def bool : Reader Bool
  | .bool b => .ok b
  | d => d.refuse "a boolean"

/-- An integer between two bounds. -/
def integer (least most : Int) (expected : String) : Reader Int
  | .number n =>
    match n.integer? with
    | some i => if least ≤ i ∧ i ≤ most then .ok i else misfit (.outOfRange i expected)
    | none => (Draft.number n).refuse expected
  | d => d.refuse expected

/-- A signed integer of 32 bits. -/
def int32 : Reader Int32 := fun d =>
  (integer (-0x80000000) 0x7fffffff "i32" d).map Int32.ofInt

/-- An unsigned integer of 32 bits. -/
def uint32 : Reader UInt32 := fun d =>
  (integer 0 0xffffffff "u32" d).map fun i => UInt32.ofNat i.toNat

/-- An unsigned integer of 16 bits. -/
def uint16 : Reader UInt16 := fun d =>
  (integer 0 0xffff "u16" d).map fun i => UInt16.ofNat i.toNat

/-- An unsigned integer of 64 bits. -/
def uint64 : Reader UInt64 := fun d =>
  (integer 0 0xffffffffffffffff "u64" d).map fun i => UInt64.ofNat i.toNat

/-- A string that is read further; a string that cannot be is a misfit. -/
def parsed {α : Type} (expected : String) (read : String → Option α) (fault : Misfit) : Reader α
  | .string (some s) =>
    match read s with
    | some a => .ok a
    | none => misfit fault
  | d => d.refuse expected

/-- An identifier. -/
def uuid : Reader Uuid := parsed "a formatted UUID string" Uuid.ofString? .notAnIdentifier

/-- An instant. -/
def instant : Reader Instant :=
  parsed "an RFC 3339 formatted date and time string" Instant.ofString? .notAnInstant

/-- One of some names: the name, or an object that holds nothing under it. -/
def named {α : Type} (ofName? : String → Option α) (fault : String → Misfit) : Reader α
  | .string (some s) => known s
  | .object ((some key, value) :: rest) closed => do
    let a ← known key
    match value with
    | .null => if rest.isEmpty && closed then .ok a else .error .malformed
    | d => d.refuse "unit"
  | _ => .error .malformed
where
  /-- The value of a name. -/
  known (s : String) : Except Problem α :=
    match ofName? s with
    | some a => .ok a
    | none => misfit (fault s)

/-- A status, by its name. -/
def status : Reader StatusKind := named StatusKind.ofName? .unknownStatus

/-- A value or null. -/
def nullable {α : Type} (reader : Reader α) : Reader (Option α)
  | .null => .ok none
  | d => (reader d).map some

/-- The items of an array from a position on. -/
def items {α : Type} (reader : Reader α) : Nat → List Draft → Except Problem (List α)
  | _, [] => .ok []
  | i, d :: ds => do
    let a ← located (.item i) (reader d)
    let rest ← items reader (i + 1) ds
    return a :: rest

/-- An array of values. -/
def list {α : Type} (reader : Reader α) : Reader (List α)
  | .array ds closed => do
    let values ← items reader 0 ds
    if closed then return values else .error .malformed
  | d => d.refuse "a sequence"

end Reader

/-! ## Records -/

/-- A field of a record, as far as its reading goes. -/
structure Field where
  key : String
  /-- The first problem of a value for the field. -/
  check : Draft → Except Problem Unit
  /-- An array may end before the field. -/
  mayEnd : Bool

/-- **A record**: its fields in their order, and how it is built from their values. -/
structure Shape (α : Type) where
  fields : List Field
  /-- The record of the values under its keys, or its first missing field. -/
  build : (String → Option Draft) → Except Problem α

namespace Shape

variable {α β : Type}

instance : Functor Shape where
  map f s := ⟨s.fields, fun values => (s.build values).map f⟩

instance : Applicative Shape where
  pure a := ⟨[], fun _ => .ok a⟩
  seq f s :=
    let rest := s ()
    ⟨f.fields ++ rest.fields, fun values => do
      let g ← f.build values
      let a ← rest.build values
      return g a⟩

/-- A record of one field: what its value gives, or what there is without one. -/
def field (key : String) (mayEnd : Bool) (reader : Reader α) (absent : Except Problem α) :
    Shape α where
  fields := [⟨key, fun d => (reader d).map fun _ => (), mayEnd⟩]
  build values :=
    match values key with
    | some d => reader d
    | none => absent

/-- A field that must be there. -/
def required (key : String) (reader : Reader α) : Shape α :=
  field key false reader (misfit (.missing key))

/-- A field that may be absent or null. -/
def optional (key : String) (reader : Reader α) : Shape (Option α) :=
  field key false reader.nullable (.ok none)

/-- A field that has a value when it is absent. -/
def defaulted (key : String) (reader : Reader α) (value : α) : Shape α :=
  field key true reader (.ok value)

/-- The field of a key. -/
def field? (fields : List Field) (key : String) : Option Field :=
  fields.find? fun f => f.key = key

/-- The members of an object looked at in their order, after those of some keys. -/
def scan (fields : List Field) : List String → List (Option String × Draft) → Except Problem Unit
  | _, [] => .ok ()
  | _, (none, _) :: _ => .error .malformed
  | seen, (some key, value) :: rest =>
    match field? fields key with
    | none => do
      Reader.ignored value
      scan fields seen rest
    | some f => do
      if seen.contains key then misfit (.repeated key)
      located (.member key) (f.check value)
      scan fields (key :: seen) rest

/-- The value under a key. -/
def member? (members : List (Option String × Draft)) (key : String) : Option Draft :=
  (members.find? fun m => m.1 = some key).map Prod.snd

/-- The items of an array looked at in the order of the fields from a position on. -/
def scanItems (name : String) (count : Nat) (closed : Bool) :
    Nat → List Field → List Draft → Except Problem Unit
  | _, [], [] => if closed then .ok () else .error .malformed
  | _, [], _ :: _ => .error .malformed
  | i, f :: fs, [] =>
    if !closed then .error .malformed
    else if f.mayEnd then scanItems name count closed (i + 1) fs []
    else misfit (.tooShort i name count)
  | i, f :: fs, d :: ds => do
    located (.item i) (f.check d)
    scanItems name count closed (i + 1) fs ds

/-- The item under the key of its field. -/
def item? (fields : List Field) (ds : List Draft) (key : String) : Option Draft :=
  ((fields.zip ds).find? fun p => p.1.key = key).map Prod.snd

/-- **A record from a draft.** -/
def read (name : String) (s : Shape α) : Reader α
  | .object members closed => do
    scan s.fields [] members
    if closed then s.build (member? members) else .error .malformed
  | .array ds closed => do
    scanItems ("struct " ++ name) s.fields.length closed 0 s.fields ds
    s.build (item? s.fields ds)
  | d => d.refuse ("struct " ++ name)

end Shape

/-! ## Texts -/

/-- The value of a whole document: nothing may follow it. -/
def Reader.value {α : Type} (reader : Reader α) (document : Document) : Except Problem α :=
  match reader document.root with
  | .ok a => if document.clean then .ok a else .error .malformed
  | .error e => .error e

/-- **The value of a JSON text.** -/
def Reader.run {α : Type} (reader : Reader α) (text : String) : Except Problem α :=
  reader.value (Draft.ofString text)

/-- **The value of bytes** that should be a JSON text. -/
def Reader.runBytes {α : Type} (reader : Reader α) (bytes : List UInt8) : Except Problem α :=
  reader.value (Draft.ofBytes bytes)

/-- The bytes of a text have the value of the text. -/
theorem Reader.runBytes_bytes {α : Type} (reader : Reader α) (text : String) :
    reader.runBytes (Text.Utf8.bytes text) = reader.run text := by
  rw [runBytes, Draft.ofBytes_bytes, run]

end PickupLedger.Json
