import PickupLedger.Json.Draft
import PickupLedger.Text.Quoted

/-!
# Why a JSON text has no value

A text that is read as a value of some type is either not JSON as far as the reader
has come (`Problem.malformed`), or JSON that does not fit the type
(`Problem.unfit`).  A `Misfit` says what was found and what was expected; the place
is the path of keys and positions that leads to it.
-/

namespace PickupLedger.Json

/-- What was found in a place. -/
inductive Found where
  | null
  | bool (value : Bool)
  | integer (value : Int)
  /-- A number that is no integer, in its written form. -/
  | double (text : String)
  | string (value : String)
  | sequence
  | map
  deriving DecidableEq, Repr

/-- **What keeps a value from fitting.** -/
inductive Misfit where
  | wrongType (found : Found) (expected : String)
  | outOfRange (value : Int) (expected : String)
  | missing (key : String)
  | repeated (key : String)
  /-- An array with fewer items than the fields it stands for. -/
  | tooShort (length : Nat) (expected : String) (fields : Nat)
  | unknownStatus (name : String)
  | notAnInstant
  | notAnIdentifier
  /-- A message of its own. -/
  | other (text : String)
  deriving DecidableEq, Repr

/-- A step on the way to a place inside a value. -/
inductive Place where
  | member (key : String)
  | item (index : Nat)
  deriving DecidableEq, Repr

/-- **Why there is no value.** -/
inductive Problem where
  | malformed
  | unfit (path : List Place) (misfit : Misfit)
  deriving DecidableEq, Repr

namespace Found

/-- The words for what was found. -/
def message : Found → String
  | .null => "null"
  | .bool true => "boolean \x60true\x60"
  | .bool false => "boolean \x60false\x60"
  | .integer i => "integer \x60" ++ String.ofList (Text.integer i) ++ "\x60"
  | .double text => "floating point \x60" ++ text ++ "\x60"
  | .string s => "string " ++ Text.quoted s
  | .sequence => "sequence"
  | .map => "map"

end Found

namespace Misfit

/-- The words for so many elements. -/
def elements (n : Nat) : String :=
  String.ofList (Text.decimal n) ++ (if n = 1 then " element" else " elements")

/-- The words of a misfit. -/
def message : Misfit → String
  | .wrongType found expected => "invalid type: " ++ found.message ++ ", expected " ++ expected
  | .outOfRange i expected =>
    "invalid value: " ++ (Found.integer i).message ++ ", expected " ++ expected
  | .missing key => "missing field \x60" ++ key ++ "\x60"
  | .repeated key => "duplicate field \x60" ++ key ++ "\x60"
  | .tooShort length expected fields =>
    "invalid length " ++ String.ofList (Text.decimal length) ++ ", expected " ++ expected ++
      " with " ++ elements fields
  | .unknownStatus name =>
    "unknown variant \x60" ++ name ++ "\x60, expected \x60in_progress\x60 or \x60closed\x60"
  | .notAnInstant => "invalid datetime"
  | .notAnIdentifier => "UUID parsing failed"
  | .other text => text

end Misfit

/-- A path as text: keys with points between them, positions in brackets. -/
def pathText : List Place → String
  | [] => ""
  | [.member key] => key
  | .member key :: .item i :: rest => key ++ pathText (.item i :: rest)
  | .member key :: rest => key ++ "." ++ pathText rest
  | .item i :: rest =>
    let here := "[" ++ String.ofList (Text.decimal i) ++ "]"
    match rest with
    | .member key :: more => here ++ "." ++ pathText (.member key :: more)
    | rest => here ++ pathText rest

namespace Problem

/-- The problem of a value seen from around it. -/
def within (place : Place) : Problem → Problem
  | .malformed => .malformed
  | .unfit path misfit => .unfit (place :: path) misfit

end Problem

/-- What has been read, with a problem placed where it was read. -/
def located {α : Type} (place : Place) : Except Problem α → Except Problem α
  | .ok a => .ok a
  | .error e => .error (e.within place)

end PickupLedger.Json
