import PickupLedger.Toml.Scalar
import PickupLedger.Toml.Tree

/-!
# Documents

A document is read line by line.  A line assigns a value to a key of the current table,
opens a table by its header, or opens one more table of an array by a header in double
brackets; blank lines and comments apart, there is nothing else.  Arrays run over lines
and may end in a comma, tables in braces do neither.

Values are nested at most `maxDepth` deep, and a key has no more parts than that.
-/

namespace PickupLedger.Toml

/-- How deep values may be nested, and how many parts a key may have. -/
def maxDepth : Nat := 79

/-- A path of keys that is not too long. -/
def path? (cs : List Char) : Part (List String) := keyPath? maxDepth cs

/-! ## Values -/

/-- The items of an array behind its bracket; those read so far come last first. -/
def items? (read : List Char → Part Value) : Nat → List Value → List Char → Part (List Value)
  | 0, _, _ => none
  | fuel + 1, before, cs =>
    match skipLines false cs with
    | ']' :: rest => some (before.reverse, rest)
    | cs =>
      match read cs with
      | none => none
      | some (v, rest) =>
        match skipLines false rest with
        | ',' :: rest => items? read fuel (v :: before) rest
        | ']' :: rest => some ((v :: before).reverse, rest)
        | _ => none

/-- A path of keys and the value behind its equals sign. -/
def assignment? (read : List Char → Part Value) (cs : List Char) :
    Option ((List String × Value) × List Char) := do
  let (path, rest) ← path? cs
  let rest ← mark? '=' rest
  let (value, rest) ← read (skipSpacing rest)
  return ((path, value), rest)

/-- The members of a table in braces behind the opening one; there is at least one. -/
def braced? (read : List Char → Part Value) : Nat → Members → List Char → Part Members
  | 0, _, _ => none
  | fuel + 1, ms, cs =>
    match assignment? read cs with
    | none => none
    | some ((path, value), rest) =>
      match ms.assign value true path with
      | none => none
      | some ms =>
        match skipSpacing rest with
        | ',' :: rest => braced? read fuel ms rest
        | '\x7d' :: rest => some (ms, rest)
        | _ => none

/-- **A value** with so many levels inside. -/
def value? : Nat → List Char → Part Value
  | depth + 1, '[' :: rest =>
    (items? (value? depth) (rest.length + 1) [] rest).map fun (vs, rest) => (.array vs, rest)
  | depth + 1, '\x7b' :: rest =>
    match skipSpacing rest with
    | '\x7d' :: rest => some (.table [], rest)
    | rest =>
      (braced? (value? depth) (rest.length + 1) [] rest).map fun (ms, rest) =>
        (.table (memberValues ms), rest)
  | _, cs => scalar? cs

/-! ## Lines -/

/-- **What a line says.** -/
inductive Line where
  | assign (path : List String) (value : Value)
  | header (path : List String)
  /-- The header of one more table of an array. -/
  | element (path : List String)

/-- A line that is not blank, with its end. -/
def content? (cs : List Char) : Option (Line × List Char) :=
  match cs with
  | '[' :: '[' :: rest => do
    let (path, rest) ← path? rest
    let rest ← mark? ']' rest
    let rest ← mark? ']' rest
    return (.element path, ← endOfLine? rest)
  | '[' :: rest => do
    let (path, rest) ← path? rest
    let rest ← mark? ']' rest
    return (.header path, ← endOfLine? rest)
  | cs => do
    let ((path, value), rest) ← assignment? (value? maxDepth) cs
    return (.assign path value, ← endOfLine? rest)

/-- The lines of a text that are not blank. -/
def lines? : Nat → List Char → Option (List Line)
  | 0, cs => if cs.isEmpty then some [] else none
  | fuel + 1, cs =>
    let cs := skipSpacing cs
    if cs.isEmpty then some []
    else
      match endOfLine? cs with
      | some rest => lines? fuel rest
      | none => (content? cs).bind fun (line, rest) => (lines? fuel rest).map (line :: ·)

/-! ## Tables -/

/-- A document in the making: the path of the current table, and all members. -/
structure Draft where
  current : List String
  members : Members

/-- The draft with one more line. -/
def Draft.add (d : Draft) : Line → Option Draft
  | .assign path value =>
    (d.members.within (Members.assign value true path) d.current).map fun members =>
      { d with members }
  | .header path =>
    match path.getLast? with
    | none => none
    | some key =>
      (d.members.within (Members.openTable key) path.dropLast).map fun members => ⟨path, members⟩
  | .element path =>
    match path.getLast? with
    | none => none
    | some key =>
      (d.members.within (Members.pushTable key) path.dropLast).map fun members => ⟨path, members⟩

/-- The members of a document of lines. -/
def ofLines? (lines : List Line) : Option (List (String × Value)) :=
  (lines.foldlM Draft.add ⟨[], []⟩).map fun d => memberValues d.members

/-- **The members of a document**; a mark of the byte order may stand in front. -/
def read? (text : String) : Option (List (String × Value)) :=
  let cs :=
    match text.toList with
    | '\ufeff' :: rest => rest
    | cs => cs
  (lines? cs.length cs).bind ofLines?

end PickupLedger.Toml
