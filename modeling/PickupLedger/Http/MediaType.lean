/-!
# Media types

A media type is `type/subtype`, then parameters; the subtype may end in a plus and a
suffix.  A request carries JSON if its type is `application` and its subtype or
suffix is `json`, in any case (`isJson`).  Parameters are `name=value` behind a
semicolon or a space, the value a token or a text in quotes; a media type with a
parameter that is none of these is no media type.
-/

namespace PickupLedger.Http

/-- A media type without its parameters. -/
structure MediaType where
  type : List Char
  subtype : List Char
  suffix : Option (List Char)

namespace MediaType

/-- A character of a token. -/
def isToken (c : Char) : Bool :=
  c.isAlphanum || "!#$%&'*+-.^_\x60|~".toList.contains c

/-- A character inside quotes. -/
def isQuotable (c : Char) : Bool := c == '\t' || (31 < c.toNat && c.toNat ≠ 127)

/-- A subtype split at its last plus, if that is not its first character. -/
def splitSuffix (cs : List Char) : List Char × Option (List Char) :=
  let tail := (cs.reverse.takeWhile (· ≠ '+')).reverse
  let head := cs.take (cs.length - tail.length - 1)
  if tail.length < cs.length ∧ head ≠ [] then (head, some tail) else (cs, none)

/-- The text behind a closing quote: spaces, then the end or a semicolon. -/
def afterQuote? : List Char → Option (List Char)
  | [] => some []
  | ';' :: rest => some rest
  | ' ' :: rest => afterQuote? rest
  | _ => none

/-- The text behind a value in quotes; `empty` while no character has been passed,
which leaves a quote an ordinary character, `escaped` behind a backslash. -/
def quotedValue? (empty escaped : Bool) : List Char → Option (List Char)
  | [] => none
  | c :: rest =>
    if escaped then (if isQuotable c then quotedValue? false false rest else none)
    else if c = '\x22' ∧ !empty then afterQuote? rest
    else if c = '\x5c' then quotedValue? false true rest
    else if isQuotable c then quotedValue? false false rest
    else none

/-- The text behind a value that is a token. -/
def tokenValue? (empty : Bool) : List Char → Option (List Char)
  | [] => some []
  | c :: rest =>
    if isToken c then tokenValue? false rest
    else if c = ';' ∧ !empty then some rest
    else none

/-- The text behind a value. -/
def value? : List Char → Option (List Char)
  | '\x22' :: rest => quotedValue? true false rest
  | rest => tokenValue? true rest

/-- The text behind the name of a parameter and its equals sign. -/
def name? (empty : Bool) : List Char → Option (List Char)
  | [] => none
  | c :: rest =>
    if isToken c then name? false rest
    else if c = '=' ∧ !empty then some rest
    else none

/-- The text is a run of parameters; each is shorter by at least one character. -/
def parameters (fuel : Nat) (cs : List Char) : Bool :=
  match fuel, cs with
  | _, [] => true
  | 0, _ => false
  | fuel + 1, ' ' :: rest => parameters fuel rest
  | fuel + 1, cs =>
    match (name? true cs).bind value? with
    | some rest => parameters fuel rest
    | none => false

/-- **A media type** with parameters that are well formed. -/
def read? (text : String) : Option MediaType :=
  let cs := text.toList
  let type := cs.takeWhile isToken
  match cs.drop type.length with
  | '/' :: rest =>
    let subtype := rest.takeWhile isToken
    let parts := splitSuffix subtype
    let result : MediaType := ⟨type, parts.1, parts.2⟩
    if type.isEmpty then none
    else
      match rest.drop subtype.length with
      | [] => some result
      | c :: params =>
        if (c = ';' ∨ c = ' ') ∧ !subtype.isEmpty ∧ parameters params.length params then some result
        else none
  | _ => none

/-- The text in lower case. -/
def lower (cs : List Char) : List Char := cs.map Char.toLower

/-- **A media type of JSON.** -/
def isJson (text : String) : Bool :=
  match read? text with
  | some m =>
    lower m.type == "application".toList &&
      (lower m.subtype == "json".toList || m.suffix.map lower == some "json".toList)
  | none => false

end MediaType
end PickupLedger.Http
