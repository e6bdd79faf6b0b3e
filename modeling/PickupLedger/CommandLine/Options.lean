import PickupLedger.Text.Digits
import PickupLedger.Text.Integer

/-!
# Options of the command line

An option is given by its long name behind two hyphens or by its letter behind one.  Its
value follows behind an equals sign, right behind the letter, or as the next argument,
which must not start with a hyphen; and no option may be given twice.  The value of an
option that came without one is looked at when the next option or the end is reached, so
an argument that means nothing is told before it.

Help and version interrupt the reading where they are found; what stands in front of
them has to be right.  Where the configuration is not given, it is taken from the
variable `PVZ_CONFIG`, if that is set.
-/

namespace PickupLedger.CommandLine

/-- **The options.** -/
inductive OptionName where
  | config
  | port
  | logLevel
  | check
  | noMigrate
  | inMemory
  | help
  | version
  deriving DecidableEq, Repr

namespace OptionName

/-- All options. -/
def all : List OptionName :=
  [.config, .port, .logLevel, .check, .noMigrate, .inMemory, .help, .version]

/-- The long name. -/
def long : OptionName → String
  | .config => "config"
  | .port => "port"
  | .logLevel => "log-level"
  | .check => "check"
  | .noMigrate => "no-migrate"
  | .inMemory => "in-memory"
  | .help => "help"
  | .version => "version"

/-- The letter, if there is one. -/
def letter? : OptionName → Option Char
  | .config => some 'c'
  | .logLevel => some 'l'
  | .help => some 'h'
  | .version => some 'V'
  | _ => none

/-- What the value of an option is called, if it has one. -/
def value? : OptionName → Option String
  | .config => some "CONFIG"
  | .port => some "PORT"
  | .logLevel => some "LOG_LEVEL"
  | _ => none

/-- The option as messages show it. -/
def shown (o : OptionName) : String :=
  match o.value? with
  | some value => "--" ++ o.long ++ " <" ++ value ++ ">"
  | none => "--" ++ o.long

/-- The option of a long name. -/
def ofLong? (name : String) : Option OptionName := all.find? fun o => o.long = name

/-- The option of a letter. -/
def ofLetter? (c : Char) : Option OptionName := all.find? fun o => o.letter? = some c

end OptionName

/-- **What the arguments ask for.** -/
structure Options where
  config : Option String
  port : Option UInt16
  logLevel : Option String
  check : Bool
  noMigrate : Bool
  inMemory : Bool
  deriving DecidableEq, Repr

/-- No options. -/
def Options.none : Options := ⟨.none, .none, .none, false, false, false⟩

/-- What is wrong with the value of a port. -/
inductive PortFault where
  | notANumber (fault : Text.IntegerFault)
  | outOfRange (value : Int)
  deriving DecidableEq, Repr

/-- The words of a fault. -/
def PortFault.message : PortFault → String
  | .notANumber fault => fault.message
  | .outOfRange value => String.ofList (Text.integer value) ++ " is not in 0..=65535"

/-- **What is wrong with the arguments.** -/
inductive UsageFault where
  | unexpectedArgument (argument : String)
  | unexpectedValue (value : String) (option : OptionName)
  | missingValue (option : OptionName)
  | repeated (option : OptionName)
  | badPort (value : String) (fault : PortFault)
  deriving DecidableEq, Repr

/-- The words of a fault. -/
def UsageFault.message : UsageFault → String
  | .unexpectedArgument argument => "unexpected argument '" ++ argument ++ "' found"
  | .unexpectedValue value option =>
    "unexpected value '" ++ value ++ "' for '" ++ option.shown ++ "' found; no more were expected"
  | .missingValue option => "a value is required for '" ++ option.shown ++ "' but none was supplied"
  | .repeated option => "the argument '" ++ option.shown ++ "' cannot be used multiple times"
  | .badPort value fault =>
    "invalid value '" ++ value ++ "' for '" ++ OptionName.port.shown ++ "': " ++ fault.message

/-- **Why the reading of the arguments ends early.** -/
inductive Interruption where
  | fault (fault : UsageFault)
  /-- Help is asked for, in full or in short. -/
  | help (full : Bool)
  | version
  deriving DecidableEq, Repr

/-! ## Values -/

/-- A port. -/
def readPort (value : String) : Except UsageFault UInt16 :=
  match Text.readInteger 0x7fffffffffffffff value with
  | .error fault => .error (.badPort value (.notANumber fault))
  | .ok n =>
    if 0 ≤ n ∧ n < 0x10000 then .ok (.ofNat n.toNat) else .error (.badPort value (.outOfRange n))

/-- A path is never empty. -/
def readPath (value : String) : Except UsageFault String :=
  if value.isEmpty then .error (.missingValue .config) else .ok value

namespace Options

/-- An option has been given. -/
def has (o : Options) : OptionName → Bool
  | .config => o.config.isSome
  | .port => o.port.isSome
  | .logLevel => o.logLevel.isSome
  | .check => o.check
  | .noMigrate => o.noMigrate
  | .inMemory => o.inMemory
  | .help | .version => false

/-- The options with one more, which has a value if it takes one. -/
def give (o : Options) (name : OptionName) (value : String) : Except UsageFault Options :=
  if o.has name then .error (.repeated name)
  else
    match name with
    | .config => (readPath value).map fun path => { o with config := some path }
    | .port => (readPort value).map fun port => { o with port := some port }
    | .logLevel => .ok { o with logLevel := some value }
    | .check => .ok { o with check := true }
    | .noMigrate => .ok { o with noMigrate := true }
    | .inMemory => .ok { o with inMemory := true }
    | .help | .version => .ok o

end Options

/-! ## Arguments -/

/-- The arguments read so far. -/
structure Reading where
  options : Options
  /-- An option whose value was to follow, with the value if it has. -/
  pending : Option (OptionName × Option String)
  /-- No more options come. -/
  closed : Bool

namespace Reading

/-- Nothing read. -/
def start : Reading := ⟨.none, none, false⟩

/-- A fault as an interruption. -/
def raised {α : Type} : Except UsageFault α → Except Interruption α
  | .ok a => .ok a
  | .error fault => .error (.fault fault)

/-- The options read so far, with the one that was pending. -/
def settled (r : Reading) : Except Interruption Options :=
  match r.pending with
  | none => .ok r.options
  | some (name, some value) => raised (r.options.give name value)
  | some (name, none) => .error (.fault (.missingValue name))

/-- An option with its value. -/
def give (r : Reading) (name : OptionName) (value : String) : Except Interruption Reading := do
  let options ← r.settled
  return ⟨← raised (options.give name value), none, r.closed⟩

/-- An option that has no value. -/
def flag (r : Reading) (name : OptionName) (long : Bool) : Except Interruption Reading :=
  match name with
  | .help => do
    let _ ← r.settled
    .error (.help long)
  | .version => do
    let _ ← r.settled
    .error .version
  | name => r.give name ""

/-- An option whose value is to follow. -/
def await (r : Reading) (name : OptionName) : Except Interruption Reading := do
  return ⟨← r.settled, some (name, none), r.closed⟩

/-- An argument behind two hyphens. -/
def long (r : Reading) (text : List Char) : Except Interruption Reading :=
  let key := text.takeWhile (· ≠ '=')
  let attached := if key.length < text.length then some (text.drop (key.length + 1)) else none
  match OptionName.ofLong? (String.ofList key), attached with
  | none, _ => .error (.fault (.unexpectedArgument ("--" ++ String.ofList key)))
  | some name, some value =>
    if name.value?.isSome then r.give name (String.ofList value)
    else .error (.fault (.unexpectedValue (String.ofList value) name))
  | some name, none => if name.value?.isSome then r.await name else r.flag name true

/-- An argument behind one hyphen: a letter, and its value if that is there. -/
def letter (r : Reading) (c : Char) (text : List Char) : Except Interruption Reading :=
  match OptionName.ofLetter? c with
  | none => .error (.fault (.unexpectedArgument ("-" ++ String.ofList [c])))
  | some name =>
    if name.value?.isSome then
      match text with
      | [] => r.await name
      | '=' :: value => r.give name (String.ofList value)
      | value => r.give name (String.ofList value)
    else r.flag name false

/-- An argument that is no option: the value of the one in front of it. -/
def plain (r : Reading) (text : String) : Except Interruption Reading :=
  match r.pending with
  | some (name, none) =>
    if r.closed then .error (.fault (.unexpectedArgument text))
    else .ok { r with pending := some (name, some text) }
  | _ => .error (.fault (.unexpectedArgument text))

/-- One more argument. -/
def argument (r : Reading) (text : String) : Except Interruption Reading :=
  if r.closed then r.plain text
  else
    match text.toList with
    | ['-', '-'] => .ok { r with closed := true }
    | '-' :: '-' :: cs => r.long cs
    | '-' :: c :: cs => r.letter c cs
    | _ => r.plain text

end Reading

/-- **The options of arguments**, with the variable for the configuration. -/
def readOptions (fallback : Option String) (arguments : List String) :
    Except Interruption Options := do
  let r ← arguments.foldlM Reading.argument Reading.start
  let options ← r.settled
  match options.config, fallback with
  | none, some value => Reading.raised (options.give .config value)
  | _, _ => return options

end PickupLedger.CommandLine
