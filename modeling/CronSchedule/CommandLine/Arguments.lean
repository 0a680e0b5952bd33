import CronSchedule.Numeral
import CronSchedule.Text.Separated

/-!
# Arguments of the command line

The arguments are read from left to right, and the first that is out of place
decides: it asks for the version or the help, or it is misused. An option takes
its value from the same argument after an equals sign, or from the next one.
-/

set_option autoImplicit false

namespace CronSchedule.CommandLine

/-- What a command asks for. -/
structure Request where
  expression : String
  /-- The reference instant; the present if there is none. -/
  reference : Option Int
  /-- Number of occurrences to list. -/
  count : Nat
  /-- List the occurrences before the reference instead of those after it. -/
  previous : Bool
  timeZone : Option String
  utcOffset : Option Int
  /-- Path of the options file. -/
  config : Option String
  /-- Write the report as JSON. -/
  json : Bool
  /-- Show the tree of patterns. -/
  tree : Bool
  deriving DecidableEq

/-- Options without a value. -/
inductive Switch where
  | previous
  | json
  | tree
  deriving DecidableEq

/-- Options with a value. -/
inductive ValueOption where
  | reference
  | count
  | timeZone
  | utcOffset
  | config
  deriving DecidableEq

/-- What is wrong with the arguments. -/
inductive Misuse where
  | unknownOption (argument : String)
  | missingValue (option : String)
  | unexpectedValue (option : String)
  | invalidValue (option value : String)
  | repeated (option : String)
  | surplus (argument : String)
  | missingExpression
  | conflictingOptions
  deriving DecidableEq, Repr

/-- Why reading ends before there is a request. -/
inductive Stop where
  | version
  | help
  | misused (misuse : Misuse)
  deriving DecidableEq

/-- Name of an option without a value. -/
def Switch.name : Switch → String
  | previous => "previous"
  | json => "json"
  | tree => "tree"

/-- Name of an option with a value. -/
def ValueOption.name : ValueOption → String
  | reference => "from"
  | count => "count"
  | timeZone => "time-zone"
  | utcOffset => "utc-offset"
  | config => "config"

/-- All options without a value. -/
def Switch.all : List Switch := [previous, json, tree]

/-- All options with a value. -/
def ValueOption.all : List ValueOption := [reference, count, timeZone, utcOffset, config]

/-- The sentence shown for a misuse. -/
def Misuse.message : Misuse → String
  | unknownOption argument => s!"unexpected argument '{argument}' found"
  | missingValue option => s!"a value is required for '--{option}' but none was supplied"
  | unexpectedValue option => s!"unexpected value for '--{option}' found"
  | invalidValue option value => s!"invalid value '{value}' for '--{option}'"
  | repeated option => s!"the argument '--{option}' cannot be used multiple times"
  | surplus argument => s!"unexpected argument '{argument}' found"
  | missingExpression => "the required argument <EXPRESSION> was not provided"
  | conflictingOptions => "the argument '--time-zone' cannot be used with '--utc-offset'"

/-! ## What has been read so far -/

/-- The arguments read so far. -/
structure Progress where
  /-- The option whose value is the next argument. -/
  awaiting : Option ValueOption
  /-- There are no more options. -/
  plainOnly : Bool
  expression : Option String
  reference : Option Int
  count : Option Nat
  previous : Bool
  timeZone : Option String
  utcOffset : Option Int
  config : Option String
  json : Bool
  tree : Bool
  deriving DecidableEq

namespace Progress

/-- Nothing has been read. -/
def start : Progress := ⟨none, false, none, none, none, false, none, none, none, false, false⟩

/-- Is the switch on? -/
def has (progress : Progress) : Switch → Bool
  | .previous => progress.previous
  | .json => progress.json
  | .tree => progress.tree

/-- Turns a switch on, which may happen once. -/
def turnOn (progress : Progress) (switch : Switch) : Except Stop Progress :=
  if progress.has switch then .error (.misused (.repeated switch.name))
  else
    .ok (match switch with
      | .previous => { progress with previous := true }
      | .json => { progress with json := true }
      | .tree => { progress with tree := true })

/-- Is the option set? -/
def isSet (progress : Progress) : ValueOption → Bool
  | .reference => progress.reference.isSome
  | .count => progress.count.isSome
  | .timeZone => progress.timeZone.isSome
  | .utcOffset => progress.utcOffset.isSome
  | .config => progress.config.isSome

/-- The arguments with an option set to the value that a text writes, if the option admits it:
integers have to fit, and a path is not empty. -/
def withValue? (progress : Progress) (option : ValueOption) (value : String) : Option Progress :=
  match option with
  | .reference =>
    (Numeral.signed? 64 value.toList).map fun n => { progress with reference := some n }
  | .count => (Numeral.unsigned? 64 value.toList).map fun n => { progress with count := some n }
  | .timeZone => some { progress with timeZone := some value }
  | .utcOffset =>
    (Numeral.signed? 32 value.toList).map fun n => { progress with utcOffset := some n }
  | .config => if value.isEmpty then none else some { progress with config := some value }

/-- Sets an option, which may happen once. -/
def assign (progress : Progress) (option : ValueOption) (value : String) : Except Stop Progress :=
  if progress.isSet option then .error (.misused (.repeated option.name))
  else
    match progress.withValue? option value with
    | some progress => .ok progress
    | none => .error (.misused (.invalidValue option.name value))

/-- Takes an argument as the expression, of which there is only one. -/
def takeExpression (progress : Progress) (argument : String) : Except Stop Progress :=
  if progress.expression.isSome then .error (.misused (.surplus argument))
  else .ok { progress with expression := some argument }

/-- The request, once all arguments have been read. -/
def finish (progress : Progress) : Except Stop Request :=
  match progress.awaiting, progress.expression with
  | some option, _ => .error (.misused (.missingValue option.name))
  | none, none => .error (.misused .missingExpression)
  | none, some expression =>
    if progress.timeZone.isSome && progress.utcOffset.isSome then
      .error (.misused .conflictingOptions)
    else
      .ok {
        expression
        reference := progress.reference
        count := progress.count.getD 5
        previous := progress.previous
        timeZone := progress.timeZone
        utcOffset := progress.utcOffset
        config := progress.config
        json := progress.json
        tree := progress.tree }

end Progress

/-! ## Reading -/

/-- The forms of an argument. -/
inductive Argument where
  /-- Two hyphens, after which there are no options. -/
  | endOfOptions
  /-- A name after two hyphens, with a value if there is an equals sign. -/
  | long (name : String) (value : Option String)
  /-- A letter after one hyphen. -/
  | short (letter : Char)
  | plain

/-- The form of an argument. A hyphen alone is a plain argument. -/
def Argument.ofText (argument : String) : Argument :=
  match argument.toList with
  | ['-', '-'] => endOfOptions
  | '-' :: '-' :: body =>
    match Text.splitFirst? '=' body with
    | some (name, value) => long (String.ofList name) (some (String.ofList value))
    | none => long (String.ofList body) none
  | '-' :: letter :: _ => short letter
  | _ => plain

/-- May the argument be the value of the option before it? Only an offset, which can be
negative, takes an argument that looks like an option. -/
def ValueOption.admits (option : ValueOption) (argument : String) : Bool :=
  option = .utcOffset ||
    match Argument.ofText argument with
    | .plain => true
    | _ => false

namespace Progress

/-- Reads an option by its name, with the value that stands in the same argument, if any. -/
def readLong (progress : Progress) (name : String) (value : Option String) : Except Stop Progress :=
  match Switch.all.find? (·.name == name), ValueOption.all.find? (·.name == name), value with
  | some switch, _, none => progress.turnOn switch
  | some _, _, some _ => .error (.misused (.unexpectedValue name))
  | none, some option, some value => progress.assign option value
  | none, some option, none => .ok { progress with awaiting := some option }
  | none, none, none =>
    if name = "version" then .error .version
    else if name = "help" then .error .help
    else .error (.misused (.unknownOption name))
  | none, none, some _ => .error (.misused (.unknownOption name))

/-- Reads the next argument. -/
def step (progress : Progress) (argument : String) : Except Stop Progress :=
  if progress.plainOnly then progress.takeExpression argument
  else
    match progress.awaiting with
    | some option =>
      if option.admits argument then { progress with awaiting := none }.assign option argument
      else .error (.misused (.missingValue option.name))
    | none =>
      match Argument.ofText argument with
      | .plain => progress.takeExpression argument
      | .endOfOptions => .ok { progress with plainOnly := true }
      | .short 'V' => .error .version
      | .short 'h' => .error .help
      | .short _ => .error (.misused (.unknownOption argument))
      | .long name value => progress.readLong name value

end Progress

/-- The request that the arguments make. -/
def Request.ofArguments (arguments : List String) : Except Stop Request := do
  (← arguments.foldlM Progress.step .start).finish

end CronSchedule.CommandLine
