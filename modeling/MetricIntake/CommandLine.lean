import MetricIntake.Address
import MetricIntake.Backoff
import MetricIntake.Config
import MetricIntake.Number.Literal
import MetricIntake.Quarantine

/-!
Contract: the command line of the intake.

Owns:
- the settings that can be given, their names and their defaults;
- reading arguments from left to right, each setting at most once;
- the errors of arguments, in the order in which they come to light.

Does not own: what the settings do.

A value in an argument of its own is checked only when the next option is taken up, or at the end;
an argument that belongs to nothing is therefore reported before a bad value in front of it.
-/

namespace MetricIntake

/-- What the command line settles. -/
structure Settings where
  listen : Address
  workers : Option Nat
  validateOrder : Bool
  policy : KeyPolicy
  readTimeoutSecs : Option Nat
  maxFrameLength : Nat
  dispatchCapacity : Nat
  badMetricsMaxAgeSecs : Nat
  badMetricsMaxKeys : Nat
  metricsAddress : Option Address
deriving DecidableEq, Repr

namespace Settings

def default : Settings :=
  { listen := .v4 [0, 0, 0, 0] 2004
    workers := none
    validateOrder := false
    policy := ⟨.medium, .medium⟩
    readTimeoutSecs := none
    maxFrameLength := Config.defaultMaxFrameLength
    dispatchCapacity := 65536
    badMetricsMaxAgeSecs := 3600
    badMetricsMaxKeys := Quarantine.defaultMaxKeys
    metricsAddress := none }

def config (settings : Settings) : Config :=
  (((Config.default.withMaxFrameLength settings.maxFrameLength).withReadTimeout
    (settings.readTimeoutSecs.map Span.ofSeconds)).withValidateOrder
    settings.validateOrder).withPolicy settings.policy

end Settings

/-- Why arguments are no settings, or what they ask for instead. -/
inductive CommandError where
  | displayHelp
  | displayVersion
  | unknownArgument
  | invalidValue
  | valueValidation
  | argumentConflict
  | tooManyValues
deriving DecidableEq, Repr

/-- The options that take a value. -/
inductive ValuedOption where
  | listen
  | workers
  | legacyLevel
  | taggedLevel
  | readTimeoutSecs
  | maxFrameLength
  | dispatchCapacity
  | badMetricsMaxAgeSecs
  | badMetricsMaxKeys
  | metricsAddress
deriving DecidableEq, Repr

/-- All options. -/
inductive CommandOption where
  | valued (setting : ValuedOption)
  | validateOrder
  | help
  | version
deriving DecidableEq, Repr

namespace CommandOption

def ofLongName? (name : String) : Option CommandOption :=
  [("listen", valued .listen), ("workers", valued .workers), ("validate-order", validateOrder),
    ("legacy-level", valued .legacyLevel), ("m20-level", valued .taggedLevel),
    ("read-timeout-secs", valued .readTimeoutSecs), ("max-frame-length", valued .maxFrameLength),
    ("dispatch-capacity", valued .dispatchCapacity),
    ("bad-metrics-max-age-secs", valued .badMetricsMaxAgeSecs),
    ("bad-metrics-max-keys", valued .badMetricsMaxKeys),
    ("metrics-addr", valued .metricsAddress), ("help", help), ("version", version)].lookup name

def ofLetter? (letter : Char) : Option CommandOption :=
  [('l', valued .listen), ('w', valued .workers), ('h', help), ('V', version)].lookup letter

end CommandOption

/-- What has been read of the arguments. -/
structure CommandState where
  settings : Settings
  taken : List CommandOption
  /-- An option that is not taken up yet, with its value if that was met. -/
  waiting : Option (ValuedOption × Option String)

namespace CommandState

def greatestNumber : Nat := 18446744073709551615

def number? (text : String) : Except CommandError Nat :=
  match Literal.natural? greatestNumber (Utf8.encode text) with
  | some number => .ok number
  | none => .error .valueValidation

def address? (text : String) : Except CommandError Address :=
  match Address.ofText? text with
  | some address => .ok address
  | none => .error .valueValidation

def level? (text : String) : Except CommandError Strictness :=
  match Strictness.ofName? text with
  | some level => .ok level
  | none => .error .invalidValue

def assign (settings : Settings) (option : ValuedOption) (value : String) :
    Except CommandError Settings := do
  match option with
  | .listen => return { settings with listen := ← address? value }
  | .workers => return { settings with workers := some (← number? value) }
  | .legacyLevel =>
      return { settings with policy := { settings.policy with legacy := ← level? value } }
  | .taggedLevel =>
      return { settings with policy := { settings.policy with tagged := ← level? value } }
  | .readTimeoutSecs => return { settings with readTimeoutSecs := some (← number? value) }
  | .maxFrameLength => return { settings with maxFrameLength := ← number? value }
  | .dispatchCapacity => return { settings with dispatchCapacity := ← number? value }
  | .badMetricsMaxAgeSecs => return { settings with badMetricsMaxAgeSecs := ← number? value }
  | .badMetricsMaxKeys => return { settings with badMetricsMaxKeys := ← number? value }
  | .metricsAddress => return { settings with metricsAddress := some (← address? value) }

/-- Notes that an option is taken up, which may happen once. -/
def take (state : CommandState) (option : CommandOption) : Except CommandError CommandState :=
  if option ∈ state.taken then .error .argumentConflict
  else .ok { state with taken := option :: state.taken }

def apply (state : CommandState) (option : ValuedOption) (value : String) :
    Except CommandError CommandState := do
  let state ← state.take (.valued option)
  return { state with settings := ← assign state.settings option value }

/-- Takes up the option that is waiting, which must have met its value. -/
def settle (state : CommandState) : Except CommandError CommandState :=
  match state.waiting with
  | none => .ok state
  | some (_, none) => .error .invalidValue
  | some (option, some value) => apply { state with waiting := none } option value

/-- Takes up an option whose value, if any, is part of the same argument. -/
def meet (state : CommandState) (option : CommandOption) (attached : Option String) :
    Except CommandError CommandState := do
  match option, attached with
  | .valued setting, none => return { ← state.settle with waiting := some (setting, none) }
  | .valued setting, some value => apply (← state.settle) setting value
  | _, some _ => throw .tooManyValues
  | .validateOrder, none =>
      let state ← take (← state.settle) .validateOrder
      return { state with settings := { state.settings with validateOrder := true } }
  | .help, none => do
      let _ ← state.settle
      throw .displayHelp
  | .version, none => do
      let _ ← state.settle
      throw .displayVersion

/-- An argument behind two hyphens: a long name, and a value after an equals sign. -/
def meetLong (state : CommandState) (body : List Char) : Except CommandError CommandState :=
  let (name, attached) :=
    match Fields.cutOnce? (· == '=') body with
    | some (name, value) => (name, some (String.ofList value))
    | none => (body, none)
  match CommandOption.ofLongName? (String.ofList name) with
  | some option => state.meet option attached
  | none => .error .unknownArgument

/-- The value that follows a letter in the same argument, with or without an equals sign. -/
def attachedValue : List Char → Option String
  | [] => none
  | first :: rest => some (String.ofList (if first = '=' then rest else first :: rest))

/-- Letters behind one hyphen. A letter with a value takes the rest of the argument for it. -/
def meetLetters (state : CommandState) : List Char → Except CommandError CommandState
  | [] => .ok state
  | letter :: rest =>
      match CommandOption.ofLetter? letter with
      | some (.valued setting) => state.meet (.valued setting) (attachedValue rest)
      | some option => do
          let state ← state.meet option none
          meetLetters state rest
      | none => .error .unknownArgument

/-- An argument that is no option: the value of the option before it, if that lacks one. -/
def meetValue (state : CommandState) (argument : String) : Except CommandError CommandState :=
  match state.waiting with
  | some (option, none) => .ok { state with waiting := some (option, some argument) }
  | _ => .error .unknownArgument

def meetArgument (state : CommandState) (argument : String) : Except CommandError CommandState :=
  match argument.toList with
  | '-' :: '-' :: body => state.meetLong body
  | '-' :: letter :: rest => state.meetLetters (letter :: rest)
  | _ => state.meetValue argument

/-- Arguments from left to right. Behind two hyphens alone no argument belongs to anything. -/
def meetAll (state : CommandState) : List String → Except CommandError CommandState
  | [] => state.settle
  | argument :: rest =>
      if argument = "--" then
        if rest.isEmpty then state.settle else .error .unknownArgument
      else do
        let state ← state.meetArgument argument
        meetAll state rest

end CommandState

def Settings.ofArguments (arguments : List String) : Except CommandError Settings := do
  let state ← CommandState.meetAll ⟨.default, [], none⟩ arguments
  return state.settings

end MetricIntake
