import LineSieve.CommandLine.Item
import LineSieve.Environment
import LineSieve.Settings

/-!
# Options

The options of the program, from its arguments and its environment. Of options that contradict or
repeat each other the last one counts, and an option counts over its variable.

Something wrong with a value is an error only when the next argument has been recognized: an unknown
option wins over a bad value right before it.

* `Options.parse`: the options of a list of arguments.
* `Options.lowerEnabled`: whether lines are lower-cased.
* `settingsFile?`: the name of the settings file, read before all else.
-/

namespace LineSieve.CommandLine

inductive UsageError where
  /-- A value that is missing or not possible. -/
  | invalidValue
  /-- A number that cannot be read. -/
  | valueValidation
  | unknownArgument
  | tooManyValues
  | argumentConflict
  | missingRequiredArgument
  | displayHelp
  | displayVersion
  deriving DecidableEq, Repr

structure Options where
  config : Option String
  explain : Bool
  lower : Bool
  noLower : Bool
  maxDepth : Nat
  expr : String
  files : List String
  deriving DecidableEq, Repr

def configVariable : String := "BMATCH_CONFIG"

def lowerVariable : String := "BMATCH_LOWER"

def maxDepthVariable : String := "BMATCH_MAX_DEPTH"

/-- All options of the program. -/
def vocabulary : Vocabulary where
  long := [("config", .inr .config), ("explain", .inl .explain), ("lower", .inl .lower),
    ("no-lower", .inl .noLower), ("max-depth", .inr .maxDepth), ("help", .inl .help),
    ("version", .inl .version)]
  short := [('l', .lower), ('h', .help), ('V', .version)]

/-- A value that is found to be wrong and not yet reported. -/
inductive Pending where
  | none
  | option (e : UsageError)
  /-- The name of a file is empty. Further files do not bring the report on. -/
  | file
  deriving DecidableEq, Repr

/-- What has been read of a command line. -/
structure Reading where
  config : Option String
  explain : Bool
  /-- The last of the flags on lower-casing: whether lines are lower-cased. -/
  lowering : Option Bool
  maxDepth : Option Nat
  expr : Option String
  /-- The last file first. -/
  files : List String
  pending : Pending
  deriving DecidableEq, Repr

namespace Reading

def start : Reading := ⟨none, false, none, none, none, [], .none⟩

/-- Reports what is pending. -/
def settle (r : Reading) : Except UsageError Reading :=
  match r.pending with
  | .none => .ok r
  | .option e => .error e
  | .file => .error .invalidValue

/-- Sets an option to a value. -/
def assign (r : Reading) : Field → String → Except UsageError Reading
  | .config, value =>
    if value.isEmpty then .error .invalidValue else .ok { r with config := some value }
  | .maxDepth, value =>
    match Settings.Setting.natOf? value with
    | some n => .ok { r with maxDepth := some n }
    | none => .error .valueValidation

/-- Sets an option to a value that is looked at later. -/
def assignLater (r : Reading) (f : Field) (value : String) : Reading :=
  match r.assign f value with
  | .ok r => r
  | .error e => { r with pending := .option e }

def raise (r : Reading) : Flag → Except UsageError Reading
  | .explain => if r.explain then .error .argumentConflict else .ok { r with explain := true }
  | .lower => .ok { r with lowering := some true }
  | .noLower => .ok { r with lowering := some false }
  | .help => .error .displayHelp
  | .version => .error .displayVersion

/-- Takes a positional argument: the expression, and after it the files. -/
def take (r : Reading) (text : String) : Except UsageError Reading :=
  match r.expr with
  | none => do
    let r ← r.settle
    return { r with expr := some text }
  | some _ => do
    let r ← if r.pending = .file then .ok r else r.settle
    return { r with
      files := text :: r.files, pending := if text.isEmpty then .file else r.pending }

/-- Reads one item more. -/
def step (r : Reading) : Item → Except UsageError Reading
  | .unknown _ => .error .unknownArgument
  | .surplus _ => .error .tooManyValues
  | .positional text => r.take text
  | .flag f => do (← r.settle).raise f
  | .field f value true => do (← r.settle).assign f value
  | .field f value false => do return (← r.settle).assignLater f value
  | .bare _ => do return { (← r.settle) with pending := .option .invalidValue }

/-- Takes a variable for an option that is not given. -/
def assignVariable (r : Reading) (f : Field) (given : Bool) : Option String →
    Except UsageError Reading
  | some value => if given then .ok r else r.assign f value
  | none => .ok r

end Reading

/-- The truth value of the variable for lower-casing. -/
def lowerOf (env : Environment) : Except UsageError (Option Bool) :=
  match env.get? lowerVariable with
  | none => .ok none
  | some "true" => .ok (some true)
  | some "false" => .ok (some false)
  | some _ => .error .invalidValue

namespace Options

/-- The options that are read, completed by the environment. The variable for lower-casing cannot be
set beside the flag against it. -/
def finish (env : Environment) (defaultMaxDepth : Nat) (r : Reading) :
    Except UsageError Options := do
  let r ← r.settle
  let r ← r.assignVariable .config r.config.isSome (env.get? configVariable)
  let byVariable ← if r.lowering = some true then .ok none else lowerOf env
  let r ← r.assignVariable .maxDepth r.maxDepth.isSome (env.get? maxDepthVariable)
  if byVariable.isSome && r.lowering.isSome then .error .argumentConflict
  match r.expr with
  | none => .error .missingRequiredArgument
  | some expr =>
    return {
      config := r.config
      explain := r.explain
      lower := r.lowering = some true || byVariable = some true
      noLower := r.lowering = some false
      maxDepth := r.maxDepth.getD defaultMaxDepth
      expr
      files := r.files.reverse }

/-- The options of arguments, without the name of the program. -/
def parse (env : Environment) (defaultMaxDepth : Nat) (args : List String) :
    Except UsageError Options := do
  finish env defaultMaxDepth (← (items vocabulary args).foldlM Reading.step .start)

/-- Lines are lower-cased if an option or the settings say so and no option is against it. -/
def lowerEnabled (o : Options) (settings : Settings) : Bool :=
  !o.noLower && (o.lower || settings.lower)

end Options

/-! ## The settings file -/

/-- The only option that is known before the settings are loaded. -/
def settingsVocabulary : Vocabulary := ⟨[("config", .inr .config)], []⟩

/-- Reads the name of the settings file off the front of a command line, up to the first item that
is something else or is not right. `some none` is an option without a value. -/
def leadingConfig (found : Option (Option String)) : List Item → Option (Option String)
  | .field _ value _ :: rest =>
    if value.isEmpty then some none else leadingConfig (some (some value)) rest
  | .bare _ :: rest => leadingConfig (some none) rest
  | _ => found

/-- The name of the settings file that the arguments begin with, or else that of the
environment. -/
def settingsFile? (env : Environment) (args : List String) : Option String :=
  match leadingConfig none (items settingsVocabulary args) with
  | some config => config
  | none => (env.get? configVariable).filter (· ≠ "")

end LineSieve.CommandLine
