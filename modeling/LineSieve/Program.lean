import LineSieve.CommandLine.Help
import LineSieve.Filter.Inputs
import LineSieve.Log.Filter
import LineSieve.Matcher.Compiler
import LineSieve.Matcher.Engines

/-!
# The program

A run of the program, from its command line to its exit status. First it is settled what is to be
done: the settings are loaded, the options are read and the expression is compiled. Only then are
inputs opened.

* `Program.planIn`, `Program.plan`: what is to be done.
* `Program.perform`: the doing of it.
* `Program.runIn`, `Program.run`: both.
* `Program.settingsPaths`, `Plan.paths`: the files that a run may open.
-/

namespace LineSieve

/-- What a run is given. -/
structure Invocation where
  /-- The arguments, without the name of the program. -/
  args : List String
  env : Environment
  files : Files
  stdin : Source
  stdout : Device

/-- What is to be done. -/
inductive Plan where
  /-- Print a page on the program. -/
  | page (text : String)
  /-- Refuse the command line. -/
  | refuse
  | fail (failure : Failure)
  /-- Print an expression as it is understood. -/
  | explain (e : Expr)
  | filter (m : Matcher Pattern) (lower : Bool) (inputs : List Input)

/-- What is to be done, with what was said until it was settled. -/
structure Planning where
  diagnostics : List Diagnostic
  plan : Plan

/-- What a run leaves behind. -/
structure Completion where
  status : Nat
  stdout : Device
  diagnostics : List Diagnostic

namespace Program

def logVariable : String := "BMATCH_DEBUG_LOG"

/-- How many bytes of output are held back. -/
def outputCapacity : Nat := 8192

def record (text : String) : Diagnostic := .record ⟨.debug, "bmatch", text⟩

/-! ## Planning -/

/-- The filter of the log, with what is wrong with it. Only errors are logged without a filter. -/
def logFilter (env : Environment) : LogFilter × List String :=
  match env.get? logVariable with
  | some text => LogFilter.parse text
  | none => (.errorsOnly, [])

/-- What is said as logging begins. -/
def logStart (env : Environment) : List Diagnostic :=
  (logFilter env).2.map (fun e => .line ("warning: " ++ e ++ ", ignoring it")) ++
    match env.get? logVariable with
    | some _ => [record "logging initialized"]
    | none => []

/-- The file with the settings. -/
def settingsFile (env : Environment) (args : List String) : SettingsFile :=
  Settings.fileOf env (CommandLine.settingsFile? env args)

/-- The inputs of names; without names this is the standard input. -/
def inputsOf (names : List String) : List Input :=
  if names.isEmpty then [.standard] else names.map Input.ofName

/-- The plan for a command line that is not to be carried out. -/
def refusal (env : Environment) (settings : Settings) : CommandLine.UsageError → Plan
  | .displayHelp => .page (CommandLine.helpText env settings.maxDepth)
  | .displayVersion => .page CommandLine.versionText
  | _ => .refuse

/-- The plan for options. -/
def planOptions (settings : Settings) (o : CommandLine.Options) : Planning :=
  if o.explain then
    let reading := Expr.read o.expr
    ⟨reading.log.map .record,
      match reading.result with
      | .ok e => .explain e
      | .error failure => .fail failure⟩
  else
    let compilation := Compiler.compile Engine.patterns o.maxDepth o.expr
    ⟨compilation.log.map .record,
      match compilation.result with
      | .ok m => .filter m (o.lowerEnabled settings) (inputsOf o.files)
      | .error failure => .fail failure⟩

/-- The plan for a command line once the settings are loaded. -/
def planArguments (env : Environment) (args : List String) (settings : Settings) : Planning :=
  match CommandLine.Options.parse env settings.maxDepth args with
  | .ok options => planOptions settings options
  | .error e => ⟨[], refusal env settings e⟩

/-- What is to be done, where the entries of the settings file are come across in some order. -/
def planIn (order : Settings.EntryOrder) (env : Environment) (files : Files)
    (args : List String) : Planning :=
  let file := settingsFile env args
  let planning := match Settings.loadIn order files [file] with
    | .ok settings => planArguments env args settings
    | .error e => ⟨[], .fail (.settings e)⟩
  ⟨logStart env ++ .record (Settings.loadRecord file) :: planning.diagnostics, planning.plan⟩

def plan (env : Environment) (files : Files) (args : List String) : Planning :=
  planIn .asWritten env files args

/-! ## Performing -/

def usageText : String := "error: invalid arguments\n\nFor more information, try '--help'."

/-- Filters inputs. That nobody reads the output any more is no failure. After a failure, what was
held back of the output is still passed on. -/
def filter (files : Files) (stdin : Source) (stdout : Device) (m : Matcher Pattern)
    (lower : Bool) (inputs : List Input) : Completion :=
  let passage := Filter.inputs (Filter.keeps Engine.patterns m lower) (Input.source files) stdin
    (.buffered outputCapacity stdout) inputs
  let said := record ("run the app with " ++ toString inputs.length ++ " inputs") ::
    passage.diagnostics
  match passage.result with
  | .ok () => ⟨0, passage.sink.device, said⟩
  | .error e =>
    let sink := passage.sink.flush.1
    if e.kind = .brokenPipe then ⟨0, sink.device, said⟩
    else ⟨1, sink.device, said ++ [.report (.system e)]⟩

/-- Carries a plan out. A page is printed whether or not there is room for it. -/
def perform (files : Files) (stdin : Source) (stdout : Device) : Plan → Completion
  | .page text => ⟨0, (stdout.write (Utf8.encode text)).1, []⟩
  | .refuse => ⟨2, stdout, [.line usageText]⟩
  | .fail failure => ⟨1, stdout, [.report failure]⟩
  | .explain e =>
    match stdout.write (Utf8.encode (e.explain ++ "\n")) with
    | (stdout, .ok ()) => ⟨0, stdout, []⟩
    | (stdout, .error e) => ⟨101, stdout, [.line ("failed printing to stdout: " ++ e.text)]⟩
  | .filter m lower inputs => filter files stdin stdout m lower inputs

/-- A run, where the entries of the settings file are come across in some order. -/
def runIn (order : Settings.EntryOrder) (i : Invocation) : Completion :=
  let planning := planIn order i.env i.files i.args
  let completion := perform i.files i.stdin i.stdout planning.plan
  { completion with diagnostics := planning.diagnostics ++ completion.diagnostics }

def run (i : Invocation) : Completion := runIn .asWritten i

/-- What a run says, as it is shown. -/
def transcript (env : Environment) (diagnostics : List Diagnostic) : String :=
  String.join (diagnostics.map (Diagnostic.render (logFilter env).1.shows))

/-! ## What a run depends on -/

/-- The variables that a run looks at. -/
def variableNames : List String :=
  [logVariable, CommandLine.configVariable, CommandLine.lowerVariable,
    CommandLine.maxDepthVariable, "XDG_CONFIG_HOME", "HOME"]

/-- The absolute paths that may be opened while a plan is made. -/
def settingsPaths (workingDirectory : String) (env : Environment) (args : List String) :
    List String :=
  let full := Path.join workingDirectory (settingsFile env args).path
  full :: (Settings.candidates full).map (·.1)

end Program

/-- The paths of the files that a plan opens. -/
def Plan.paths : Plan → List String
  | .filter _ _ inputs => inputs.filterMap fun
    | .standard => none
    | .file path => some path
  | _ => []

/-- Whether a plan reads the standard input. -/
def Plan.readsStandard : Plan → Bool
  | .filter _ _ inputs => inputs.contains .standard
  | _ => false

end LineSieve
