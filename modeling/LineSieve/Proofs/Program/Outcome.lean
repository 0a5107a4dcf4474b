import LineSieve.Program
import LineSieve.Proofs.CommandLine.Reading
import LineSieve.Proofs.Filter.Inputs
import LineSieve.Proofs.Matcher.Log

/-!
# What a run comes to

A run whose settings are loaded and whose options are read is put together from its parts: where the
limit and the lower-casing come from, what the compiler makes of the expression, and what filtering
each input alone would write.

* `transcript_of_routine`: without a log nothing but failures is shown.
* `Accepted`: runs whose settings are loaded and whose options are read. They do what the plan for
  the options says, and have reported nothing before (`run_of_accepted`).
* `Reports`: what a run says on the standard error.
* `OpensNothing`: plans on which the inputs have no bearing.
* `run_of_fail`, `run_of_matcher`, `run_of_expression`: runs of one kind of plan each.
* `run_from_parts`: the whole run.
-/

namespace LineSieve.Program

open CommandLine

/-! ## What is said -/

/-- A report, or a record that is not shown where nothing is to be logged. -/
inductive Routine : Diagnostic → Prop where
  | record {r : LogRecord} (h : r.level ≠ .error) : Routine (.record r)
  | report (failure : Failure) : Routine (.report failure)

theorem shows_errorsOnly {r : LogRecord} (h : r.level ≠ .error) :
    LogFilter.errorsOnly.shows r = false := by
  have hLevel : LogFilter.errorsOnly.enables r.level r.target = false := by
    cases hr : r.level with
    | error => exact absurd hr h
    | _ => rfl
  rw [LogFilter.shows, hLevel, Bool.false_and]

theorem failures_append (ds es : List Diagnostic) :
    Diagnostic.failures (ds ++ es) = Diagnostic.failures ds ++ Diagnostic.failures es :=
  List.filterMap_append

theorem failures_records (rs : List LogRecord) : Diagnostic.failures (rs.map .record) = [] := by
  simp [Diagnostic.failures]

theorem failures_logStart (env : Environment) : Diagnostic.failures (logStart env) = [] := by
  unfold logStart
  rw [failures_append]
  cases env.get? logVariable <;> simp [Diagnostic.failures, record]

/-- A failure as it is to be shown: its message after a red mark, and on a line of its own its tip
after a green one. -/
def shown (failure : Failure) : String :=
  "\x1b[1m\x1b[91merror:\x1b[39m\x1b[0m " ++ failure.message ++ "\n" ++
    match failure.tip? with
    | some tip => "\x1b[1m\x1b[32m  tip:\x1b[39m\x1b[0m " ++ tip ++ "\n"
    | none => ""

theorem report_eq_shown (failure : Failure) : failure.report = shown failure := by
  unfold Failure.report shown Failure.bold
  cases failure.tip? <;> simp [String.append_assoc]

/-- Reports are shown whether or not anything is to be logged. -/
theorem sublist_render (shows : LogRecord → Bool) (ds : List Diagnostic) :
    ((Diagnostic.failures ds).map shown).Sublist (ds.map (Diagnostic.render shows)) := by
  induction ds with
  | nil => exact .slnil
  | cons d ds ih =>
    cases d with
    | report failure =>
      rw [List.map_cons, Diagnostic.render, report_eq_shown]
      exact .cons_cons _ ih
    | record => exact .cons _ ih
    | line => exact .cons _ ih

/-- Where nothing is to be logged, only the reports are shown. -/
theorem transcript_of_routine {env : Environment} {ds : List Diagnostic}
    (hUnset : env.get? logVariable = none) (h : ∀ d ∈ ds, Routine d) :
    transcript env ds = String.join ((Diagnostic.failures ds).map shown) := by
  have hFilter : (logFilter env).1 = .errorsOnly := by
    rw [logFilter, hUnset]
  rw [transcript, hFilter]
  induction ds with
  | nil => rfl
  | cons d ds ih =>
    obtain ⟨hHead, hRest⟩ := List.forall_mem_cons.mp h
    rw [List.map_cons, String.join_cons, ih hRest]
    cases hHead with
    | record hLevel =>
      rw [Diagnostic.render, shows_errorsOnly hLevel]
      exact String.empty_append
    | report failure =>
      rw [Diagnostic.render, report_eq_shown]
      exact String.join_cons.symm

theorem routine_records {rs : List LogRecord} (h : ∀ r ∈ rs, r.level ≠ .error) :
    ∀ d ∈ rs.map .record, Routine d := by
  intro d hd
  obtain ⟨r, hr, rfl⟩ := List.mem_map.mp hd
  exact .record (h r hr)

theorem routine_logStart {env : Environment} (hUnset : env.get? logVariable = none) :
    ∀ d ∈ logStart env, Routine d := by
  simp [logStart, logFilter, hUnset]

theorem level_ne_error_of_mem_shiftRecords {ts : List Token} :
    ∀ r ∈ ts.map Expr.shiftRecord, r.level ≠ .error := by
  simp [Expr.shiftRecord]

theorem level_ne_error_of_mem_log {P : Type} (engine : Engine P) (maxDepth : Nat) (text : String) :
    ∀ r ∈ (Compiler.compile engine maxDepth text).log, r.level ≠ .error := by
  cases hTokens : tokenize text with
  | error e =>
    rw [Compiler.log_compile_of_error engine maxDepth hTokens]
    simp
  | ok ts =>
    rw [Compiler.log_compile engine maxDepth hTokens, List.forall_mem_append]
    refine ⟨level_ne_error_of_mem_shiftRecords, ?_⟩
    cases (Parser.parseTokens ts).result with
    | error e => simp [Compiler.expressionRecords]
    | ok e => simp [Compiler.expressionRecords, Compiler.compileRecord]

/-! ## Planning -/

variable {i : Invocation} {order : Settings.EntryOrder} {S : Settings} {o : Options}

theorem failures_planOptions : Diagnostic.failures (planOptions S o).diagnostics = [] := by
  unfold planOptions
  split <;> exact failures_records _

theorem routine_planOptions : ∀ d ∈ (planOptions S o).diagnostics, Routine d := by
  unfold planOptions
  split
  · exact routine_records level_ne_error_of_mem_shiftRecords
  · exact routine_records (level_ne_error_of_mem_log _ _ _)

/-- What a run reports. That is all that it says if nothing is to be logged, and what it shows among
the rest if something is. -/
structure Reports (env : Environment) (c : Completion) (failures : List Failure) : Prop where
  failures_eq : Diagnostic.failures c.diagnostics = failures
  transcript_eq : env.get? logVariable = none →
    transcript env c.diagnostics = String.join (failures.map shown)
  exists_sublist : ∃ texts, transcript env c.diagnostics = String.join texts ∧
    (failures.map shown).Sublist texts

/-- The settings of a run are loaded, and its options are read. -/
structure Accepted (order : Settings.EntryOrder) (i : Invocation) (S : Settings) (o : Options) :
    Prop where
  settings : Settings.loadIn order i.files [settingsFile i.env i.args] = .ok S
  options : Options.parse i.env S.maxDepth i.args = .ok o

theorem plan_of_accepted (h : Accepted order i S o) :
    planIn order i.env i.files i.args =
      ⟨logStart i.env ++ .record (Settings.loadRecord (settingsFile i.env i.args)) ::
        (planOptions S o).diagnostics, (planOptions S o).plan⟩ := by
  rw [planIn, h.settings]
  dsimp only
  rw [planArguments, h.options]

/-- A run does what the plan for its options says, and reports nothing before. -/
theorem run_of_accepted {p : Plan} {c : Completion} (h : Accepted order i S o)
    (hOptions : (planOptions S o).plan = p) (hPerform : perform i.files i.stdin i.stdout p = c) :
    (runIn order i).status = c.status ∧ (runIn order i).stdout = c.stdout ∧
      ((∀ d ∈ c.diagnostics, Routine d) →
        Reports i.env (runIn order i) (Diagnostic.failures c.diagnostics)) := by
  subst hOptions hPerform
  have hPlan := plan_of_accepted h
  have hDiagnostics : (runIn order i).diagnostics = (logStart i.env ++
      .record (Settings.loadRecord (settingsFile i.env i.args)) ::
        (planOptions S o).diagnostics) ++
      (perform i.files i.stdin i.stdout (planOptions S o).plan).diagnostics := by
    rw [runIn, hPlan]
  have hFailures : Diagnostic.failures (runIn order i).diagnostics =
      Diagnostic.failures
        (perform i.files i.stdin i.stdout (planOptions S o).plan).diagnostics := by
    rw [hDiagnostics, failures_append, failures_append, failures_logStart, List.nil_append]
    exact congrArg (· ++ _) failures_planOptions
  refine ⟨by rw [runIn, hPlan], by rw [runIn, hPlan], fun hRoutine => ?_⟩
  rw [← hFailures]
  refine ⟨rfl, fun hUnset => transcript_of_routine hUnset ?_, _, rfl, sublist_render _ _⟩
  rw [hDiagnostics, List.forall_mem_append, List.forall_mem_append, List.forall_mem_cons]
  exact ⟨⟨routine_logStart hUnset, .record (by simp [Settings.loadRecord]), routine_planOptions⟩,
    hRoutine⟩

/-! ## Performing -/

/-- No input is opened, and what comes of the plan does not depend on any. -/
def OpensNothing (p : Plan) : Prop :=
  p.paths = [] ∧ p.readsStandard = false ∧ ∀ files files' stdin stdin' stdout,
    perform files stdin stdout p = perform files' stdin' stdout p

theorem opensNothing_fail (failure : Failure) : OpensNothing (.fail failure) :=
  ⟨rfl, rfl, fun _ _ _ _ _ => rfl⟩

theorem opensNothing_explain (e : Expr) : OpensNothing (.explain e) :=
  ⟨rfl, rfl, fun _ _ _ _ _ => rfl⟩

/-- What is passed on of a source, if nothing keeps it from being written. -/
def passed (keep : Bytes → Bool) (source : Source) : Bytes :=
  (Filter.lines keep source (.unbuffered .unlimited)).sink.device.written

/-- What is passed on of inputs, one after the other. A dash is what is left of the standard input,
which is nothing once it has been read. What cannot be opened is passed over. -/
def outputs (keep : Bytes → Bool) (files : Files) : Source → List String → Bytes
  | _, [] => []
  | stdin, name :: names =>
    if name = "-" then passed keep stdin ++ outputs keep files .empty names
    else
      match files.find name with
      | .ok (.file content) => passed keep (.ofBytes content) ++ outputs keep files stdin names
      | _ => outputs keep files stdin names

/-- What is wrong with an input that cannot be opened. -/
def openFailure? (files : Files) (name : String) : Option Failure :=
  if name = "-" then none
  else
    match files.find name with
    | .ok (.file _) => none
    | .ok .directory => some (.system ⟨.invalidInput,
        "failed to open file " ++ Text.quote name ++ ": is a directory"⟩)
    | .error e => some (.system ⟨e.kind,
        "failed to open file " ++ Text.quote name ++ ": " ++ e.text⟩)

/-- The inputs of names, opened one after the other. -/
def openings (files : Files) (stdin : Source) (names : List String) : List Filter.Opening :=
  Filter.openings (Input.source files) stdin (names.map Input.ofName)

theorem inputsOf_eq (names : List String) :
    inputsOf names = (if names = [] then ["-"] else names).map Input.ofName := by
  cases names <;> rfl

/-- What comes of opening the first of some inputs. -/
theorem openings_cons (files : Files) (stdin : Source) (name : String) (names : List String) :
    ∃ opening rest, openings files stdin (name :: names) = opening :: openings files rest names ∧
      ((name = "-" ∧ opening = ⟨.standard, .ok stdin⟩ ∧ rest = .empty) ∨
        (name ≠ "-" ∧ rest = stdin ∧
          opening = ⟨.file name, (Input.content files name).map Source.ofBytes⟩)) := by
  refine ⟨_, _, rfl, ?_⟩
  by_cases hName : name = "-"
  · subst hName
    exact Or.inl ⟨rfl, rfl, rfl⟩
  · rw [Input.ofName, if_neg hName]
    refine Or.inr ⟨hName, ?_, rfl⟩
    rw [Filter.Opening.stdinAfter]
    split <;> rfl

theorem flatMap_contribution_openings (keep : Bytes → Bool) (files : Files) (stdin : Source)
    (names : List String) : (openings files stdin names).flatMap (·.contribution keep) =
      outputs keep files stdin names := by
  induction names generalizing stdin with
  | nil => rfl
  | cons name names ih =>
    obtain ⟨opening, rest, hOpenings, hFirst⟩ := openings_cons files stdin name names
    rw [hOpenings, List.flatMap_cons, ih, outputs]
    rcases hFirst with ⟨hName, rfl, rfl⟩ | ⟨hName, rfl, rfl⟩
    · rw [if_pos hName]
      rfl
    · rw [if_neg hName, Input.content]
      cases files.find name with
      | error e => rfl
      | ok entry => cases entry <;> rfl

/-- Only the standard input can fail while it is read. -/
theorem complete_of_stdin {files : Files} {stdin : Source} {names : List String}
    (h : "-" ∈ names → stdin.fault = none) :
    ∀ opening ∈ openings files stdin names, opening.Complete := by
  induction names generalizing stdin with
  | nil => exact nofun
  | cons name names ih =>
    obtain ⟨opening, rest, hOpenings, hFirst⟩ := openings_cons files stdin name names
    rw [hOpenings, List.forall_mem_cons]
    rcases hFirst with ⟨rfl, rfl, rfl⟩ | ⟨-, rfl, rfl⟩
    · refine ⟨fun source hSource => ?_, ih fun _ => rfl⟩
      cases hSource
      exact h List.mem_cons_self
    · refine ⟨fun source hSource => ?_, ih fun hLater => h (List.mem_cons_of_mem _ hLater)⟩
      cases hContent : Input.content files name with
      | error e =>
        rw [hContent] at hSource
        cases hSource
      | ok bytes =>
        rw [hContent] at hSource
        cases hSource
        rfl

theorem openError_file (name : String) (kind : SystemErrorKind) (reason : String) :
    (Input.file name).openError kind reason =
      ⟨kind, "failed to open file " ++ Text.quote name ++ ": " ++ reason⟩ := by
  have hFile : "failed to open file " = "failed to open " ++ "file " := by decide
  simp only [Input.openError, Input.description, hFile, String.append_assoc]

theorem failures_said (keep : Bytes → Bool) (files : Files) (stdin : Source) (names : List String) :
    Diagnostic.failures ((openings files stdin names).map (·.said keep)) =
      names.filterMap (openFailure? files) := by
  induction names generalizing stdin with
  | nil => rfl
  | cons name names ih =>
    obtain ⟨opening, rest, hOpenings, hFirst⟩ := openings_cons files stdin name names
    rw [hOpenings, List.filterMap_cons]
    rcases hFirst with ⟨rfl, rfl, rfl⟩ | ⟨hName, rfl, rfl⟩
    · exact ih .empty
    · have hRest := ih rest
      rw [openFailure?, if_neg hName, Input.content]
      cases files.find name with
      | error e =>
        dsimp only
        rw [← openError_file]
        exact congrArg (_ :: ·) hRest
      | ok entry =>
        cases entry with
        | file => exact hRest
        | directory =>
          have hReason : ": is a directory" = ": " ++ "is a directory" := by decide
          dsimp only
          rw [hReason, ← String.append_assoc, ← openError_file]
          exact congrArg (_ :: ·) hRest

theorem routine_said (keep : Bytes → Bool) (opening : Filter.Opening) :
    Routine (opening.said keep) := by
  unfold Filter.Opening.said
  split
  · exact .record (by simp [Filter.countRecord])
  · exact .report _

/-- Where there is room and no reading fails, a filter adds to the output what it would write for
each input alone. -/
theorem filter_of_complete {files : Files} {stdin : Source} {stdout : Device} {m : Matcher Pattern}
    {lower : Bool} {names : List String} (hStdin : "-" ∈ names → stdin.fault = none)
    (hRoom : Device.Fits stdout.room
      (outputs (Filter.keeps Engine.patterns m lower) files stdin names).length) :
    ∃ device, filter files stdin stdout m lower (names.map Input.ofName) =
        ⟨0, device, record ("run the app with " ++ toString (names.map Input.ofName).length ++
          " inputs") ::
          (openings files stdin names).map (·.said (Filter.keeps Engine.patterns m lower))⟩ ∧
      device.written = stdout.written ++
        outputs (Filter.keeps Engine.patterns m lower) files stdin names := by
  rw [← flatMap_contribution_openings] at hRoom ⊢
  have hBuffer : (Sink.buffered outputCapacity stdout).HasRoom
      ((openings files stdin names).flatMap
        (·.contribution (Filter.keeps Engine.patterns m lower))).length := by
    rw [← Nat.zero_add (List.length _)] at hRoom
    exact hRoom
  obtain ⟨sink, hInputs, hWritten⟩ := Filter.inputs_of_complete (complete_of_stdin hStdin) hBuffer
  refine ⟨sink.device, by rw [filter, hInputs, openings], ?_⟩
  rw [hWritten, Sink.accepted, Sink.buffered, Pieces.contents_empty, List.append_nil, openings]

theorem perform_explain_of_fits {files : Files} {stdin : Source} {stdout : Device} {e : Expr}
    (h : Device.Fits stdout.room (Utf8.encode (e.explain ++ "\n")).length) :
    ∃ device, perform files stdin stdout (.explain e) = ⟨0, device, []⟩ ∧
      device.written = stdout.written ++ Utf8.encode (e.explain ++ "\n") := by
  refine ⟨_, by rw [perform, Device.write_of_fits h], ?_⟩
  exact Pieces.contents_add _ _

/-! ## Whole runs -/

theorem planOptions_of_explain (h : o.explain = true) :
    (planOptions S o).plan =
      match Expr.parse o.expr with
      | .ok e => .explain e
      | .error failure => .fail failure :=
  congrArg Planning.plan (if_pos h)

theorem planOptions_of_filter (h : o.explain = false) :
    (planOptions S o).plan =
      match (Compiler.compile Engine.patterns o.maxDepth o.expr).result with
      | .ok m => .filter m (o.lowerEnabled S) (inputsOf o.files)
      | .error failure => .fail failure :=
  congrArg Planning.plan (if_neg (Bool.eq_false_iff.mp h))

/-- A plan that is bound to fail opens no input and leaves the output as it is. -/
theorem run_of_fail {failure : Failure} (h : Accepted order i S o)
    (hPlan : (planOptions S o).plan = .fail failure) :
    (runIn order i).status = 1 ∧ (runIn order i).stdout = i.stdout ∧
      Reports i.env (runIn order i) [failure] ∧
      OpensNothing (planIn order i.env i.files i.args).plan := by
  have hPerform : perform i.files i.stdin i.stdout (.fail failure) =
      ⟨1, i.stdout, [.report failure]⟩ := rfl
  obtain ⟨hStatus, hStdout, hReports⟩ := run_of_accepted h hPlan hPerform
  refine ⟨hStatus, hStdout, hReports fun d hd => ?_, ?_⟩
  · cases List.mem_singleton.mp hd
    exact .report failure
  · rw [plan_of_accepted h, hPlan]
    exact opensNothing_fail failure

theorem run_of_matcher {m : Matcher Pattern} {names : List String} (h : Accepted order i S o)
    (hExplain : o.explain = false)
    (hMatcher : (Compiler.compile Engine.patterns o.maxDepth o.expr).result = .ok m)
    (hNames : names = if o.files = [] then ["-"] else o.files)
    (hStdin : "-" ∈ names → i.stdin.fault = none)
    (hRoom : Device.Fits i.stdout.room
      (outputs (Filter.keeps Engine.patterns m (o.lowerEnabled S)) i.files i.stdin names).length) :
    (runIn order i).status = 0 ∧
      (runIn order i).stdout.written = i.stdout.written ++
        outputs (Filter.keeps Engine.patterns m (o.lowerEnabled S)) i.files i.stdin names ∧
      Reports i.env (runIn order i) (names.filterMap (openFailure? i.files)) := by
  obtain ⟨device, hFilter, hWritten⟩ := filter_of_complete hStdin hRoom
  have hPlan : (planOptions S o).plan =
      .filter m (o.lowerEnabled S) (names.map Input.ofName) := by
    rw [planOptions_of_filter hExplain, hMatcher, inputsOf_eq, hNames]
  obtain ⟨hStatus, hStdout, hReports⟩ := run_of_accepted h hPlan hFilter
  refine ⟨hStatus, by rw [hStdout, hWritten], ?_⟩
  rw [← failures_said (Filter.keeps Engine.patterns m (o.lowerEnabled S)) i.files i.stdin]
  exact hReports <| List.forall_mem_cons.mpr
    ⟨.record (by simp), List.forall_mem_map.mpr fun opening _ => routine_said _ opening⟩

theorem run_of_expression {e : Expr} (h : Accepted order i S o) (hExplain : o.explain = true)
    (hParse : Expr.parse o.expr = .ok e)
    (hRoom : Device.Fits i.stdout.room (Utf8.encode (e.explain ++ "\n")).length) :
    (runIn order i).status = 0 ∧
      (runIn order i).stdout.written = i.stdout.written ++ Utf8.encode (e.explain ++ "\n") ∧
      Reports i.env (runIn order i) [] := by
  obtain ⟨device, hPrinted, hWritten⟩ := perform_explain_of_fits hRoom
  have hPlan : (planOptions S o).plan = .explain e := by
    rw [planOptions_of_explain hExplain, hParse]
  obtain ⟨hStatus, hStdout, hReports⟩ := run_of_accepted h hPlan hPrinted
  exact ⟨hStatus, by rw [hStdout, hWritten], hReports (by simp)⟩

/-- An expression that there is no room for. -/
theorem status_of_expression_of_full {e : Expr} (h : Accepted order i S o)
    (hExplain : o.explain = true) (hParse : Expr.parse o.expr = .ok e)
    (hRoom : ¬ Device.Fits i.stdout.room (Utf8.encode (e.explain ++ "\n")).length) :
    (runIn order i).status = 101 := by
  have hPlan : (planOptions S o).plan = .explain e := by
    rw [planOptions_of_explain hExplain, hParse]
  simp only [Device.Fits, not_forall, Nat.not_le] at hRoom
  obtain ⟨r, hLimited, hFull⟩ := hRoom
  obtain ⟨hStatus, -, -⟩ := run_of_accepted h hPlan rfl
  rw [hStatus, perform, Device.write_of_lt hLimited hFull]

/-- A run whose settings are loaded and whose options are read.

Its limit is that of the last option for it, or else the variable's, or else that of the settings.
Without `--explain`, it fails if the compiler does, with this error, before it opens an input or
writes anything; otherwise, where reading and writing do not fail, it writes what it would write for
each input alone. Without names it reads the standard input. Inputs that cannot be opened are
reported, and do not bear on the status. With `--explain`, all that counts is whether the expression
can be parsed: if it can, it is printed, which only goes wrong if there is no room for it, and if
not, the run fails with that error. -/
theorem run_from_parts (order : Settings.EntryOrder) (i : Invocation) (S : Settings) (o : Options)
    (h : Accepted order i S o) :
    ∃ limit, IsLimit i.env S.maxDepth i.args limit ∧
    (o.explain = false →
      (∀ failure,
        (Compiler.compile Engine.patterns limit o.expr).result = .error failure →
        (runIn order i).status = 1 ∧ (runIn order i).stdout = i.stdout ∧
          Reports i.env (runIn order i) [failure] ∧
          OpensNothing (planIn order i.env i.files i.args).plan) ∧
      (∀ m, (Compiler.compile Engine.patterns limit o.expr).result = .ok m →
        let names := if o.files = [] then ["-"] else o.files
        let full :=
          outputs (Filter.keeps Engine.patterns m (o.lowerEnabled S)) i.files i.stdin names
        ("-" ∈ names → i.stdin.fault = none) → Device.Fits i.stdout.room full.length →
        (runIn order i).status = 0 ∧ (runIn order i).stdout.written = i.stdout.written ++ full ∧
          Reports i.env (runIn order i) (names.filterMap (openFailure? i.files)))) ∧
    (o.explain = true →
      (∀ e, Expr.parse o.expr = .ok e →
        let text := Utf8.encode (e.explain ++ "\n")
        (Device.Fits i.stdout.room text.length →
          (runIn order i).status = 0 ∧ (runIn order i).stdout.written = i.stdout.written ++ text ∧
            Reports i.env (runIn order i) []) ∧
        (¬ Device.Fits i.stdout.room text.length → (runIn order i).status = 101) ∧
        OpensNothing (planIn order i.env i.files i.args).plan) ∧
      (∀ failure, Expr.parse o.expr = .error failure →
        (runIn order i).status = 1 ∧ (runIn order i).stdout = i.stdout ∧
          Reports i.env (runIn order i) [failure] ∧
          OpensNothing (planIn order i.env i.files i.args).plan)) := by
  refine ⟨o.maxDepth, Options.isLimit_of_parse h.options,
    fun hExplain => ⟨fun failure hFailure => ?_, ?_⟩, fun hExplain => ⟨?_, ?_⟩⟩
  · exact run_of_fail h (by rw [planOptions_of_filter hExplain, hFailure])
  · intro m hMatcher names full hStdin hRoom
    exact run_of_matcher h hExplain hMatcher rfl hStdin hRoom
  · intro e hParse text
    refine ⟨run_of_expression h hExplain hParse, status_of_expression_of_full h hExplain hParse, ?_⟩
    rw [plan_of_accepted h, planOptions_of_explain hExplain, hParse]
    exact opensNothing_explain e
  · intro failure hParse
    exact run_of_fail h (by rw [planOptions_of_explain hExplain, hParse])

/-- A file, one that is not there and the standard input; an expression that is too deep for the
option, though not for the variable; and a pattern that is not well-formed, which is only
printed. -/
theorem run_from_parts_gone :
    let env : Environment := [("BMATCH_MAX_DEPTH", "7")]
    let files : Files := ⟨"/", fun path =>
      if path = "x" then .ok (.file [98, 10, 97]) else .error .notFound⟩
    let runOf (args : List String) : Completion := run
      ⟨args, env, files, ⟨[[97, 98, 13], [10]], none⟩, ⟨.empty, some 9, .storageFull⟩⟩
    ((runOf ["a", "x", "gone", "-"]).status = 0 ∧
      (runOf ["a", "x", "gone", "-"]).stdout.written = [97, 10, 97, 98, 10] ∧
      transcript env (runOf ["a", "x", "gone", "-"]).diagnostics =
        "\x1b[1m\x1b[91merror:\x1b[39m\x1b[0m failed to open file \"gone\": " ++
          "No such file or directory (os error 2)\n") ∧
    ((runOf ["NOT a", "--max-depth=0", "x"]).status = 1 ∧
      (runOf ["NOT a", "--max-depth=0", "x"]).stdout.written = [] ∧
      transcript env (runOf ["NOT a", "--max-depth=0", "x"]).diagnostics =
        "\x1b[1m\x1b[91merror:\x1b[39m\x1b[0m too deep nesting level 1\n" ++
          "\x1b[1m\x1b[32m  tip:\x1b[39m\x1b[0m simplify the expression or raise the limit with " ++
          "\x1b[1m--max-depth\x1b[0m\n") ∧
    ((runOf ["--explain", "/(/", "gone"]).status = 0 ∧
      (runOf ["--explain", "/(/", "gone"]).stdout.written = [47, 40, 47, 10]) := by
  intro env files runOf
  let invoke (args : List String) : Invocation :=
    ⟨args, env, files, ⟨[[97, 98, 13], [10]], none⟩, ⟨.empty, some 9, .storageFull⟩⟩
  have hSettings (args : List String) (h : settingsFile env args = Settings.fileOf env none) :
      Settings.load files [settingsFile env args] = .ok ⟨20, false⟩ := by
    rw [h]
    decide +kernel
  have hFilter : Accepted .asWritten (invoke ["a", "x", "gone", "-"]) ⟨20, false⟩
      ⟨none, false, false, false, 7, "a", ["x", "gone", "-"]⟩ :=
    ⟨hSettings _ (by decide +kernel), by decide +kernel⟩
  have hDeep : Accepted .asWritten (invoke ["NOT a", "--max-depth=0", "x"]) ⟨20, false⟩
      ⟨none, false, false, false, 0, "NOT a", ["x"]⟩ :=
    ⟨hSettings _ (by decide +kernel), by decide +kernel⟩
  have hExplain : Accepted .asWritten (invoke ["--explain", "/(/", "gone"]) ⟨20, false⟩
      ⟨none, true, false, false, 7, "/(/", ["gone"]⟩ :=
    ⟨hSettings _ (by decide +kernel), by decide +kernel⟩
  obtain ⟨limit, hLimit, hRuns, -⟩ := run_from_parts _ _ _ _ hFilter
  obtain ⟨limit', hLimit', hFails, -⟩ := run_from_parts _ _ _ _ hDeep
  obtain ⟨-, -, -, hPrints⟩ := run_from_parts _ _ _ _ hExplain
  obtain rfl : limit = 7 := hLimit.unique (Options.isLimit_of_parse hFilter.options)
  obtain rfl : limit' = 0 := hLimit'.unique (Options.isLimit_of_parse hDeep.options)
  have hFits {n : Nat} (h : n ≤ 9) : Device.Fits (some 9) n := by
    rintro _ ⟨⟩
    exact h
  have hLines : outputs (Filter.keeps Engine.patterns (.substring "a") false) files
      ⟨[[97, 98, 13], [10]], none⟩ ["x", "gone", "-"] = [97, 10, 97, 98, 10] := by
    rw [← flatMap_contribution_openings, Filter.flatMap_contribution]
    decide +kernel
  refine ⟨?_, ?_, ?_⟩
  · have hShort : (outputs (Filter.keeps Engine.patterns (.substring "a") false) files
        ⟨[[97, 98, 13], [10]], none⟩ ["x", "gone", "-"]).length ≤ 9 := by
      rw [hLines]
      decide
    obtain ⟨hStatus, hWritten, hReports⟩ :=
      (hRuns rfl).2 (.substring "a") (by rfl) (fun _ => rfl) (hFits hShort)
    exact ⟨hStatus, hWritten.trans hLines, (hReports.transcript_eq rfl).trans (by decide +kernel)⟩
  · obtain ⟨hStatus, hStdout, hReports, -⟩ := (hFails rfl).1 (.tooDeep 1) (by rfl)
    exact ⟨hStatus, congrArg Device.written hStdout,
      (hReports.transcript_eq rfl).trans (by decide +kernel)⟩
  · obtain ⟨hPrinted, -, -⟩ := (hPrints rfl).1 (.pattern "(") (by rfl)
    obtain ⟨hStatus, hWritten, -⟩ := hPrinted (hFits (by decide +kernel))
    exact ⟨hStatus, hWritten.trans (by decide +kernel)⟩

end LineSieve.Program
