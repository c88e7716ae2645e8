import Mathlib.Tactic.Common
import ShardCheck.Program
import ShardCheck.Proofs.Loading
import ShardCheck.Proofs.Report

/-!
# The log level

The level that is asked for decides which events are written, and nothing else. What a run gives,
which events it has and how it exits is settled before the level is looked at. A failure is written
at every level, since no level is coarser than that of errors, and the last error of a run that does
not succeed counts the failures, or tells what could not be read.
-/

namespace ShardCheck

/-! ### Levels -/

namespace LogLevel

/-- The names of a level in small letters. -/
def names : LogLevel → List String
  | error => ["panic", "fatal", "error"]
  | warn => ["warn", "warning"]
  | info => ["info"]
  | debug => ["debug"]
  | trace => ["trace"]

/-- The levels of the events that are written at a level. -/
def shown : LogLevel → List LogLevel
  | error => [error]
  | warn => [error, warn]
  | info => [error, warn, info]
  | debug => [error, warn, info, debug]
  | trace => [error, warn, info, debug, trace]

lemma mem_spellings_iff {name : String} {level : LogLevel} :
    (name, level) ∈ spellings ↔ name ∈ level.names := by
  cases level <;> simp [spellings, names]

/-- A level is read from its names, in letters of either case. -/
lemma parse_eq_ok_iff {s : String} {level : LogLevel} :
    parse s = .ok level ↔ String.ofList (s.toList.map Char.toLower) ∈ level.names := by
  have hlookup : spellings.lookup (lowerCase s) = some level ↔
      (lowerCase s, level) ∈ spellings := by
    generalize lowerCase s = name
    constructor
    · intro h
      obtain ⟨before, after, heq, -⟩ := List.lookup_eq_some_iff.1 h
      simp [heq]
    · intro h
      simp only [spellings, List.mem_cons, Prod.mk.injEq, List.not_mem_nil, or_false] at h
      rcases h with ⟨rfl, rfl⟩ | ⟨rfl, rfl⟩ | ⟨rfl, rfl⟩ | ⟨rfl, rfl⟩ | ⟨rfl, rfl⟩ | ⟨rfl, rfl⟩ |
        ⟨rfl, rfl⟩ | ⟨rfl, rfl⟩
      all_goals rfl
  change _ ↔ lowerCase s ∈ level.names
  rw [← mem_spellings_iff, ← hlookup, parse]
  cases spellings.lookup (lowerCase s) with
  | none => simp
  | some l => simp

lemma isEnabled_eq (limit l : LogLevel) : limit.isEnabled l = limit.shown.contains l := by
  cases limit <;> cases l <;> rfl

end LogLevel

/-! ### What a run leaves behind -/

/-- The event tells how far a run has come, and nothing that is wrong. -/
def LogEvent.IsProgress (e : LogEvent) : Prop := e.level = .debug ∨ e.level = .info

/-- What there is of a run before a level is looked at: the exit code, the events, and the reason of
a crash. -/
structure RunTrace where
  code : Nat
  events : List LogEvent
  crash? : Option String

namespace RunTrace

/-- What is written of a run at a level. -/
def written (run : RunTrace) (limit : LogLevel) : ProgramResult where
  exitCode := run.code
  output := ""
  errors :=
    let lines := (run.events.filter fun event => limit.shown.contains event.level).map LogEvent.line
    String.join ((lines ++ run.crash?.toList).map (· ++ "\n"))

def errors (run : RunTrace) : List LogEvent := run.events.filter (·.level == .error)

/-- A run that has made its checks. Behind the progress it tells all that was found, warnings first,
and sums it up. -/
structure Reports (run : RunTrace) (outcome : Outcome) : Prop where
  code : run.code = if outcome.failures = [] then 0 else 1
  crash : run.crash? = none
  events : ∃ before, (∀ event ∈ before, event.IsProgress) ∧
    run.events = before ++ outcome.warnings.map Warning.event ++
      outcome.failures.map Failure.event ++ [outcome.closing]
  good : outcome.failures = [] → run.errors = []
  /-- Behind the failures there is one more error, which counts them. -/
  bad : outcome.failures ≠ [] → ∃ last,
    run.errors = outcome.failures.map Failure.event ++ [last] ∧
      last.line =
        "ERROR Found configurations that do not belong to the correct auto-updating config (" ++
          toString outcome.failures.length ++ " failures)"

/-- A run that could not read all. Its one error is the last event, and tells the path and the
reason. -/
structure StopsWith (run : RunTrace) (e : RunError) : Prop where
  code : run.code = 1
  crash : run.crash? = none
  told : ∃ before text, e.IsToldBy text ∧ (∀ event ∈ before, event.IsProgress) ∧
    run.events = before ++ [⟨.error, text, []⟩] ∧ run.errors = [⟨.error, text, []⟩]

/-- A run that crashed. -/
structure Crashes (run : RunTrace) (reason : String) : Prop where
  code : run.code = 101
  crash : run.crash? = some reason
  events : ∀ event ∈ run.events, event.IsProgress

/-- At the coarsest level only the errors are written. -/
lemma written_error (run : RunTrace) : run.written .error =
    ⟨run.code, "", String.join
      ((run.errors.map LogEvent.line ++ run.crash?.toList).map (· ++ "\n"))⟩ := by
  have hlevel : (fun event : LogEvent => LogLevel.error.shown.contains event.level) =
      fun event => event.level == .error := by
    funext event
    cases event.level <;> rfl
  rw [written, errors, hlevel]

lemma filter_error_eq_nil {events : List LogEvent} (h : ∀ event ∈ events, event.IsProgress) :
    events.filter (·.level == .error) = [] := by
  refine List.filter_eq_nil_iff.2 fun event hevent => ?_
  rcases h event hevent with hlevel | hlevel
  · simp [hlevel]
  · simp [hlevel]

lemma filter_error_findings (outcome : Outcome) :
    (outcome.warnings.map Warning.event ++ outcome.failures.map Failure.event).filter
      (·.level == .error) = outcome.failures.map Failure.event := by
  rw [List.filter_append, List.filter_eq_nil_iff.2, List.filter_eq_self.2, List.nil_append]
  · simp [Failure.event]
  · simp [Warning.event]

/-- How a run ended, with its events: its exit code, and the error that it ended with as the last
event. -/
def ofResult : Except Halt Unit × List LogEvent → RunTrace
  | (.ok (), events) => ⟨0, events, none⟩
  | (.error (.error e), events) => ⟨1, events ++ [ProgramResult.errorEvent e], none⟩
  | (.error (.crash reason), events) => ⟨101, events, some reason⟩

lemma ofRun_eq_written (level : LogLevel) (x : Except Halt Unit × List LogEvent) :
    ProgramResult.ofRun level x = (ofResult x).written level := by
  obtain ⟨(e | reason) | ⟨⟨⟩⟩, events⟩ := x
  all_goals
    simp only [ProgramResult.ofRun, ofResult, written, writtenLog, LogLevel.isEnabled_eq,
      Option.toList, List.append_nil]
    rfl

lemma code_ofResult_eq_zero_iff (x : Except Halt Unit × List LogEvent) :
    (ofResult x).code = 0 ↔ x.1 = .ok () := by
  obtain ⟨(e | reason) | ⟨⟨⟩⟩, events⟩ := x <;> simp [ofResult]

end RunTrace

lemma Arguments.parse_logLevel_of_check {a : Arguments} {fs : FileSystem} {options : Options}
    (h : a.check fs = .ok options) : LogLevel.parse a.logLevel = .ok options.logLevel := by
  rw [check] at h
  split at h
  · obtain ⟨dir, -, h⟩ := Fallible.bind_eq_ok_iff.1 h
    obtain ⟨level, hlevel, h⟩ := Fallible.bind_eq_ok_iff.1 h
    split at h
    · cases h
      exact hlevel
    · cases h
  · cases h

lemma runProgram_of_check {fs : FileSystem} {args : List String} {arguments : Arguments}
    {options : Options} (hparse : Arguments.parse args = .ok arguments)
    (hcheck : arguments.check fs = .ok options) :
    runProgram fs args =
      .ofRun options.logLevel (validate fs Glob.matcherFor options.releaseRepoDir).result := by
  rw [runProgram, hparse]
  simp only [hcheck]

/-! ### The events of a run -/

namespace Repository

variable (fs : FileSystem) (source : MatcherSource) (root : String)

lemma logsOnly_isProgress_validateRepo :
    Run.LogsOnly LogEvent.IsProgress (validateRepo fs source root) := by
  refine logsOnly_validateRepo (fun _ _ => .inr rfl) (fun event hevent => ?_) source
  obtain ⟨_, -, _, -, hfile⟩ | ⟨_, -, _, -, hfile⟩ := hevent
  all_goals exact .inl hfile.level

variable {fs source root}

lemma events_validate_of_ok {outcome : Outcome}
    (h : (validateRepo fs source root).value = .ok outcome) :
    (validate fs source root).events =
      (validateRepo fs source root).events ++ (outcome.events ++ outcome.verdict.events) := by
  rw [validate_eq, Run.events_bind_of_ok (isAdding_validateRepo fs source root)
    Outcome.isAdding_conclude h, Outcome.events_conclude]

lemma value_validate_of_ok {outcome : Outcome}
    (h : (validateRepo fs source root).value = .ok outcome) :
    (validate fs source root).value =
      if outcome.failures = [] then .ok ()
      else .error (.error (.validationFailed outcome.failures.length)) := by
  rw [validate_eq, Run.value_bind _ Outcome.isAdding_conclude, h, ← Outcome.value_verdict]
  exact outcome.value_conclude

lemma validate_of_error {halt : Halt} (h : (validateRepo fs source root).value = .error halt) :
    (validate fs source root).value = .error halt ∧
      (validate fs source root).events = (validateRepo fs source root).events := by
  rw [validate_eq, Run.events_bind_of_error (isAdding_validateRepo fs source root)
    Outcome.isAdding_conclude h, Run.value_bind _ Outcome.isAdding_conclude, h]
  exact ⟨rfl, rfl⟩

end Repository

/-! ### What cannot be read -/

lemma FileSystem.LoadFault.isToldBy {α : Type} {fs : FileSystem} {r : Yaml.Reader α}
    {path : String} {e : RunError} (h : fs.LoadFault r path e) : e.IsToldBy e.message := by
  cases h with
  | read => exact .configReadFailed _ _
  | parse => exact .configParseFailed _ _

lemma FileSystem.TreeFault.isToldBy {α : Type} {fs : FileSystem} {r : Yaml.Reader α}
    {tree : String} {e : RunError} (h : fs.TreeFault r tree e) : e.IsToldBy e.message := by
  cases h with
  | noDir => exact .dirNotFound _
  | walk => exact .walkFailed _ _
  | file _ _ h => exact h.isToldBy

lemma Repository.ReadFault.isToldBy {fs : FileSystem} {root : String} {e : RunError}
    (h : ReadFault fs root e) : e.IsToldBy e.message := by
  cases h with
  | rules h =>
    cases h with
    | noFile => exact .configReadFailed _ _
    | file _ h => exact h.isToldBy
  | configs _ h => exact h.isToldBy
  | jobs _ _ h => exact h.isToldBy

open Repository

namespace RunTrace

variable {fs : FileSystem} {dir : String}

def ofValidate (fs : FileSystem) (dir : String) : RunTrace :=
  ofResult (validate fs Glob.matcherFor dir).result

lemma ofValidate_eq (fs : FileSystem) (dir : String) : ofValidate fs dir =
    ofResult ((validate fs Glob.matcherFor dir).value, (validate fs Glob.matcherFor dir).events) :=
  rfl

lemma reports_ofValidate {outcome : Outcome}
    (h : (validateRepo fs Glob.matcherFor dir).value = .ok outcome) :
    (ofValidate fs dir).Reports outcome := by
  have hprogress := logsOnly_isProgress_validateRepo fs Glob.matcherFor dir
  have hvalue := value_validate_of_ok h
  have hevents := events_validate_of_ok h
  by_cases hfailures : outcome.failures = []
  · have htrace : ofValidate fs dir = ⟨0, (validateRepo fs Glob.matcherFor dir).events ++
        (outcome.events ++ [outcome.closing]), none⟩ := by
      rw [ofValidate_eq, hvalue, hevents, Outcome.events_verdict_of_failures_eq_nil hfailures,
        if_pos hfailures, Outcome.closing, if_pos hfailures]
      rfl
    rw [htrace]
    refine ⟨(if_pos hfailures).symm, rfl, ⟨_, hprogress, ?_⟩, fun _ => ?_, fun hne =>
      absurd hfailures hne⟩
    · simp only [Outcome.events, List.append_assoc]
    · rw [errors, List.filter_append, List.filter_append, filter_error_eq_nil hprogress,
        Outcome.events, filter_error_findings, hfailures, Outcome.closing, if_pos hfailures]
      rfl
  -- the count is in the error that ends the run and not in an event of the check
  · have htrace : ofValidate fs dir = ⟨1, (validateRepo fs Glob.matcherFor dir).events ++
        (outcome.events ++ [outcome.closing]), none⟩ := by
      rw [ofValidate_eq, hvalue, hevents, Outcome.events_verdict_of_failures_ne_nil hfailures,
        if_neg hfailures, Outcome.closing, if_neg hfailures, List.append_nil, ← List.append_assoc]
      rfl
    rw [htrace]
    refine ⟨(if_neg hfailures).symm, rfl, ⟨_, hprogress, ?_⟩, fun hnil => absurd hnil hfailures,
      fun _ => ⟨outcome.closing, ?_, Outcome.line_closing hfailures⟩⟩
    · simp only [Outcome.events, List.append_assoc]
    · rw [errors, List.filter_append, List.filter_append, filter_error_eq_nil hprogress,
        Outcome.events, filter_error_findings, Outcome.closing, if_neg hfailures]
      rfl

lemma stopsWith_ofValidate {e : RunError}
    (h : (validateRepo fs Glob.matcherFor dir).value = .error (.error e)) :
    (ofValidate fs dir).StopsWith e := by
  have hprogress := logsOnly_isProgress_validateRepo fs Glob.matcherFor dir
  have htold := (value_validateRepo_eq_error_iff.1 h).isToldBy
  obtain ⟨hvalue, hevents⟩ := validate_of_error h
  rw [ofValidate_eq, hvalue, hevents]
  refine ⟨rfl, rfl, _, e.message, htold, hprogress, rfl, ?_⟩
  rw [errors, ofResult, List.filter_append, filter_error_eq_nil hprogress]
  rfl

lemma crashes_ofValidate {reason : String}
    (h : (validateRepo fs Glob.matcherFor dir).value = .error (.crash reason)) :
    (ofValidate fs dir).Crashes reason := by
  obtain ⟨hvalue, hevents⟩ := validate_of_error h
  rw [ofValidate_eq, hvalue, hevents]
  exact ⟨rfl, rfl, logsOnly_isProgress_validateRepo fs Glob.matcherFor dir⟩

end RunTrace

/-! ### All levels -/

/-- Runs on one directory differ by their log levels in what they write of the log only. A level
goes by its names, in letters of either case. The event of a failure is an error and tells what was
found, the event of a warning is none. For a directory there is one trace, of which a run writes the
events that its level shows. The exit code is zero exactly if the validation succeeds. A check that
was made is reported in full, with the number of failures in the last error, and if the repository
could not be read, the only error tells why. -/
theorem log_level_only_filters (fs : FileSystem) (dir : String) :
    (∀ s level, LogLevel.parse s = .ok level ↔
      String.ofList (s.toList.map Char.toLower) ∈ level.names) ∧
    (∀ f : Failure, f.event.level = .error ∧
      ∀ f' : Failure, f.event = f'.event → f.finding = f'.finding) ∧
    (∀ w : Warning, w.event.level = .warn ∧ ∀ w' : Warning, w.event = w'.event → w = w') ∧
    ∃ run : RunTrace,
      (∀ args arguments options, Arguments.parse args = .ok arguments →
        arguments.check fs = .ok options → options.releaseRepoDir = dir →
          LogLevel.parse arguments.logLevel = .ok options.logLevel ∧
            runProgram fs args = run.written options.logLevel) ∧
      (run.code = 0 ↔ (validate fs Glob.matcherFor dir).value = .ok ()) ∧
      (∀ outcome, (validateRepo fs Glob.matcherFor dir).value = .ok outcome →
        run.Reports outcome ∧
          (validate fs Glob.matcherFor dir).value =
            if outcome.failures = [] then .ok ()
            else .error (.error (.validationFailed outcome.failures.length))) ∧
      (∀ e, (validateRepo fs Glob.matcherFor dir).value = .error (.error e) →
        run.StopsWith e ∧ (validate fs Glob.matcherFor dir).value = .error (.error e)) ∧
      ∀ reason, (validateRepo fs Glob.matcherFor dir).value = .error (.crash reason) →
        run.Crashes reason := by
  refine ⟨fun s level => LogLevel.parse_eq_ok_iff,
    fun f => ⟨rfl, fun f' => Failure.finding_eq_of_event_eq⟩,
    fun w => ⟨rfl, fun w' => Warning.event_injective⟩, .ofValidate fs dir,
    fun args arguments options hparse hcheck hdir => ?_, RunTrace.code_ofResult_eq_zero_iff _,
    fun outcome h => ⟨RunTrace.reports_ofValidate h, value_validate_of_ok h⟩,
    fun e h => ⟨RunTrace.stopsWith_ofValidate h, (validate_of_error h).1⟩,
    fun reason h => RunTrace.crashes_ofValidate h⟩
  refine ⟨Arguments.parse_logLevel_of_check hcheck, ?_⟩
  rw [runProgram_of_check hparse hcheck, hdir]
  exact RunTrace.ofRun_eq_written _ _

/-- A repository without rules and with one configuration. -/
def bareFiles : FileSystem where
  workDir := []
  entries :=
    [(["core-services"], .dir), (["core-services", "prow"], .dir),
      (["core-services", "prow", "02_config"], .dir),
      (["core-services", "prow", "02_config", "_plugins.yaml"], .file (some "\n")),
      (["ci-operator"], .dir), (["ci-operator", "config"], .dir),
      (["ci-operator", "config", "a.yaml"], .file (some "")), (["ci-operator", "jobs"], .dir)]

lemma validateRepo_bareFiles :
    (validateRepo bareFiles Glob.matcherFor "/").value =
      .ok ⟨[.uncovered "ci-operator/config/a.yaml"], []⟩ := by
  decide +kernel

/-- The level `FATAL` writes the failure of the bare repository and the error that counts it, and
the level `trace` ends alike. Where a link leads nowhere, the level `Panic` writes its path and the
reason. -/
theorem log_level_sample :
    runProgram bareFiles ["--release-repo-dir=/", "--log-level=FATAL"] =
        ⟨1, "", "ERROR Config file does not belong to any auto-updating config. " ++
          "source_file=ci-operator/config/a.yaml\n" ++
          "ERROR Found configurations that do not belong to the correct auto-updating config " ++
          "(1 failures)\n"⟩ ∧
      (runProgram bareFiles ["--release-repo-dir=/", "--log-level", "trace"]).exitCode = 1 ∧
      runProgram faultyFiles ["--release-repo-dir=/", "--log-level", "Panic"] =
        ⟨1, "", "ERROR Failed to walk directory: /ci-operator/config/b/c: IO error for " ++
          "operation on /ci-operator/config/b/c: No such file or directory (os error 2)\n"⟩ := by
  obtain ⟨-, -, -, run, hrun, -, hreports, -⟩ := log_level_only_filters bareFiles "/"
  obtain ⟨⟨hcode, hcrash, -, -, hbad⟩, -⟩ := hreports _ validateRepo_bareFiles
  obtain ⟨last, herrors, hline⟩ := hbad (by simp)
  obtain ⟨-, -, -, run', hrun', -, -, hstops, -⟩ := log_level_only_filters faultyFiles "/"
  obtain ⟨⟨hcode', hcrash', _, text, htold, -, -, herrors'⟩, -⟩ := hstops faultyLink
    (value_validateRepo_eq_error_iff.2 readFault_faultyFiles)
  cases htold
  have hfatal := hrun ["--release-repo-dir=/", "--log-level=FATAL"] ⟨some "/", "FATAL"⟩
    ⟨"/", .error⟩ (by decide +kernel) (by decide +kernel) rfl
  have htrace := hrun ["--release-repo-dir=/", "--log-level", "trace"] ⟨some "/", "trace"⟩
    ⟨"/", .trace⟩ (by decide +kernel) (by decide +kernel) rfl
  have hpanic := hrun' ["--release-repo-dir=/", "--log-level", "Panic"] ⟨some "/", "Panic"⟩
    ⟨"/", .error⟩ (by decide +kernel) (by decide +kernel) rfl
  refine ⟨?_, by rw [htrace.2]; exact hcode, ?_⟩
  · rw [hfatal.2, RunTrace.written_error, hcode, hcrash, herrors]
    simp only [List.map_append, List.map_cons, List.map_nil, hline]
    decide +kernel
  · rw [hpanic.2, RunTrace.written_error, hcode', hcrash', herrors']
    decide +kernel

end ShardCheck
