import LoxTokens.Command.Run
import LoxTokens.Proofs.Script

/-!
# What a log filter can do

A run under a filter is the run that logs everything, with the hidden records taken out of its
second stream. Nothing else depends on the filter: a scan does not know it, and neither does the
reporter. So two runs over the same input differ at most in log lines, whatever the command line and
the settings ask for, and a filter from debug level on leaves of a trace what is not a token.
-/

namespace LoxTokens

namespace Log.Filter

/-- The filter shows the records from a level on, and no others. -/
def ShowsFrom (filter : Filter) (level : Level) : Prop :=
  ∀ record, filter.shows record = decide (level.rank ≤ record.level.rank)

theorem showsFrom_of_isPrefix {target : Text} (htarget : target.isPrefixOf origin = true)
    (level : Level) : ShowsFrom ⟨[⟨target, none, some level⟩]⟩ level := by
  intro record
  simp [shows, decisive?, Directive.concerns, Directive.shows, htarget]

/-- A level by its name, alone or for the records of a scan. -/
theorem showsFrom_ofSetting (debug : Bool) (level : Level) {front : String}
    (hfront : front ∈ ["", "loxscan=", "loxscan::lexer="]) :
    (ofSetting debug (some (front.toList ++ level.word.toList))).ShowsFrom level := by
  have hread : ∃ target : Text, target.isPrefixOf origin = true ∧
      read? (front.toList ++ level.word.toList) = some ⟨[⟨target, none, some level⟩]⟩ := by
    simp only [List.mem_cons, List.not_mem_nil, or_false] at hfront
    rcases hfront with rfl | rfl | rfl
    · exact ⟨[], rfl, by cases level <;> decide +kernel⟩
    · exact ⟨"loxscan".toList, by decide, by cases level <;> decide +kernel⟩
    · exact ⟨"loxscan::lexer".toList, by decide, by cases level <;> decide +kernel⟩
  obtain ⟨target, htarget, hread⟩ := hread
  rw [ofSetting, Option.bind_some, hread]
  exact showsFrom_of_isPrefix htarget level

theorem showsFrom_ofSetting_none (debug : Bool) :
    (ofSetting debug none).ShowsFrom (if debug then .trace else .warn) :=
  fun record => shows_atLeast _ record

end Log.Filter

namespace Notice

/-- The level of a log line; nothing else has one. -/
def level? : Notice → Option Log.Level
  | log record => some record.level
  | _ => none

def passes (filter : Log.Filter) : Notice → Bool
  | log record => filter.shows record
  | _ => true

variable {filter : Log.Filter} {n : Notice}

theorem ofEmission?_eq_filter (filter : Log.Filter) (e : Emission) :
    ofEmission? filter e = (ofEmission? (.atLeast .trace) e).filter (passes filter) := by
  cases e with
  | report d => rfl
  | log record =>
      have hshown : (Log.Filter.atLeast .trace).shows record = true := by
        simp [Log.Level.rank]
      rw [ofEmission?, ofEmission?, hshown, if_pos rfl, Option.filter, passes]

theorem passes_of_level?_eq_none (hn : n.level? = none) : n.passes filter = true := by
  cases n with
  | log record => cases hn
  | _ => rfl

theorem passes_trace (hfilter : filter.ShowsFrom .trace) (n : Notice) : n.passes filter = true := by
  cases n with
  | log record => simp [passes, hfilter record, Log.Level.rank]
  | _ => rfl

theorem passes_debug (hfilter : filter.ShowsFrom .debug) (n : Notice) :
    n.passes filter = decide (n.level? ∈ [none, some .debug]) := by
  cases n with
  | log record =>
      rw [passes, hfilter record]
      cases record <;> rfl
  | _ => rfl

end Notice

namespace Outcome

/-- What is left of an outcome under a filter. -/
def seen (filter : Log.Filter) (outcome : Outcome) : Outcome :=
  { outcome with notices := outcome.notices.filter (Notice.passes filter) }

variable {filter : Log.Filter}

theorem seen_after (stdout : Text) (notices : List Notice) (outcome : Outcome) :
    (outcome.after stdout notices).seen filter =
      (outcome.seen filter).after stdout (notices.filter (Notice.passes filter)) := by
  simp [seen, after]

theorem filter_level?_notices_seen (filter : Log.Filter) (outcome : Outcome) :
    (outcome.seen filter).notices.filter (·.level? = none) =
      outcome.notices.filter (·.level? = none) := by
  rw [seen, List.filter_filter]
  apply List.filter_congr
  intro n _
  by_cases hn : n.level? = none
  · simp [hn, Notice.passes_of_level?_eq_none hn]
  · simp [hn]

theorem seen_trace (hfilter : filter.ShowsFrom .trace) (outcome : Outcome) :
    outcome.seen filter = outcome := by
  have hall : outcome.notices.filter (Notice.passes filter) = outcome.notices := by
    apply List.filter_eq_self.mpr
    intro n _
    exact Notice.passes_trace hfilter n
  rw [seen, hall]

theorem notices_seen_debug (hfilter : filter.ShowsFrom .debug) (outcome : Outcome) :
    (outcome.seen filter).notices = outcome.notices.filter (·.level? ∈ [none, some .debug]) := by
  apply List.filter_congr
  intro n _
  exact Notice.passes_debug hfilter n

end Outcome

/-! ### Runs under a filter -/

namespace Run

variable (filter : Log.Filter)

theorem notices_eq_filter (source : Text) :
    notices filter source = (notices (.atLeast .trace) source).filter (Notice.passes filter) := by
  rw [notices, notices, List.filter_filterMap]
  congr 1
  funext e
  exact Notice.ofEmission?_eq_filter filter e

theorem ofText_eq_seen (source : Text) :
    ofText filter source = (ofText (.atLeast .trace) source).seen filter := by
  rw [ofText, notices_eq_filter]
  rfl

theorem script_eq_seen (bytes : Bytes) :
    script filter bytes = (script (.atLeast .trace) bytes).seen filter := by
  rcases script_cases bytes with ⟨source, -, hscript⟩ | ⟨fault, -, hscript⟩
  · rw [hscript, hscript]
    exact ofText_eq_seen filter source
  · rw [hscript, hscript]
    rfl

theorem promptLines_eq_seen (reporter : Reporter) (lines : List Bytes) :
    promptLines filter reporter lines =
      (promptLines (.atLeast .trace) reporter lines).seen filter := by
  induction lines generalizing reporter with
  | nil => rfl
  | cons line lines ih =>
      rw [promptLines, promptLines, answerLine, answerLine]
      cases Utf8.decode line with
      | error fault => rfl
      | ok source =>
          dsimp only
          rw [Outcome.seen_after, ih, notices_eq_filter]

end Run

namespace Command

variable {environment environment' : Environment} {arguments arguments' : List Text}
  {folder : Folder} {input : Bytes} {flag flag' : Bool} {filename : Option Text}
  {filter : Log.Filter}

/-- What a command does that has a file name, or none, and shows every record. -/
def fullRun (folder : Folder) (input : Bytes) : Option Text → Outcome
  | some path => runFile (.atLeast .trace) (folder.read input path)
  | none => Run.prompt (.atLeast .trace) input

theorem run_eq_seen (hplan : plan environment arguments = .ok ⟨filename, filter⟩) :
    run environment folder input arguments = (fullRun folder input filename).seen filter := by
  rw [run, hplan]
  cases filename with
  | none => exact Run.promptLines_eq_seen filter _ _
  | some path =>
      dsimp only [fullRun]
      cases folder.read input path with
      | ok bytes => exact Run.script_eq_seen filter bytes
      | error fault => rfl

end Command

/-! ### Faults and their announcements -/

/-- Every lexical error is logged directly before it is reported, and there are no others. -/
inductive Announced : List Notice → Prop where
  | nil : Announced []
  | fault {line : UInt32} {what : Fault} {rest : List Notice} (hrest : Announced rest) :
      Announced
        (.log (.lexicalError line what) :: .diagnostic (.ofFault line what) :: rest)
  | token {t : Token} {rest : List Notice} (hrest : Announced rest) :
      Announced (.log (.token t) :: rest)
  | finished {tokens errors : Nat} {lines : UInt32} {rest : List Notice} (hrest : Announced rest) :
      Announced (.log (.finished tokens errors lines) :: rest)
  | failure {reason : Failure} {rest : List Notice} (hrest : Announced rest) :
      Announced (.failure reason :: rest)

namespace Announced

variable {ns others : List Notice} {filter : Log.Filter}

theorem append (hns : Announced ns) (hothers : Announced others) : Announced (ns ++ others) := by
  induction hns with
  | nil => exact hothers
  | fault _ ih => exact .fault ih
  | token _ ih => exact .token ih
  | finished _ ih => exact .finished ih
  | failure _ ih => exact .failure ih

theorem flatMap {α : Type} {f : α → List Notice} {items : List α}
    (hitems : ∀ a ∈ items, Announced (f a)) : Announced (items.flatMap f) := by
  induction items with
  | nil => exact .nil
  | cons a items ih =>
      rw [List.forall_mem_cons] at hitems
      exact hitems.1.append (ih hitems.2)

/-- Hiding records takes no announcement away as long as lexical errors are shown. -/
theorem filter_passes (hfilter : ∀ line what, filter.shows (.lexicalError line what) = true)
    (hns : Announced ns) : Announced (ns.filter (Notice.passes filter)) := by
  induction hns with
  | nil => exact .nil
  | @fault line what rest _ ih =>
      have hlogged : (Notice.log (.lexicalError line what)).passes filter = true :=
        hfilter line what
      rw [List.filter_cons_of_pos hlogged, List.filter_cons_of_pos rfl]
      exact .fault ih
  | @token t rest _ ih =>
      rw [List.filter_cons]
      split
      · exact .token ih
      · exact ih
  | @finished tokens errors lines rest _ ih =>
      rw [List.filter_cons]
      split
      · exact .finished ih
      · exact ih
  | failure _ ih =>
      rw [List.filter_cons_of_pos rfl]
      exact .failure ih

end Announced

namespace Run

theorem announced_notices (source : Text) : Announced (notices (.atLeast .trace) source) := by
  have hplace : ∀ p : Placed,
      Announced (p.emissions.filterMap (Notice.ofEmission? (.atLeast .trace))) := by
    rintro ⟨piece, line⟩
    cases piece with
    | mark m => exact .token .nil
    | string value => exact .token .nil
    | stray c => exact .fault .nil
    | unclosed tail => exact .fault .nil
    | comment _ => exact .nil
    | blank _ => exact .nil
  rw [notices, Scan.emissions, List.filterMap_append, List.filterMap_flatMap]
  apply Announced.append
  · apply Announced.flatMap
    exact fun p _ => hplace p
  · exact .finished .nil

theorem announced_script (bytes : Bytes) :
    Announced (script (.atLeast .trace) bytes).notices := by
  rcases script_cases bytes with ⟨source, -, hscript⟩ | ⟨fault, -, hscript⟩
  · rw [hscript]
    exact announced_notices source
  · rw [hscript]
    exact .failure .nil

theorem announced_promptLines (reporter : Reporter) (lines : List Bytes) :
    Announced (promptLines (.atLeast .trace) reporter lines).notices := by
  induction lines generalizing reporter with
  | nil => exact .nil
  | cons line lines ih =>
      rw [promptLines, answerLine]
      cases Utf8.decode line with
      | error fault => exact .failure .nil
      | ok source => exact (announced_notices source).append (ih _)

end Run

namespace Command

variable {environment environment' : Environment} {arguments arguments' : List Text}
  {flag flag' : Bool} {filename : Option Text}

theorem announced_fullRun (folder : Folder) (input : Bytes) (filename : Option Text) :
    Announced (fullRun folder input filename).notices := by
  cases filename with
  | none => exact Run.announced_promptLines _ _
  | some path =>
      change Announced (runFile (.atLeast .trace) (folder.read input path)).notices
      cases folder.read input path with
      | ok bytes => exact Run.announced_script bytes
      | error fault => exact .failure .nil

/-! ### Settings -/

/-- A command line that is understood, with a debug setting that can be: it names a file or none,
and asks for debug mode or does not. -/
structure Understood (environment : Environment) (arguments : List Text) (flag : Bool)
    (filename : Option Text) : Prop where
  reads : Wishes.nothing.readAll arguments = .ok ⟨flag, filename⟩
  setting : environment.debug ∈ [none, some "true".toList, some "false".toList]

/-- The filter that a command line and its settings come to. -/
def filterOf (environment : Environment) (flag : Bool) : Log.Filter :=
  .ofSetting (flag || environment.debug = some "true".toList) environment.logFilter

theorem Understood.plan_eq (hline : Understood environment arguments flag filename) :
    plan environment arguments = .ok ⟨filename, filterOf environment flag⟩ := by
  have hdebug : Wishes.debugMode ⟨flag, filename⟩ environment.debug =
      .ok (flag || environment.debug = some "true".toList) := by
    have hsetting := hline.setting
    simp only [List.mem_cons, List.not_mem_nil, or_false] at hsetting
    cases flag with
    | true => rfl
    | false => rcases hsetting with h | h | h <;> rw [h] <;> rfl
  unfold plan
  rw [hline.reads]
  change (Wishes.debugMode ⟨flag, filename⟩ environment.debug).bind _ = _
  rw [hdebug]
  rfl

/-- Whatever is logged, a command prints the same and ends the same, and the second stream shows the
same diagnostics and the same reason of failure between the log lines. From debug level on, the log
is the trace without its tokens. -/
theorem run_whatever_is_logged (folder : Folder) (input : Bytes)
    (hline : Understood environment arguments flag filename)
    (hline' : Understood environment' arguments' flag' filename) :
    (run environment folder input arguments).stdout =
        (run environment' folder input arguments').stdout ∧
      (run environment folder input arguments).status =
        (run environment' folder input arguments').status ∧
      (run environment folder input arguments).notices.filter (·.level? = none) =
        (run environment' folder input arguments').notices.filter (·.level? = none) ∧
      ((filterOf environment flag).ShowsFrom .debug →
        (filterOf environment' flag').ShowsFrom .trace →
          (run environment folder input arguments).notices =
            (run environment' folder input arguments').notices.filter
              (·.level? ∈ [none, some .debug])) ∧
      ((filterOf environment flag).ShowsFrom .debug ∨ (filterOf environment flag).ShowsFrom .trace →
        Announced (run environment folder input arguments).notices) := by
  rw [run_eq_seen hline.plan_eq, run_eq_seen hline'.plan_eq]
  refine ⟨rfl, rfl, ?_, ?_, ?_⟩
  · rw [Outcome.filter_level?_notices_seen, Outcome.filter_level?_notices_seen]
  · intro hdebug htrace
    rw [Outcome.seen_trace htrace, Outcome.notices_seen_debug hdebug]
  · intro hlevel
    apply (announced_fullRun folder input filename).filter_passes
    intro line what
    rcases hlevel with hlevel | hlevel
    all_goals
      rw [hlevel]
      rfl

/-- A string of two lines and a stray character, once with the log from debug level on and once in
debug mode, which lists the string in the log as well. -/
theorem run_whatever_is_logged_of_two_settings :
    (run ⟨none, some "debug".toList⟩ [⟨['a'], .file (Utf8.encode "\"x\n\"@".toList)⟩] []
        [['a']]).notices =
      [.log (.lexicalError 2 (.unexpectedCharacter '@')),
        .diagnostic ⟨2, "Unexpected character.".toList⟩, .log (.finished 2 1 2)] ∧
    (run ⟨some "false".toList, none⟩ [⟨['a'], .file (Utf8.encode "\"x\n\"@".toList)⟩] []
        [['a'], ['-', 'd']]).notices =
      .log (.token (.ofString ['x', '\n'] 1)) ::
        (run ⟨none, some "debug".toList⟩ [⟨['a'], .file (Utf8.encode "\"x\n\"@".toList)⟩] []
          [['a']]).notices ∧
    (run ⟨some "false".toList, none⟩ [⟨['a'], .file (Utf8.encode "\"x\n\"@".toList)⟩] []
        [['a'], ['-', 'd']]).stdout = "STRING \"x\n\" x\n\nEOF  null\n".toList := by
  have hdebug : Understood ⟨none, some "debug".toList⟩ [['a']] false (some ['a']) :=
    ⟨rfl, by decide⟩
  have htrace : Understood ⟨some "false".toList, none⟩ [['a'], ['-', 'd']] true (some ['a']) :=
    ⟨rfl, by decide⟩
  obtain ⟨hstdout, -, -, hnotices, -⟩ := run_whatever_is_logged
    [⟨['a'], .file (Utf8.encode "\"x\n\"@".toList)⟩] [] hdebug htrace
  have hfiltered := hnotices
    (Log.Filter.showsFrom_ofSetting false .debug (List.mem_cons_self (a := "")))
    (Log.Filter.showsFrom_ofSetting_none true)
  refine ⟨?_, ?_, ?_⟩
  · rw [hfiltered]
    decide +kernel
  · rw [hfiltered]
    decide +kernel
  · rw [← hstdout]
    decide +kernel

end Command

end LoxTokens
