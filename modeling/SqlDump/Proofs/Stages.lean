-- How a run fails: seven stages one after another, each with its own cause. The first that fails is told, those
-- before it have left their records in the log, and nothing is touched before the last of them has passed.
import SqlDump.CommandLine
import SqlDump.Proofs.CompiledRules
import SqlDump.Proofs.Transfer

namespace SqlDump

/-! ## What arguments name -/

namespace Invocation

/-- The text of the file of settings, where one is named and can be read. -/
def configText? (i : Invocation) (tree : FileTree) : Option (List Char) :=
  i.config.bind fun path => (tree.fileAt? path).bind Utf8.decode?

/-- What the file of settings says, sound or not. -/
def config? (i : Invocation) (tree : FileTree) : Option Config :=
  (i.configText? tree).bind fun text => (Toml.parse? text).bind Config.ofToml?

/-- The settings of the command line, over those of a file, over the defaults. -/
def settingsWith (i : Invocation) (config : Config) : Settings where
  tablePrefix := (i.tablePrefix.map String.toList).getD (config.tablePrefix.getD defaultTablePrefix)
  progressInterval := config.progressInterval.getD defaultProgressInterval
  rules := config.rules.map fun rule => ⟨rule, i.config.getD ""⟩

/-- The settings a run works with. -/
def effective (i : Invocation) (tree : FileTree) : Settings := i.settingsWith ((i.config? tree).getD {})

/-- The log record of the file of settings. -/
def loaded (i : Invocation) (tree : FileTree) : List Event :=
  (i.config.map fun path =>
    Event.configLoaded path ((i.config? tree).getD {}).rules.length).toList

/-- The log record of the rules of the user, where there are any. -/
def counted (i : Invocation) (tree : FileTree) : List Event :=
  let rules := (i.effective tree).rules
  if 0 < rules.length then [Event.userRules rules.length (rules.map (·.source))] else []

end Invocation

/-! ## The stages -/

/-- What can fail in a run, before a line is converted. -/
inductive Stage
  | input
  | configText
  | configParse
  | configCheck
  | tablePrefix
  | userRules
  | output
deriving DecidableEq, Repr

namespace Stage

def inOrder : List Stage :=
  [input, configText, configParse, configCheck, tablePrefix, userRules, output]

/-- The stages of the file of settings. -/
def ofConfig : List Stage := [configText, configParse, configCheck]

def faultOf {α : Type} : Except Fault α → Option Fault
  | .ok _ => none
  | .error fault => some fault

/-- How a run fails at a stage, if it does, whatever becomes of the others. -/
def failure? (i : Invocation) (tree : FileTree) : Stage → Option Failure
  | input =>
    if (tree.fileAt? i.input).isSome then none else some (.plain (.inputNotFound i.input))
  | configText => i.config.bind fun path =>
    if (i.configText? tree).isSome then none else some (.loading path (.configUnreadable path))
  | configParse => i.config.bind fun path =>
    if (i.configText? tree).isSome ∧ i.config? tree = none then
      some (.loading path (.configMalformed path))
    else none
  | configCheck => i.config.bind fun path => (i.config? tree).bind fun config =>
    (faultOf config.check).map (.loading path)
  | tablePrefix => i.tablePrefix.bind fun p => (faultOf (checkTablePrefix p.toList)).map .plain
  | userRules => (faultOf (compileRules (i.effective tree).rules)).map .compiling
  | output =>
    if (tree.creationPlace? i.output).isSome then none else some (.plain (.outputNotCreated i.output))

/-- What a stage logs where it passes. -/
def records (i : Invocation) (tree : FileTree) : Stage → List Event
  | configCheck => i.loaded tree
  | userRules => i.counted tree
  | _ => []

/-- What stages log, one after another, until one of them fails. -/
def logged (i : Invocation) (tree : FileTree) : List Stage → List Event
  | [] => []
  | s :: rest =>
    if (failure? i tree s).isSome then [] else records i tree s ++ logged i tree rest

/-- The failure of the first stage that fails. -/
def firstFailure? (i : Invocation) (tree : FileTree) : Option Failure :=
  inOrder.findSome? (failure? i tree)

theorem firstFailure?_eq (i : Invocation) (tree : FileTree) :
    firstFailure? i tree =
      (input.failure? i tree).or
        (((ofConfig.findSome? (failure? i tree)).or (tablePrefix.failure? i tree)).or
          ((userRules.failure? i tree).or (output.failure? i tree))) := by
  have horder : inOrder = [input] ++ (ofConfig ++ [tablePrefix] ++ ([userRules] ++ [output])) := rfl
  unfold firstFailure?
  rw [horder]
  simp only [List.findSome?_append, List.findSome?_singleton]

theorem logged_append (i : Invocation) (tree : FileTree) (a b : List Stage) :
    logged i tree (a ++ b) =
      logged i tree a ++ if (a.findSome? (failure? i tree)).isSome then [] else logged i tree b := by
  induction a with
  | nil => simp [logged]
  | cons s a ih =>
    rw [List.cons_append, logged, logged, ih, List.findSome?_cons]
    rcases failure? i tree s with _ | failure <;> simp

/-- Only two stages leave a record: the file of settings and the rules of the user. -/
theorem logged_inOrder (i : Invocation) (tree : FileTree) :
    logged i tree inOrder =
      if ((input.failure? i tree).or (ofConfig.findSome? (failure? i tree))).isSome then []
      else i.loaded tree ++
        if ((tablePrefix.failure? i tree).or (userRules.failure? i tree)).isSome then []
        else i.counted tree := by
  have hconfig : logged i tree ofConfig =
      if (ofConfig.findSome? (failure? i tree)).isSome then [] else i.loaded tree := by
    unfold ofConfig
    rcases ht : configText.failure? i tree with _ | _ <;> rcases hp : configParse.failure? i tree with _ | _ <;>
      rcases hc : configCheck.failure? i tree with _ | _ <;> simp [logged, records, ht, hp, hc]
  have hrest : logged i tree [tablePrefix, userRules, output] =
      if ((tablePrefix.failure? i tree).or (userRules.failure? i tree)).isSome then []
      else i.counted tree := by
    rcases ht : tablePrefix.failure? i tree with _ | _ <;> rcases hu : userRules.failure? i tree with _ | _ <;>
      simp [logged, records, ht, hu]
  have horder : inOrder = input :: (ofConfig ++ [tablePrefix, userRules, output]) := rfl
  rw [horder, logged, logged_append, hconfig, hrest]
  rcases input.failure? i tree with _ | _ <;>
    rcases ofConfig.findSome? (failure? i tree) with _ | _ <;> simp [records]

end Stage

/-! ## The settings -/

namespace Invocation

variable {i : Invocation} {tree : FileTree}

theorem load_eq {path : String} (hc : i.config = some path) :
    (Settings.load tree path).mapError (Failure.loading path) =
      match Stage.ofConfig.findSome? (Stage.failure? i tree) with
      | some failure => .error failure
      | none => .ok (Settings.ofConfig ((i.config? tree).getD {}) path, i.loaded tree) := by
  have htext : i.configText? tree = (tree.fileAt? path).bind Utf8.decode? := by
    simp [configText?, hc]
  unfold Settings.load Config.parse
  rw [← htext]
  rcases ht : i.configText? tree with _ | text
  · simp [Stage.ofConfig, Stage.failure?, hc, ht, Except.mapError]
  have hconfig : i.config? tree = (Toml.parse? text).bind Config.ofToml? := by simp [config?, ht]
  dsimp only
  rw [← hconfig]
  rcases hp : i.config? tree with _ | config
  · simp [Stage.ofConfig, Stage.failure?, hc, ht, hp, Except.mapError, bind, Except.bind]
  dsimp only
  rcases hk : config.check with fault | _
  · simp [Stage.ofConfig, Stage.failure?, Stage.faultOf, hc, ht, hp, hk, Except.mapError, bind,
      Except.bind]
  · simp [Stage.ofConfig, Stage.failure?, Stage.faultOf, loaded, hc, ht, hp, hk, Except.mapError, bind,
      Except.bind]

theorem fileSettings_eq (i : Invocation) (tree : FileTree) :
    i.fileSettings tree =
      match Stage.ofConfig.findSome? (Stage.failure? i tree) with
      | some failure => .error failure
      | none => .ok (Settings.ofConfig ((i.config? tree).getD {}) (i.config.getD ""), i.loaded tree) := by
  unfold fileSettings
  rcases hc : i.config with _ | path
  · have hnone : Stage.ofConfig.findSome? (Stage.failure? i tree) = none := by
      simp [Stage.ofConfig, Stage.failure?, hc]
    have hconfig : i.config? tree = none := by simp [config?, configText?, hc]
    rw [hnone, hconfig]
    simp [Settings.ofConfig, loaded, hc]
  · exact load_eq hc

/-- The prefix of the command line takes the place of another one, where it is sound. -/
theorem overridePrefix_eq (i : Invocation) (tree : FileTree) (s : Settings) :
    i.overridePrefix s =
      match Stage.tablePrefix.failure? i tree with
      | some failure => .error failure
      | none => .ok { s with tablePrefix := (i.tablePrefix.map String.toList).getD s.tablePrefix } := by
  unfold overridePrefix
  rcases hp : i.tablePrefix with _ | p
  · simp [Stage.failure?, hp]
  · rcases hk : checkTablePrefix p.toList with fault | _ <;>
      simp [Stage.failure?, Stage.faultOf, hp, hk, Except.mapError, bind, Except.bind]

theorem settings_eq (i : Invocation) (tree : FileTree) :
    i.settings tree =
      match Stage.ofConfig.findSome? (Stage.failure? i tree), Stage.tablePrefix.failure? i tree with
      | some failure, _ => ([], .error failure)
      | none, some failure => (i.loaded tree, .error failure)
      | none, none => (i.loaded tree, .ok (i.effective tree)) := by
  unfold settings
  rw [fileSettings_eq]
  rcases Stage.ofConfig.findSome? (Stage.failure? i tree) with _ | failure
  · dsimp only
    rw [overridePrefix_eq i tree]
    rcases Stage.tablePrefix.failure? i tree with _ | failure
    · rfl
    · rfl
  · rfl

/-! ## A run -/

/-- What a run leaves and shows, all log records included, where every stage passes. -/
def passed (i : Invocation) (tree : FileTree) (rules : RuleSet) (place : Place) : Report :=
  let emptied := tree.put place (.file [])
  let bytes := (emptied.fileAt? i.input).getD []
  let s := i.effective tree
  let run := (Converter.withInterval { rules } s.progressInterval).convert [.bytes bytes]
  let t := rules.counts (inputLines bytes)
  { tree := emptied.put place (.file run.written)
    printed := (if i.quiet then [] else run.reports.map progressLine) ++ [completionLine t]
    events := Stage.logged i tree Stage.inOrder ++
      (.opened i.input i.output :: run.events ++ [Event.finished t]) }

/-- What becomes of a run by its stages: the first one that fails is told, over the records of those before it,
and the tree is left as it was, or all pass and the conversion is done. -/
def Settled (i : Invocation) (tree : FileTree) : Option Failure → Report → Prop
  | some failure, report =>
    report = { tree, events := Stage.logged i tree Stage.inOrder, failure := some failure }
  | none, report => ∃ bytes rules place, tree.fileAt? i.input = some bytes ∧
      RuleSet.ofSettings (i.effective tree) = .ok rules ∧
      tree.creationPlace? i.output = some place ∧ report = i.passed tree rules place

theorem settled_runLoud (i : Invocation) (tree : FileTree) :
    i.Settled tree (Stage.firstFailure? i tree) (i.runLoud tree) := by
  rw [Stage.firstFailure?_eq]
  unfold runLoud
  rcases hin : tree.fileAt? i.input with _ | bytes
  · have hfails : Stage.input.failure? i tree = some (.plain (.inputNotFound i.input)) := by
      simp [Stage.failure?, hin]
    rw [hfails, Option.some_or, Settled, Stage.logged_inOrder, hfails]
    rfl
  have hinput : Stage.input.failure? i tree = none := by simp [Stage.failure?, hin]
  rw [hinput, Option.none_or, settings_eq]
  have hlog := Stage.logged_inOrder i tree
  rw [hinput, Option.none_or] at hlog
  rcases hconfig : Stage.ofConfig.findSome? (Stage.failure? i tree) with _ | failure
  case some =>
    rw [hconfig] at hlog
    rw [Option.some_or, Option.some_or, Settled, hlog]
    rfl
  rw [hconfig] at hlog
  rw [Option.none_or]
  rcases hoption : Stage.tablePrefix.failure? i tree with _ | failure
  case some =>
    rw [hoption] at hlog
    rw [Option.some_or, Settled, hlog]
    simp
  rw [hoption, Option.none_or] at hlog
  rw [Option.none_or]
  dsimp only
  rcases hrules : RuleSet.ofSettings (i.effective tree) with fault | rules
  · have hfails : Stage.userRules.failure? i tree = some (.compiling fault) := by
      simp [Stage.failure?, Stage.faultOf, ofSettings_eq_error.mp hrules]
    rw [hfails] at hlog
    rw [hfails, Option.some_or, Settled, hlog]
    simp
  obtain ⟨user, huser, hmade⟩ := RuleSet.ofSettings_eq_ok.mp hrules
  have hpasses : Stage.userRules.failure? i tree = none := by
    simp [Stage.failure?, Stage.faultOf, huser]
  have hcount : (i.effective tree).rules.length = rules.userRules.length := by
    rw [hmade]
    exact (compileRules_eq_ok.mp huser).length_eq
  rw [hpasses] at hlog
  rw [hpasses, Option.none_or]
  dsimp only
  unfold Converter.convertFile
  rw [hin]
  rcases hplace : tree.creationPlace? i.output with _ | place
  · have hfails : Stage.output.failure? i tree = some (.plain (.outputNotCreated i.output)) := by
      simp [Stage.failure?, hplace]
    rw [hfails, Settled, hlog]
    simp [counted, hcount]
  · have houtput : Stage.output.failure? i tree = none := by simp [Stage.failure?, hplace]
    rw [houtput]
    dsimp only
    simp only [Converter.result_whole]
    exact ⟨bytes, rules, place, hin, hrules, hplace,
      by simp [passed, hlog, counted, hcount, Converter.withInterval]⟩

/-- A run that fails leaves everything as it was and prints nothing. Its log holds what the stages before the
failure have to say, as far as its level goes. -/
theorem run_of_failure {failure : Failure} (h : Stage.firstFailure? i tree = some failure) :
    i.run tree = {
      tree
      events := (Stage.logged i tree Stage.inOrder).filter fun e => i.level.weight ≤ e.level.weight
      failure := some failure } := by
  have hsettled := i.settled_runLoud tree
  rw [h] at hsettled
  rw [run, show i.runLoud tree = _ from hsettled]

-- A prefix is refused after the file of settings has been read.
example :
    let tree : FileTree := ⟨[(["in.sql"], .file []), (["r.toml"], .file [])], []⟩
    (Invocation.run ⟨"in.sql", "out.sql", some "r.toml", some "a-b", false, 1⟩ tree).events =
      [.configLoaded "r.toml" 0] := by decide +kernel

end Invocation

theorem Stage.mem_inOrder (s : Stage) : s ∈ inOrder := by cases s <;> decide

theorem Stage.firstFailure?_eq_none {i : Invocation} {tree : FileTree} :
    firstFailure? i tree = none ↔ ∀ s, failure? i tree s = none := by
  unfold firstFailure?
  rw [List.findSome?_eq_none_iff]
  exact ⟨fun h s => h s s.mem_inOrder, fun h s _ => h s⟩

theorem answer_convert {arguments : List String} {i : Invocation} (tree : FileTree)
    (h : Request.ofArguments arguments = .convert i) :
    answer arguments tree = (if (i.run tree).failure.isSome then 1 else 0, i.run tree) := by
  unfold answer
  rw [h]

/-- A run fails where a stage fails, and nowhere else. -/
theorem answer_code {arguments : List String} {i : Invocation} (tree : FileTree)
    (h : Request.ofArguments arguments = .convert i) :
    (answer arguments tree).1 = if (Stage.firstFailure? i tree).isSome then 1 else 0 := by
  rw [answer_convert tree h]
  rcases hfirst : Stage.firstFailure? i tree with _ | failure
  · have hsettled := i.settled_runLoud tree
    rw [hfirst] at hsettled
    obtain ⟨bytes, rules, place, -, -, -, hrun⟩ := hsettled
    simp [Invocation.run, hrun, Invocation.passed]
  · simp [Invocation.run_of_failure hfirst]

/-! ## The law -/

/-- A run fails where a stage fails. It has changed nothing then, and it tells the first stage that fails. -/
theorem a_failing_run_changes_nothing (arguments : List String) (tree : FileTree) :
    (∀ i, Request.ofArguments arguments = .convert i → (∃ s, (Stage.failure? i tree s).isSome) →
      (answer arguments tree).1 = 1) ∧
    ((answer arguments tree).1 = 1 →
      (answer arguments tree).2.tree = tree ∧
      ∃ i before stage after failure, Request.ofArguments arguments = .convert i ∧
        Stage.inOrder = before ++ stage :: after ∧
        (∀ s ∈ before, Stage.failure? i tree s = none) ∧
        stage.failure? i tree = some failure ∧
        (answer arguments tree).2.failure = some failure) := by
  refine ⟨fun i hi ⟨s, hs⟩ => ?_, fun h => ?_⟩
  · rw [answer_code tree hi, if_pos]
    rw [Option.isSome_iff_ne_none]
    intro hnone
    rw [Stage.firstFailure?_eq_none.mp hnone s] at hs
    cases hs
  · rcases hi : Request.ofArguments arguments with i | _ | _ | _
    case help | version | misuse => simp [answer, hi] at h
    rw [answer_code tree hi] at h
    obtain ⟨failure, hfirst⟩ := Option.ne_none_iff_exists'.mp (by simpa using h)
    rw [answer_convert tree hi, Invocation.run_of_failure hfirst]
    obtain ⟨before, stage, after, horder, hstage, hbefore⟩ := List.findSome?_eq_some_iff.mp hfirst
    exact ⟨rfl, i, before, stage, after, failure, rfl, horder, hbefore, hstage, rfl⟩

/-- Three stages fail: the file of settings, the prefix and the output. -/
theorem a_run_that_fails_at_three_stages :
    let arguments := ["dump.sql", "-c", "rules.toml", "--table-prefix=a-b", "out"]
    let tree : FileTree := ⟨[(["dump.sql"], .file []), (["out"], .folder),
      (["rules.toml"], .file (Utf8.encode "progress-interval = 0".toList))], []⟩
    let i : Invocation := ⟨"dump.sql", "out", some "rules.toml", some "a-b", false, 0⟩
    (Request.ofArguments arguments = .convert i ∧
      Stage.configCheck.failure? i tree = some (.loading "rules.toml" .zeroProgressInterval) ∧
      Stage.tablePrefix.failure? i tree = some (.plain (.badTablePrefix "a-b".toList)) ∧
      Stage.output.failure? i tree = some (.plain (.outputNotCreated "out")) ∧
      (answer arguments tree).1 = 1) ∧
    (answer arguments tree).2.tree = tree ∧
    (answer arguments tree).2.failure = some (.loading "rules.toml" .zeroProgressInterval) := by
  intro arguments tree i
  have harguments : Request.ofArguments arguments = .convert i := by decide +kernel
  have hcheck : Stage.configCheck.failure? i tree =
      some (.loading "rules.toml" .zeroProgressInterval) := by decide +kernel
  have hoption : Stage.tablePrefix.failure? i tree = some (.plain (.badTablePrefix "a-b".toList)) := by
    decide +kernel
  have houtput : Stage.output.failure? i tree = some (.plain (.outputNotCreated "out")) := by
    decide +kernel
  have hfirst : Stage.firstFailure? i tree = some (.loading "rules.toml" .zeroProgressInterval) := by
    decide +kernel
  obtain ⟨hfails, hlaw⟩ := a_failing_run_changes_nothing arguments tree
  have hcode := hfails i harguments ⟨.configCheck, by rw [hcheck]; rfl⟩
  obtain ⟨htree, j, before, stage, after, failure, hj, horder, hbefore, hstage, hfailure⟩ := hlaw hcode
  obtain rfl : i = j := Request.convert.inj (harguments.symm.trans hj)
  have htold : Stage.firstFailure? i tree = some failure :=
    List.findSome?_eq_some_iff.mpr ⟨before, stage, after, horder, hstage, hbefore⟩
  rw [hfailure, ← htold, hfirst]
  exact ⟨⟨harguments, hcheck, hoption, houtput, hcode⟩, htree, rfl⟩

end SqlDump
