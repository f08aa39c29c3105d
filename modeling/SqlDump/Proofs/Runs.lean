-- A run that succeeds is the conversion of its input under the settings that count, and nothing else. One
-- switch decides what is printed beside it, the other one what is logged, and that is all they do.
import SqlDump.Proofs.Decoding
import SqlDump.Proofs.Places
import SqlDump.Proofs.Stages

namespace SqlDump

/-! ## The file of settings -/

namespace Invocation

variable {i : Invocation} {tree : FileTree}

/-- What the file of settings says that an invocation names; nothing where it names none. -/
def Says (i : Invocation) (tree : FileTree) (config : Config) : Prop :=
  match i.config with
  | none => config = {}
  | some path => ∃ bytes text rows, tree.fileAt? path = some bytes ∧ Utf8.decode? bytes = some text ∧
      Toml.parse? text = some rows ∧ Config.ofToml? rows = some config

/-- A file says one thing. -/
theorem Says.eq {config : Config} (h : i.Says tree config) : (i.config? tree).getD {} = config := by
  unfold Says at h
  rcases hc : i.config with _ | path
  · rw [hc] at h
    simp [config?, configText?, hc, show config = {} from h]
  · rw [hc] at h
    obtain ⟨bytes, text, rows, hbytes, hdecode, hrows, hsaid⟩ := h
    simp [config?, configText?, hc, hbytes, hdecode, hrows, hsaid]

/-- Where all stages pass, a file of settings that is named is read and sound. -/
theorem config_of_passes {path : String} (h : ∀ s, Stage.failure? i tree s = none)
    (hc : i.config = some path) :
    ∃ text config, i.configText? tree = some text ∧ i.config? tree = some config ∧
      config.check = .ok () := by
  have htext : i.configText? tree ≠ none := by
    have hpass := h .configText
    simpa [Stage.failure?, hc, Option.isSome_iff_ne_none] using hpass
  obtain ⟨text, htext⟩ := Option.ne_none_iff_exists'.mp htext
  have hconfig : i.config? tree ≠ none := by
    have hpass := h .configParse
    simpa [Stage.failure?, hc, htext] using hpass
  obtain ⟨config, hconfig⟩ := Option.ne_none_iff_exists'.mp hconfig
  refine ⟨text, config, htext, hconfig, ?_⟩
  have hpass := h .configCheck
  rcases hk : config.check with fault | _
  · simp [Stage.failure?, Stage.faultOf, hc, hconfig, hk] at hpass
  · rfl

theorem says_of_passes (h : ∀ s, Stage.failure? i tree s = none) :
    i.Says tree ((i.config? tree).getD {}) := by
  unfold Says
  rcases hc : i.config with _ | path
  · simp [config?, configText?, hc]
  · obtain ⟨text, config, htext, hconfig, -⟩ := config_of_passes h hc
    have hread := htext
    rw [configText?, hc, Option.bind_some] at hread
    obtain ⟨bytes, hbytes, hdecode⟩ := Option.bind_eq_some_iff.mp hread
    have hparse := hconfig
    rw [config?, htext, Option.bind_some] at hparse
    obtain ⟨rows, hrows, hsaid⟩ := Option.bind_eq_some_iff.mp hparse
    rw [hconfig]
    exact ⟨bytes, text, rows, hbytes, hdecode, hrows, hsaid⟩

/-- Where all stages pass reports are made every so many lines, and not every zero. -/
theorem interval_of_passes (h : ∀ s, Stage.failure? i tree s = none) :
    0 < (i.effective tree).progressInterval := by
  unfold effective settingsWith
  rcases hc : i.config with _ | path
  · simp [config?, configText?, hc, defaultProgressInterval]
  · obtain ⟨-, config, -, hconfig, hcheck⟩ := config_of_passes h hc
    rcases hn : config.progressInterval with _ | n
    · simp [hconfig, hn, defaultProgressInterval]
    · obtain ⟨-, hzero, -⟩ := Config.check_eq_ok.mp hcheck
      have hne : n ≠ 0 := fun hz => hzero (hn.trans (congrArg some hz))
      simpa [hconfig, hn] using Nat.pos_of_ne_zero hne

/-! ## The switches -/

/-- A quiet run prints the last line alone, and is the same otherwise. -/
theorem runLoud_quiet (tree : FileTree) (hq : i.quiet = false) :
    ({ i with quiet := true }.runLoud tree).tree = (i.runLoud tree).tree ∧
    ({ i with quiet := true }.runLoud tree).events = (i.runLoud tree).events ∧
    ({ i with quiet := true }.runLoud tree).failure = (i.runLoud tree).failure ∧
    ∃ reports : List Tally, (i.runLoud tree).printed =
      reports.map progressLine ++ ({ i with quiet := true }.runLoud tree).printed := by
  have hsettings : { i with quiet := true }.settings tree = i.settings tree := rfl
  unfold runLoud
  rw [hsettings]
  dsimp only
  rcases tree.fileAt? i.input with _ | bytes
  · exact ⟨rfl, rfl, rfl, [], rfl⟩
  rcases i.settings tree with ⟨loaded, failure | s⟩
  · exact ⟨rfl, rfl, rfl, [], rfl⟩
  dsimp only
  rcases RuleSet.ofSettings s with fault | rules
  · exact ⟨rfl, rfl, rfl, [], rfl⟩
  dsimp only
  generalize Converter.convertFile _ tree i.input i.output = done
  rw [hq]
  rcases hr : done.result with fault | t
  · exact ⟨rfl, rfl, rfl, done.reports, (List.append_nil _).symm⟩
  · exact ⟨rfl, rfl, rfl, done.reports, rfl⟩

theorem run_quiet (tree : FileTree) (hq : i.quiet = false) :
    ({ i with quiet := true }.run tree).tree = (i.run tree).tree ∧
    ({ i with quiet := true }.run tree).events = (i.run tree).events ∧
    ({ i with quiet := true }.run tree).failure = (i.run tree).failure ∧
    ∃ reports : List Tally, (i.run tree).printed =
      reports.map progressLine ++ ({ i with quiet := true }.run tree).printed := by
  obtain ⟨htree, hevents, hfailure, hprinted⟩ := runLoud_quiet tree hq
  exact ⟨htree, congrArg (List.filter fun e : Event => i.level.weight ≤ e.level.weight) hevents,
    hfailure, hprinted⟩

theorem runLoud_verbosity (n : Nat) : { i with verbosity := n }.runLoud tree = i.runLoud tree := rfl

/-- Raising the verbosity lowers the level. -/
theorem level_le {n : Nat} (h : i.verbosity ≤ n) :
    { i with verbosity := n }.level.weight ≤ i.level.weight := by
  unfold level
  dsimp only
  repeat' split
  all_goals first | decide | omega

/-- The log of a run is part of the log of a more verbose one: the records at or above its own level. -/
theorem events_verbosity {n : Nat} (h : i.verbosity ≤ n) :
    (i.run tree).events = ({ i with verbosity := n }.run tree).events.filter fun e =>
      i.level.weight ≤ e.level.weight := by
  unfold run
  rw [runLoud_verbosity]
  dsimp only
  rw [List.filter_filter]
  refine List.filter_congr fun e _ => ?_
  have hle := level_le h
  rw [← Bool.decide_and]
  exact decide_eq_decide.mpr ⟨fun he => ⟨he, hle.trans he⟩, And.left⟩

/-! ## A run that succeeds -/

/-- Where input and output are different files, the output holds the conversion of the input as it was. All
other places stay as they were, and no path but the one to the output leads to anything new. -/
theorem passed_of_ne (rules : RuleSet) {place : Place} {bytes : List UInt8}
    (hin : tree.fileAt? i.input = some bytes) (hplace : tree.creationPlace? i.output = some place)
    (hne : tree.locate i.input ≠ some place) :
    let made := (Converter.withInterval { rules } (i.effective tree).progressInterval).convert [.bytes bytes]
    let report := i.passed tree rules place
    report.tree.fileAt? i.output = some made.written ∧
    report.printed = (if i.quiet then [] else made.reports.map progressLine) ++
      [completionLine (rules.counts (inputLines bytes))] ∧
    (∀ q, q ≠ place → report.tree.at? q = tree.at? q) ∧
    ∀ path, report.tree.locate path ≠ report.tree.locate i.output →
      report.tree.node? path = tree.node? path := by
  have hfree := FileTree.free_of_creationPlace? hplace
  have hread : (tree.put place (.file [])).fileAt? i.input = some bytes := by
    rw [FileTree.fileAt?_emptied hin hfree, if_neg hne]
  intro made report
  have hmade : report.tree = (tree.put place (.file [])).put place (.file made.written) := by
    simp [report, passed, made, hread]
  have hdone := (FileTree.Placed.put [] hfree).put_again made.written
  rw [hmade]
  have hlocate := hdone.locate_creationPlace hplace
  refine ⟨FileTree.fileAt?_of_node? (hdone.node?_of_locate hlocate), ?_, hdone.spared, fun path hpath => ?_⟩
  · simp [report, passed, made, hread]
  · rw [hlocate] at hpath
    exact hdone.node?_eq hpath

end Invocation

/-! ## The law -/

/-- A run that succeeds, with an output that is not its input, leaves the conversion of the input at the
output and nothing else, under the settings of the command line, over those of the file it names. It prints
a line for each report and one for the counts. The two switches change nothing but what is printed, or
logged. -/
theorem a_run_is_the_conversion_of_its_input (arguments : List String) (tree : FileTree)
    (i : Invocation) (hi : Request.ofArguments arguments = .convert i) :
    let run := answer arguments tree
    (run.1 = 0 → tree.locate i.input ≠ tree.creationPlace? i.output →
      ∃ config rules bytes t, i.Says tree config ∧
        RuleSet.ofSettings (i.settingsWith config) = .ok rules ∧
        tree.fileAt? i.input = some bytes ∧
        let made := (⟨rules, (i.settingsWith config).progressInterval⟩ : Converter).convert [.bytes bytes]
        made.result = .ok t ∧
        run.2.tree.fileAt? i.output = some made.written ∧
        run.2.printed =
          (if i.quiet then [] else made.reports.map Invocation.progressLine) ++
            [Invocation.completionLine t] ∧
        (∀ q, tree.creationPlace? i.output ≠ some q → run.2.tree.at? q = tree.at? q) ∧
        ∀ path, run.2.tree.locate path ≠ run.2.tree.locate i.output →
          run.2.tree.node? path = tree.node? path) ∧
    (∀ quieter, i.quiet = false → Request.ofArguments quieter = .convert { i with quiet := true } →
      let other := answer quieter tree
      other.1 = run.1 ∧ other.2.tree = run.2.tree ∧ other.2.failure = run.2.failure ∧
        other.2.events = run.2.events ∧
        ∃ reports : List Tally,
          run.2.printed = reports.map Invocation.progressLine ++ other.2.printed) ∧
    ∀ louder n, i.verbosity ≤ n → Request.ofArguments louder = .convert { i with verbosity := n } →
      let other := answer louder tree
      other.1 = run.1 ∧ other.2.tree = run.2.tree ∧ other.2.failure = run.2.failure ∧
        other.2.printed = run.2.printed ∧
        run.2.events = other.2.events.filter fun e => i.level.weight ≤ e.level.weight := by
  intro run
  have hrun : run = (if (i.run tree).failure.isSome then 1 else 0, i.run tree) :=
    answer_convert tree hi
  refine ⟨fun hcode hne => ?_, fun quieter hq hquieter => ?_, fun louder n hn hlouder => ?_⟩
  · have hfirst : Stage.firstFailure? i tree = none := by
      have hall := answer_code tree hi
      rw [show (answer arguments tree).1 = 0 from hcode] at hall
      simpa using hall
    have hpasses := Stage.firstFailure?_eq_none.mp hfirst
    have hsettled := i.settled_runLoud tree
    rw [hfirst] at hsettled
    obtain ⟨bytes, rules, place, hin, hrules, hplace, hloud⟩ := hsettled
    rw [hplace] at hne
    have hinterval : Converter.withInterval { rules } (i.effective tree).progressInterval =
        ⟨rules, (i.effective tree).progressInterval⟩ := by
      unfold Converter.withInterval
      rw [Nat.max_eq_left (Invocation.interval_of_passes hpasses)]
    have hpassed := Invocation.passed_of_ne rules hin hplace hne
    rw [hinterval, ← hloud] at hpassed
    obtain ⟨hwritten, hprinted, hspared, hpaths⟩ := hpassed
    rw [hrun]
    exact ⟨_, rules, bytes, _, Invocation.says_of_passes hpasses, hrules, hin,
      Converter.result_whole _ _, hwritten, hprinted,
      fun q hq => hspared q fun he => hq (hplace.trans (congrArg some he.symm)), hpaths⟩
  · obtain ⟨htree, hevents, hfailure, hprinted⟩ := Invocation.run_quiet tree hq
    intro other
    have hother : other = _ := answer_convert tree hquieter
    rw [hother, hrun, hfailure]
    exact ⟨rfl, htree, rfl, hevents, hprinted⟩
  · intro other
    have hother : other = _ := answer_convert tree hlouder
    rw [hother, hrun]
    exact ⟨rfl, rfl, rfl, rfl, Invocation.events_verbosity hn⟩

/-- A run with settings from a file, once more without its reports, and once more with a longer log. -/
theorem a_run_with_a_file_of_settings :
    let dump := Utf8.encode "-- x\n\x60x\x60;\n".toList
    let rules := Utf8.encode "progress-interval = 2\n[[rules]]\nrewrite = \"s/;/./\"\n".toList
    let tree : FileTree := ⟨[(["home", "dump.sql"], .file dump), (["rules.toml"], .file rules)], ["home"]⟩
    let arguments := ["-v", "-c", "/rules.toml", "dump.sql", "out.sql"]
    let quieter := ["-qv", "--config=/rules.toml", "dump.sql", "out.sql"]
    let louder := ["dump.sql", "-vc/rules.toml", "out.sql", "-v"]
    let i : Invocation := ⟨"dump.sql", "out.sql", some "/rules.toml", none, false, 1⟩
    (Request.ofArguments arguments = .convert i ∧
      Request.ofArguments quieter = .convert { i with quiet := true } ∧
      Request.ofArguments louder = .convert { i with verbosity := 2 } ∧
      (answer arguments tree).1 = 0 ∧ tree.locate i.input ≠ tree.creationPlace? i.output) ∧
    (answer arguments tree).2.tree.fileAt? "out.sql" =
      some (Utf8.encode (prologue ++ "x.\n".toList)) ∧
    (answer arguments tree).2.printed = ["Processed 2 lines, converted 1 lines",
      "Conversion complete: 2 lines processed, 1 lines converted"] ∧
    (answer quieter tree).2.tree = (answer arguments tree).2.tree ∧
    (answer arguments tree).2.events =
      (answer louder tree).2.events.filter fun e => Level.info.weight ≤ e.level.weight := by
  intro dump rules tree arguments quieter louder i
  have harguments : Request.ofArguments arguments = .convert i := by decide +kernel
  have hquieter : Request.ofArguments quieter = .convert { i with quiet := true } := by decide +kernel
  have hlouder : Request.ofArguments louder = .convert { i with verbosity := 2 } := by decide +kernel
  have hcode : (answer arguments tree).1 = 0 := by
    have hpasses : Stage.firstFailure? i tree = none := by decide +kernel
    rw [answer_code tree harguments, hpasses]
    rfl
  have hne : tree.locate i.input ≠ tree.creationPlace? i.output := by decide +kernel
  obtain ⟨hdone, hquiet, hloud⟩ := a_run_is_the_conversion_of_its_input arguments tree i harguments
  obtain ⟨config, made, bytes, t, hsaid, hmade, hbytes, hresult, hwritten, hprinted, -⟩ := hdone hcode hne
  have hconfig : config = ⟨none, some 2, [⟨none, some "s/;/./".toList⟩]⟩ := by
    rw [← hsaid.eq]
    decide +kernel
  have hread : tree.fileAt? i.input = some dump := by decide +kernel
  obtain rfl := Option.some.inj (hread.symm.trans hbytes)
  rw [hconfig] at hmade hresult hwritten hprinted
  -- The two lines go through the rules once, and all else follows from what becomes of them.
  have hlines : (RuleSet.ofSettings (i.settingsWith ⟨none, some 2, [⟨none, some "s/;/./".toList⟩]⟩)
      ).toOption.any (fun rules =>
        rules.convertLine "-- x".toList = .elided (.builtin "line-comment") ∧
          rules.convertLine "\x60x\x60;".toList = .emitted "x.".toList) = true := by decide +kernel
  rw [hmade] at hlines
  obtain ⟨hcomment, hchanged⟩ := of_decide_eq_true hlines
  have hinput : inputLines dump = [⟨"-- x".toList, true⟩, ⟨"\x60x\x60;".toList, true⟩] := by
    decide +kernel
  have hscript : made.script (inputLines dump) = Utf8.encode "x.\n".toList := by
    have hnil : made.script [] = [] := rfl
    rw [hinput, RuleSet.script_cons, RuleSet.script_cons, RuleSet.contribution, hcomment,
      RuleSet.contribution, hchanged, hnil]
    decide +kernel
  have hfirst : made.counts [⟨"-- x".toList, true⟩] = ⟨1, 0, 1⟩ := by
    simp only [RuleSet.counts, RuleSet.changes, RuleSet.drops, hcomment, List.countP_cons]
    rfl
  have hsecond : made.counts [⟨"\x60x\x60;".toList, true⟩] = ⟨1, 1, 0⟩ := by
    simp only [RuleSet.counts, RuleSet.changes, RuleSet.drops, hchanged, List.countP_cons,
      List.countP_nil]
    decide +kernel
  have hreports : (⟨made, 2⟩ : Converter).dueOver {}
      [⟨"-- x".toList, true⟩, ⟨"\x60x\x60;".toList, true⟩] = [⟨2, 1, 1⟩] := by
    rw [Converter.dueOver, Converter.dueOver, Converter.dueOver, hfirst, hsecond]
    simp [Converter.due, Tally.add_def]
  have hinterval :
      (i.settingsWith ⟨none, some 2, [⟨none, some "s/;/./".toList⟩]⟩).progressInterval = 2 := rfl
  rw [Converter.result_whole, hinput, RuleSet.counts_cons, hfirst, hsecond] at hresult
  obtain rfl := Except.ok.inj hresult
  rw [Converter.written_whole, hscript] at hwritten
  rw [Converter.reports_whole, hinput, hinterval, hreports] at hprinted
  refine ⟨⟨harguments, hquieter, hlouder, hcode, hne⟩, ?_, ?_, (hquiet quieter rfl hquieter).2.1,
    (hloud louder 2 (by decide) hlouder).2.2.2.2⟩
  · rw [Utf8.encode_append]
    exact hwritten
  · rw [hprinted]
    decide +kernel

end SqlDump
