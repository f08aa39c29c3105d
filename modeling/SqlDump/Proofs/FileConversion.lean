-- Conversions from file to file. They touch the output and nothing else, and not even that where there is no
-- input to read or no way to make the output. An output that is its own input ends as the bare prologue.
import SqlDump.ConvertFile
import SqlDump.Proofs.Places
import SqlDump.Proofs.Transfer

namespace SqlDump

/-! ## Where no file can be made -/

namespace FileTree

/-- What the last step of a path is taken from. -/
def parent? (t : FileTree) (path : String) : Option Node :=
  (steps? path).bind fun steps => (t.walk (t.start path) steps.dropLast).bind t.at?

/-- The last step of a path is a name that a file can have: it leads to a new place, and is not too long. -/
def NamesFile (path : String) : Prop :=
  ∃ name, (steps? path).bind List.getLast? = some name ∧
    name ≠ "." ∧ name ≠ ".." ∧ name.utf8ByteSize ≤ 255

variable {t : FileTree} {path name : String} {steps : List String} {folder : Place}

/-- At the end of a path stands what has its name in the folder before it. -/
theorem node?_in_folder (hsteps : steps? path = some steps) (hname : steps.getLast? = some name)
    (hwalk : t.walk (t.start path) steps.dropLast = some folder) (hfolder : t.at? folder = some .folder)
    (hdot : name ≠ ".") (hup : name ≠ "..") : t.node? path = t.at? (folder ++ [name]) := by
  obtain ⟨init, rfl⟩ := List.getLast?_eq_some_iff.mp hname
  rw [List.dropLast_concat] at hwalk
  unfold node? locate
  rw [hsteps, Option.bind_some, walk_append, hwalk, Option.bind_some, walk, stepFrom_name hdot hup]
  rcases hthere : t.at? (folder ++ [name]) with _ | node
  · simp
  · simp [hthere, hfolder, walk]

/-- No file can be made exactly where the last step is no name, where it is not taken from a folder, and
where a folder stands. -/
theorem creationPlace?_eq_none : t.creationPlace? path = none ↔
    ¬ NamesFile path ∨ t.parent? path ≠ some .folder ∨ t.node? path = some .folder := by
  unfold creationPlace? parent? NamesFile
  rcases hsteps : steps? path with _ | steps
  · simp
  rcases hname : steps.getLast? with _ | name
  · simp [hname]
  rcases hwalk : t.walk (t.start path) steps.dropLast with _ | folder
  · simp [hname, hwalk]
  by_cases hfolder : t.at? folder = some .folder
  · by_cases hfits : name ≠ "." ∧ name ≠ ".." ∧ name.utf8ByteSize ≤ 255
    · rw [node?_in_folder hsteps hname hwalk hfolder hfits.1 hfits.2.1]
      simp [hname, hwalk, hfolder, hfits]
    · have hno : ¬ (name ≠ "." ∧ name ≠ ".." ∧ name.utf8ByteSize ≤ 255 ∧
          t.at? (folder ++ [name]) ≠ some .folder) := fun h => hfits ⟨h.1, h.2.1, h.2.2.1⟩
      simp only [hname, hwalk, hfolder, Option.bind_eq_bind, Option.bind_some, true_and, if_neg hno]
      simp [hfits]
  · simp [hname, hwalk, hfolder]

theorem isSome_creationPlace? : (t.creationPlace? path).isSome ↔
    NamesFile path ∧ t.parent? path = some .folder ∧ t.node? path ≠ some .folder := by
  rw [Option.isSome_iff_ne_none, ne_eq, creationPlace?_eq_none, not_or, not_or, not_not, not_not]

end FileTree

/-! ## The ways a conversion goes -/

namespace Converter

variable {c : Converter} {tree : FileTree} {input output : String} {place : Place} {bytes : List UInt8}

theorem convertFile_of_no_input (h : tree.fileAt? input = none) :
    c.convertFile tree input output = ⟨tree, [], [], .error (.inputNotFound input)⟩ := by
  unfold convertFile
  rw [h]

theorem convertFile_of_no_output (hin : tree.fileAt? input = some bytes)
    (h : tree.creationPlace? output = none) :
    c.convertFile tree input output = ⟨tree, [], [], .error (.outputNotCreated output)⟩ := by
  unfold convertFile
  rw [hin, h]

/-- The tree after a conversion that reads some bytes: the output stands at its place, and all else as
before. -/
theorem placed_convertFile (hin : tree.fileAt? input = some bytes)
    (hplace : tree.creationPlace? output = some place) :
    let read := if tree.locate input = some place then [] else bytes
    let done := c.convertFile tree input output
    done.result = .ok (c.rules.counts (inputLines read)) ∧
    done.reports = c.dueOver {} (inputLines read) ∧
    FileTree.Placed tree done.tree place (opening ++ c.rules.script (inputLines read)) := by
  intro read done
  have hemptied := FileTree.Placed.put [] (FileTree.free_of_creationPlace? hplace)
  have hread : (tree.put place (.file [])).fileAt? input = some read :=
    FileTree.fileAt?_emptied hin (FileTree.free_of_creationPlace? hplace)
  simp only [done, convertFile, hin, hplace, hread, Option.getD_some]
  rw [result_whole, reports_whole, written_whole]
  exact ⟨rfl, rfl, hemptied.put_again _⟩

/-! ## The law -/

/-- Without an input nothing is touched, and neither where no file can be made at the output, as in a folder's
place or without a folder for it. Else the conversion succeeds and leaves its script at the output, whatever
stood there: that of the input as it was, however it arrives in memory, or the bare prologue where both paths
lead to one file. All other places, and all that other paths lead to, stay as they were. -/
theorem a_conversion_of_files_touches_its_output_alone (rules : RuleSet) (interval : Nat) (tree : FileTree)
    (input output : String) :
    let c := ({ rules } : Converter).withInterval interval
    let done := c.convertFile tree input output
    ((∀ bytes, tree.node? input ≠ some (.file bytes)) →
      done.result = .error (.inputNotFound input) ∧ done.reports = [] ∧ done.tree = tree) ∧
    (∀ bytes, tree.node? input = some (.file bytes) →
      (¬ FileTree.NamesFile output ∨ tree.parent? output ≠ some .folder ∨
          tree.node? output = some .folder →
        done.result = .error (.outputNotCreated output) ∧ done.reports = [] ∧ done.tree = tree) ∧
      (FileTree.NamesFile output → tree.parent? output = some .folder →
          tree.node? output ≠ some .folder →
        ∃ place, tree.creationPlace? output = some place ∧
          (tree.locate input ≠ some place → ∀ arrivals, delivered arrivals = bytes →
            fails arrivals = false →
            let made := c.convert arrivals
            done.result = made.result ∧ (∃ t, made.result = .ok t) ∧ done.reports = made.reports ∧
              done.tree.node? output = some (.file made.written)) ∧
          (tree.locate input = some place → done.result = .ok {} ∧ done.reports = [] ∧
            done.tree.node? output = some (.file (Utf8.encode prologue))) ∧
          ∀ q, q ≠ place → done.tree.at? q = tree.at? q)) ∧
    ∀ path, done.tree.locate path ≠ done.tree.locate output →
      done.tree.node? path = tree.node? path := by
  intro c done
  have hno_input : ∀ {path}, tree.fileAt? path = none ↔ ∀ bytes, tree.node? path ≠ some (.file bytes) := by
    intro path
    unfold FileTree.fileAt?
    rcases tree.node? path with _ | _ | _ <;> simp
  refine ⟨fun hnone => ?_, fun bytes hfile => ⟨fun hbad => ?_, fun hnames hparent hopen => ?_⟩, ?_⟩
  · have hdone : done = _ := convertFile_of_no_input (hno_input.mpr hnone)
    rw [hdone]
    exact ⟨rfl, rfl, rfl⟩
  · have hdone : done = _ := convertFile_of_no_output (FileTree.fileAt?_of_node? hfile)
      (FileTree.creationPlace?_eq_none.mpr hbad)
    rw [hdone]
    exact ⟨rfl, rfl, rfl⟩
  · have hin := FileTree.fileAt?_of_node? hfile
    obtain ⟨place, hplace⟩ := Option.isSome_iff_exists.mp
      (FileTree.isSome_creationPlace?.mpr ⟨hnames, hparent, hopen⟩)
    obtain ⟨hresult, hreports, hplaced⟩ := placed_convertFile (c := c) hin hplace
    have hwritten := hplaced.node?_of_locate (hplaced.locate_creationPlace hplace)
    refine ⟨place, hplace, fun hne arrivals hall hgood => ?_, fun hsame => ?_, hplaced.spared⟩
    · rw [if_neg hne] at hresult hreports hwritten
      have hread : readable arrivals = bytes := by
        unfold readable
        rw [hgood, hall]
        rfl
      have hmade : (c.convert arrivals).result = .ok (c.rules.counts (inputLines bytes)) := by
        rw [result_convert, hread]
        simp [exceeds, hgood]
      refine ⟨hresult.trans hmade.symm, ⟨_, hmade⟩, ?_, ?_⟩
      · rw [reports_convert, hread]
        simpa [exceeds, roomAfter, before_none] using hreports
      · rw [written_convert, hread]
        exact hwritten
    · rw [if_pos hsame] at hresult hreports hwritten
      have hbare : opening ++ c.rules.script (inputLines []) = Utf8.encode prologue := by
        simp [RuleSet.script, inputLines, stretches, opening]
      rw [hbare] at hwritten
      exact ⟨hresult, hreports, hwritten⟩
  · intro path hpath
    rcases hin : tree.fileAt? input with _ | bytes
    · have hdone : done = _ := convertFile_of_no_input hin
      rw [hdone]
    rcases hplace : tree.creationPlace? output with _ | place
    · have hdone : done = _ := convertFile_of_no_output hin hplace
      rw [hdone]
    obtain ⟨-, -, hplaced⟩ := placed_convertFile (c := c) hin hplace
    refine hplaced.node?_eq ?_
    rw [← hplaced.locate_creationPlace hplace]
    exact hpath

/-- A dump is converted over a longer script, and over itself by paths that go up, around and from the root. -/
theorem a_dump_over_an_old_script_and_over_itself :
    let rules : RuleSet := ⟨builtinSkipRules, [{ substitutions := [backquotes] }], []⟩
    let c := ({ rules } : Converter).withInterval 0
    let dump := Utf8.encode "-- x\n\x60a\x60\n".toList
    let tree : FileTree := ⟨[(["tmp", "work", "in.sql"], .file dump),
      (["tmp", "work", "out.sql"], .file (opening ++ opening)), (["tmp", "work", "old"], .folder)],
      ["tmp", "work"]⟩
    let done := c.convertFile tree "in.sql" "out.sql"
    let lost := c.convertFile tree "in.sql" "new/out.sql"
    (done.result = .ok ⟨2, 1, 1⟩ ∧ done.reports = [⟨1, 0, 1⟩, ⟨2, 1, 1⟩] ∧
      done.tree.node? "out.sql" = some (.file (opening ++ Utf8.encode "a\n".toList)) ∧
      done.tree.at? ["tmp", "work", "in.sql"] = some (.file dump)) ∧
    (∀ output ∈ ["in.sql", "../work/in.sql", "/../tmp/work/old/../in.sql"],
      let itself := c.convertFile tree "/tmp/work/in.sql" output
      itself.result = .ok {} ∧ itself.reports = [] ∧ itself.tree.node? output = some (.file opening) ∧
        itself.tree.at? ["tmp", "work", "out.sql"] = some (.file (opening ++ opening))) ∧
    lost.result = .error (.outputNotCreated "new/out.sql") ∧ lost.tree = tree := by
  intro rules c dump tree done lost
  have hin : tree.node? "in.sql" = some (.file dump) := by decide +kernel
  have hthere : tree.locate "in.sql" = some ["tmp", "work", "in.sql"] := by decide +kernel
  refine ⟨?_, fun output houtput => ?_, ?_⟩
  · have hout : tree.creationPlace? "out.sql" = some ["tmp", "work", "out.sql"] := by decide +kernel
    obtain ⟨hnames, hparent, hopen⟩ := FileTree.isSome_creationPlace?.mp (Option.isSome_of_eq_some hout)
    obtain ⟨place, hplace, hdone, -, hspared⟩ := ((a_conversion_of_files_touches_its_output_alone rules 0 tree
      "in.sql" "out.sql").2.1 dump hin).2 hnames hparent hopen
    obtain rfl : ["tmp", "work", "out.sql"] = place := Option.some.inj (hout.symm.trans hplace)
    obtain ⟨hresult, -, hreports, hwritten⟩ := hdone (by rw [hthere]; decide) [.bytes dump]
      (by simp [delivered]) rfl
    rw [result_whole] at hresult
    rw [reports_whole] at hreports
    rw [written_whole] at hwritten
    have hlines : c.rules.counts (inputLines dump) = ⟨2, 1, 1⟩ ∧
        c.dueOver {} (inputLines dump) = [⟨1, 0, 1⟩, ⟨2, 1, 1⟩] ∧
        c.rules.script (inputLines dump) = Utf8.encode "a\n".toList := by decide +kernel
    obtain ⟨hcounts, hdue, hscript⟩ := hlines
    rw [hcounts] at hresult
    rw [hdue] at hreports
    rw [hscript] at hwritten
    exact ⟨hresult, hreports, hwritten, (hspared ["tmp", "work", "in.sql"] (by decide)).trans
      (by decide +kernel)⟩
  · have hsteps : FileTree.steps? "in.sql" = some ["in.sql"] := by decide +kernel
    have hroot : tree.locate "/tmp/work/in.sql" = tree.locate "in.sql" :=
      FileTree.locate_from_root (by decide) hsteps (by decide) (by decide +kernel) (by decide)
    have hdump : tree.node? "/tmp/work/in.sql" = some (.file dump) := by
      rw [← hin, FileTree.node?, FileTree.node?, hroot]
    have hself : ∀ path ∈ ["in.sql", "../work/in.sql", "/../tmp/work/old/../in.sql"],
        tree.creationPlace? path = some ["tmp", "work", "in.sql"] := by decide +kernel
    obtain ⟨hnames, hparent, hopen⟩ :=
      FileTree.isSome_creationPlace?.mp (Option.isSome_of_eq_some (hself output houtput))
    obtain ⟨place, hplace, -, hover, hspared⟩ := ((a_conversion_of_files_touches_its_output_alone rules 0 tree
      "/tmp/work/in.sql" output).2.1 dump hdump).2 hnames hparent hopen
    obtain rfl : ["tmp", "work", "in.sql"] = place :=
      Option.some.inj ((hself output houtput).symm.trans hplace)
    obtain ⟨hresult, hreports, hwritten⟩ := hover (hroot.trans hthere)
    exact ⟨hresult, hreports, hwritten, (hspared ["tmp", "work", "out.sql"] (by decide)).trans
      (by decide +kernel)⟩
  · have hparent : tree.parent? "new/out.sql" ≠ some .folder := by decide +kernel
    obtain ⟨hresult, -, htree⟩ := ((a_conversion_of_files_touches_its_output_alone rules 0 tree
      "in.sql" "new/out.sql").2.1 dump hin).1 (Or.inr (Or.inl hparent))
    exact ⟨hresult, htree⟩

end Converter

end SqlDump
