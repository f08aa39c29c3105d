-- Conversions from file to file. The input is looked for before the output is touched, and the output is
-- emptied before anything is read.
import SqlDump.Config
import SqlDump.Convert
import SqlDump.FileTree

namespace SqlDump

/-- What a conversion from file to file has done: the tree it leaves, the progress reports, the log
records, and the counts or the fault at the end. -/
structure FileConversion where
  tree : FileTree
  reports : List Tally
  events : List Event
  result : Except Fault Tally

/-- Converts the file at one path into the file at another. -/
def Converter.convertFile (c : Converter) (tree : FileTree) (input output : String) :
    FileConversion :=
  match tree.fileAt? input with
  | none => ⟨tree, [], [], .error (.inputNotFound input)⟩
  | some _ =>
    match tree.creationPlace? output with
    | none => ⟨tree, [], [], .error (.outputNotCreated output)⟩
    | some place =>
      let emptied := tree.put place (.file [])
      let run := c.convert [.bytes ((emptied.fileAt? input).getD [])]
      let closing := match run.result with
        | .ok tally => [Event.finished tally]
        | .error _ => []
      { tree := emptied.put place (.file run.written)
        reports := run.reports
        events := .opened input output :: run.events ++ closing
        result := run.result }

/-- Reads, parses and checks the file of settings at a path, with the log records of it. -/
def Settings.load (tree : FileTree) (path : String) : Except Fault (Settings × List Event) :=
  match (tree.fileAt? path).bind Utf8.decode? with
  | none => .error (.configUnreadable path)
  | some text => do
    let c ← Config.parse text path
    .ok (Settings.ofConfig c path, [.configLoaded path c.rules.length])

end SqlDump
