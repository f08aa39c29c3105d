-- The command line: what arguments ask for, and a run from the first check to the last line printed.
import SqlDump.ConvertFile

namespace SqlDump

/-- What a run is asked to do. -/
structure Invocation where
  input : String
  output : String
  config : Option String := none
  tablePrefix : Option String := none
  quiet : Bool := false
  verbosity : Nat := 0
deriving DecidableEq, Repr

/-- What arguments ask for; `misuse` where they make no sense. -/
inductive Request
  | convert (i : Invocation)
  | help
  | version
  | misuse
deriving DecidableEq, Repr

/-! ## Reading arguments -/

/-- The options that take a value. -/
inductive Valued
  | config
  | tablePrefix
deriving DecidableEq

/-- The arguments read so far: the paths, last one first, and the options. `waiting` is an option whose
value comes next, and `onlyPaths` says that no more options follow. -/
structure Arguments where
  paths : List String := []
  config : Option String := none
  tablePrefix : Option String := none
  quiet : Bool := false
  verbosity : Nat := 0
  waiting : Option Valued := none
  onlyPaths : Bool := false

namespace Arguments

/-- Gives an option its value. Each has one value at most, and a path is not empty. -/
def setValue (a : Arguments) (option : Valued) (value : String) : Except Request Arguments :=
  match option with
  | .config =>
    if a.config.isSome || value.isEmpty then .error .misuse
    else .ok { a with config := some value, waiting := none }
  | .tablePrefix =>
    if a.tablePrefix.isSome then .error .misuse
    else .ok { a with tablePrefix := some value, waiting := none }

/-- Sets a switch. Only verbosity may be raised more than once. -/
def setQuiet (a : Arguments) : Except Request Arguments :=
  if a.quiet then .error .misuse else .ok { a with quiet := true }

def raiseVerbosity (a : Arguments) : Arguments := { a with verbosity := a.verbosity + 1 }

/-- Adds a path: the input first, then the output. -/
def addPath (a : Arguments) (path : String) : Except Request Arguments :=
  if a.paths.length < 2 && !path.isEmpty then .ok { a with paths := path :: a.paths }
  else .error .misuse

/-- An option with a long name and perhaps a value behind an equals sign. -/
def readLong (a : Arguments) (name : String) (value : Option String) : Except Request Arguments :=
  match name, value with
  | "config", some v => a.setValue .config v
  | "config", none => .ok { a with waiting := some .config }
  | "table-prefix", some v => a.setValue .tablePrefix v
  | "table-prefix", none => .ok { a with waiting := some .tablePrefix }
  | "quiet", none => a.setQuiet
  | "verbose", none => .ok a.raiseVerbosity
  | "help", none => .error .help
  | "version", none => .error .version
  | _, _ => .error .misuse

/-- Options of one letter behind one hyphen. The value of an option is what follows it in the
argument, with or without an equals sign, or else the next argument. -/
def readShort (a : Arguments) : List Char → Except Request Arguments
  | [] => .ok a
  | 'q' :: rest => do
    let a ← a.setQuiet
    a.readShort rest
  | 'v' :: rest => a.raiseVerbosity.readShort rest
  | 'h' :: _ => .error .help
  | 'V' :: _ => .error .version
  | 'c' :: [] => .ok { a with waiting := some .config }
  | 'c' :: '=' :: value => a.setValue .config (String.ofList value)
  | 'c' :: value => a.setValue .config (String.ofList value)
  | _ => .error .misuse

/-- One argument on. Where a value is awaited, an argument that looks like an option is misuse; a
hyphen alone does not look like one. -/
def read (a : Arguments) (argument : String) : Except Request Arguments :=
  if a.onlyPaths then a.addPath argument
  else
    match argument.toList with
    | ['-', '-'] => if a.waiting.isSome then .error .misuse else .ok { a with onlyPaths := true }
    | '-' :: '-' :: long =>
      if a.waiting.isSome then .error .misuse
      else
        let name := long.takeWhile (· != '=')
        let value := match long.dropWhile (· != '=') with
          | [] => none
          | _ :: v => some (String.ofList v)
        a.readLong (String.ofList name) value
    | '-' :: c :: short =>
      if a.waiting.isSome then .error .misuse else a.readShort (c :: short)
    | _ =>
      match a.waiting with
      | some option => a.setValue option argument
      | none => a.addPath argument

end Arguments

/-- What arguments ask for. Help and version answer at once, before later arguments are looked at. -/
def Request.ofArguments (arguments : List String) : Request :=
  match arguments.foldlM Arguments.read {} with
  | .error r => r
  | .ok a =>
    match a.waiting, a.paths with
    | none, [output, input] =>
      .convert ⟨input, output, a.config, a.tablePrefix, a.quiet, a.verbosity⟩
    | _, _ => .misuse

/-! ## Running -/

/-- Why a run failed, with the work it failed in where that is told. -/
inductive Failure
  | plain (fault : Fault)
  | loading (path : String) (fault : Fault)
  | compiling (fault : Fault)
deriving DecidableEq, Repr

def Failure.fault : Failure → Fault
  | plain f => f
  | loading _ f => f
  | compiling f => f

/-- The work that failed, where it is told before the fault. -/
def Failure.context : Failure → Option String
  | plain _ => none
  | loading path _ => some ("Failed to load " ++ path)
  | compiling _ => some "Failed to compile rules"

/-- What a run leaves and shows. -/
structure Report where
  tree : FileTree
  printed : List String := []
  events : List Event := []
  failure : Option Failure := none

namespace Invocation

/-- The lowest level that is shown. -/
def level (i : Invocation) : Level :=
  if i.verbosity = 0 then .warn else if i.verbosity = 1 then .info else .debug

/-- The settings without what the command line says, and the log records of reading them. -/
def fileSettings (i : Invocation) (tree : FileTree) : Except Failure (Settings × List Event) :=
  match i.config with
  | none => .ok ({}, [])
  | some path => (Settings.load tree path).mapError (Failure.loading path)

/-- Puts the table prefix of the command line, where one is given, in the place of another one. -/
def overridePrefix (i : Invocation) (s : Settings) : Except Failure Settings :=
  match i.tablePrefix with
  | none => .ok s
  | some p => do
    (checkTablePrefix p.toList).mapError Failure.plain
    .ok { s with tablePrefix := p.toList }

/-- The log records of reading the settings, and the settings of the run or why there are none. A prefix that
is refused takes nothing off the log. -/
def settings (i : Invocation) (tree : FileTree) : List Event × Except Failure Settings :=
  match i.fileSettings tree with
  | .error failure => ([], .error failure)
  | .ok (s, events) => (events, i.overridePrefix s)

def progressLine (t : Tally) : String :=
  s!"Processed {t.read} lines, converted {t.changed} lines"

def completionLine (t : Tally) : String :=
  s!"Conversion complete: {t.read} lines processed, {t.changed} lines converted"

/-- Runs the conversion and shows all log records. -/
def runLoud (i : Invocation) (tree : FileTree) : Report :=
  match tree.fileAt? i.input with
  | none => { tree, failure := some (.plain (.inputNotFound i.input)) }
  | some _ =>
    match i.settings tree with
    | (loaded, .error failure) => { tree, events := loaded, failure := some failure }
    | (loaded, .ok s) =>
      match RuleSet.ofSettings s with
      | .error fault => { tree, events := loaded, failure := some (.compiling fault) }
      | .ok rules =>
        let count := rules.userRules.length
        let compiled :=
          if 0 < count then [Event.userRules count (s.rules.map (·.source))] else []
        let converter := Converter.withInterval { rules } s.progressInterval
        let done := converter.convertFile tree i.input i.output
        let reports := if i.quiet then [] else done.reports.map progressLine
        let events := loaded ++ compiled ++ done.events
        match done.result with
        | .error fault =>
          { tree := done.tree, printed := reports, events, failure := some (.plain fault) }
        | .ok t => { tree := done.tree, printed := reports ++ [completionLine t], events }

/-- Runs the conversion. -/
def run (i : Invocation) (tree : FileTree) : Report :=
  let report := i.runLoud tree
  { report with events := report.events.filter fun e => i.level.weight ≤ e.level.weight }

end Invocation

def usageLine : String := "Usage: mysql2pg [OPTIONS] <INPUT> <OUTPUT>"

def versionLine : String := "mysql2pg 0.1.0"

def helpLines : List String := [
  "Convert a MySQL dump into a PostgreSQL-compatible SQL script",
  "",
  usageLine,
  "",
  "Arguments:",
  "  <INPUT>   MySQL dump to read",
  "  <OUTPUT>  PostgreSQL script to write (overwritten if it exists)",
  "",
  "Options:",
  "  -c, --config <FILE>          Load settings and extra rules from this TOML file",
  "      --table-prefix <PREFIX>  Prefix for converted table names (overrides configuration)",
  "  -q, --quiet                  Do not print progress lines",
  "  -v, --verbose...             Increase log verbosity (-v, -vv)",
  "  -h, --help                   Print help",
  "  -V, --version                Print version"]

/-- The exit code, what is shown, and the tree afterwards. -/
def answer (arguments : List String) (tree : FileTree) : Nat × Report :=
  match Request.ofArguments arguments with
  | .misuse => (2, { tree })
  | .help => (0, { tree, printed := helpLines })
  | .version => (0, { tree, printed := [versionLine] })
  | .convert i =>
    let report := i.run tree
    (if report.failure.isSome then 1 else 0, report)

end SqlDump
