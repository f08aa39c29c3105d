-- What is told to the log while the program runs.
import SqlDump.Tally
import SqlDump.Text.Terminal
import SqlDump.Unicode.Query

namespace SqlDump

/-- Why a line was dropped: by a rule that always applies, or by a rule of the user. -/
inductive Elision
  | builtin (rule : String)
  | user (rule : String)
deriving DecidableEq, Repr

inductive Level
  | debug
  | info
  | warn
deriving DecidableEq, Repr

/-- The weight of a level: records below the level asked for are not shown. -/
def Level.weight : Level → Nat
  | debug => 0
  | info => 1
  | warn => 2

def Level.name : Level → String
  | debug => "DEBUG"
  | info => "INFO"
  | warn => "WARN"

inductive Event
  | elided (cause : Elision) (line : List Char)
  | configLoaded (path : String) (rules : Nat)
  | userRules (count : Nat) (sources : List String)
  | opened (input output : String)
  | finished (tally : Tally)
deriving DecidableEq, Repr

/-! ## Quoted paths -/

/-- Whether a character is shown as it is in a quoted path: it takes room of its own and is no blank
but the space. The two half-width sound marks take room although they extend the letter before. -/
def isShown (c : Char) : Bool :=
  if c.toNat < 128 then ' ' ≤ c && c.toNat != 127
  else
    c == '\uff9e' || c == '\uff9f' || Unicode.recentVisible.contains c ||
      (!(["cc", "cf", "cn", "co", "zl", "zp", "zs"].any fun name =>
          (Unicode.tableNamed Unicode.categoryRuns name).contains c) &&
        !(["graphemeextend", "defaultignorablecodepoint"].any fun name =>
          (Unicode.tableNamed Unicode.propertyRuns name).contains c))

/-- A character as it stands between quotes. -/
def quotedChar (c : Char) : List Char :=
  match c with
  | '\x00' => ['\\', '0']
  | '\t' => ['\\', 't']
  | '\n' => ['\\', 'n']
  | '\r' => ['\\', 'r']
  | '"' => ['\\', '"']
  | '\'' => ['\\', '\'']
  | '\\' => ['\\', '\\']
  | _ =>
    if isShown c then [c]
    else ['\\', 'u', '\x7b'] ++ Nat.toDigits 16 c.toNat ++ ['\x7d']

def quoted (path : String) : String :=
  "\"" ++ String.ofList (path.toList.flatMap quotedChar) ++ "\""

/-! ## Records -/

def Event.level : Event → Level
  | elided .. => .debug
  | _ => .info

/-- The part of the program that the record comes from. -/
def Event.target : Event → String
  | elided .. => "mysql2pg::rules"
  | configLoaded .. => "mysql2pg::config::parser"
  | userRules .. => "mysql2pg"
  | opened .. => "mysql2pg::convert"
  | finished .. => "mysql2pg::convert"

def Event.message : Event → String
  | elided (.builtin rule) line => "elided by " ++ rule ++ ": " ++ String.ofList line
  | elided (.user rule) line => "elided by user rule " ++ rule ++ ": " ++ String.ofList line
  | configLoaded path rules => s!"loaded {path} ({rules} user rules)"
  | userRules count sources =>
    s!"{count} user rules from [" ++ ", ".intercalate (sources.map quoted) ++ "]"
  | opened input output => "converting " ++ input ++ " -> " ++ output
  | finished t => s!"{t.read} lines read, {t.changed} changed, {t.elided} elided"

/-- The record as one text. -/
def Event.render (e : Event) : String := e.level.name ++ " " ++ e.target ++ ": " ++ e.message

/-- The record as it is written to a log: the lines behind the first are moved in, and what is meant
for a terminal is left out. -/
def Event.logged (e : Event) : String :=
  let movedIn := e.render.toList.flatMap fun c => if c = '\n' then "\n    ".toList else [c]
  String.ofList (Terminal.shown movedIn)

end SqlDump
