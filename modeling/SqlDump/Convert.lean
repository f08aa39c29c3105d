-- Conversions: the prologue, then each line in turn through the rules, with counts, progress reports and
-- log records. Reading and writing can fail at any byte.
import SqlDump.Rule.Set
import SqlDump.Text.Lines

namespace SqlDump

/-- What stands at the top of every script. -/
def prologue : List Char :=
  ("-- Converted PEQ Database for PostgreSQL\n" ++
    "-- Original MySQL dump converted to PostgreSQL syntax\n" ++
    "\n" ++
    "SET client_encoding = 'UTF8';\n" ++
    "SET standard_conforming_strings = on;\n" ++
    "\n").toList

/-- What a writer takes: as many bytes as there is room, without bound where none is given. The last
flush may fail. -/
structure Sink where
  room : Option Nat := none
  flushFails : Bool := false
deriving DecidableEq, Repr

/-- What a conversion has done: the bytes written, the progress reports, the log records, and the
counts or the fault at the end. -/
structure Conversion where
  written : List UInt8
  reports : List Tally
  events : List Event
  result : Except Fault Tally

/-- The state between two lines. Lists have their last member first; `stuck` says that a write has
failed. -/
structure Progress where
  tally : Tally := {}
  written : List UInt8 := []
  room : Option Nat
  stuck : Bool := false
  reports : List Tally := []
  events : List Event := []

namespace Progress

/-- Writes bytes as far as there is room; more bytes than that are a failure. -/
def write (p : Progress) (bytes : List UInt8) : Progress :=
  match p.room with
  | none => { p with written := bytes.reverseAux p.written }
  | some n =>
    if bytes.length ≤ n then
      { p with written := bytes.reverseAux p.written, room := some (n - bytes.length) }
    else { p with written := (bytes.take n).reverseAux p.written, room := some 0, stuck := true }

/-- Writes more bytes unless a write has failed. -/
def writeMore (p : Progress) (bytes : List UInt8) : Progress :=
  if p.stuck then p else p.write bytes

end Progress

/-- Runs lines through rules and reports every so many lines. -/
structure Converter where
  rules : RuleSet
  interval : Nat := defaultProgressInterval

namespace Converter

/-- Reports every `interval` lines; zero counts as one. -/
def withInterval (c : Converter) (interval : Nat) : Converter :=
  { c with interval := max interval 1 }

/-- What one line adds to the counts. -/
def count (t : Tally) (line : Line) : Outcome → Tally
  | .elided _ => { t with read := t.read + 1, elided := t.elided + 1 }
  | .emitted text =>
    { t with read := t.read + 1, changed := if text = line.content then t.changed else t.changed + 1 }

/-- Handles one line: it is logged or written, then reported where a report is due. After a failed
write nothing more happens. -/
def handle (c : Converter) (p : Progress) (line : Line) : Progress :=
  if p.stuck then p
  else
    let outcome := c.rules.convertLine line.content
    let tally := count p.tally line outcome
    let p := { p with tally, events := (outcome.events line.content) ++ p.events }
    let p := match outcome with
      | .elided _ => p
      | .emitted text =>
        let p := p.write (Utf8.encode text)
        if line.terminated then p.writeMore [lineFeed] else p
    if !p.stuck && tally.read % c.interval == 0 then { p with reports := tally :: p.reports } else p

/-- Handles lines in turn, the prologue first. -/
def run (c : Converter) (lines : List Line) (room : Option Nat) : Progress :=
  let start := Progress.write { room } (Utf8.encode prologue)
  lines.foldl c.handle start

/-- Converts what arrives. -/
def convert (c : Converter) (arrivals : List Arrival) (sink : Sink := {}) : Conversion :=
  let stream := LineStream.ofArrivals arrivals
  let p := c.run stream.lines sink.room
  { written := p.written.reverse
    reports := p.reports.reverse
    events := p.events.reverse
    result :=
      if p.stuck || stream.broken || sink.flushFails then .error .transferFailed else .ok p.tally }

end Converter

end SqlDump
