-- Lines of a byte stream. Only a line feed ends a line; a carriage return directly before it belongs to
-- the end, any other one to the line. What a reader delivers at a time makes no difference.
import SqlDump.Text.Utf8

namespace SqlDump

/-- One line: its text, and whether a line feed ended it. -/
structure Line where
  content : List Char
  terminated : Bool
deriving DecidableEq, Repr

/-- What a reader delivers next: bytes, an interruption after which reading goes on, or a failure. An empty
chunk is no delivery and leaves no trace: a reader without bytes left is at its end, which is where the list
ends. -/
inductive Arrival
  | bytes (chunk : List UInt8)
  | interruption
  | failure

def lineFeed : UInt8 := 10

def carriageReturn : UInt8 := 13

namespace Line

/-- The line whose bytes, last one first, a line feed ended. -/
def ended (reversed : List UInt8) : Line :=
  let reversed := match reversed with
    | b :: rest => if b = carriageReturn then rest else reversed
    | [] => reversed
  ⟨Utf8.decode reversed.reverse, true⟩

/-- The line whose bytes, last one first, the end of the input ended. -/
def unended (reversed : List UInt8) : Line := ⟨Utf8.decode reversed.reverse, false⟩

end Line

/-- What has been read: the lines, last one first, and the bytes of the line begun, last one
first. -/
structure LineReader where
  done : List Line := []
  begun : List UInt8 := []

namespace LineReader

def feed (r : LineReader) (b : UInt8) : LineReader :=
  if b = lineFeed then ⟨Line.ended r.begun :: r.done, []⟩ else ⟨r.done, b :: r.begun⟩

/-- The lines when the input ends here. -/
def finish (r : LineReader) : List Line :=
  if r.begun.isEmpty then r.done.reverse else (Line.unended r.begun :: r.done).reverse

end LineReader

/-- The lines of an input and whether reading failed before its end. A line that a failure cuts short
is not among them. -/
structure LineStream where
  lines : List Line
  broken : Bool
deriving DecidableEq, Repr

/-- Reads what arrives, from a state of the reader on. -/
def LineStream.readFrom (r : LineReader) : List Arrival → LineStream
  | [] => ⟨r.finish, false⟩
  | .bytes chunk :: rest => readFrom (chunk.foldl LineReader.feed r) rest
  | .interruption :: rest => readFrom r rest
  | .failure :: _ => ⟨r.done.reverse, true⟩

/-- Reads what arrives. -/
def LineStream.ofArrivals (arrivals : List Arrival) : LineStream := readFrom {} arrivals

end SqlDump
