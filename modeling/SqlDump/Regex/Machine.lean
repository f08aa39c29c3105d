-- Running a program. All threads advance together, one character at a time, in order of preference;
-- at one place of the text each instruction is entered once, by the most preferred thread.
import SqlDump.Regex.Program

namespace SqlDump.Regex

/-- The places where groups begin and end, counted from the start of the text. -/
abbrev Slots := Array (Option Nat)

/-- A thread that waits at an instruction. -/
structure Thread where
  place : Nat
  slots : Slots

/-- The threads at one place of the text, the most preferred first, and for each instruction the
stamp of the last place where it was entered. -/
structure Front where
  threads : Array Thread
  entered : Array Nat

namespace Program

/-- Follows all instructions that take no character, those of the preferred branch first, and adds
the threads that wait for a character or accept. -/
def follow (p : Program) (before after : Option Char) (pos : Nat) :
    Nat → List Thread → Front → Front
  | 0, _, front => front
  | _ + 1, [], front => front
  | fuel + 1, t :: rest, front =>
    if front.entered.getD t.place 0 == pos + 1 then p.follow before after pos fuel rest front
    else
      let entered := front.entered.setIfInBounds t.place (pos + 1)
      let front := { front with entered }
      match p.code.getD t.place .accept with
      | .char _ => p.follow before after pos fuel rest { front with threads := front.threads.push t }
      | .accept => p.follow before after pos fuel rest { front with threads := front.threads.push t }
      | .look l =>
        if l.holds before after then
          p.follow before after pos fuel (⟨t.place + 1, t.slots⟩ :: rest) front
        else p.follow before after pos fuel rest front
      | .save slot =>
        let t := ⟨t.place + 1, t.slots.setIfInBounds slot (some pos)⟩
        p.follow before after pos fuel (t :: rest) front
      | .split a b =>
        p.follow before after pos fuel (⟨a, t.slots⟩ :: ⟨b, t.slots⟩ :: rest) front
      | .jump a => p.follow before after pos fuel (⟨a, t.slots⟩ :: rest) front

/-- Enough steps to enter every instruction once. -/
def followFuel (p : Program) : Nat := 2 * p.code.size + 2

/-- The threads that take the character `c` move on; a thread that accepts ends the walk, as all
threads behind it are less preferred. Gives the next front and the best match so far. -/
def advance (p : Program) (c after : Option Char) (pos : Nat) :
    List Thread → Front → Option Slots → Front × Option Slots
  | [], next, best => (next, best)
  | t :: rest, next, best =>
    match p.code.getD t.place .accept, c with
    | .accept, _ => (next, some t.slots)
    | .char s, some d =>
      if s.mem d then
        advance p c after pos rest
          (p.follow c after (pos + 1) p.followFuel [⟨t.place + 1, t.slots⟩] next) best
      else advance p c after pos rest next best
    | _, _ => advance p c after pos rest next best

/-- Looks for the first match from the front of `text` on. `before` is the character to the left and
`pos` the number of characters there. A new thread starts at each place until a match is known. -/
def search (p : Program) : List Char → Option Char → Nat → Front → Option Slots → Option Slots
  | text, before, pos, front, best =>
    let front :=
      if best.isNone then
        p.follow before text.head? pos p.followFuel
          [⟨0, Array.replicate p.slots none⟩] front
      else front
    if front.threads.isEmpty && best.isSome then best
    else
      match text with
      | [] => (p.advance none none pos front.threads.toList ⟨#[], front.entered⟩ best).2
      | c :: rest =>
        let (next, best) :=
          p.advance (some c) rest.head? pos front.threads.toList ⟨#[], front.entered⟩ best
        search p rest (some c) (pos + 1) next best

/-- The first match from a place on. -/
def find? (p : Program) (text : List Char) (before : Option Char) (pos : Nat) : Option Slots :=
  p.search text before pos ⟨#[], Array.replicate p.code.size 0⟩ none

/-- Where a match begins and ends. -/
def span? (s : Slots) : Option (Nat × Nat) :=
  match s.getD 0 none, s.getD 1 none with
  | some a, some b => some (a, b)
  | _, _ => none

/-- All matches from left to right without overlap. An empty match directly behind the last match is
passed over: the search then goes on one character further. -/
def matchesFrom (p : Program) :
    Nat → List Char → Option Char → Nat → Option Nat → Array Slots → Array Slots
  | 0, _, _, _, _, found => found
  | fuel + 1, text, before, pos, lastEnd, found =>
    match p.find? text before pos with
    | none => found
    | some s =>
      match span? s with
      | none => found
      | some (start, stop) =>
        if start == stop && lastEnd == some stop then
          match text with
          | [] => found
          | c :: rest => p.matchesFrom fuel rest (some c) (pos + 1) none found
        else
          let passed := text.take (stop - pos)
          p.matchesFrom fuel (text.drop (stop - pos)) (passed.getLast?.or before) stop (some stop)
            (found.push s)

/-- All matches in a text. -/
def matchesIn (p : Program) (text : List Char) : List Slots :=
  (p.matchesFrom (2 * text.length + 2) text none 0 none #[]).toList

end Program

end SqlDump.Regex
