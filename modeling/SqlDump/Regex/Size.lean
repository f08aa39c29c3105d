-- How much room a pattern takes as an automaton over bytes, and the limit on it. There are two automata:
-- one reads forward and keeps the groups, the other reads backward and has none. Both are built here state
-- by state, up to the limit, but only their states are counted.
import SqlDump.Regex.Outline
import SqlDump.Text.Utf8

namespace SqlDump.Regex

/-! ## Room -/

/-- The room of one state, of a step by itself, and of one alternative of a choice. -/
def stateRoom : Nat := 32
def stepRoom : Nat := 8
def choiceRoom : Nat := 4

/-- The most room that a pattern may take. -/
def roomLimit : Nat := 10 * 1024 * 1024

inductive Direction
  | forward
  | backward
deriving DecidableEq, Repr

/-- An automaton so far: the number of its states, which are numbered in turn, and the room of steps and
alternatives. `known` holds states that may be used again, each with what it was made from, at places
that it shares with others. -/
structure Automaton where
  states : Nat := 0
  extra : Nat := 0
  known : Array (Option (List Nat × Nat)) := #[]

namespace Automaton

def room (a : Automaton) : Nat := stateRoom * a.states + a.extra

def isTooLarge (a : Automaton) : Bool := roomLimit < a.room

/-- The automaton with more states and more room for steps and alternatives. -/
def add (a : Automaton) (states : Nat) (extra : Nat) : Automaton :=
  { a with states := a.states + states, extra := a.extra + extra }

/-- The automaton with `f` done `count` times, or until it is too large. -/
def repeated (f : Automaton → Automaton) : Nat → Automaton → Automaton
  | 0, a => a
  | count + 1, a => if a.isTooLarge then a else repeated f count (f a)

/-! ## States used again -/

/-- The place of a key among `count` places: its numbers are mixed one after another into 64 bits. -/
def place (count : Nat) (key : List Nat) : Nat :=
  let mix := fun (h : UInt64) (n : Nat) => (h ^^^ UInt64.ofNat n) * 0x100000001b3
  (key.foldl mix 0xcbf29ce484222325).toNat % count

/-- The state made from `key`, and the automaton with it. A state from before `first` is not used
again, nor is one whose place another has taken. -/
def shared (first : Nat) (key : List Nat) (extra : Nat) (a : Automaton) : Nat × Automaton :=
  let i := place a.known.size key
  let found := match a.known[i]? with
    | some (some (k, n)) => if first ≤ n && k == key then some n else none
    | _ => none
  match found with
  | some n => (n, a)
  | none =>
    let ⟨states, room, known⟩ := a
    (states, ⟨states + 1, room + extra, known.setIfInBounds i (some (key, states))⟩)

/-! ## Sets -/

/-- One step backward along a sequence. -/
def stepBack (first : Nat) (reached : Nat × Automaton) (r : ByteRun) : Nat × Automaton :=
  reached.2.shared first [reached.1, r.first, r.last] 0

/-- A set read backward: a choice of sequences, where those that begin alike share their first steps. -/
def addBackward (sequences : List (List ByteRun)) (a : Automaton) : Automaton :=
  let stop := a.states + 1
  sequences.foldl
    (fun a s => ((s.foldl (stepBack stop) (stop, a)).2).add 0 choiceRoom)
    (a.add 2 0)

/-- The state from which sequences are read that begin at it, at most `length` bytes long. Sequences
that begin with the same bytes stand together. -/
def forkForward (stop : Nat) : Nat → List (List ByteRun) → Automaton → Nat × Automaton
  | 0, _, a => (stop, a)
  | length + 1, sequences, a =>
    let groups := sequences.splitBy fun s t => s.head? == t.head?
    let (key, a) := groups.foldl
      (fun (key, a) group =>
        match group.head?.bind List.head? with
        | none => (key, a)
        | some r =>
          let behind := group.map List.tail
          let (next, a) :=
            if behind.all List.isEmpty then (stop, a) else forkForward stop length behind a
          (key ++ [r.first, r.last, next], a))
      ([], a)
    a.shared stop key (stepRoom * groups.length)

/-- A set read forward: a tree of sequences, where equal ends are shared. -/
def addForward (sequences : List (List ByteRun)) (a : Automaton) : Automaton :=
  (forkForward a.states 4 sequences (a.add 1 0)).2

/-- A set of characters. ASCII characters are steps of one state. -/
def addSet (d : Direction) (runs : List Run) (a : Automaton) : Automaton :=
  if runs.all (·.2 < 0x80) then a.add 2 (stepRoom * runs.length)
  else
    let sequences := runs.flatMap sequencesOfRun
    match d with
    | .forward => addForward sequences a
    | .backward => addBackward sequences a

/-! ## Texts -/

/-- A place in a tree of texts: the bytes that lead on, each with the rests of its texts, last one
first. Behind the end of a text new bytes are kept apart from those before it. -/
structure Fork where
  closed : List (List (Nat × List (List Nat))) := []
  current : List (Nat × List (List Nat)) := []

/-- One text more, read from this place. -/
def Fork.read (f : Fork) : List Nat → Fork
  | [] =>
    if f.current.isEmpty && !f.closed.isEmpty && f.closed.all List.isEmpty then f
    else ⟨f.current :: f.closed, []⟩
  | b :: rest =>
    if f.current.any (·.1 == b) then
      { f with current := f.current.map fun e => if e.1 == b then (b, rest :: e.2) else e }
    else { f with current := (b, [rest]) :: f.current }

/-- The states and the room of one place in a tree of texts, and the texts behind it. -/
def Fork.measure (f : Fork) : Nat × Nat × List (List (List Nat)) :=
  let bundles := (f.current :: f.closed).filter fun b => !b.isEmpty
  if bundles.isEmpty then (0, 0, [])
  else
    let steps := bundles.foldl (fun n b => if b.length < 2 then n else n + stepRoom * b.length) 0
    (1 + bundles.length, choiceRoom * (bundles.length + f.closed.length) + steps,
      bundles.flatMap fun b => b.map fun e => e.2.reverse)

/-- A tree of texts, one byte deeper at a time. -/
def addTree : Nat → List (List (List Nat)) → Automaton → Automaton
  | 0, _, a => a
  | fuel + 1, level, a =>
    let (deeper, a) := level.foldl
      (fun (deeper, a) texts =>
        let (states, extra, behind) := (texts.foldl Fork.read {}).measure
        (behind ++ deeper, Automaton.add a states extra))
      ([], a)
    if deeper.isEmpty || a.isTooLarge then a else addTree fuel deeper a

/-- A choice between texts. -/
def addTexts (d : Direction) (texts : List (List Char)) (a : Automaton) : Automaton :=
  let texts := texts.map fun t =>
    let bytes := (Utf8.encode t).map UInt8.toNat
    match d with
    | .forward => bytes
    | .backward => bytes.reverse
  addTree (texts.foldl (fun n t => max n t.length) 0 + 1) [texts] (a.add 1 0)

end Automaton

/-! ## Whole patterns -/

/-- Where an outline stands: by itself or first in a choice, second in one, or further behind. -/
inductive Turn
  | first
  | second
  | later

/-- The states of a choice that come with a branch: its two ends follow the second branch. -/
def Turn.add (t : Turn) (a : Automaton) : Automaton :=
  match t with
  | first => a
  | second => a.add 2 (2 * choiceRoom)
  | later => a.add 0 choiceRoom

/-- Adds the states of an outline. -/
def Outline.build (d : Direction) : Outline → Turn → Automaton → Automaton
  | .empty, t, a => t.add (a.add 1 0)
  | .text chars, t, a => t.add (a.add (chars.foldl (fun n c => n + byteLength c.toNat) 0) 0)
  | .set table, t, a => t.add (a.addSet d (runsOf table.changes.toList))
  | .look _, t, a => t.add (a.add 1 0)
  | .group _ body, t, a =>
    match d with
    | .forward => t.add ((body.build d .first (a.add 1 0)).add 1 0)
    | .backward => t.add (body.build d .first a)
  | .cat x y, t, a =>
    match d with
    | .forward => t.add (y.build d .first (x.build d .first a))
    | .backward => t.add (x.build d .first (y.build d .first a))
  | .alt x y, t, a =>
    match t with
    | .first =>
      match (Outline.alt x y).texts? with
      | some texts => a.addTexts d texts
      | none => y.build d .second (x.build d .first a)
    | t => y.build d .later (t.add (x.build d .first a))
  | .loop least most _ body, t, a =>
    let once := body.build d .first
    let again := fun a => once (Automaton.add a 1 (2 * choiceRoom))
    match most with
    | none =>
      if least = 0 then
        if 0 < body.leastBytes.getD 0 then t.add (again a)
        else t.add ((once a).add 3 (4 * choiceRoom))
      else t.add ((a.repeated once least).add 1 (2 * choiceRoom))
    | some most =>
      if most = least then t.add (a.repeated once least)
      else if least = 0 ∧ most = 1 then t.add ((again a).add 1 0)
      else
        let begun := if least = 0 then a.add 1 0 else a.repeated once least
        t.add ((begun.add 1 0).repeated again (most - least))

/-- How many places there are for states used again. -/
def Direction.places : Direction → Nat
  | forward => 10000
  | backward => 1000

/-- The automaton of a whole pattern. Where not every match is bound to the end that reading begins
with, a loop over all bytes stands before it. -/
def Outline.automaton (o : Outline) (d : Direction) : Automaton :=
  let bound := match d with
    | .forward => o.beginsAtStart
    | .backward => o.endsAtEnd
  let a : Automaton := { known := Array.replicate d.places none }
  let a := if bound then a.add 1 0 else a.add 3 (2 * choiceRoom + stepRoom)
  ((Outline.group 0 o).build d .first a).add 1 0

/-- From how many branches on a choice between texts is searched for in another way. -/
def manyTexts : Nat := 3000

/-- Whether an outline keeps to the limit. -/
def Outline.fits (o : Outline) : Bool :=
  (match o.texts? with
    | some texts => manyTexts ≤ texts.length
    | none => false) ||
  (!(o.automaton .forward).isTooLarge && !(o.automaton .backward).isTooLarge)

/-! ## A rough bound -/

/-- How many runs a set of so many runs has at most when it is closed under case. -/
def CharSet.closedBound (s : CharSet) (runs : Nat) : Nat :=
  match s with
  | single _ => 5
  | _ => runs + 3000

/-- How many runs a set has at most. -/
def CharSet.runBound : CharSet → Nat
  | none => 0
  | single _ => 1
  | range _ _ => 1
  | digit => 100
  | space => 20
  | word => 1000
  | table t => t.changes.size
  | union a b => a.runBound + b.runBound
  | inter a b => a.runBound + b.runBound
  | compl a => a.runBound + 2
  | caseClosed a => a.closedBound a.runBound

/-- More than the room of any one run, however it is read. -/
def runRoom : Nat := 3000

/-- More than the room of an expression. -/
def Expr.roomBound : Expr → Nat
  | .empty => stateRoom
  | .char s => runRoom * (s.runBound + 1)
  | .look _ => stateRoom
  | .group _ a => a.roomBound + 2 * stateRoom
  | .cat a b => a.roomBound + b.roomBound
  | .alt a b => a.roomBound + b.roomBound + 2 * stateRoom + 2 * choiceRoom
  | .loop least most _ a =>
    let once := a.roomBound + 3 * stateRoom + 4 * choiceRoom
    match most with
    | none => max least 1 * once
    | some most => max most 1 * once

/-- More than the room of what stands around every pattern. -/
def frameRoom : Nat := 8 * stateRoom

/-- Whether an expression keeps to the limit. Most do by the rough bound, without a look at their sets. -/
def Expr.fits (e : Expr) : Bool := e.roomBound + frameRoom ≤ roomLimit || e.outline.fits

end SqlDump.Regex
