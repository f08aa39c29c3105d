-- Pieces of a text: characters that no match covers, and matches. The pieces of a text, put together
-- again, are the text.
import SqlDump.Regex.Machine

namespace SqlDump.Regex

/-- A match: the text it covers and the texts of groups 1, 2, … of the pattern; a group that took no
part has none. -/
structure Hit where
  whole : List Char
  groups : List (Option (List Char))
deriving DecidableEq, Repr

/-- The text of a group; group 0 is the whole match. -/
def Hit.group : Hit → Nat → Option (List Char)
  | h, 0 => some h.whole
  | h, n + 1 => (h.groups[n]?).join

inductive Piece
  | kept (c : Char)
  | hit (h : Hit)
deriving DecidableEq, Repr

namespace Piece

/-- The text that the piece was cut from. -/
def source : Piece → List Char
  | kept c => [c]
  | hit h => h.whole

def isHit : Piece → Bool
  | kept _ => false
  | hit _ => true

end Piece

/-- The pieces with each match taken back into characters. -/
def plainPieces (ps : List Piece) : List Piece := ps.flatMap fun p => p.source.map .kept

/-- The pieces with the first match only. -/
def firstHitOnly : List Piece → List Piece
  | [] => []
  | .kept c :: rest => .kept c :: firstHitOnly rest
  | .hit h :: rest => .hit h :: plainPieces rest

/-! ## Cutting a text at the matches of a program -/

/-- The part of a match between two places, given where the match begins. -/
def groupText (start : Nat) (whole : List Char) (slots : Slots) (i : Nat) : Option (List Char) :=
  match slots.getD (2 * i) none, slots.getD (2 * i + 1) none with
  | some a, some b => some ((whole.drop (a - start)).take (b - a))
  | _, _ => none

/-- The pieces of `text`, which begins at place `pos`. A match that begins before that place is left
out. -/
def cutAt (groups : Nat) : Nat → List Char → List Slots → List Piece
  | _, text, [] => text.map .kept
  | pos, text, s :: more =>
    match Program.span? s with
    | some (a, b) =>
      if pos ≤ a then
        let rest := text.drop (a - pos)
        let whole := rest.take (b - a)
        let hit : Hit := ⟨whole, (List.range groups).map fun i => groupText a whole s (i + 1)⟩
        (text.take (a - pos)).map .kept ++ .hit hit :: cutAt groups (a + whole.length)
          (rest.drop whole.length) more
      else cutAt groups pos text more
    | none => cutAt groups pos text more

/-- The source of kept characters is these characters. -/
theorem flatMap_source_kept (text : List Char) :
    (text.map Piece.kept).flatMap Piece.source = text := by
  induction text with
  | nil => rfl
  | cons c rest ih => simp [Piece.source, ih]

theorem take_append_drop_length_take (n : Nat) (l : List Char) :
    l.take n ++ l.drop (l.take n).length = l := by
  induction l generalizing n with
  | nil => simp
  | cons c rest ih => cases n with
    | zero => simp
    | succ n => simpa using ih n

/-- Cutting loses nothing. -/
theorem flatMap_source_cutAt (groups : Nat) (found : List Slots) (pos : Nat) (text : List Char) :
    (cutAt groups pos text found).flatMap Piece.source = text := by
  induction found generalizing pos text with
  | nil => exact flatMap_source_kept text
  | cons s more ih =>
    unfold cutAt
    split
    · split
      · simp only [List.flatMap_append, List.flatMap_cons, flatMap_source_kept, ih, Piece.source,
          take_append_drop_length_take, List.take_append_drop]
      · exact ih pos text
    · exact ih pos text

end SqlDump.Regex
