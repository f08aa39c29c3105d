-- Texts and their parts. Splitting at a delimiter and joining with a backslash before each delimiter inside a
-- part undo each other, and one pass that holds back at most one backslash is enough to split.
import SqlDump.Proofs.WrittenSubstitution
import Mathlib.Data.Set.Function

namespace SqlDump.Substitution

variable {d c : Char} {parts : List (List Char)}

/-! ## Parts joined -/

/-- The parts joined by the delimiter, with a backslash before each one inside a part. -/
def joinParts (d : Char) (parts : List (List Char)) : List Char :=
  [d].intercalate (parts.map (escapeDelimiter d))

/-- There is a part, and none but the last one ends in a backslash. -/
structure Separable (parts : List (List Char)) : Prop where
  ne_nil : parts ≠ []
  no_backslash : ∀ part ∈ parts.dropLast, part.getLast? ≠ some '\\'

theorem joinParts_singleton (d : Char) (part : List Char) :
    joinParts d [part] = escapeDelimiter d part := by
  simp [joinParts]

theorem joinParts_cons (d : Char) (part : List Char) (hne : parts ≠ []) :
    joinParts d (part :: parts) = escapeDelimiter d part ++ d :: joinParts d parts := by
  obtain ⟨next, parts, rfl⟩ := List.exists_cons_of_ne_nil hne
  simp [joinParts]

theorem escapeDelimiter_cons (d c : Char) (text : List Char) :
    escapeDelimiter d (c :: text) = escapeDelimiter d [c] ++ escapeDelimiter d text := by
  simp [escapeDelimiter]

theorem joinParts_consPart (d c : Char) (hne : parts ≠ []) :
    joinParts d (consPart c parts) = escapeDelimiter d [c] ++ joinParts d parts := by
  obtain ⟨part, parts, rfl⟩ := List.exists_cons_of_ne_nil hne
  unfold consPart
  by_cases hmore : parts = []
  · rw [hmore, joinParts_singleton, joinParts_singleton, escapeDelimiter_cons]
  · rw [joinParts_cons d _ hmore, joinParts_cons d _ hmore, escapeDelimiter_cons, List.append_assoc]

/-! ## Parts of a text -/

/-- What holds of the empty text, and goes over to a text with a delimiter, an escaped delimiter or another
character in front, holds of every text. -/
theorem part_induction (d : Char) {P : List Char → Prop} (nil : P [])
    (delimiter : ∀ rest, d ≠ '\\' → P rest → P (d :: rest))
    (escaped : ∀ rest, P rest → P ('\\' :: d :: rest))
    (plain : ∀ c rest, (c = d → c = '\\') → (c = '\\' → rest.head? ≠ some d) → P rest →
      P (c :: rest))
    (text : List Char) : P text := by
  induction hn : text.length using Nat.strongRecOn generalizing text with
  | ind n ih =>
    subst hn
    cases text with
    | nil => exact nil
    | cons c rest =>
      have hrest : P rest := ih _ (Nat.lt_succ_self _) rest rfl
      by_cases hslash : c = '\\'
      · subst hslash
        by_cases hnext : rest.head? = some d
        · obtain ⟨more, rfl⟩ := List.head?_eq_some_iff.mp hnext
          exact escaped more (ih more.length (by simp only [List.length_cons]; omega) more rfl)
        · exact plain '\\' rest (fun _ => rfl) (fun _ => hnext) hrest
      · by_cases hc : c = d
        · subst hc
          exact delimiter rest hslash hrest
        · exact plain c rest (fun he => absurd he hc) (fun he => absurd he hslash) hrest

theorem consPart_ne_nil (c : Char) (parts : List (List Char)) : consPart c parts ≠ [] := by
  cases parts <;> exact List.cons_ne_nil _ _

theorem splitParts_ne_nil (d : Char) (text : List Char) : splitParts d text ≠ [] := by
  induction text using part_induction d with
  | nil => exact List.cons_ne_nil _ _
  | delimiter rest hd _ =>
    rw [splitParts_delimiter hd]
    exact List.cons_ne_nil _ _
  | escaped rest _ =>
    rw [splitParts_escaped]
    exact consPart_ne_nil _ _
  | plain c rest hc hnext _ =>
    rw [splitParts_plain hc hnext]
    exact consPart_ne_nil _ _

/-- The parts of a text make it up again. -/
theorem joinParts_splitParts (hd : d ≠ '\\') (text : List Char) :
    joinParts d (splitParts d text) = text := by
  induction text using part_induction d with
  | nil => rfl
  | delimiter rest _ ih =>
    rw [splitParts_delimiter hd, joinParts_cons d _ (splitParts_ne_nil d rest), ih]
    rfl
  | escaped rest ih =>
    rw [splitParts_escaped, joinParts_consPart d d (splitParts_ne_nil d rest), ih]
    simp [escapeDelimiter]
  | plain c rest hc hnext ih =>
    have hother : c ≠ d := fun he => hd (he.symm.trans (hc he))
    rw [splitParts_plain hc hnext, joinParts_consPart d c (splitParts_ne_nil d rest), ih]
    simp [escapeDelimiter, hother]

namespace Separable

theorem cons_nil (h : Separable parts) : Separable ([] :: parts) := by
  refine ⟨List.cons_ne_nil _ _, fun part hpart => ?_⟩
  rw [List.dropLast_cons_of_ne_nil h.ne_nil] at hpart
  rcases List.mem_cons.mp hpart with rfl | hpart
  · simp
  · exact h.no_backslash part hpart

/-- A backslash can go to the first part where no delimiter follows it. -/
theorem consPart (h : Separable parts) (hnext : c = '\\' → (joinParts d parts).head? ≠ some d) :
    Separable (consPart c parts) := by
  obtain ⟨first, more, rfl⟩ := List.exists_cons_of_ne_nil h.ne_nil
  refine ⟨List.cons_ne_nil _ _, fun part hpart => ?_⟩
  by_cases hmore : more = []
  · rw [hmore] at hpart
    cases hpart
  · have hrest := h.no_backslash
    rw [List.dropLast_cons_of_ne_nil hmore] at hrest
    rw [Substitution.consPart, List.dropLast_cons_of_ne_nil hmore] at hpart
    rcases List.mem_cons.mp hpart with rfl | hpart
    · by_cases hfirst : first = []
      · -- an empty first part ends at a delimiter
        have hhead : (joinParts d (first :: more)).head? = some d := by
          rw [joinParts_cons d first hmore, hfirst]
          rfl
        rw [hfirst]
        intro hslash
        exact hnext (by simpa using hslash) hhead
      · have hlast : (c :: first).getLast? = first.getLast? := by
          rw [List.getLast?_cons, List.getLast?_eq_some_getLast hfirst]
          rfl
        rw [hlast]
        exact hrest first List.mem_cons_self
    · exact hrest part (List.mem_cons_of_mem first hpart)

end Separable

theorem separable_splitParts (hd : d ≠ '\\') (text : List Char) : Separable (splitParts d text) := by
  induction text using part_induction d with
  | nil => exact ⟨List.cons_ne_nil _ _, by simp [splitParts]⟩
  | delimiter rest _ ih =>
    rw [splitParts_delimiter hd]
    exact ih.cons_nil
  | escaped rest ih =>
    rw [splitParts_escaped]
    exact ih.consPart (d := d) fun he => absurd he hd
  | plain c rest hc hnext ih =>
    rw [splitParts_plain hc hnext]
    refine ih.consPart (d := d) ?_
    rwa [joinParts_splitParts hd]

/-- Joined parts are split where they were joined. -/
theorem splitParts_joinParts (hd : d ≠ '\\') (h : Separable parts) :
    splitParts d (joinParts d parts) = parts := by
  obtain ⟨hne, hlast⟩ := h
  induction parts with
  | nil => exact absurd rfl hne
  | cons part parts ih =>
    by_cases hmore : parts = []
    · have hend : part.getLast? = some '\\' → ([] : List Char).head? ≠ some d := fun _ => nofun
      have hsplit := splitParts_escapeDelimiter_append hd hend
      rw [List.append_nil] at hsplit
      rw [hmore, joinParts_singleton, hsplit, splitParts, foldr_consPart, List.append_nil]
    · rw [List.dropLast_cons_of_ne_nil hmore, List.forall_mem_cons] at hlast
      rw [joinParts_cons d part hmore, splitParts_escapeDelimiter hd hlast.1, ih hmore hlast.2]

/-- Where the delimiter is the backslash itself, it never stands alone. -/
theorem length_splitParts_backslash (text : List Char) : (splitParts '\\' text).length = 1 := by
  have hstep : ∀ c (parts : List (List Char)), parts.length = 1 → (consPart c parts).length = 1 := by
    intro c parts h
    obtain ⟨part, rfl⟩ := List.length_eq_one_iff.mp h
    rfl
  induction text using part_induction '\\' with
  | nil => rfl
  | delimiter rest hd _ => exact absurd rfl hd
  | escaped rest ih =>
    rw [splitParts_escaped]
    exact hstep _ _ ih
  | plain c rest hc hnext ih =>
    rw [splitParts_plain hc hnext]
    exact hstep _ _ ih

/-! ## One pass -/

/-- How far a pass has come: the parts that are done, last one first, the characters of the part begun, last
one first, and whether a backslash is held back that escapes the next character. -/
structure PartScan where
  done : List (List Char) := []
  begun : List Char := []
  escaped : Bool := false

namespace PartScan

/-- Takes a character, with a look at the one behind it. -/
def feed (d : Char) (s : PartScan) (c : Char) (next : Option Char) : PartScan :=
  if s.escaped then { s with begun := c :: s.begun, escaped := false }
  else if c = '\\' then
    if next = some d then { s with escaped := true } else { s with begun := c :: s.begun }
  else if c = d then { s with done := s.begun.reverse :: s.done, begun := [] }
  else { s with begun := c :: s.begun }

def run (d : Char) (s : PartScan) : List Char → PartScan
  | [] => s
  | c :: rest => run d (s.feed d c rest.head?) rest

/-- The parts when the text ends here. -/
def finish (s : PartScan) : List (List Char) := (s.begun.reverse :: s.done).reverse

/-- The backslash that is held back. -/
def heldBack (s : PartScan) : List Char := if s.escaped then ['\\'] else []

/-- The parts that are done, and those of what is held back and still to come, where the first one goes on
with the part begun. -/
def goOn (d : Char) (s : PartScan) (text : List Char) : List (List Char) :=
  s.done.reverse ++ s.begun.reverse.foldr consPart (splitParts d (s.heldBack ++ text))

theorem foldr_consPart_reverse (c : Char) (begun : List Char) (parts : List (List Char)) :
    (c :: begun).reverse.foldr consPart parts = begun.reverse.foldr consPart (consPart c parts) := by
  rw [List.reverse_cons, List.foldr_append]
  rfl

/-- A character more in the part begun. -/
theorem goOn_begun (s : PartScan) (c : Char) (rest : List Char) :
    goOn d { s with begun := c :: s.begun, escaped := false } rest =
      s.done.reverse ++ s.begun.reverse.foldr consPart (consPart c (splitParts d rest)) := by
  unfold goOn
  rw [foldr_consPart_reverse]
  rfl

/-- Taking a character changes nothing in the end, where only a delimiter follows a backslash that is held
back. -/
theorem goOn_feed (s : PartScan) (c : Char) (rest : List Char) (h : s.escaped = true → c = d) :
    goOn d (s.feed d c rest.head?) rest = goOn d s (c :: rest) := by
  obtain ⟨done, begun, escaped⟩ := s
  cases escaped with
  | true =>
    obtain rfl := h rfl
    have hfeed : feed c ⟨done, begun, true⟩ c rest.head? = ⟨done, c :: begun, false⟩ := rfl
    rw [hfeed, goOn_begun ⟨done, begun, true⟩, ← splitParts_escaped]
    rfl
  | false =>
    by_cases hslash : c = '\\'
    · by_cases hnext : rest.head? = some d
      · have hfeed : feed d ⟨done, begun, false⟩ c rest.head? = ⟨done, begun, true⟩ := by
          simp [feed, hslash, hnext]
        rw [hfeed, hslash]
        rfl
      · have hfeed : feed d ⟨done, begun, false⟩ c rest.head? = ⟨done, c :: begun, false⟩ := by
          simp [feed, hslash, hnext]
        rw [hfeed, goOn_begun ⟨done, begun, false⟩,
          ← splitParts_plain (fun _ => hslash) (fun _ => hnext)]
        rfl
    · by_cases hc : c = d
      · have hfeed : feed d ⟨done, begun, false⟩ c rest.head? = ⟨begun.reverse :: done, [], false⟩ := by
          simp [feed, hc, hc ▸ hslash]
        have hsplit : splitParts d (c :: rest) = [] :: splitParts d rest := by
          rw [hc, splitParts_delimiter (hc ▸ hslash)]
        rw [hfeed]
        simp only [goOn, heldBack, Bool.false_eq_true, if_false, List.nil_append, hsplit, foldr_consPart]
        simp
      · have hfeed : feed d ⟨done, begun, false⟩ c rest.head? = ⟨done, c :: begun, false⟩ := by
          simp [feed, hslash, hc]
        rw [hfeed, goOn_begun ⟨done, begun, false⟩,
          ← splitParts_plain (fun he => absurd he hc) (fun he => absurd he hslash)]
        rfl

/-- A backslash is held back only before a delimiter. -/
theorem escaped_feed (s : PartScan) (c : Char) {next : Option Char}
    (h : (s.feed d c next).escaped = true) : next = some d := by
  unfold feed at h
  split at h
  · cases h
  · rename_i hs
    split at h
    · split at h
      · assumption
      · exact absurd h hs
    · split at h <;> exact absurd h hs

/-- A pass ends with the parts of what it holds back and of what was still to come. -/
theorem finish_run (s : PartScan) (text : List Char) (h : s.escaped = true → text.head? = some d) :
    (s.run d text).finish = goOn d s text := by
  induction text generalizing s with
  | nil =>
    have hs : s.escaped = false := by
      by_contra he
      cases h (by simpa using he)
    simp only [run, finish, goOn, heldBack, hs, Bool.false_eq_true, if_false, List.append_nil, splitParts,
      foldr_consPart, List.reverse_cons]
  | cons c rest ih =>
    rw [run, ih _ (s.escaped_feed c), goOn_feed]
    intro he
    simpa using h he

end PartScan

/-! ## The law -/

theorem read_of_backslash (text : List Char) :
    read ('s' :: '\\' :: text) = .error (.invalidSubstitution ('s' :: '\\' :: text) .noReplacement) := by
  obtain ⟨part, hpart⟩ := List.length_eq_one_iff.mp (length_splitParts_backslash text)
  simp only [read, hpart]

/-- A pass from left to right that holds back at most one backslash splits a text. With any delimiter but the
backslash, splitting and joining are inverse to each other between all texts and the lists of parts of which only
the last one may end in a backslash. With the backslash there is always one part, and no substitution is
written. -/
theorem splitting_is_undone_by_joining :
    (∀ d text, (({} : PartScan).run d text).finish = splitParts d text) ∧
    (∀ d, d ≠ '\\' →
      Set.BijOn (splitParts d) Set.univ {parts | Separable parts} ∧
      Set.InvOn (joinParts d) (splitParts d) Set.univ {parts | Separable parts}) ∧
    ∀ text, (splitParts '\\' text).length = 1 ∧
      read ('s' :: '\\' :: text) =
        .error (.invalidSubstitution ('s' :: '\\' :: text) .noReplacement) := by
  refine ⟨fun d text => PartScan.finish_run {} text nofun, fun d hd => ?_, fun text =>
    ⟨length_splitParts_backslash text, read_of_backslash text⟩⟩
  have hinv : Set.InvOn (joinParts d) (splitParts d) Set.univ {parts | Separable parts} :=
    ⟨fun text _ => joinParts_splitParts hd text, fun _ hparts => splitParts_joinParts hd hparts⟩
  exact ⟨hinv.bijOn (fun text _ => separable_splitParts hd text) (fun _ _ => Set.mem_univ _), hinv⟩

/-- Delimiters and backslashes inside parts, an empty part, and a backslash at the very end. -/
theorem parts_with_slashes_and_backslashes :
    let parts := ["a/b".toList, "\\\\x".toList, [], "c\\".toList]
    let text := "a\\/b/\\\\x//c\\".toList
    ('/' ≠ '\\' ∧ Separable parts) ∧ joinParts '/' parts = text ∧ splitParts '/' text = parts ∧
      joinParts '/' (splitParts '/' text) = text := by
  intro parts text
  have hd : '/' ≠ '\\' := by decide
  have hparts : Separable parts := ⟨List.cons_ne_nil _ _, by decide⟩
  have hjoined : joinParts '/' parts = text := by decide
  obtain ⟨-, hleft, hright⟩ := splitting_is_undone_by_joining.2.1 '/' hd
  have hsplit : splitParts '/' (joinParts '/' parts) = parts := hright hparts
  exact ⟨⟨hd, hparts⟩, hjoined, hjoined ▸ hsplit, hleft (Set.mem_univ text)⟩

end SqlDump.Substitution
