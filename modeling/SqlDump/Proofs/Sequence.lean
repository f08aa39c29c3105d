-- The laws of patterns without choices: what such a pattern takes, where it cannot match, and how a text
-- is cut into pieces from left to right.
import SqlDump.Rule.Substitution
import Mathlib.Data.List.Infix

namespace SqlDump.Regex.Sequence

/-! ## What the items take -/

/-- The items that take a given text. -/
def literal (w : List Char) : List Item := w.map fun c => .char (.single c)

/-- The character before a place once `c` and `x` have been passed. -/
theorem getLast?_cons_or (c : Char) (x : List Char) (before : Option Char) :
    (c :: x).getLast?.or before = x.getLast?.or (some c) := by
  rw [List.getLast?_cons]
  cases x.getLast? <;> rfl

theorem taken_ne_nil {items : List Item} {before : Option Char} {text taken : List Char}
    {runs : List (List Char)} (ht : items.any Item.takes = true)
    (h : matchAt items before text = some (taken, runs)) : taken ≠ [] := by
  induction items generalizing before text taken runs with
  | nil => simp at ht
  | cons item items ih =>
    cases item with
    | char s =>
      cases text with
      | nil => simp [matchAt] at h
      | cons c rest =>
        simp only [matchAt] at h
        split at h
        · obtain ⟨_, _, he⟩ := Option.map_eq_some_iff.mp h
          cases he
          simp
        · cases h
    | look l =>
      simp only [matchAt] at h
      split at h
      · exact ih (by simpa [Item.takes] using ht) h
      · cases h
    | run s captured =>
      simp only [matchAt] at h
      split at h
      · cases h
      · rename_i hrun
        obtain ⟨_, _, he⟩ := Option.map_eq_some_iff.mp h
        cases he
        simp only [List.isEmpty_iff] at hrun
        simp [hrun]

theorem literal_cons (c : Char) (w : List Char) :
    literal (c :: w) = .char (.single c) :: literal w := rfl

theorem matchAt_single_self (c : Char) (items : List Item) (before : Option Char)
    (rest : List Char) :
    matchAt (.char (.single c) :: items) before (c :: rest) =
      (matchAt items (some c) rest).map fun found => (c :: found.1, found.2) :=
  if_pos (beq_self_eq_true c)

theorem matchAt_single_ne {c d : Char} (items : List Item) (before : Option Char)
    (rest : List Char) (h : d ≠ c) :
    matchAt (.char (.single c) :: items) before (d :: rest) = none :=
  if_neg (by simpa using h)

/-- Literal characters are taken exactly where they stand. -/
theorem matchAt_literal_append (w : List Char) (items : List Item) (before : Option Char)
    (text : List Char) :
    matchAt (literal w ++ items) before (w ++ text) =
      (matchAt items (w.getLast?.or before) text).map fun found => (w ++ found.1, found.2) := by
  induction w generalizing before with
  | nil => simp [literal]
  | cons c w ih =>
    rw [literal_cons, List.cons_append, List.cons_append, matchAt_single_self, ih (some c),
      getLast?_cons_or, Option.map_map]
    rfl

theorem matchAt_literal_eq_none {w : List Char} (items : List Item) (before : Option Char)
    {text : List Char} (h : ¬ w <+: text) : matchAt (literal w ++ items) before text = none := by
  induction w generalizing before text with
  | nil => exact absurd List.nil_prefix h
  | cons c w ih =>
    cases text with
    | nil => rfl
    | cons d rest =>
      rw [literal_cons, List.cons_append]
      by_cases hc : d = c
      · subst hc
        have hw : ¬ w <+: rest := fun hp => h (List.cons_prefix_cons.mpr ⟨rfl, hp⟩)
        rw [matchAt_single_self, ih (some d) hw]
        rfl
      · exact matchAt_single_ne _ _ _ hc

/-- A pattern that spells a text out and goes on behind it. -/
theorem matchAt_literal_append_iff {w : List Char} {items : List Item} {before : Option Char}
    {text taken : List Char} {runs : List (List Char)} :
    matchAt (literal w ++ items) before text = some (taken, runs) ↔
      ∃ rest more, text = w ++ rest ∧ taken = w ++ more ∧
        matchAt items (w.getLast?.or before) rest = some (more, runs) := by
  constructor
  · intro h
    by_cases hw : w <+: text
    · obtain ⟨rest, rfl⟩ := hw
      rw [matchAt_literal_append] at h
      obtain ⟨⟨more, others⟩, hmore, he⟩ := Option.map_eq_some_iff.mp h
      cases he
      exact ⟨rest, more, rfl, rfl, hmore⟩
    · rw [matchAt_literal_eq_none items before hw] at h
      cases h
  · rintro ⟨rest, more, rfl, rfl, hmore⟩
    rw [matchAt_literal_append, hmore]
    rfl

theorem matchAt_literal_iff {w : List Char} {before : Option Char} {text taken : List Char}
    {runs : List (List Char)} :
    matchAt (literal w) before text = some (taken, runs) ↔ taken = w ∧ runs = [] ∧ w <+: text := by
  have hnil : literal w = literal w ++ [] := (List.append_nil _).symm
  rw [hnil, matchAt_literal_append_iff]
  constructor
  · rintro ⟨rest, more, rfl, rfl, hmore⟩
    cases hmore
    exact ⟨List.append_nil w, rfl, List.prefix_append w rest⟩
  · rintro ⟨rfl, rfl, rest, rfl⟩
    exact ⟨rest, [], rfl, (List.append_nil _).symm, rfl⟩

theorem takeWhile_of_stop {p : Char → Bool} {x rest : List Char} (hall : x.all p = true)
    (hstop : ∀ c ∈ rest.head?, p c = false) : (x ++ rest).takeWhile p = x := by
  have hrest : rest.takeWhile p = [] := by
    cases rest with
    | nil => rfl
    | cons c rest => exact List.takeWhile_cons_of_neg (by simp [hstop c rfl])
  rw [List.takeWhile_append_of_pos (List.all_eq_true.mp hall), hrest, List.append_nil]

/-- A captured run takes all that it can, and the items behind it go on from there. -/
theorem matchAt_run_iff {s : CharSet} {items : List Item} {before : Option Char} {text taken : List Char}
    {runs : List (List Char)} :
    matchAt (.run s true :: items) before text = some (taken, runs) ↔
      ∃ run rest more others, text = run ++ rest ∧ run ≠ [] ∧ run.all s.mem = true ∧
        (∀ c ∈ rest.head?, s.mem c = false) ∧ matchAt items run.getLast? rest = some (more, others) ∧
        taken = run ++ more ∧ runs = run :: others := by
  simp only [matchAt]
  constructor
  · intro h
    split at h
    · cases h
    rename_i hne
    obtain ⟨⟨more, others⟩, hmore, he⟩ := Option.map_eq_some_iff.mp h
    cases he
    have hdrop : text.drop (text.takeWhile s.mem).length = text.dropWhile s.mem := by
      have hcut := List.prefix_iff_eq_append.mp (List.takeWhile_prefix s.mem (l := text))
      exact List.append_cancel_left (hcut.trans List.takeWhile_append_dropWhile.symm)
    rw [hdrop] at hmore
    refine ⟨_, _, more, others, List.takeWhile_append_dropWhile.symm, by simpa using hne,
      List.all_takeWhile, fun c hc => ?_, hmore, rfl, rfl⟩
    have hstop := List.head?_dropWhile_not s.mem text
    rw [Option.mem_def.mp hc] at hstop
    exact hstop
  · rintro ⟨run, rest, more, others, rfl, hne, hall, hstop, hmore, rfl, rfl⟩
    have hempty : run.isEmpty = false := by simpa using hne
    simp only [takeWhile_of_stop hall hstop, hempty, List.drop_left, hmore]
    rfl

/-- What the items take holds every text that they spell out. -/
theorem infix_of_matchAt {xs ys : List Item} {w : List Char} {before : Option Char}
    {text : List Char} (h : (matchAt (xs ++ (literal w ++ ys)) before text).isSome = true) :
    w <:+: text := by
  induction xs generalizing before text with
  | nil =>
    by_cases hw : w <+: text
    · exact hw.isInfix
    · rw [List.nil_append, matchAt_literal_eq_none ys before hw] at h
      cases h
  | cons item xs ih =>
    cases item with
    | char s =>
      cases text with
      | nil => simp [matchAt] at h
      | cons c rest =>
        simp only [List.cons_append, matchAt] at h
        split at h
        · rw [Option.isSome_map] at h
          exact (ih h).trans (List.suffix_cons c rest).isInfix
        · cases h
    | look l =>
      simp only [List.cons_append, matchAt] at h
      split at h
      · exact ih h
      · cases h
    | run s captured =>
      simp only [List.cons_append, matchAt] at h
      split at h
      · cases h
      · rw [Option.isSome_map] at h
        exact (ih h).trans (List.drop_suffix _ _).isInfix

/-! ## Cutting from left to right -/

/-- The pieces of a text behind a given character. -/
def piecesFrom (items : List Item) (before : Option Char) (text : List Char) : List Piece :=
  (scan items 0 before text []).reverse

theorem scan_append (items : List Item) (inside : Nat) (before : Option Char) (text : List Char)
    (done : List Piece) :
    scan items inside before text done = scan items inside before text [] ++ done := by
  induction text generalizing inside before done with
  | nil => cases inside <;> simp [scan]
  | cons c rest ih =>
    cases inside with
    | succ n => simp only [scan]; exact ih n (some c) done
    | zero =>
      simp only [scan]
      split
      · rw [ih _ _ (_ :: done), ih _ _ [_]]
        simp
      · rw [ih _ _ (_ :: done), ih _ _ [_]]
        simp

/-- The characters that a match covers are passed over. -/
theorem scan_inside (items : List Item) (before : Option Char) (x text : List Char)
    (done : List Piece) :
    scan items x.length before (x ++ text) done = scan items 0 (x.getLast?.or before) text done := by
  induction x generalizing before with
  | nil => rfl
  | cons c x ih =>
    rw [getLast?_cons_or, ← ih (some c)]
    rfl

@[simp] theorem piecesFrom_nil (items : List Item) (before : Option Char) :
    piecesFrom items before [] = [] := rfl

theorem piecesFrom_kept {items : List Item} {before : Option Char} {c : Char} {rest : List Char}
    (h : matchAt items before (c :: rest) = none) :
    piecesFrom items before (c :: rest) = .kept c :: piecesFrom items (some c) rest := by
  unfold piecesFrom
  simp only [scan, h]
  rw [scan_append]
  simp

theorem piecesFrom_hit {items : List Item} {before : Option Char} {taken rest : List Char}
    {runs : List (List Char)} (ht : items.any Item.takes = true)
    (h : matchAt items before (taken ++ rest) = some (taken, runs)) :
    piecesFrom items before (taken ++ rest) =
      .hit ⟨taken, runs.map some⟩ :: piecesFrom items taken.getLast? rest := by
  cases taken with
  | nil => exact absurd rfl (taken_ne_nil ht h)
  | cons c taken =>
    have hlast : (c :: taken).getLast? = taken.getLast?.or (some c) := by
      rw [← getLast?_cons_or c taken none, Option.or_none]
    unfold piecesFrom
    simp only [List.cons_append] at h ⊢
    simp only [scan, h, List.length_cons, Nat.add_sub_cancel]
    rw [scan_inside, scan_append, hlast]
    simp

/-- A stretch in which no match begins is kept. -/
theorem piecesFrom_append_kept (items : List Item) (before : Option Char) (x rest : List Char)
    (h : ∀ u c v, x = u ++ c :: v → matchAt items (u.getLast?.or before) (c :: v ++ rest) = none) :
    piecesFrom items before (x ++ rest) =
      x.map .kept ++ piecesFrom items (x.getLast?.or before) rest := by
  induction x generalizing before with
  | nil => rfl
  | cons c x ih =>
    have hfirst : matchAt items before (c :: (x ++ rest)) = none := h [] c x rfl
    have hrest := ih (some c) (by
      intro u d v hx
      have hlater := h (c :: u) d v (by rw [hx]; rfl)
      rwa [getLast?_cons_or] at hlater)
    rw [List.cons_append, piecesFrom_kept hfirst, hrest, getLast?_cons_or]
    rfl

/-- A text without a part that the pattern spells out is kept. -/
theorem piecesFrom_of_not_infix (xs ys : List Item) {w text : List Char} (before : Option Char)
    (h : ¬ w <:+: text) :
    piecesFrom (xs ++ (literal w ++ ys)) before text = text.map .kept := by
  have hkept := piecesFrom_append_kept (xs ++ (literal w ++ ys)) before text [] (by
    intro u c v hx
    rw [List.append_nil]
    by_contra hm
    refine h ((infix_of_matchAt (Option.isSome_iff_ne_none.mpr hm)).trans ?_)
    rw [hx]
    exact (List.suffix_append u (c :: v)).isInfix)
  simpa using hkept

end SqlDump.Regex.Sequence
