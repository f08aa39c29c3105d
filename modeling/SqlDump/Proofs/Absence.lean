-- Texts in which a pattern has no match, and changes that bring none in. The patterns spell a word in small
-- letters; a change that shows something else where it was made leaves no such word behind.
import SqlDump.Proofs.Characters
import SqlDump.Proofs.Words

namespace SqlDump.Regex.Sequence

open Unicode (isWord isDigit)

/-! ## Walking along a text -/

/-- At a place of a text there is its end, a character that is kept, or a match. -/
theorem place_cases (items : List Item) (before : Option Char) (text : List Char) :
    text = [] ∨ (∃ c rest, text = c :: rest ∧ matchAt items before (c :: rest) = none) ∨
      ∃ taken rest runs, text = taken ++ rest ∧
        matchAt items before (taken ++ rest) = some (taken, runs) := by
  rcases hmatch : matchAt items before text with _ | ⟨taken, runs⟩
  · cases text with
    | nil => exact Or.inl rfl
    | cons c rest => exact Or.inr (Or.inl ⟨c, rest, rfl, hmatch⟩)
  · obtain ⟨rest, rfl⟩ := (matchAt_taken hmatch).1
    exact Or.inr (Or.inr ⟨taken, rest, runs, rfl, hmatch⟩)

/-- What holds at the end, and goes over to a text with a kept character or a match in front, holds of
every text. -/
theorem walk_induction {items : List Item} (htakes : items.any Item.takes = true)
    {P : Option Char → List Char → Prop} (nil : ∀ before, P before [])
    (kept : ∀ before c rest, matchAt items before (c :: rest) = none → P (some c) rest →
      P before (c :: rest))
    (hit : ∀ before taken rest runs, matchAt items before (taken ++ rest) = some (taken, runs) →
      P taken.getLast? rest → P before (taken ++ rest))
    (before : Option Char) (text : List Char) : P before text := by
  induction hn : text.length using Nat.strongRecOn generalizing before text with
  | ind n ih =>
    rcases place_cases items before text with
      rfl | ⟨c, rest, rfl, hmatch⟩ | ⟨taken, rest, runs, rfl, hmatch⟩
    · exact nil before
    · exact kept before c rest hmatch (ih rest.length (by rw [← hn]; simp) _ rest rfl)
    · have hpos := List.length_pos_of_ne_nil (taken_ne_nil htakes hmatch)
      have hshort : rest.length < n := by
        rw [← hn, List.length_append]
        omega
      exact hit before taken rest runs hmatch (ih rest.length hshort _ rest rfl)

/-- Two lists of items match one behind the other. -/
theorem matchAt_append (xs ys : List Item) (before : Option Char) (text : List Char) :
    matchAt (xs ++ ys) before text =
      (matchAt xs before text).bind fun x =>
        (matchAt ys (x.1.getLast?.or before) (text.drop x.1.length)).map fun y =>
          (x.1 ++ y.1, x.2 ++ y.2) := by
  induction xs generalizing before text with
  | nil => simp [matchAt]
  | cons item xs ih =>
    cases item with
    | char s =>
      cases text with
      | nil => rfl
      | cons c rest =>
        by_cases hc : s.mem c = true
        · simp only [List.cons_append, matchAt, hc, if_true, ih, Option.map_bind, Option.bind_map]
          congr 1
          funext x
          simp [getLast?_cons_or, Function.comp_def]
        · simp [matchAt, hc]
    | look l =>
      by_cases hl : l.holds before text.head? = true
      · simp only [List.cons_append, matchAt, hl, if_true, ih]
      · simp [matchAt, hl]
    | run s captured =>
      by_cases hrun : (text.takeWhile s.mem).isEmpty = true
      · simp [matchAt, hrun]
      · simp only [List.cons_append, matchAt, hrun, if_false, ih, Option.map_bind, Option.bind_map,
          Bool.false_eq_true]
        congr 1
        funext x
        have hne : text.takeWhile s.mem ≠ [] := by simpa using hrun
        cases captured <;> simp [Function.comp_def, List.getLast?_append, List.getLast?_eq_some_getLast hne]

/-! ## Absence -/

/-- No match of the items begins in a text behind a given character. -/
def Absent (items : List Item) : Option Char → List Char → Prop
  | _, [] => True
  | before, c :: rest => matchAt items before (c :: rest) = none ∧ Absent items (some c) rest

theorem Absent.append_right {items : List Item} {before : Option Char} {x y : List Char}
    (h : Absent items before (x ++ y)) : Absent items (x.getLast?.or before) y := by
  induction x generalizing before with
  | nil => exact h
  | cons c x ih =>
    rw [getLast?_cons_or]
    exact ih h.2

/-- Characters at which no match can begin may stand in front. -/
theorem absent_append {items : List Item} {before : Option Char} {x y : List Char}
    (hx : ∀ u c v, x = u ++ c :: v → matchAt items (u.getLast?.or before) (c :: v ++ y) = none)
    (hy : Absent items (x.getLast?.or before) y) : Absent items before (x ++ y) := by
  induction x generalizing before with
  | nil => exact hy
  | cons c x ih =>
    refine ⟨hx [] c x rfl, ih (fun u d v he => ?_) ?_⟩
    · have hlater := hx (c :: u) d v (by rw [he]; rfl)
      rwa [getLast?_cons_or] at hlater
    · rwa [getLast?_cons_or] at hy

theorem piecesFrom_of_absent {items : List Item} {before : Option Char} {text : List Char}
    (h : Absent items before text) : piecesFrom items before text = text.map .kept := by
  induction text generalizing before with
  | nil => rfl
  | cons c rest ih => rw [piecesFrom_kept h.1, ih h.2, List.map_cons]

/-! ## Words in small letters -/

theorem toNat_of_isLower {c : Char} (h : c.isLower = true) : 97 ≤ c.toNat ∧ c.toNat ≤ 122 := by
  have hbounds : (decide ('a'.val ≤ c.val) && decide (c.val ≤ 'z'.val)) = true := h
  rw [Bool.and_eq_true, decide_eq_true_eq, decide_eq_true_eq] at hbounds
  exact ⟨UInt32.le_iff_toNat_le.mp hbounds.1, UInt32.le_iff_toNat_le.mp hbounds.2⟩

theorem isWord_of_isLower {c : Char} (h : c.isLower = true) : isWord c = true := by
  have hsmall : c.toNat < 128 := by
    have hbounds := toNat_of_isLower h
    omega
  unfold isWord
  have halpha : (c.isUpper || c.isLower) = true := by rw [h, Bool.or_true]
  have halphanum : c.isAlphanum = true := Bool.or_eq_true_iff.mpr (Or.inl halpha)
  rw [if_pos hsmall, halphanum]
  rfl

theorem isDigit_of_isLower {c : Char} (h : c.isLower = true) : isDigit c = false := by
  have hbounds := toNat_of_isLower h
  have hdigit : c.isDigit = true ↔ 48 ≤ c.toNat ∧ c.toNat ≤ 57 := Char.isDigit_iff_toNat
  unfold isDigit
  rw [if_pos (by omega), ← Bool.not_eq_true, hdigit]
  omega

/-- Whether the items go on with small letters, with marks and digits behind them, and reach the end of the
word. `inWord` tells whether the character before is of a word. -/
def smallTail : Bool → List Item → Bool
  | inWord, [] => !inWord
  | inWord, [.look (.word .boundary false)] => inWord
  | inWord, .char (.single c) :: rest =>
    (c.isLower || (inWord && !isWord c)) && smallTail c.isLower rest
  | false, .run .digit _ :: rest => smallTail true rest
  | _, _ => false

/-- Whether the items spell a word in small letters from its beginning on. -/
def small : List Item → Bool
  | .look (.word .boundary false) :: .char (.single c) :: rest => c.isLower && smallTail true rest
  | _ => false

theorem exists_of_small {items : List Item} (h : small items = true) :
    ∃ c rest, items = .look (.word .boundary false) :: .char (.single c) :: rest ∧
      c.isLower = true ∧ smallTail true rest = true := by
  unfold small at h
  split at h
  · rename_i c rest
    rw [Bool.and_eq_true] at h
    exact ⟨c, rest, rfl, h⟩
  · cases h

/-- Such a match begins behind the edge of a word, at its first letter. -/
theorem matchAt_small {items : List Item} {c : Char} {before : Option Char} {text : List Char}
    (hc : isWord c = true) :
    matchAt (.look (.word .boundary false) :: .char (.single c) :: items) before text =
      if isWordSide false before = false ∧ text.head? = some c then
        matchAt (.char (.single c) :: items) before text
      else none := by
  cases text with
  | nil =>
    simp only [matchAt]
    split <;> simp
  | cons d rest =>
    by_cases hd : d = c
    · subst hd
      cases hb : isWordSide false before <;>
        simp [matchAt, Look.holds, WordEdge.holds, hb, hc]
    · rw [if_neg (by simp [hd])]
      simp only [matchAt, CharSet.mem_single]
      split <;> simp [hd]

/-- No match begins at a character that is no small letter, or behind a word character. -/
theorem matchAt_small_eq_none {items : List Item} (h : small items = true) {before : Option Char}
    {c : Char} (hc : c.isLower = false ∨ isWordSide false before = true) (rest : List Char) :
    matchAt items before (c :: rest) = none := by
  obtain ⟨d, tail, rfl, hd, _⟩ := exists_of_small h
  rw [matchAt_small (isWord_of_isLower hd), if_neg]
  rintro ⟨hb, he⟩
  rcases hc with hc | hc
  · cases he
    rw [hd] at hc
    cases hc
  · rw [hb] at hc
    cases hc

/-- A stretch without small letters may stand in front. -/
theorem absent_append_of_no_lower {items : List Item} (h : small items = true) {before : Option Char}
    {x y : List Char} (hx : ∀ c ∈ x, c.isLower = false) (hy : Absent items (x.getLast?.or before) y) :
    Absent items before (x ++ y) := by
  refine absent_append (fun u c v he => ?_) hy
  have hc : c ∈ x := by
    rw [he]
    exact List.mem_append_right u List.mem_cons_self
  exact matchAt_small_eq_none h (Or.inl (hx c hc)) _

/-- So may the rest of a word. -/
theorem absent_append_of_inside {items : List Item} (h : small items = true) {before : Option Char}
    {x y : List Char} (hbefore : isWordSide false before = true) (hx : x.all isWord = true)
    (hy : Absent items (x.getLast?.or before) y) : Absent items before (x ++ y) := by
  refine absent_append (fun u c v he => ?_) hy
  refine matchAt_small_eq_none h (Or.inr ?_) _
  cases hu : u.getLast? with
  | none => exact hbefore
  | some b =>
    have hb : b ∈ x := by
      rw [he]
      exact List.mem_append_left _ (List.mem_of_getLast? hu)
    exact List.all_eq_true.mp hx b hb

/-! ## Changes -/

/-- The text with each match replaced. -/
def edited (items : List Item) (rep : Hit → List Char) (before : Option Char) (text : List Char) :
    List Char :=
  replaced rep (piecesFrom items before text)

variable {items its : List Item} {rep : Hit → List Char}

@[simp] theorem edited_nil (before : Option Char) : edited items rep before [] = [] := rfl

theorem edited_kept {before : Option Char} {c : Char} {rest : List Char}
    (h : matchAt items before (c :: rest) = none) :
    edited items rep before (c :: rest) = c :: edited items rep (some c) rest := by
  unfold edited
  rw [piecesFrom_kept h, replaced_cons_kept]

theorem edited_hit {before : Option Char} {taken rest : List Char} {runs : List (List Char)}
    (htakes : items.any Item.takes = true)
    (h : matchAt items before (taken ++ rest) = some (taken, runs)) :
    edited items rep before (taken ++ rest) =
      rep ⟨taken, runs.map some⟩ ++ edited items rep taken.getLast? rest := by
  unfold edited
  rw [piecesFrom_hit htakes h, replaced_cons_hit]

/-- What is seen where a match was: no small letter and no digit, neither before the change nor after it,
and behind a word character the word goes on. -/
structure Masked (before old new : Option Char) : Prop where
  digit : ∀ c ∈ old, isDigit c = false
  foreign : ∀ c ∈ new, c.isLower = false ∧ isDigit c = false
  inside : isWordSide false before = true → isWordSide false old = true ∧ isWordSide false new = true

/-- The change masks every match. -/
structure Masks (items : List Item) (rep : Hit → List Char) : Prop where
  takes : items.any Item.takes = true
  front : ∀ {before taken rest runs}, matchAt items before (taken ++ rest) = some (taken, runs) →
    Masked before (taken ++ rest).head? (edited items rep before (taken ++ rest)).head?

/-- Digits stay, and no other digit comes behind them. -/
theorem takeWhile_edited (h : Masks items rep) (before : Option Char) (text : List Char) :
    (edited items rep before text).takeWhile isDigit = text.takeWhile isDigit ∧
    (edited items rep before text).drop (text.takeWhile isDigit).length =
      edited items rep ((text.takeWhile isDigit).getLast?.or before)
        (text.drop (text.takeWhile isDigit).length) := by
  induction text generalizing before with
  | nil => exact ⟨rfl, rfl⟩
  | cons c rest ih =>
    rcases place_cases items before (c :: rest) with
      hnil | ⟨d, more, he, hmatch⟩ | ⟨taken, more, runs, he, hmatch⟩
    · cases hnil
    · cases he
      rw [edited_kept hmatch]
      by_cases hc : isDigit c = true
      · obtain ⟨htake, hdrop⟩ := ih (some c)
        rw [List.takeWhile_cons_of_pos hc, List.takeWhile_cons_of_pos hc, getLast?_cons_or]
        exact ⟨by rw [htake], hdrop⟩
      · rw [List.takeWhile_cons_of_neg hc, List.takeWhile_cons_of_neg hc]
        exact ⟨rfl, (edited_kept hmatch).symm⟩
    · have hmask := h.front hmatch
      rw [← he] at hmask
      have hc : isDigit c = false := hmask.digit c rfl
      rw [List.takeWhile_cons_of_neg (by simp [hc])]
      refine ⟨?_, rfl⟩
      cases hedited : edited items rep before (c :: rest) with
      | nil => rfl
      | cons d more =>
        rw [hedited] at hmask
        exact List.takeWhile_cons_of_neg (by simp [(hmask.foreign d rfl).2])

/-- On both sides of a place within a word the same is seen of an edge. -/
theorem isWordSide_edited (h : Masks items rep) {before : Option Char} {text : List Char}
    (hbefore : isWordSide false before = true) :
    isWordSide false (edited items rep before text).head? = isWordSide false text.head? := by
  rcases place_cases items before text with
    rfl | ⟨c, rest, rfl, hmatch⟩ | ⟨taken, rest, runs, rfl, hmatch⟩
  · rfl
  · rw [edited_kept hmatch]
    rfl
  · obtain ⟨hold, hnew⟩ := (h.front hmatch).inside hbefore
    rw [hold, hnew]

/-- What goes on with small letters in the changed text went on with them before. -/
theorem matchAt_of_edited (h : Masks items rep) {inWord : Bool} (hits : smallTail inWord its = true)
    {before : Option Char} (hbefore : isWordSide false before = inWord) {text : List Char}
    (hsome : (matchAt its before (edited items rep before text)).isSome = true) :
    (matchAt its before text).isSome = true := by
  -- the changed text shows the same characters up to the first match, where nothing can go on
  induction its generalizing inWord before text with
  | nil => rfl
  | cons item its ih =>
    unfold smallTail at hits
    split at hits
    · rename_i he
      cases he
    · rename_i he
      cases he
      subst hits
      have hside : isWordSide false (edited items rep before text).head? =
          isWordSide false text.head? := isWordSide_edited h hbefore
      simp only [matchAt, Look.holds, WordEdge.holds, hside] at hsome ⊢
      exact hsome
    · rename_i c rest he
      cases he
      rw [Bool.and_eq_true] at hits
      have hword : isWordSide false (some c) = c.isLower := by
        cases hlower : c.isLower with
        | true => exact isWord_of_isLower hlower
        | false =>
          rw [hlower, Bool.false_or, Bool.and_eq_true] at hits
          simpa using hits.1.2
      rcases place_cases items before text with
        rfl | ⟨d, rest, rfl, hmatch⟩ | ⟨taken, rest, runs, rfl, hmatch⟩
      · exact hsome
      · rw [edited_kept hmatch] at hsome
        by_cases hd : d = c
        · subst hd
          rw [matchAt_single_self, Option.isSome_map] at hsome ⊢
          exact ih hits.2 hword hsome
        · rw [matchAt_single_ne _ _ _ hd] at hsome
          cases hsome
      · have hmask := h.front hmatch
        cases hedited : edited items rep before (taken ++ rest) with
        | nil =>
          rw [hedited] at hsome
          cases hsome
        | cons d more =>
          rw [hedited] at hsome hmask
          have hne : d ≠ c := by
            rintro rfl
            have hlower := (hmask.foreign d rfl).1
            rw [hlower, Bool.false_or, Bool.and_eq_true] at hits
            have hd : isWord d = true := (hmask.inside (hbefore.trans hits.1.1)).2
            simp [hd] at hits
          rw [matchAt_single_ne _ _ _ hne] at hsome
          cases hsome
    · rename_i captured rest he
      cases he
      obtain ⟨htake, hdrop⟩ := takeWhile_edited h before text
      have hmem : CharSet.digit.mem = isDigit := rfl
      simp only [matchAt, hmem, htake, hdrop] at hsome ⊢
      by_cases hempty : (text.takeWhile isDigit).isEmpty = true
      · simp [hempty] at hsome
      · have hne : text.takeWhile isDigit ≠ [] := by simpa using hempty
        have hlast := List.getLast?_eq_some_getLast hne
        have hdigit : isDigit ((text.takeWhile isDigit).getLast hne) = true :=
          List.all_eq_true.mp List.all_takeWhile _ (List.getLast_mem hne)
        have hword : isWordSide false (some ((text.takeWhile isDigit).getLast hne)) = true :=
          Unicode.isWord_of_isDigit hdigit
        simp only [hempty, Bool.false_eq_true, if_false, Option.isSome_map] at hsome ⊢
        rw [hlast] at hsome ⊢
        exact ih hits hword hsome
    · cases hits

/-- A word in small letters that begins in the changed text began there before. The characters before the
place may differ, but a word that begins behind the new one must have begun behind the old one. -/
theorem matchAt_small_of_edited (h : Masks items rep) (hits : small its = true)
    {before before' : Option Char} {text : List Char}
    (hside : isWordSide false before' = false →
      isWordSide false before = false ∨ beginsWord text = false)
    (hsome : (matchAt its before' (edited items rep before text)).isSome = true) :
    (matchAt its before text).isSome = true := by
  obtain ⟨c, tail, rfl, hc, htail⟩ := exists_of_small hits
  rw [matchAt_small (isWord_of_isLower hc)] at hsome ⊢
  split at hsome
  · rename_i hopen
    rcases place_cases items before text with
      rfl | ⟨d, rest, rfl, hmatch⟩ | ⟨taken, rest, runs, rfl, hmatch⟩
    · cases hopen.2
    · rw [edited_kept hmatch] at hsome hopen
      obtain rfl : d = c := Option.some.inj hopen.2
      have hbegins : beginsWord (d :: rest) = true := isWord_of_isLower hc
      have hbefore : isWordSide false before = false := by
        rcases hside hopen.1 with hold | hnone
        · exact hold
        · rw [hbegins] at hnone
          cases hnone
      rw [if_pos ⟨hbefore, rfl⟩, matchAt_single_self, Option.isSome_map]
      rw [matchAt_single_self, Option.isSome_map] at hsome
      have hword : isWordSide false (some d) = true := isWord_of_isLower hc
      exact matchAt_of_edited h htail hword hsome
    · have hlower := ((h.front hmatch).foreign c hopen.2).1
      rw [hc] at hlower
      cases hlower
  · cases hsome

/-- What the change puts in is no small letter, and a word begins behind it only where one could begin
before. -/
structure Clears (items : List Item) (rep : Hit → List Char) : Prop extends Masks items rep where
  bare : ∀ {before taken rest runs}, matchAt items before (taken ++ rest) = some (taken, runs) →
    ∀ c ∈ rep ⟨taken, runs.map some⟩, c.isLower = false
  behind : ∀ {before taken rest runs}, matchAt items before (taken ++ rest) = some (taken, runs) →
    isWordSide false taken.getLast? = false ∨ beginsWord rest = false

/-- A change that clears leaves no match of its own pattern, and brings in none of another one. -/
theorem absent_edited (h : Clears items rep) (hits : small its = true) {before before' : Option Char}
    {text : List Char} (habsent : its = items ∨ Absent its before text)
    (hside : isWordSide false before' = false →
      isWordSide false before = false ∨ beginsWord text = false) :
    Absent its before' (edited items rep before text) := by
  induction before, text using walk_induction h.takes generalizing before' with
  | nil before => trivial
  | kept before c rest hmatch ih =>
    have hnone : matchAt its before (c :: rest) = none := by
      rcases habsent with rfl | habsent
      · exact hmatch
      · exact habsent.1
    have hfirst : matchAt its before' (edited items rep before (c :: rest)) = none := by
      by_contra hsome
      have hold := matchAt_small_of_edited h.toMasks hits hside (Option.isSome_iff_ne_none.mpr hsome)
      rw [hnone] at hold
      cases hold
    rw [edited_kept hmatch] at hfirst ⊢
    exact ⟨hfirst, ih (habsent.imp_right And.right) Or.inl⟩
  | hit before taken rest runs hmatch ih =>
    have hne := taken_ne_nil h.takes hmatch
    have hrest : its = items ∨ Absent its taken.getLast? rest := by
      refine habsent.imp_right fun habsent => ?_
      have hright := habsent.append_right
      rwa [List.getLast?_eq_some_getLast hne, Option.some_or,
        ← List.getLast?_eq_some_getLast hne] at hright
    rw [edited_hit h.takes hmatch]
    exact absent_append_of_no_lower hits (h.bare hmatch) (ih hrest fun _ => h.behind hmatch)

end SqlDump.Regex.Sequence
