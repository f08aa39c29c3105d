-- Texts told word by word, and the laws of the patterns that stand for a whole word: such a pattern
-- matches exactly the words that are equal to it.
import SqlDump.Proofs.BuiltinPatterns

namespace SqlDump

open Regex Regex.Sequence
open Unicode (isWord)

/-! ## Words -/

@[simp] theorem isWordSide_none : isWordSide false none = false := rfl

@[simp] theorem isWordSide_some (c : Char) : isWordSide false (some c) = isWord c := rfl

/-- Whether a text begins with a word character. -/
def beginsWord (text : List Char) : Bool := isWordSide false text.head?

/-- Whether a text ends with a word character. -/
def endsWord (text : List Char) : Bool := isWordSide false text.getLast?

/-- The words of a text, each as long as can be, and the other characters one by one, in order. -/
def tokens : List Char → List (List Char)
  | [] => []
  | c :: rest =>
    if isWord c && beginsWord rest then Substitution.consPart c (tokens rest) else [c] :: tokens rest

theorem tokens_ne_nil {text : List Char} (h : text ≠ []) : tokens text ≠ [] := by
  cases text with
  | nil => exact absurd rfl h
  | cons c rest =>
    unfold tokens Substitution.consPart
    split
    · split <;> simp
    · simp

theorem flatten_consPart (c : Char) (ts : List (List Char)) :
    (Substitution.consPart c ts).flatten = c :: ts.flatten := by
  cases ts <;> rfl

/-- Nothing is lost between the words. -/
theorem flatten_tokens (text : List Char) : (tokens text).flatten = text := by
  induction text with
  | nil => rfl
  | cons c rest ih =>
    unfold tokens
    split
    · rw [flatten_consPart, ih]
    · rw [List.flatten_cons, ih]
      rfl

theorem tokens_cons_other {c : Char} (hc : isWord c = false) (rest : List Char) :
    tokens (c :: rest) = [c] :: tokens rest := by
  simp [tokens, hc]

/-- Words do not reach over a place that has no word character on one of its sides. -/
theorem tokens_append (x y : List Char) (h : (endsWord x && beginsWord y) = false) :
    tokens (x ++ y) = tokens x ++ tokens y := by
  induction x with
  | nil => rfl
  | cons c x ih =>
    by_cases hx : x = []
    · subst hx
      have hc : (isWord c && beginsWord y) = false := h
      have hnil : beginsWord [] = false := rfl
      simp [tokens, hc, hnil]
    · obtain ⟨d, x, rfl⟩ := List.exists_cons_of_ne_nil hx
      have hends : endsWord (c :: d :: x) = endsWord (d :: x) := by
        unfold endsWord
        rw [List.getLast?_cons_cons]
      have hsame : beginsWord (d :: x ++ y) = beginsWord (d :: x) := rfl
      obtain ⟨t, ts, ht⟩ := List.exists_cons_of_ne_nil (tokens_ne_nil hx)
      rw [List.cons_append, tokens, tokens, hsame, ih (hends ▸ h), ht]
      split <;> rfl

theorem tokens_word {w : List Char} (hw : w ≠ []) (hall : w.all isWord = true) : tokens w = [w] := by
  induction w with
  | nil => exact absurd rfl hw
  | cons c w ih =>
    rw [List.all_cons, Bool.and_eq_true] at hall
    cases w with
    | nil => simp [tokens, beginsWord]
    | cons d w =>
      have hd : beginsWord (d :: w) = true := by
        rw [List.all_cons, Bool.and_eq_true] at hall
        exact hall.2.1
      rw [tokens, ih (List.cons_ne_nil d w) hall.2, hall.1, hd]
      rfl

theorem endsWord_of_all {w : List Char} (hw : w ≠ []) (hall : w.all isWord = true) :
    endsWord w = true := by
  unfold endsWord
  rw [List.getLast?_eq_some_getLast hw]
  exact List.all_eq_true.mp hall _ (List.getLast_mem hw)

/-- A word that cannot go on what stands before it begins at an edge. -/
theorem isWordSide_before {before : Option Char} {w rest : List Char} (hw : w ≠ [])
    (hall : w.all isWord = true) (h : (isWordSide false before && beginsWord (w ++ rest)) = false) :
    isWordSide false before = false := by
  obtain ⟨c, x, rfl⟩ := List.exists_cons_of_ne_nil hw
  rw [List.all_cons, Bool.and_eq_true] at hall
  have hc : beginsWord (c :: x ++ rest) = true := hall.1
  rwa [hc, Bool.and_true] at h

/-- What holds of the empty text, and goes over to a text with one more character or one more word in
front, holds of every text. -/
theorem word_induction {P : List Char → Prop} (nil : P [])
    (other : ∀ c rest, isWord c = false → P rest → P (c :: rest))
    (word : ∀ w rest, w ≠ [] → w.all isWord = true → beginsWord rest = false → P rest →
      P (w ++ rest)) (text : List Char) : P text := by
  induction hn : text.length using Nat.strongRecOn generalizing text with
  | ind n ih =>
    cases text with
    | nil => exact nil
    | cons c rest =>
      by_cases hc : isWord c = true
      · have hcut := List.takeWhile_append_dropWhile (p := isWord) (l := c :: rest)
        have hw : (c :: rest).takeWhile isWord ≠ [] := by simp [hc]
        rw [← hcut]
        refine word _ _ hw List.all_takeWhile ?_ (ih _ ?_ _ rfl)
        · unfold beginsWord
          have hstop := List.head?_dropWhile_not isWord (c :: rest)
          cases hhead : ((c :: rest).dropWhile isWord).head? with
          | none => rfl
          | some d =>
            rw [hhead] at hstop
            simpa using hstop
        · have hlength := congrArg List.length hcut
          have hpos := List.length_pos_of_ne_nil hw
          rw [List.length_append] at hlength
          omega
      · have hshort : rest.length < n := by
          rw [← hn, List.length_cons]
          omega
        exact other c rest (by simpa using hc) (ih _ hshort rest rfl)

/-! ## Whole words -/

variable {name : String} {tail : List Item}

/-- A pattern for a whole word is made of word characters. -/
structure IsWordName (name : String) : Prop where
  ne_nil : name.toList ≠ []
  all : name.toList.all isWord = true

/-- A name from the edge of a word on, and a tail behind it. -/
def named (name : String) (tail : List Item) : List Item := edge :: (literal name.toList ++ tail)

/-- The tail does not go on within a word. -/
def Stops (tail : List Item) : Prop :=
  ∀ b c rest, isWord b = true → isWord c = true → matchAt tail (some b) (c :: rest) = none

theorem takes_named (hname : IsWordName name) : (named name tail).any Item.takes = true := by
  obtain ⟨c, x, hx⟩ := List.exists_cons_of_ne_nil hname.ne_nil
  simp [named, hx, literal, Item.takes]

/-- Behind the name the tail decides. -/
theorem matchAt_named_self (hname : IsWordName name) {before : Option Char}
    (hbefore : isWordSide false before = false) (rest : List Char) :
    matchAt (named name tail) before (name.toList ++ rest) =
      (matchAt tail name.toList.getLast? rest).map fun found =>
        (name.toList ++ found.1, found.2) := by
  obtain ⟨c, w, hw⟩ := List.exists_cons_of_ne_nil hname.ne_nil
  have hc : isWord c = true := by
    have hall := hname.all
    rw [hw, List.all_cons, Bool.and_eq_true] at hall
    exact hall.1
  have hfirst : (Look.word .boundary false).holds before (name.toList ++ rest).head? = true := by
    simp [hw, Look.holds, WordEdge.holds, hbefore, hc]
  unfold named edge
  rw [matchAt, if_pos hfirst, matchAt_literal_append, List.getLast?_eq_some_getLast hname.ne_nil,
    Option.some_or]

theorem matchAt_keyword_self (hname : IsWordName name) {before : Option Char} {rest : List Char}
    (hbefore : isWordSide false before = false) (hrest : beginsWord rest = false) :
    matchAt (keyword name) before (name.toList ++ rest) = some (name.toList, []) := by
  have hends := endsWord_of_all hname.ne_nil hname.all
  have hlast : (Look.word .boundary false).holds name.toList.getLast? rest.head? = true := by
    unfold endsWord at hends
    unfold beginsWord at hrest
    simp only [Look.holds, WordEdge.holds, hends, hrest]
    rfl
  refine (matchAt_named_self hname hbefore rest).trans ?_
  rw [edge, matchAt, if_pos hlast]
  simp [matchAt]

/-- Word characters at the front of a text belong to its first word. -/
theorem prefix_of_prefix_word {x w rest : List Char} (hx : x.all isWord = true)
    (hrest : beginsWord rest = false) (h : x <+: w ++ rest) : x <+: w := by
  rcases List.prefix_or_prefix_of_prefix h (List.prefix_append w rest) with hin | hout
  · exact hin
  · obtain ⟨y, rfl⟩ := hout
    rw [List.prefix_append_right_inj] at h
    cases y with
    | nil => rw [List.append_nil]
    | cons d y =>
      rw [List.all_append, Bool.and_eq_true, List.all_cons, Bool.and_eq_true] at hx
      obtain ⟨rest', rfl⟩ := h
      have hd : beginsWord (d :: y ++ rest') = true := hx.2.1
      rw [hrest] at hd
      cases hd

/-- There is no edge between two word characters. -/
theorem matchAt_edge_inside {b c : Char} (hb : isWord b = true) (hc : isWord c = true)
    (items : List Item) (rest : List Char) :
    matchAt (edge :: items) (some b) (c :: rest) = none := by
  have hedge : (Look.word .boundary false).holds (some b) (c :: rest).head? = false := by
    simp [Look.holds, WordEdge.holds, hb, hc]
  unfold edge
  rw [matchAt, hedge]
  rfl

theorem stops_edge (items : List Item) : Stops (edge :: items) :=
  fun _ _ rest hb hc => matchAt_edge_inside hb hc items rest

/-- The pattern does not match where a word begins that is not its own. -/
theorem matchAt_named_other (hname : IsWordName name) (htail : Stops tail) (before : Option Char)
    {w rest : List Char} (hw : w.all isWord = true) (hrest : beginsWord rest = false)
    (hne : w ≠ name.toList) : matchAt (named name tail) before (w ++ rest) = none := by
  have hliteral : matchAt (literal name.toList ++ tail) before (w ++ rest) = none := by
    by_cases hpre : name.toList <+: w ++ rest
    · obtain ⟨x, rfl⟩ := prefix_of_prefix_word hname.all hrest hpre
      cases x with
      | nil => exact absurd (List.append_nil _) hne
      | cons d x =>
        -- the word goes on behind the name
        rw [List.all_append, Bool.and_eq_true, List.all_cons, Bool.and_eq_true] at hw
        have hends := endsWord_of_all hname.ne_nil hname.all
        unfold endsWord at hends
        rw [List.append_assoc, matchAt_literal_append, List.getLast?_eq_some_getLast hname.ne_nil]
        rw [List.getLast?_eq_some_getLast hname.ne_nil] at hends
        rw [Option.some_or, List.cons_append, htail _ _ _ hends hw.2.1]
        rfl
    · exact matchAt_literal_eq_none _ _ hpre
  unfold named
  rw [edge, matchAt]
  split
  · exact hliteral
  · rfl

theorem matchAt_named_outside (hname : IsWordName name) (before : Option Char) {c : Char}
    (hc : isWord c = false) (rest : List Char) :
    matchAt (named name tail) before (c :: rest) = none := by
  obtain ⟨d, w, hw⟩ := List.exists_cons_of_ne_nil hname.ne_nil
  have hd : isWord d = true := by
    have hall := hname.all
    rw [hw, List.all_cons, Bool.and_eq_true] at hall
    exact hall.1
  have hne : c ≠ d := by
    rintro rfl
    rw [hc] at hd
    cases hd
  unfold named edge
  rw [matchAt, hw, literal_cons, List.cons_append, matchAt_single_ne _ _ _ hne]
  split <;> rfl

/-- A word is kept where no match begins at its first character. -/
theorem piecesFrom_word_kept {items : List Item} {before : Option Char} {w rest : List Char}
    (hw : w ≠ []) (hall : w.all isWord = true)
    (hnone : matchAt (edge :: items) before (w ++ rest) = none) :
    piecesFrom (edge :: items) before (w ++ rest) =
      w.map .kept ++ piecesFrom (edge :: items) w.getLast? rest := by
  rw [piecesFrom_append_kept]
  · rw [List.getLast?_eq_some_getLast hw, Option.some_or]
  · intro u c v hx
    rcases List.eq_nil_or_concat u with rfl | ⟨u, b, rfl⟩
    · rw [List.nil_append] at hx
      rw [← hx]
      exact hnone
    · rw [List.concat_eq_append] at hx ⊢
      rw [hx] at hall
      simp only [List.all_append, List.all_cons, List.all_nil, Bool.and_true, Bool.and_eq_true] at hall
      rw [List.getLast?_concat, Option.some_or]
      exact matchAt_edge_inside hall.1.2 hall.2.1 _ _

/-- A word is one piece where it is the name, and kept where it is not. -/
theorem piecesFrom_keyword_word (hname : IsWordName name) {before : Option Char} {w rest : List Char}
    (hw : w ≠ []) (hall : w.all isWord = true) (hbefore : isWordSide false before = false)
    (hrest : beginsWord rest = false) :
    piecesFrom (keyword name) before (w ++ rest) =
      (if w = name.toList then [.hit ⟨w, []⟩] else w.map .kept) ++
        piecesFrom (keyword name) w.getLast? rest := by
  by_cases he : w = name.toList
  · have hmatch := matchAt_keyword_self hname hbefore hrest
    have htakes : (keyword name).any Item.takes = true := takes_named hname
    rw [if_pos he, he, piecesFrom_hit htakes hmatch]
    rfl
  · rw [if_neg he]
    exact piecesFrom_word_kept hw hall
      (matchAt_named_other hname (stops_edge []) before hall hrest he)

/-- What a substitution for a whole word makes of a text, told word by word. -/
theorem replaced_keyword (hname : IsWordName name) (rep : Hit → List Char) (before : Option Char)
    (text : List Char) (h : (isWordSide false before && beginsWord text) = false) :
    replaced rep (piecesFrom (keyword name) before text) =
      (tokens text).flatMap fun t => if t = name.toList then rep ⟨t, []⟩ else t := by
  induction text using word_induction generalizing before with
  | nil => rfl
  | other c rest hc ih =>
    have hne : [c] ≠ name.toList := by
      intro he
      have hall := hname.all
      rw [← he, List.all_cons, hc] at hall
      cases hall
    have hnext : (isWordSide false (some c) && beginsWord rest) = false := by
      rw [isWordSide_some, hc]
      rfl
    have hnone : matchAt (keyword name) before (c :: rest) = none :=
      matchAt_named_outside hname before hc rest
    rw [piecesFrom_kept hnone, replaced_cons_kept,
      ih (some c) hnext, tokens_cons_other hc, List.flatMap_cons, if_neg hne]
    rfl
  | word w rest hw hall hrest ih =>
    have hbefore : isWordSide false before = false := isWordSide_before hw hall h
    have hnext : (isWordSide false w.getLast? && beginsWord rest) = false := by
      rw [hrest, Bool.and_false]
    have hcut : (endsWord w && beginsWord rest) = false := by
      rw [hrest, Bool.and_false]
    rw [piecesFrom_keyword_word hname hw hall hbefore hrest, replaced_append, ih _ hnext,
      tokens_append w rest hcut, tokens_word hw hall, List.flatMap_append, List.flatMap_singleton]
    split
    · rw [replaced_cons_hit]
      simp [replaced]
    · rw [replaced_kept]

theorem text_apply_keyword {s : Substitution} (hs : s.Walks (keyword name)) (hname : IsWordName name)
    (hplain : '$' ∉ s.replacement) (text : List Char) :
    (s.apply text).text =
      (tokens text).flatMap fun t => if t = name.toList then s.replacement else t := by
  rw [Substitution.text_apply hs, replaced_keyword hname _ none text rfl]
  have hrep : ∀ t, s.replace ⟨t, []⟩ = s.replacement := fun t =>
    Template.expand_read_plain _ _ _ hplain
  simp only [hrep]

/-- A text without the word stays. -/
theorem flatMap_tokens_of_not_mem {w text : List Char} (rep : List Char) (h : w ∉ tokens text) :
    ((tokens text).flatMap fun t => if t = w then rep else t) = text := by
  have hsame : ∀ ts : List (List Char), w ∉ ts →
      (ts.flatMap fun t => if t = w then rep else t) = ts.flatten := by
    intro ts hts
    induction ts with
    | nil => rfl
    | cons t ts ih =>
      rw [List.mem_cons, not_or] at hts
      rw [List.flatMap_cons, List.flatten_cons, if_neg (Ne.symm hts.1), ih hts.2]
  rw [hsame _ h, flatten_tokens]

/-- A word between two texts that do not touch it is replaced by itself. -/
theorem text_apply_between {s : Substitution} (hs : s.Walks (keyword name)) (hname : IsWordName name)
    (hplain : '$' ∉ s.replacement) {a b w : List Char} (ha : endsWord a = false)
    (hb : beginsWord b = false) (hw : w.all isWord = true) (hna : name.toList ∉ tokens a)
    (hnb : name.toList ∉ tokens b) :
    (s.apply (a ++ (w ++ b))).text =
      a ++ ((if w = name.toList then s.replacement else w) ++ b) := by
  have hleft : (endsWord a && beginsWord (w ++ b)) = false := by rw [ha, Bool.false_and]
  have hright : (endsWord w && beginsWord b) = false := by rw [hb, Bool.and_false]
  rw [text_apply_keyword hs hname hplain, tokens_append a _ hleft, tokens_append w b hright,
    List.flatMap_append, List.flatMap_append, flatMap_tokens_of_not_mem _ hna,
    flatMap_tokens_of_not_mem _ hnb]
  congr 2
  by_cases hw' : w = []
  · subst hw'
    rw [if_neg (Ne.symm hname.ne_nil)]
    rfl
  · rw [tokens_word hw' hw, List.flatMap_singleton]

end SqlDump
