-- The substitutions of types make one pass over a text, word by word, whatever their order. A closing bracket
-- with a word directly behind it is the one place where the order could be told.
import SqlDump.Proofs.Absence
import SqlDump.Proofs.ColumnTypes
import Mathlib.Data.List.Chain
import Mathlib.Data.List.Perm.Basic

namespace SqlDump

open Regex Regex.Sequence
open Unicode (isWord isDigit)

/-! ## Words side by side -/

/-- A word, or another character. -/
inductive IsToken : List Char → Prop
  | word {w : List Char} (ne_nil : w ≠ []) (all : w.all isWord = true) : IsToken w
  | other {c : Char} (not_word : isWord c = false) : IsToken [c]

theorem IsToken.ne_nil {w : List Char} (h : IsToken w) : w ≠ [] := by
  cases h with
  | word hne => exact hne
  | other => exact List.cons_ne_nil _ []

theorem beginsWord_append {x : List Char} (hx : x ≠ []) (y : List Char) :
    beginsWord (x ++ y) = beginsWord x := by
  obtain ⟨c, x, rfl⟩ := List.exists_cons_of_ne_nil hx
  rfl

/-- Words and other characters one after another, where no word goes on in the next one. -/
def Parted : List (List Char) → Prop
  | [] => True
  | w :: ws => IsToken w ∧ (endsWord w = true → beginsWord ws.flatten = false) ∧ Parted ws

theorem parted_tokens (text : List Char) : Parted (tokens text) := by
  induction text using word_induction with
  | nil => trivial
  | other c rest hc ih =>
    rw [tokens_cons_other hc]
    refine ⟨.other hc, fun hends => ?_, ih⟩
    have hword : isWord c = true := hends
    rw [hc] at hword
    cases hword
  | word w rest hw hall hrest ih =>
    have hcut : (endsWord w && beginsWord rest) = false := by rw [hrest, Bool.and_false]
    rw [tokens_append w rest hcut, tokens_word hw hall, List.singleton_append]
    refine ⟨.word hw hall, fun _ => ?_, ih⟩
    rw [flatten_tokens]
    exact hrest

/-- The words of a text put together have these words. -/
theorem tokens_flatten {ws : List (List Char)} (h : Parted ws) : tokens ws.flatten = ws := by
  induction ws with
  | nil => rfl
  | cons w ws ih =>
    obtain ⟨hw, hnext, hws⟩ := h
    rw [List.flatten_cons]
    cases hw with
    | @other c hc => rw [List.singleton_append, tokens_cons_other hc, ih hws]
    | word hne hall =>
      have hends := endsWord_of_all hne hall
      have hcut : (endsWord w && beginsWord ws.flatten) = false := by
        rw [hends, hnext hends]
        rfl
      rw [tokens_append w _ hcut, tokens_word hne hall, ih hws, List.singleton_append]

/-- No word character stands directly behind a closing bracket. -/
def ClearBrackets (text : List Char) : Prop := text.IsChain fun a b => a = ')' → isWord b = false

instance (text : List Char) : Decidable (ClearBrackets text) :=
  inferInstanceAs (Decidable (text.IsChain _))

/-- Each text is one word of the text they make together, and none begins directly behind a closing
bracket. -/
def Spaced : List (List Char) → Prop
  | [] => True
  | w :: ws =>
    IsToken w ∧ (endsWord w = true ∨ w = [')'] → beginsWord ws.flatten = false) ∧ Spaced ws

theorem Spaced.parted {ws : List (List Char)} (h : Spaced ws) : Parted ws := by
  induction ws with
  | nil => trivial
  | cons w ws ih => exact ⟨h.1, fun hends => h.2.1 (Or.inl hends), ih h.2.2⟩

theorem Parted.spaced {ws : List (List Char)} (h : Parted ws) (hclear : ClearBrackets ws.flatten) :
    Spaced ws := by
  induction ws with
  | nil => trivial
  | cons w ws ih =>
    obtain ⟨hw, hnext, hws⟩ := h
    rw [List.flatten_cons] at hclear
    refine ⟨hw, ?_, ih hws hclear.right_of_append⟩
    rintro (hends | rfl)
    · exact hnext hends
    · cases hrest : ws.flatten with
      | nil => rfl
      | cons c rest =>
        rw [hrest] at hclear
        exact (List.isChain_cons_cons.mp hclear).1 rfl

theorem spaced_tokens {text : List Char} (h : ClearBrackets text) : Spaced (tokens text) :=
  (parted_tokens text).spaced ((flatten_tokens text).symm ▸ h)

namespace Spaced

variable {w : List Char} {f ws : List (List Char)}

theorem right (h : Spaced (f ++ ws)) : Spaced ws := by
  induction f with
  | nil => exact h
  | cons w f ih => exact ih h.2.2

theorem left (h : Spaced (f ++ ws)) : Spaced f := by
  induction f with
  | nil => trivial
  | cons w f ih =>
    obtain ⟨hw, hnext, hrest⟩ := h
    refine ⟨hw, fun hends => ?_, ih hrest⟩
    cases f with
    | nil => rfl
    | cons v f =>
      have hbegins : beginsWord (v ++ (f ++ ws).flatten) = false := hnext hends
      rw [beginsWord_append hrest.1.ne_nil] at hbegins
      rwa [List.flatten_cons, beginsWord_append hrest.1.ne_nil]

theorem append (hf : Spaced f) (hws : Spaced ws) (h : beginsWord ws.flatten = false) :
    Spaced (f ++ ws) := by
  induction f with
  | nil => exact hws
  | cons w f ih =>
    obtain ⟨hw, hnext, hrest⟩ := hf
    refine ⟨hw, fun hends => ?_, ih hrest⟩
    cases f with
    | nil => exact h
    | cons v f =>
      have hbegins : beginsWord (v ++ f.flatten) = false := hnext hends
      have hgoal : beginsWord (v ++ (f ++ ws).flatten) = false := by
        rwa [beginsWord_append hrest.1.ne_nil] at hbegins ⊢
      exact hgoal

end Spaced

/-! ## Patterns along words -/

theorem not_isDigit_of_not_isWord {c : Char} (h : isWord c = false) : isDigit c = false := by
  by_contra hd
  rw [Unicode.isWord_of_isDigit (by simpa using hd)] at h
  cases h

/-- Digits reach to the end of their word. -/
theorem takeWhile_number {w rest : List Char} (hw : w.all isDigit = true)
    (hrest : beginsWord rest = false) : (w ++ rest).takeWhile isDigit = w := by
  refine takeWhile_of_stop hw fun c hc => not_isDigit_of_not_isWord ?_
  cases rest with
  | nil => cases hc
  | cons d rest =>
    cases hc
    exact hrest

/-- A text that is not all of one sort is cut before the first character of another one. -/
theorem exists_first_not {p : Char → Bool} {w : List Char} (h : w.all p = false) :
    ∃ x c y, w = x ++ c :: y ∧ x.all p = true ∧ p c = false := by
  induction w with
  | nil => cases h
  | cons c w ih =>
    by_cases hc : p c = true
    · rw [List.all_cons, hc, Bool.true_and] at h
      obtain ⟨x, d, y, rfl, hx, hd⟩ := ih h
      exact ⟨c :: x, d, y, rfl, by rw [List.all_cons, hc, hx]; rfl, hd⟩
    · exact ⟨[], c, w, rfl, rfl, by simpa using hc⟩

namespace WordKind

variable {ks : List WordKind} {w : List Char} {ws : List (List Char)}

/-- What a pattern takes for a word of the kind. -/
def item (captured : Bool) : WordKind → Item
  | mark c => .char (.single c)
  | number => .run .digit captured

/-- A mark is taken where it is the next word. -/
theorem matchAt_mark {c : Char} (hc : isWord c = false) (hw : IsToken w) (items : List Item)
    (before : Option Char) (text : List Char) :
    matchAt (.char (.single c) :: items) before (w ++ text) =
      if w = [c] then (matchAt items (some c) text).map fun found => (c :: found.1, found.2)
      else none := by
  by_cases he : w = [c]
  · subst he
    rw [if_pos rfl, List.singleton_append, matchAt_single_self]
  · obtain ⟨d, x, rfl⟩ := List.exists_cons_of_ne_nil hw.ne_nil
    have hne : d ≠ c := by
      rintro rfl
      cases hw with
      | word _ hall =>
        rw [List.all_cons, hc] at hall
        cases hall
      | other => exact he rfl
    rw [if_neg he, List.cons_append, matchAt_single_ne _ _ _ hne]

/-- Before a mark a number is taken as a whole word. -/
theorem matchAt_number {c : Char} (hc : isWord c = false) (hw : IsToken w) {text : List Char}
    (htext : endsWord w = true → beginsWord text = false) (captured : Bool) (items : List Item)
    (before : Option Char) :
    matchAt (.run .digit captured :: .char (.single c) :: items) before (w ++ text) =
      if isNumber w then
        (matchAt (.char (.single c) :: items) w.getLast? text).map fun found =>
          (w ++ found.1, if captured then w :: found.2 else found.2)
      else none := by
  have hmem : CharSet.digit.mem = isDigit := rfl
  cases hw with
  | @other d hd =>
    have hdigit : isDigit d = false := not_isDigit_of_not_isWord hd
    simp [matchAt, hmem, hdigit, isNumber]
  | word hne hall =>
    by_cases hd : w.all isDigit = true
    · have htake : (w ++ text).takeWhile isDigit = w :=
        takeWhile_number hd (htext (endsWord_of_all hne hall))
      have hnumber : isNumber w = true := by simp [isNumber, hd, hne]
      rw [matchAt, if_pos hnumber, hmem, htake, List.drop_left, if_neg (by simp [hne])]
    · obtain ⟨x, d, y, rfl, hx, hdigit⟩ := exists_first_not (by simpa using hd)
      have hnumber : isNumber (x ++ d :: y) = false := by simp [isNumber, hdigit]
      -- the digits stop within the word, and the mark is to stand behind them
      have hne' : d ≠ c := by
        rintro rfl
        simp [hc] at hall
      have htake : (x ++ d :: (y ++ text)).takeWhile isDigit = x := by
        rw [List.takeWhile_append_of_pos (List.all_eq_true.mp hx),
          List.takeWhile_cons_of_neg (by simp [hdigit]), List.append_nil]
      rw [matchAt, hnumber, List.append_assoc, List.cons_append, hmem, htake, List.drop_left,
        matchAt_single_ne _ _ _ hne']
      simp

/-- Along words the items take what is of their kinds. -/
theorem matchAt_items (hk : settled ks = true) (hs : Spaced ws) (captured : Bool)
    (before : Option Char) :
    matchAt (ks.map (item captured)) before ws.flatten =
      (take? ks ws).map fun f => (f.flatten, if captured then f.filter isNumber else []) := by
  induction ks generalizing ws before with
  | nil => cases captured <;> simp [matchAt, take?]
  | cons k ks ih =>
    cases ws with
    | nil => cases k <;> rfl
    | cons w ws =>
      obtain ⟨hw, hnext, hws⟩ := hs
      have hrest := ih (settled_tail hk) hws
      cases k with
      | mark c =>
        rw [settled, Bool.and_eq_true, Bool.not_eq_true'] at hk
        have hnumber : isNumber [c] = false := by
          simp [isNumber, not_isDigit_of_not_isWord hk.1]
        rw [List.map_cons, item, List.flatten_cons, matchAt_mark hk.1 hw, hrest]
        by_cases hc : w = [c]
        · subst hc
          cases captured <;> simp [take?, fits, hnumber, Function.comp_def]
        · have hfits : (mark c).fits w = false := beq_eq_false_iff_ne.mpr hc
          rw [if_neg hc, take?, hfits]
          rfl
      | number =>
        rw [settled, Bool.and_eq_true] at hk
        obtain ⟨c, ks, rfl⟩ : ∃ c ks', ks = mark c :: ks' := by
          rcases ks with _ | ⟨_ | _, ks⟩
          · cases hk.1
          · exact ⟨_, ks, rfl⟩
          · cases hk.1
        have hc : isWord c = false := by
          have hmark := hk.2
          rw [settled, Bool.and_eq_true, Bool.not_eq_true'] at hmark
          exact hmark.1
        have hopen : endsWord w = true → beginsWord ws.flatten = false := fun h => hnext (Or.inl h)
        have hitems : (mark c :: ks).map (item captured) =
            .char (.single c) :: ks.map (item captured) := rfl
        rw [hitems] at hrest
        rw [List.map_cons, hitems, item, List.flatten_cons, matchAt_number hc hw hopen, hrest, take?, fits]
        by_cases hn : isNumber w = true
        · rw [if_pos hn, if_pos hn]
          cases captured <;> simp [hn, Function.comp_def]
        · rw [if_neg hn, if_neg hn]
          rfl

end WordKind

namespace Extent

open WordKind

variable {w : List Char} {ws f : List (List Char)}

/-- What a pattern takes behind the name. -/
def items (captured : Bool) : Extent → List Item
  | bare => [edge]
  | e => e.kinds.map (WordKind.item captured)

theorem stops_items (captured : Bool) (e : Extent) : Stops (e.items captured) := by
  intro b c rest hb hc
  have hne : c ≠ '(' := by
    rintro rfl
    cases hc
  cases e with
  | bare => exact matchAt_edge_inside hb hc [] rest
  | width => exact matchAt_single_ne _ _ _ hne
  | scale => exact matchAt_single_ne _ _ _ hne

/-- Behind a name that is a whole word the items take what is of their kinds. -/
theorem matchAt_items (captured : Bool) (e : Extent) (hws : Spaced ws) {before : Option Char}
    (hbefore : isWordSide false before = true) (hnext : beginsWord ws.flatten = false) :
    matchAt (e.items captured) before ws.flatten =
      (take? e.kinds ws).map fun f => (f.flatten, if captured then f.filter isNumber else []) := by
  cases e with
  | bare =>
    unfold beginsWord at hnext
    have hedge : (Look.word .boundary false).holds before ws.flatten.head? = true := by
      simp only [Look.holds, WordEdge.holds, hbefore, hnext]
      rfl
    rw [items, edge, matchAt, if_pos hedge]
    cases captured <;> simp [matchAt, kinds, take?]
  | width => exact WordKind.matchAt_items (settled_kinds width) hws captured before
  | scale => exact WordKind.matchAt_items (settled_kinds scale) hws captured before

/-- A type without a width is its name; another one ends with a closing bracket. -/
theorem closes {e : Extent} (h : AllFit e.kinds f) : f = [] ∨ f.getLast? = some [')'] := by
  have hends : e.kinds = [] ∨ ∃ ks, e.kinds.reverse = .mark ')' :: ks := by
    cases e with
    | bare => exact Or.inl rfl
    | width => exact Or.inr ⟨_, rfl⟩
    | scale => exact Or.inr ⟨_, rfl⟩
  rcases hends with hnil | ⟨ks, hks⟩
  · rw [hnil] at h
    cases h
    exact Or.inl rfl
  · have hreverse := List.forall₂_reverse_iff.mpr h
    rw [hks] at hreverse
    obtain ⟨v, g, hv, -, hg⟩ := List.forall₂_cons_left_iff.mp hreverse
    right
    rw [← List.head?_reverse, hg]
    exact congrArg some (eq_of_beq hv)

end Extent

/-! ## A pass along a text -/

namespace ColumnType

open WordKind

variable {t u : ColumnType} {types : List ColumnType} {w : List Char} {ws f rest : List (List Char)}

/-- Behind a type no word begins. -/
theorem not_beginsWord_behind (ht : IsWordName t.name) (hf : AllFit t.extent.kinds f)
    (hs : Spaced (t.name.toList :: (f ++ rest))) : beginsWord rest.flatten = false := by
  rcases Extent.closes hf with rfl | hclose
  · exact hs.2.1 (Or.inl (endsWord_of_all ht.ne_nil ht.all))
  · obtain ⟨g, rfl⟩ := List.getLast?_eq_some_iff.mp hclose
    have hlast : Spaced ([')'] :: rest) := by
      have hright := hs.2.2
      rw [List.append_assoc] at hright
      exact hright.right
    exact hlast.2.1 (Or.inr rfl)

/-- What a type is converted to are words of a text, as its old words are. -/
theorem spaced_converted (ht : t ∈ columnTypes) (hs : Spaced (t.name.toList :: f)) :
    Spaced (t.converted f) := by
  have hclear : ∀ t ∈ columnTypes, ClearBrackets t.new.toList := by decide
  have hnew := spaced_tokens (hclear t ht)
  have hname := (sound_of_mem ht).name
  have hnext := hs.2.1 (Or.inl (endsWord_of_all hname.ne_nil hname.all))
  unfold converted
  split
  · exact hnew.append hs.2.2 hnext
  · exact hnew.append trivial rfl

theorem beginsWord_of_beginsName {w : List Char} (h : beginsName w = true) (y : List Char) :
    beginsWord (w ++ y) = true := by
  cases w with
  | nil => cases h
  | cons c w =>
    have hc : (isWord c && !isDigit c) = true := h
    exact (Bool.and_eq_true_iff.mp hc).1

/-- A pass leaves the words of a text, and where there was a word at the front there still is. -/
theorem spaced_pass (ht : t ∈ columnTypes) {ws : List (List Char)} (hs : Spaced ws) :
    Spaced (pass [t] 0 ws) ∧
      beginsWord (pass [t] 0 ws).flatten = beginsWord ws.flatten := by
  have hsub := singleton_subset ht
  induction ws using pass_induction [t] with
  | nil => exact ⟨trivial, rfl⟩
  | kept w ws hnone ih =>
    obtain ⟨hrest, hsame⟩ := ih hs.2.2
    rw [pass_kept hnone, List.flatten_cons, List.flatten_cons, beginsWord_append hs.1.ne_nil,
      beginsWord_append hs.1.ne_nil]
    refine ⟨⟨hs.1, fun hw => ?_, hrest⟩, rfl⟩
    rw [hsame]
    exact hs.2.1 hw
  | hit u hu f rest hf ih =>
    obtain rfl := List.mem_singleton.mp hu
    have hsound := sound_of_mem ht
    have hold : Spaced ((u.name.toList :: f) ++ rest) := hs
    obtain ⟨hrest, hsame⟩ := ih hold.right
    rw [pass_hit hsub hu hf]
    refine ⟨(spaced_converted ht hold.left).append hrest ?_, ?_⟩
    · rw [hsame]
      exact not_beginsWord_behind hsound.name hf hs
    · obtain ⟨v, vs, hconverted, hv⟩ := exists_converted ht f
      rw [List.flatten_cons, beginsWord_of_beginsName hsound.begins, hconverted]
      exact beginsWord_of_beginsName hv _

/-- The items of the type's pattern. -/
def items (t : ColumnType) : List Item := named t.name (t.extent.items t.keeps)

/-- The numbers that are kept for the new type. -/
def numbers (t : ColumnType) (f : List (List Char)) : List (List Char) :=
  if t.keeps then f.filter isNumber else []

/-- At a word the pattern matches where the word names the type and goes on as it must. -/
theorem matchAt_word (ht : IsWordName t.name) {before : Option Char} (hw : w ≠ [])
    (hall : w.all isWord = true) (hs : Spaced (w :: ws)) (hbefore : isWordSide false before = false) :
    matchAt t.items before (w ++ ws.flatten) =
      if w = t.name.toList then
        (take? t.extent.kinds ws).map fun f => (w ++ f.flatten, t.numbers f)
      else none := by
  have hnext := hs.2.1 (Or.inl (endsWord_of_all hw hall))
  by_cases he : w = t.name.toList
  · subst he
    have hlast : isWordSide false t.name.toList.getLast? = true := endsWord_of_all hw hall
    rw [if_pos rfl, items, matchAt_named_self ht hbefore,
      Extent.matchAt_items t.keeps t.extent hs.2.2 hlast hnext, Option.map_map]
    rfl
  · rw [if_neg he]
    exact matchAt_named_other ht (t.extent.stops_items t.keeps) before hall hnext he

end ColumnType

/-- A word at which no match begins stays. -/
theorem edited_word_kept {its : List Item} {rep : Hit → List Char} {before : Option Char}
    {w rest : List Char} (hw : w ≠ []) (hall : w.all isWord = true)
    (hnone : matchAt (edge :: its) before (w ++ rest) = none) :
    edited (edge :: its) rep before (w ++ rest) = w ++ edited (edge :: its) rep w.getLast? rest := by
  unfold edited
  rw [piecesFrom_word_kept hw hall hnone, replaced_append, replaced_kept]

/-- A substitution that converts a type. -/
structure Converts (s : Substitution) (t : ColumnType) : Prop where
  walks : s.Walks t.items
  replace : ∀ {f}, WordKind.AllFit t.extent.kinds f → ∀ taken,
    s.replace ⟨taken, (t.numbers f).map some⟩ = (t.converted f).flatten

namespace Converts

open ColumnType

variable {s : Substitution} {t : ColumnType} {ws : List (List Char)}

/-- The substitution makes a pass for its type. -/
theorem edited_flatten (h : Converts s t) (ht : t ∈ columnTypes) (hs : Spaced ws) {before : Option Char}
    (hbefore : (isWordSide false before && beginsWord ws.flatten) = false) :
    edited t.items s.replace before ws.flatten = (pass [t] 0 ws).flatten := by
  have hsub := singleton_subset ht
  have hname := (sound_of_mem ht).name
  induction ws using pass_induction [t] generalizing before with
  | nil => rfl
  | kept w ws hnone ih =>
    rw [pass_kept hnone, List.flatten_cons, List.flatten_cons]
    have hws := hs.2.2
    cases hs.1 with
    | @other c hc =>
      have hnext : (isWordSide false (some c) && beginsWord ws.flatten) = false := by
        rw [isWordSide_some, hc, Bool.false_and]
      have hmatch : matchAt t.items before (c :: ws.flatten) = none :=
        matchAt_named_outside hname before hc _
      rw [List.singleton_append, edited_kept hmatch, ih hws hnext]
      rfl
    | word hw hall =>
      have hopen := isWordSide_before hw hall hbefore
      have hnext : (isWordSide false w.getLast? && beginsWord ws.flatten) = false := by
        rw [hs.2.1 (Or.inl (endsWord_of_all hw hall)), Bool.and_false]
      have hmatch : matchAt t.items before (w ++ ws.flatten) = none := by
        rw [matchAt_word hname hw hall hs hopen]
        have hconvert := hnone t List.mem_cons_self
        unfold convert? at hconvert
        split
        · rename_i he
          rw [if_pos he, Option.map_eq_none_iff] at hconvert
          rw [hconvert]
          rfl
        · rfl
      have hkept : edited t.items s.replace before (w ++ ws.flatten) =
          w ++ edited t.items s.replace w.getLast? ws.flatten := edited_word_kept hw hall hmatch
      rw [hkept, ih hws hnext]
  | hit u hu f rest hf ih =>
    obtain rfl := List.mem_singleton.mp hu
    have hold : Spaced ((u.name.toList :: f) ++ rest) := hs
    have hopen := isWordSide_before hname.ne_nil hname.all hbefore
    have hmatch : matchAt u.items before ((u.name.toList ++ f.flatten) ++ rest.flatten) =
        some (u.name.toList ++ f.flatten, u.numbers f) := by
      have hword := matchAt_word hname hname.ne_nil hname.all hs hopen
      rw [if_pos rfl, WordKind.take?_append hf, List.flatten_append] at hword
      rw [List.append_assoc]
      exact hword
    have hnext : (isWordSide false (u.name.toList ++ f.flatten).getLast? && beginsWord rest.flatten) =
        false := by
      rw [not_beginsWord_behind hname hf hs, Bool.and_false]
    rw [pass_hit hsub hu hf, List.flatten_cons, List.flatten_append, List.flatten_append,
      ← List.append_assoc, edited_hit h.walks.takes hmatch, h.replace hf, ih hold.right hnext]

theorem text_apply (h : Converts s t) (ht : t ∈ columnTypes) (hs : Spaced ws) :
    (s.apply ws.flatten).text = (pass [t] 0 ws).flatten := by
  rw [Substitution.text_apply h.walks]
  exact h.edited_flatten ht hs rfl

/-- Substitutions one after another make one pass for all their types. -/
theorem runSteps {subs : List Substitution} {types : List ColumnType}
    (h : List.Forall₂ Converts subs types) (hsub : types ⊆ columnTypes) (hs : Spaced ws) :
    RuleSet.runSteps (subs.map .always) ws.flatten = (pass types 0 ws).flatten := by
  induction h generalizing ws with
  | nil =>
    have hkept : pass [] 0 ws = ws := by
      induction ws with
      | nil => rfl
      | cons w ws ih => rw [pass_kept (fun _ hu => absurd hu List.not_mem_nil), ih hs.2.2]
    rw [hkept]
    rfl
  | @cons s t subs types hst _ ih =>
    have ht : t ∈ columnTypes := hsub List.mem_cons_self
    have hsub' : types ⊆ columnTypes := fun u hu => hsub (List.mem_cons_of_mem t hu)
    rw [List.map_cons, RuleSet.runSteps_cons, EditStep.text_always, hst.text_apply ht hs,
      ih hsub' (spaced_pass ht hs).1, pass_pass ht hsub']

end Converts

/-! ## The law -/

theorem converts_of_plain {s : Substitution} {t : ColumnType} (hs : s.Walks t.items)
    (hkeeps : t.keeps = false) (hnew : s.replacement = t.new.toList) (hplain : '$' ∉ t.new.toList) :
    Converts s t := by
  refine ⟨hs, fun _ taken => ?_⟩
  unfold Substitution.replace ColumnType.converted
  rw [hnew, Template.expand_read_plain _ _ _ hplain, hkeeps]
  simp [flatten_tokens]

theorem converts_of_width {s : Substitution} {t : ColumnType} (hs : s.Walks t.items)
    (hkeeps : t.keeps = true) (hwidth : t.extent = .width)
    (hnew : s.replacement = prefixed (t.new ++ "(") [] ")") (hplain : '$' ∉ (t.new ++ "(").toList) :
    Converts s t := by
  refine ⟨hs, fun {f} hf taken => ?_⟩
  rw [hwidth] at hf
  obtain ⟨_, _, hopen, ⟨n, _, hn, ⟨_, _, hclose, hnil, rfl⟩, rfl⟩, rfl⟩ := by
    simpa only [Extent.kinds, List.forall₂_cons_left_iff] using hf
  cases hnil
  obtain rfl := eq_of_beq hopen
  obtain rfl := eq_of_beq hclose
  have hnumbers : t.numbers [['('], n, [')']] = [n] := by
    have hn' : isNumber n = true := hn
    have hmarks : isNumber ['('] = false ∧ isNumber [')'] = false := by decide
    simp [ColumnType.numbers, hkeeps, hn', hmarks]
  unfold Substitution.replace ColumnType.converted
  rw [hnew, Template.expand_read_prefixed _ _ _ _ _ hplain (by decide), hnumbers, hkeeps]
  simp [flatten_tokens, Hit.group]

/-- Whether the replacement of a substitution spells the new type. -/
def spells (s : Substitution) (t : ColumnType) : Bool :=
  if t.keeps then
    decide (t.extent = .width ∧ s.replacement = prefixed (t.new ++ "(") [] ")" ∧
      '$' ∉ (t.new ++ "(").toList)
  else decide (s.replacement = t.new.toList ∧ '$' ∉ t.new.toList)

theorem converts_of_spells {s : Substitution} {t : ColumnType} (hs : s.Walks t.items)
    (h : spells s t = true) : Converts s t := by
  unfold spells at h
  cases hkeeps : t.keeps with
  | true =>
    rw [if_pos hkeeps, decide_eq_true_eq] at h
    exact converts_of_width hs hkeeps h.1 h.2.1 h.2.2
  | false =>
    rw [if_neg (by simp [hkeeps]), decide_eq_true_eq] at h
    exact converts_of_plain hs hkeeps h.1 h.2

theorem converts_typeMappings : List.Forall₂ Converts typeMappings columnTypes := by
  have hwalks : List.Forall₂ (fun s (t : ColumnType) => s.Walks t.items) typeMappings columnTypes :=
    List.forall₂_map_right_iff.mp walks_typeMappings
  have hspells : ∀ pair ∈ typeMappings.zip columnTypes, spells pair.1 pair.2 = true := by decide
  obtain ⟨hlength, hpairs⟩ := List.forall₂_iff_zip.mp hwalks
  exact List.forall₂_iff_zip.mpr
    ⟨hlength, fun hmem => converts_of_spells (hpairs hmem) (hspells _ hmem)⟩

/-- Where no word character stands directly behind a closing bracket, the substitutions of types, one after
another in any order, convert the types in one pass over the words of the text. -/
theorem types_in_any_order_are_converted_in_one_pass (text : List Char) (h : ClearBrackets text)
    (order : List Substitution) (horder : order.Perm typeMappings) :
    RuleSet.runSteps (order.map .always) text = convertTypes text := by
  obtain ⟨types, htypes, hperm⟩ := List.perm_comp_forall₂ horder converts_typeMappings
  have hsub : types ⊆ columnTypes := hperm.subset
  have hrun := Converts.runSteps htypes hsub (spaced_tokens h)
  rw [flatten_tokens] at hrun
  rw [hrun, convertTypes, ColumnType.pass_congr hsub fun t => hperm.mem_iff]

/-- The last type first, where types stand side by side and in words. -/
theorem types_from_the_last_to_the_first :
    let text := "tinyint(1),varchar(08) text;double(4,2)-longtext_ int(x) mediumint(9) itext int(text)".toList
    (ClearBrackets text ∧ typeMappings.reverse.Perm typeMappings) ∧
      RuleSet.runSteps (typeMappings.reverse.map .always) text =
        "SMALLINT,VARCHAR(08) TEXT;DOUBLE PRECISION-longtext_ int(x) INTEGER itext int(TEXT)".toList := by
  intro text
  have h : ClearBrackets text := by decide +kernel
  have horder : typeMappings.reverse.Perm typeMappings := List.reverse_perm typeMappings
  refine ⟨⟨h, horder⟩, ?_⟩
  rw [types_in_any_order_are_converted_in_one_pass text h _ horder]
  decide +kernel

/-- Directly behind a bracket the order is told: a name becomes a word of its own or not. -/
example :
    RuleSet.runSteps (typeMappings.map .always) "int(1)text".toList = "INTEGERtext".toList ∧
      RuleSet.runSteps (typeMappings.reverse.map .always) "int(1)text".toList =
        "INTEGERTEXT".toList := by decide +kernel

end SqlDump
