-- Backquotes on their way through the pipeline. Each step takes them in pairs and brings no two of them
-- together, so that of a line one is left where their number is odd, and none where it is even.
import SqlDump.Proofs.StableTypes

namespace SqlDump

open Regex Regex.Sequence
open Unicode (isWord)

/-! ## Quotes in a match -/

/-- How many backquotes an item takes. -/
def quotesOf : Item → Nat
  | .char (.single c) => if c = '\x60' then 1 else 0
  | _ => 0

/-- How many backquotes items take one after another. -/
def quotesTaken : List Item → Nat
  | [] => 0
  | item :: items => quotesOf item + quotesTaken items

/-- Whether that can be told: the item is one character, or a run without backquotes. -/
def tellsQuotes : Item → Bool
  | .char (.single _) => true
  | .char _ => false
  | .run s _ => !s.mem '\x60'
  | .look _ => true

theorem count_quote_char {s : CharSet} (h : tellsQuotes (.char s) = true) {c : Char}
    (hc : s.mem c = true) : [c].count '\x60' = quotesOf (.char s) := by
  cases s with
  | single d =>
    obtain rfl : c = d := by simpa using hc
    simp [quotesOf, List.count_singleton]
  | _ => cases h

/-- Every match takes the same number of backquotes, and what it captures has none. -/
theorem count_quote_matchAt {items : List Item} (h : items.all tellsQuotes = true)
    {before : Option Char} {text taken : List Char} {runs : List (List Char)}
    (hmatch : matchAt items before text = some (taken, runs)) :
    taken.count '\x60' = quotesTaken items ∧ ∀ r ∈ runs, '\x60' ∉ r := by
  induction items generalizing before text taken runs with
  | nil =>
    cases hmatch
    simp [quotesTaken]
  | cons item items ih =>
    rw [List.all_cons, Bool.and_eq_true] at h
    cases item with
    | char s =>
      cases text with
      | nil => cases hmatch
      | cons c rest =>
        simp only [matchAt] at hmatch
        split at hmatch
        · rename_i hc
          obtain ⟨found, hfound, he⟩ := Option.map_eq_some_iff.mp hmatch
          cases he
          obtain ⟨hcount, hruns⟩ := ih h.2 hfound
          rw [← List.singleton_append, List.count_append, count_quote_char h.1 hc, hcount]
          exact ⟨rfl, hruns⟩
        · cases hmatch
    | look l =>
      simp only [matchAt] at hmatch
      split at hmatch
      · simpa [quotesTaken, quotesOf] using ih h.2 hmatch
      · cases hmatch
    | run s captured =>
      simp only [matchAt] at hmatch
      split at hmatch
      · cases hmatch
      · obtain ⟨found, hfound, he⟩ := Option.map_eq_some_iff.mp hmatch
        cases he
        obtain ⟨hcount, hruns⟩ := ih h.2 hfound
        have hs : s.mem '\x60' = false := by simpa [tellsQuotes] using h.1
        have hrun : '\x60' ∉ text.takeWhile s.mem := by
          intro hmem
          have hin := List.all_eq_true.mp List.all_takeWhile _ hmem
          rw [hs] at hin
          cases hin
        refine ⟨?_, ?_⟩
        · rw [List.count_append, hcount, List.count_eq_zero_of_not_mem hrun]
          simp [quotesTaken, quotesOf]
        · cases captured with
          | false => exact hruns
          | true =>
            intro r hr
            rcases List.mem_cons.mp hr with rfl | hr
            · exact hrun
            · exact hruns r hr

/-! ## What replaces a match -/

/-- Whether a part of a template shows no backquote of its own, nor the whole match. -/
def showsNoQuote : TemplatePart → Bool
  | .literal c => c != '\x60'
  | .group n => n != 0
  | .named _ => false

/-- Every match takes `n` backquotes, and what replaces it has none. -/
structure TakesQuotes (s : Substitution) (items : List Item) (n : Nat) : Prop where
  walks : s.Walks items
  taken : ∀ {before text taken runs}, matchAt items before text = some (taken, runs) →
    taken.count '\x60' = n
  replace : ∀ {before text taken runs}, matchAt items before text = some (taken, runs) →
    '\x60' ∉ s.replace ⟨taken, runs.map some⟩

theorem takesQuotes_of_shows {s : Substitution} {items : List Item} {n : Nat} (hs : s.Walks items)
    (htells : items.all tellsQuotes = true) (hn : quotesTaken items = n)
    (hshows : (Template.read s.replacement).all showsNoQuote = true) : TakesQuotes s items n := by
  refine ⟨hs, fun hmatch => (count_quote_matchAt htells hmatch).1.trans hn, ?_⟩
  intro before text taken runs hmatch hquote
  obtain ⟨part, hpart, hquote⟩ := List.mem_flatMap.mp hquote
  have hpartShows := List.all_eq_true.mp hshows part hpart
  cases part with
  | literal c =>
    obtain rfl : '\x60' = c := List.mem_singleton.mp hquote
    cases hpartShows
  | group n =>
    obtain ⟨m, rfl⟩ : ∃ m, n = m + 1 :=
      Nat.exists_eq_succ_of_ne_zero (by simpa [showsNoQuote] using hpartShows)
    obtain ⟨g, hg, hquote⟩ := Hit.mem_group hquote
    obtain ⟨r, hr, he⟩ := List.mem_map.mp hg
    rw [← Option.some.inj he] at hquote
    exact (count_quote_matchAt htells hmatch).2 r hr hquote
  | named name => cases hpartShows

theorem showsNoQuote_prefixed {before after : String} {p : List Char} (hp : '\x60' ∉ p)
    (hb : '$' ∉ before.toList ∧ '\x60' ∉ before.toList)
    (ha : '$' ∉ after.toList ∧ '\x60' ∉ after.toList) :
    (Template.read (prefixed before p after)).all showsNoQuote = true := by
  have hliterals : ∀ {w : List Char}, '\x60' ∉ w → (w.map TemplatePart.literal).all showsNoQuote = true := by
    intro w hw
    simp only [List.all_map, List.all_eq_true, Function.comp_apply, showsNoQuote, bne_iff_ne]
    intro c hc he
    exact hw (he ▸ hc)
  rw [Template.read_prefixed _ _ _ hb.1 ha.1]
  simp [hliterals hb.2, hliterals hp, hliterals ha.2, showsNoQuote]

theorem begins_replace (s : Substitution) (h : Hit) {front : List Char} (hfront : front <+: s.replacement)
    (hplain : '$' ∉ front) : front <+: s.replace h := by
  obtain ⟨rest, hrest⟩ := hfront
  unfold Substitution.replace Template.read
  rw [← hrest, Template.readFrom_plain _ _ hplain, Template.expand_append, Template.expand_literals]
  exact List.prefix_append _ _

/-! ## Quotes of a changed text -/

variable {s : Substitution} {items : List Item} {n : Nat}

namespace TakesQuotes

/-- With each match `n` backquotes go. -/
theorem exists_count (h : TakesQuotes s items n) (before : Option Char) (text : List Char) :
    ∃ k, text.count '\x60' = (edited items s.replace before text).count '\x60' + n * k := by
  induction before, text using walk_induction h.walks.takes with
  | nil before => exact ⟨0, rfl⟩
  | kept before c rest hmatch ih =>
    obtain ⟨k, hk⟩ := ih
    refine ⟨k, ?_⟩
    rw [edited_kept hmatch, List.count_cons, List.count_cons, hk]
    omega
  | hit before taken rest runs hmatch ih =>
    obtain ⟨k, hk⟩ := ih
    refine ⟨k + 1, ?_⟩
    rw [edited_hit h.walks.takes hmatch, List.count_append, List.count_append, h.taken hmatch, hk,
      List.count_eq_zero_of_not_mem (h.replace hmatch), Nat.mul_add]
    omega

theorem exists_count_apply (h : TakesQuotes s items n) (text : List Char) :
    ∃ k, text.count '\x60' = (s.apply text).text.count '\x60' + n * k := by
  rw [Substitution.text_apply h.walks]
  exact h.exists_count none text

/-- A backquote of the changed text stood in the text, and behind it stands what stood there, changed. -/
theorem cut_edited (h : TakesQuotes s items n) {before : Option Char} {text x y : List Char}
    (hcut : edited items s.replace before text = x ++ '\x60' :: y) :
    ∃ u v, text = u ++ '\x60' :: v ∧ y = edited items s.replace (some '\x60') v := by
  induction before, text using walk_induction h.walks.takes generalizing x with
  | nil before => simp at hcut
  | kept before c rest hmatch ih =>
    rw [edited_kept hmatch] at hcut
    cases x with
    | nil =>
      obtain ⟨rfl, rfl⟩ := List.cons.inj hcut
      exact ⟨[], rest, rfl, rfl⟩
    | cons d x =>
      obtain ⟨rfl, hrest⟩ := List.cons.inj hcut
      obtain ⟨u, v, rfl, hv⟩ := ih hrest
      exact ⟨c :: u, v, rfl, hv⟩
  | hit before taken rest runs hmatch ih =>
    rw [edited_hit h.walks.takes hmatch] at hcut
    rcases List.append_eq_append_iff.mp hcut with ⟨z, -, hz⟩ | ⟨z, hreplace, hz⟩
    · obtain ⟨u, v, rfl, hv⟩ := ih hz
      exact ⟨taken ++ u, v, by simp, hv⟩
    · cases z with
      | nil =>
        obtain ⟨u, v, rfl, hv⟩ := ih (x := []) hz.symm
        exact ⟨taken ++ u, v, by simp, hv⟩
      | cons d z =>
        -- the backquote would stand in what replaces the match
        obtain ⟨rfl, -⟩ := List.cons.inj hz
        refine absurd ?_ (h.replace hmatch)
        rw [hreplace]
        simp

/-- Behind the first of two backquotes of the changed text, and up to the next, stands what the text
behind it was changed to. -/
theorem exists_between (h : TakesQuotes s items n) {text w : List Char}
    (hin : '\x60' :: (w ++ ['\x60']) <:+: (s.apply text).text) :
    ∃ u v, text = u ++ '\x60' :: v ∧ w ++ ['\x60'] <+: edited items s.replace (some '\x60') v := by
  rw [Substitution.text_apply h.walks] at hin
  obtain ⟨x, y, hcut⟩ := hin
  have hsplit : edited items s.replace none text = x ++ '\x60' :: ((w ++ ['\x60']) ++ y) := by
    rw [edited, ← hcut]
    simp
  obtain ⟨u, v, htext, hv⟩ := h.cut_edited hsplit
  exact ⟨u, v, htext, hv ▸ List.prefix_append _ y⟩

/-- What stands before the next backquote stood there before, where no part of it replaces a match. -/
theorem prefix_of_edited (h : TakesQuotes s items n) {w : List Char}
    (hforeign : ∀ hit, ¬ s.replace hit <:+: w) {before : Option Char} {text : List Char}
    (hw : w ++ ['\x60'] <+: edited items s.replace before text) : w ++ ['\x60'] <+: text := by
  induction before, text using walk_induction h.walks.takes generalizing w with
  | nil before => simp at hw
  | kept before c rest hmatch ih =>
    rw [edited_kept hmatch] at hw
    cases w with
    | nil =>
      obtain ⟨rfl, -⟩ := List.cons_prefix_cons.mp hw
      simp
    | cons d w =>
      obtain ⟨rfl, hrest⟩ := List.cons_prefix_cons.mp hw
      refine List.cons_prefix_cons.mpr ⟨rfl, ih (fun hit hin => hforeign hit ?_) hrest⟩
      exact hin.trans (List.suffix_cons d w).isInfix
  | hit before taken rest runs hmatch ih =>
    rw [edited_hit h.walks.takes hmatch] at hw
    exfalso
    rcases List.prefix_or_prefix_of_prefix hw (List.prefix_append _ _) with hin | hout
    · exact h.replace hmatch (hin.subset (by simp))
    · rcases List.prefix_concat_iff.mp hout with he | hpre
      · refine h.replace hmatch ?_
        rw [he]
        simp
      · exact hforeign _ hpre.isInfix

end TakesQuotes

/-! ## Quotes that stay apart -/

/-- What may not stand between two backquotes: nothing, and the words that are taken out. -/
def fragile : List (List Char) := [[], "AUTO_INCREMENT".toList, "UNSIGNED".toList]

/-- No two backquotes of a text stand side by side, and none come to when words are taken out. -/
def QuotesApart (text : List Char) : Prop := ∀ w ∈ fragile, ¬ '\x60' :: (w ++ ['\x60']) <:+: text

theorem infix_of_cut {w u v : List Char} (h : w ++ ['\x60'] <+: v) :
    '\x60' :: (w ++ ['\x60']) <:+: u ++ '\x60' :: v :=
  (List.cons_prefix_cons.mpr ⟨rfl, h⟩).isInfix.trans (List.suffix_append u _).isInfix

/-- A substitution takes backquotes in pairs and keeps the others apart. -/
structure TakesPairs (s : Substitution) : Prop where
  even : ∀ text, (s.apply text).text.count '\x60' % 2 = text.count '\x60' % 2
  apart : ∀ text, QuotesApart text → QuotesApart (s.apply text).text

theorem TakesQuotes.even (h : TakesQuotes s items n) (hn : n % 2 = 0) (text : List Char) :
    (s.apply text).text.count '\x60' % 2 = text.count '\x60' % 2 := by
  obtain ⟨k, hk⟩ := h.exists_count_apply text
  have hpairs : n * k % 2 = 0 := by simp [Nat.mul_mod, hn]
  omega

/-- A substitution that shows something of its own takes pairs. -/
theorem takesPairs_of_front (h : TakesQuotes s items n) (hn : n % 2 = 0) {front : List Char}
    (hfront : front <+: s.replacement) (hplain : '$' ∉ front) (hforeign : ∀ w ∈ fragile, ¬ front <:+: w) :
    TakesPairs s := by
  refine ⟨h.even hn, fun text hapart w hw hin => ?_⟩
  obtain ⟨u, v, rfl, hv⟩ := h.exists_between hin
  refine hapart w hw (infix_of_cut (h.prefix_of_edited (fun hit hrep => ?_) hv))
  exact hforeign w hw ((begins_replace s hit hfront hplain).isInfix.trans hrep)

/-- Where a word is taken out, the text up to the next backquote was the same or the word itself. -/
theorem prefix_of_removed {name : String} (hname : IsWordName name) {rep : Hit → List Char}
    (hrep : ∀ hit, rep hit = []) {w : List Char} (hall : w.all isWord = true) {before : Option Char}
    {text : List Char} (hw : w ++ ['\x60'] <+: edited (keyword name) rep before text) :
    w ++ ['\x60'] <+: text ∨
      w = [] ∧ isWordSide false before = false ∧ name.toList ++ ['\x60'] <+: text := by
  have htakes : (keyword name).any Item.takes = true := takes_named hname
  induction before, text using walk_induction htakes generalizing w with
  | nil before => simp at hw
  | kept before c rest hmatch ih =>
    rw [edited_kept hmatch] at hw
    cases w with
    | nil =>
      obtain ⟨rfl, -⟩ := List.cons_prefix_cons.mp hw
      simp
    | cons d w =>
      obtain ⟨rfl, hrest⟩ := List.cons_prefix_cons.mp hw
      rw [List.all_cons, Bool.and_eq_true] at hall
      rcases ih hall.2 hrest with hkept | ⟨-, hside, -⟩
      · exact Or.inl (List.cons_prefix_cons.mpr ⟨rfl, hkept⟩)
      · rw [isWordSide_some, hall.1] at hside
        cases hside
  | hit before taken rest runs hmatch ih =>
    obtain ⟨rfl, hbefore, hrest⟩ := keyword_hit hname hmatch
    rw [edited_hit htakes hmatch, hrep, List.nil_append] at hw
    rcases ih hall hw with hkept | ⟨-, hside, -⟩
    · -- behind the word no other one begins
      cases w with
      | nil => exact Or.inr ⟨rfl, hbefore, (List.prefix_append_right_inj _).mpr hkept⟩
      | cons d w =>
        obtain ⟨more, rfl⟩ := hkept
        rw [List.all_cons, Bool.and_eq_true] at hall
        have hbegins : beginsWord (d :: w ++ ['\x60'] ++ more) = true := hall.1
        rw [hrest] at hbegins
        cases hbegins
    · have hends : isWordSide false name.toList.getLast? = true := endsWord_of_all hname.ne_nil hname.all
      rw [hends] at hside
      cases hside

theorem all_isWord_of_fragile {w : List Char} (h : w ∈ fragile) : w.all isWord = true := by
  have hall : ∀ w ∈ fragile, w.all isWord = true := by decide
  exact hall w h

/-- A word that is taken out takes no quotes with it. -/
theorem takesPairs_of_removal {name : String} (h : TakesQuotes s (keyword name) n) (hn : n % 2 = 0)
    (hname : IsWordName name) (hgone : s.replacement = []) (hmem : name.toList ∈ fragile) :
    TakesPairs s := by
  have hrep : ∀ hit, s.replace hit = [] := by
    intro hit
    unfold Substitution.replace
    rw [hgone]
    rfl
  refine ⟨h.even hn, fun text hapart w hw hin => ?_⟩
  obtain ⟨u, v, rfl, hv⟩ := h.exists_between hin
  rcases prefix_of_removed hname hrep (all_isWord_of_fragile hw) hv with hkept | ⟨-, -, hword⟩
  · exact hapart w hw (infix_of_cut hkept)
  · exact hapart _ hmem (infix_of_cut hword)

/-! ## The built-in steps -/

theorem begins_prefixed (before after : String) (p : List Char) :
    before.toList <+: prefixed before p after := by
  unfold prefixed
  rw [List.append_assoc, List.append_assoc]
  exact List.prefix_append _ _

theorem takesPairs_dropTable {p : List Char} (hp : '\x60' ∉ p) : TakesPairs (dropTable p) := by
  have hquotes : TakesQuotes (dropTable p) dropItems 2 :=
    takesQuotes_of_shows (walks_dropTable p) (by decide) (by decide)
      (showsNoQuote_prefixed hp (by decide) (by decide))
  exact takesPairs_of_front hquotes rfl (begins_prefixed _ _ p) (by decide) (by decide)

theorem takesPairs_createTable {p : List Char} (hp : '\x60' ∉ p) : TakesPairs (createTable p) := by
  have hquotes : TakesQuotes (createTable p) createItems 2 :=
    takesQuotes_of_shows (walks_createTable p) (by decide) (by decide)
      (showsNoQuote_prefixed hp (by decide) (by decide))
  exact takesPairs_of_front hquotes rfl (begins_prefixed _ _ p) (by decide) (by decide)

theorem takesPairs_tableOptions : TakesPairs tableOptions := by
  have hquotes : TakesQuotes tableOptions optionItems 0 :=
    takesQuotes_of_shows walks_tableOptions (by decide) (by decide) (by decide)
  exact takesPairs_of_front hquotes rfl (List.prefix_refl _) (by decide) (by decide)

theorem takesPairs_typeMapping {s : Substitution} (h : s ∈ typeMappings) : TakesPairs s := by
  have hitems : ∀ items ∈ typeItems, items.all tellsQuotes = true ∧ quotesTaken items = 0 := by
    decide
  have hshows : ∀ s ∈ typeMappings, (Template.read s.replacement).all showsNoQuote = true := by decide
  -- up to its first reference each template spells something that no fragile word holds
  have hforeign : ∀ s ∈ typeMappings, '$' ∉ s.replacement.takeWhile (· != '$') ∧
      ∀ w ∈ fragile, ¬ s.replacement.takeWhile (· != '$') <:+: w := by decide
  obtain ⟨items, hmem, hwalks⟩ := exists_of_forall₂ walks_typeMappings h
  obtain ⟨htells, hsum⟩ := hitems items hmem
  exact takesPairs_of_front (takesQuotes_of_shows hwalks htells hsum (hshows s h)) rfl
    (List.takeWhile_prefix _) (hforeign s h).1 (hforeign s h).2

theorem takesPairs_autoIncrement : TakesPairs autoIncrement := by
  have hquotes : TakesQuotes autoIncrement (keyword "AUTO_INCREMENT") 0 :=
    takesQuotes_of_shows walks_autoIncrement (by decide) (by decide) rfl
  exact takesPairs_of_removal hquotes rfl ⟨by decide, by decide⟩ rfl (by decide)

theorem takesPairs_unsigned : TakesPairs unsigned := by
  have hquotes : TakesQuotes unsigned (keyword "UNSIGNED") 0 :=
    takesQuotes_of_shows walks_unsigned (by decide) (by decide) rfl
  exact takesPairs_of_removal hquotes rfl ⟨by decide, by decide⟩ rfl (by decide)

theorem takesPairs_firstSteps {p : List Char} (hp : '\x60' ∉ p) :
    ∀ step ∈ firstSteps p, ∀ s ∈ step.substitutions, TakesPairs s := by
  intro step hstep s hs
  simp only [firstSteps, List.mem_cons, List.mem_append, List.mem_map, List.not_mem_nil,
    or_false] at hstep
  rcases hstep with rfl | rfl | ⟨t, ht, rfl⟩ | rfl | rfl
  · obtain rfl := List.mem_singleton.mp hs
    exact takesPairs_dropTable hp
  · rcases List.mem_cons.mp hs with rfl | hs
    · exact takesPairs_createTable hp
    · obtain rfl := List.mem_singleton.mp hs
      exact takesPairs_tableOptions
  · obtain rfl := List.mem_singleton.mp hs
    exact takesPairs_typeMapping ht
  · obtain rfl := List.mem_singleton.mp hs
    exact takesPairs_autoIncrement
  · obtain rfl := List.mem_singleton.mp hs
    exact takesPairs_unsigned

/-- What one change keeps, changes one after another keep. -/
theorem quotes_foldl {subs : List Substitution} (hsubs : ∀ s ∈ subs, TakesPairs s) {text : List Char}
    (h : QuotesApart text) :
    (subs.foldl (fun text s => (s.apply text).text) text).count '\x60' % 2 = text.count '\x60' % 2 ∧
      QuotesApart (subs.foldl (fun text s => (s.apply text).text) text) := by
  induction subs generalizing text with
  | nil => exact ⟨rfl, h⟩
  | cons s subs ih =>
    have hs := hsubs s List.mem_cons_self
    obtain ⟨heven, hapart⟩ := ih (fun t ht => hsubs t (List.mem_cons_of_mem s ht)) (hs.apart text h)
    exact ⟨heven.trans (hs.even text), hapart⟩

theorem quotes_runSteps {steps : List EditStep}
    (hsteps : ∀ step ∈ steps, ∀ s ∈ step.substitutions, TakesPairs s) {text : List Char}
    (h : QuotesApart text) :
    (RuleSet.runSteps steps text).count '\x60' % 2 = text.count '\x60' % 2 ∧
      QuotesApart (RuleSet.runSteps steps text) := by
  induction steps generalizing text with
  | nil => exact ⟨rfl, h⟩
  | cons step steps ih =>
    have hstep : (step.apply text).text.count '\x60' % 2 = text.count '\x60' % 2 ∧
        QuotesApart (step.apply text).text := by
      rw [EditStep.text_apply]
      split
      · exact quotes_foldl (hsteps step List.mem_cons_self) h
      · exact ⟨rfl, h⟩
    obtain ⟨heven, hapart⟩ := ih (fun t ht => hsteps t (List.mem_cons_of_mem step ht)) hstep.2
    rw [RuleSet.runSteps_cons]
    exact ⟨heven.trans hstep.1, hapart⟩

/-! ## Quotes that are taken off -/

theorem takesQuotes_backquotes : TakesQuotes backquotes quoteItems 2 :=
  takesQuotes_of_shows walks_backquotes (by decide) (by decide) (by decide)

theorem takesQuotes_insertTable {p : List Char} (hp : '\x60' ∉ p) :
    TakesQuotes (insertTable p) insertItems 0 :=
  takesQuotes_of_shows (walks_insertTable p) (by decide) (by decide)
    (showsNoQuote_prefixed hp (by decide) (by decide))

/-- A backquote is kept only where no other one follows. -/
theorem not_quote_behind {before : Option Char} {rest : List Char}
    (h : ¬ ['\x60', '\x60'] <:+: '\x60' :: rest)
    (hnone : matchAt quoteItems before ('\x60' :: rest) = none) : '\x60' ∉ rest := by
  intro hmem
  obtain ⟨name, more, rfl, hname⟩ := List.eq_append_cons_of_mem hmem
  by_cases hne : name = []
  · subst hne
    exact h (List.prefix_append ['\x60', '\x60'] more).isInfix
  · have hmatch := matchAt_quoted ['\x60'] [] more before hne hname
    have hsome : matchAt quoteItems before ('\x60' :: (name ++ '\x60' :: more)) =
        some ('\x60' :: (name ++ ['\x60']), [name]) := hmatch
    rw [hnone] at hsome
    cases hsome

/-- Where no two backquotes stand side by side they are taken off from left to right, and the last one is
left where it has no partner. -/
theorem count_backquotes {text : List Char} (h : ¬ ['\x60', '\x60'] <:+: text) :
    (backquotes.apply text).text.count '\x60' = text.count '\x60' % 2 := by
  have hquotes := takesQuotes_backquotes
  rw [Substitution.text_apply hquotes.walks]
  have hall : ∀ before, (edited quoteItems backquotes.replace before text).count '\x60' =
      text.count '\x60' % 2 := by
    intro before
    induction before, text using walk_induction hquotes.walks.takes with
    | nil before => rfl
    | kept before c rest hmatch ih =>
      have hrest := ih fun hin => h (hin.trans (List.suffix_cons c rest).isInfix)
      rw [edited_kept hmatch, List.count_cons, List.count_cons, hrest]
      by_cases hc : c = '\x60'
      · subst hc
        rw [List.count_eq_zero_of_not_mem (not_quote_behind h hmatch)]
        rfl
      · simp [hc]
    | hit before taken rest runs hmatch ih =>
      have hrest := ih fun hin => h (hin.trans (List.suffix_append taken rest).isInfix)
      rw [edited_hit hquotes.walks.takes hmatch, List.count_append, List.count_append,
        hquotes.taken hmatch, List.count_eq_zero_of_not_mem (hquotes.replace hmatch), hrest]
      omega
  exact hall none

theorem count_insertStep {p : List Char} (hp : '\x60' ∉ p) (text : List Char) :
    ((insertStep p).apply text).text.count '\x60' = text.count '\x60' := by
  rw [text_insertStep]
  split
  · obtain ⟨k, hk⟩ := (takesQuotes_insertTable hp).exists_count_apply text
    omega
  · rfl

/-! ## The law -/

/-- Under a prefix without backquotes, a line in which no two of them stand side by side or enclose
exactly a word that is taken out is left with one where their number is odd and with none where it is
even. -/
theorem quotes_are_taken_off_in_pairs {p line text : List Char} (hp : '\x60' ∉ p)
    (hside : ¬ "\x60\x60".toList <:+: line)
    (hautoIncrement : ¬ "\x60AUTO_INCREMENT\x60".toList <:+: line)
    (hunsigned : ¬ "\x60UNSIGNED\x60".toList <:+: line)
    (hout : (RuleSet.builtin p).convertLine line = .emitted text) :
    text.count '\x60' = line.count '\x60' % 2 ∧ (line.count '\x60' % 2 = 0 → '\x60' ∉ text) := by
  have hapart : QuotesApart line := by
    intro w hw
    simp only [fragile, List.mem_cons, List.not_mem_nil, or_false] at hw
    rcases hw with rfl | rfl | rfl
    · exact hside
    · exact hautoIncrement
    · exact hunsigned
  have htext : RuleSet.runSteps (builtinSteps p) line = text := by
    unfold RuleSet.convertLine at hout
    split at hout
    · cases hout
    · simpa [RuleSet.builtin, RuleSet.runUserRules] using hout
  obtain ⟨heven, hfirst⟩ := quotes_runSteps (takesPairs_firstSteps hp) hapart
  have hcount : text.count '\x60' = line.count '\x60' % 2 := by
    rw [← htext, builtinSteps_firstSteps, RuleSet.runSteps_append, RuleSet.runSteps_cons,
      RuleSet.runSteps_cons, RuleSet.runSteps_nil, EditStep.text_always, count_insertStep hp,
      count_backquotes (hfirst [] (by decide)), heven]
  refine ⟨hcount, fun hbalanced => ?_⟩
  rw [hbalanced] at hcount
  exact List.count_eq_zero.mp hcount

/-- Quotes out of step around three statements, words that are taken out beside them, and one quote too
many. -/
theorem quotes_out_of_step_are_taken_off :
    let p := "AUTO_INCREMENT-".toList
    let line := ("INSERT INTO \x60 AUTO_INCREMENT\x60; CREATE TABLE \x60a\x60UNSIGNED " ++
      "\x60DROP TABLE IF EXISTS \x60int(1)\x60;").toList
    let text := ("INSERT INTO  ; CREATE TEMPORARY TABLE -aUNSIGNED " ++
      "\x60DROP TABLE IF EXISTS -INTEGER CASCADE;").toList
    ('\x60' ∉ p ∧ ¬ "\x60\x60".toList <:+: line ∧ ¬ "\x60AUTO_INCREMENT\x60".toList <:+: line ∧
      ¬ "\x60UNSIGNED\x60".toList <:+: line ∧
      (RuleSet.builtin p).convertLine line = .emitted text) ∧
    text.count '\x60' = line.count '\x60' % 2 := by
  intro p line text
  have hp : '\x60' ∉ p := by decide
  have hside : ¬ "\x60\x60".toList <:+: line := by decide +kernel
  have hautoIncrement : ¬ "\x60AUTO_INCREMENT\x60".toList <:+: line := by decide +kernel
  have hunsigned : ¬ "\x60UNSIGNED\x60".toList <:+: line := by decide +kernel
  have hout : (RuleSet.builtin p).convertLine line = .emitted text := by decide +kernel
  exact ⟨⟨hp, hside, hautoIncrement, hunsigned, hout⟩,
    (quotes_are_taken_off_in_pairs hp hside hautoIncrement hunsigned hout).1⟩

end SqlDump
