-- Words that are taken out of a text. They are told word by word: what is left has the other words, as they were,
-- since two words never come to stand side by side where a third one goes.
import SqlDump.Proofs.TypePass

namespace SqlDump

open Unicode (isWord)

/-! ## Words left out -/

/-- Only words are left out. -/
def DropsWords (keep : List Char → Bool) : Prop := ∀ w, keep w = false → w.all isWord = true

/-- No words come together where words are left out, and none comes to the front. -/
theorem Parted.filter {keep : List Char → Bool} (hkeep : DropsWords keep) {ws : List (List Char)}
    (h : Parted ws) :
    Parted (ws.filter keep) ∧
      (beginsWord ws.flatten = false → beginsWord (ws.filter keep).flatten = false) := by
  induction ws with
  | nil => exact ⟨trivial, fun h => h⟩
  | cons w ws ih =>
    obtain ⟨hw, hnext, hws⟩ := h
    obtain ⟨hparted, hfront⟩ := ih hws
    rw [List.flatten_cons, beginsWord_append hw.ne_nil]
    cases hk : keep w with
    | true =>
      rw [List.filter_cons_of_pos hk, List.flatten_cons, beginsWord_append hw.ne_nil]
      exact ⟨⟨hw, fun hends => hfront (hnext hends), hparted⟩, fun h => h⟩
    | false =>
      rw [List.filter_cons_of_neg (by simp [hk])]
      refine ⟨hparted, fun hbegins => ?_⟩
      -- a word that is left out begins with a word character
      obtain ⟨c, x, rfl⟩ := List.exists_cons_of_ne_nil hw.ne_nil
      have hall := hkeep _ hk
      rw [List.all_cons, Bool.and_eq_true] at hall
      have hc : isWord c = false := hbegins
      rw [hall.1] at hc
      cases hc

theorem tokens_filter {keep : List Char → Bool} (hkeep : DropsWords keep) (text : List Char) :
    tokens ((tokens text).filter keep).flatten = (tokens text).filter keep :=
  tokens_flatten ((parted_tokens text).filter hkeep).1

/-! ## Substitutions by nothing -/

/-- The substitution takes out a whole word. -/
structure TakesOut (s : Substitution) (name : String) : Prop where
  walks : s.Walks (keyword name)
  isWordName : IsWordName name
  nothing : s.replacement = []

theorem flatMap_taken_out (w : List Char) (ts : List (List Char)) :
    (ts.flatMap fun t => if t = w then [] else t) = (ts.filter (· ≠ w)).flatten := by
  induction ts with
  | nil => rfl
  | cons t ts ih =>
    rw [List.flatMap_cons, ih]
    by_cases ht : t = w <;> simp [ht]

/-- The other words are left. -/
theorem tokens_apply_takesOut {s : Substitution} {name : String} (hs : TakesOut s name)
    (text : List Char) : tokens (s.apply text).text = (tokens text).filter (· ≠ name.toList) := by
  have hkeep : DropsWords (· ≠ name.toList) := by
    intro w hw
    have he : w = name.toList := by simpa using hw
    exact he ▸ hs.isWordName.all
  rw [text_apply_keyword hs.walks hs.isWordName (by simp [hs.nothing]), hs.nothing, flatMap_taken_out,
    tokens_filter hkeep]

/-- A word is left exactly where no step takes it out. -/
theorem tokens_runSteps_takesOut {subs : List Substitution} {names : List String}
    (hsubs : List.Forall₂ TakesOut subs names) (text : List Char) :
    tokens (RuleSet.runSteps (subs.map .always) text) =
      (tokens text).filter (· ∉ names.map String.toList) := by
  induction hsubs generalizing text with
  | nil => simp [RuleSet.runSteps_nil]
  | @cons s name subs names hs _ ih =>
    rw [List.map_cons, RuleSet.runSteps_cons, EditStep.text_always, ih, tokens_apply_takesOut hs,
      List.filter_filter]
    refine List.filter_congr fun t _ => ?_
    rw [Bool.eq_iff_iff, Bool.and_eq_true]
    simp only [List.map_cons, List.mem_cons, not_or, decide_eq_true_eq, and_comm]

theorem takesOut_autoIncrement : TakesOut autoIncrement "AUTO_INCREMENT" :=
  ⟨walks_autoIncrement, ⟨by decide, by decide⟩, rfl⟩

theorem takesOut_unsigned : TakesOut unsigned "UNSIGNED" :=
  ⟨walks_unsigned, ⟨by decide, by decide⟩, rfl⟩

/-! ## The law -/

/-- Two steps of the pipeline take out exactly the words AUTO_INCREMENT and UNSIGNED, each word as long as can
be, and keep all else in order. The words of what is left are the other words, so neither of the two is among
them, and the steps may change places. -/
theorem exactly_two_words_are_taken_out (text : List Char) :
    let words := ["AUTO_INCREMENT".toList, "UNSIGNED".toList]
    let steps := [EditStep.always autoIncrement, EditStep.always unsigned]
    let left := RuleSet.runSteps steps text
    (∀ p, steps <:+: builtinSteps p) ∧
    ((tokens text).flatten = text ∧ Parted (tokens text) ∧
      ∀ runs, Parted runs → runs.flatten = text → runs = tokens text) ∧
    left = ((tokens text).filter (· ∉ words)).flatten ∧
    tokens left = (tokens text).filter (· ∉ words) ∧
    (∀ w ∈ words, w ∉ tokens left) ∧
    RuleSet.runSteps steps.reverse text = left := by
  intro words steps left
  have hleft : tokens left = (tokens text).filter (· ∉ words) :=
    tokens_runSteps_takesOut (.cons takesOut_autoIncrement (.cons takesOut_unsigned .nil)) text
  have hother : tokens (RuleSet.runSteps steps.reverse text) = (tokens text).filter (· ∉ words.reverse) :=
    tokens_runSteps_takesOut (.cons takesOut_unsigned (.cons takesOut_autoIncrement .nil)) text
  have hsame : tokens (RuleSet.runSteps steps.reverse text) = tokens left := by
    rw [hother, hleft]
    simp only [List.mem_reverse]
  refine ⟨fun p => ?_, ⟨flatten_tokens text, parted_tokens text, fun runs hruns hwhole => ?_⟩, ?_, hleft,
    fun w hw hmem => ?_, ?_⟩
  · rw [builtinSteps_eq]
    exact ⟨.always (dropTable p) :: createStep p :: typeMappings.map .always,
      [.always backquotes, insertStep p], by simp [prefixFree, steps]⟩
  · rw [← hwhole, tokens_flatten hruns]
  · rw [← hleft, flatten_tokens]
  · rw [hleft, List.mem_filter] at hmem
    exact of_decide_eq_true hmem.2 hw
  · rw [← flatten_tokens (RuleSet.runSteps steps.reverse text), hsame, flatten_tokens]

end SqlDump
