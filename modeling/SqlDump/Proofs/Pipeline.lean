-- The pipeline as a composition. Built-in rules look at the line as read, the steps follow one another, and
-- the rules of the user run from left to right on what is left. A text that nothing matched is carried on as
-- it is, and that makes no difference.
import SqlDump.Proofs.BuiltinPatterns

namespace SqlDump

open Regex

/-! ## Texts without a match -/

namespace Regex

theorem eq_kept_of_no_hit {ps : List Piece} (h : ps.any Piece.isHit = false) :
    ps = (ps.flatMap Piece.source).map .kept := by
  induction ps with
  | nil => rfl
  | cons p ps ih =>
    simp only [List.any_cons, Bool.or_eq_false_iff] at h
    cases p with
    | kept c => rw [List.flatMap_cons, List.map_append, ← ih h.2]; rfl
    | hit hit => cases h.1

theorem firstHitOnly_kept (text : List Char) :
    firstHitOnly (text.map .kept) = text.map .kept := by
  induction text with
  | nil => rfl
  | cons c rest ih => simp [firstHitOnly, ih]

/-- The first match is among the first matches. -/
theorem any_isHit_firstHitOnly (ps : List Piece) :
    (firstHitOnly ps).any Piece.isHit = ps.any Piece.isHit := by
  induction ps with
  | nil => rfl
  | cons p ps ih =>
    cases p with
    | kept c => simpa [firstHitOnly, Piece.isHit] using ih
    | hit h => simp [firstHitOnly, Piece.isHit]

theorem Sequence.piecesFrom_of_no_hit (items : List Item) (before : Option Char)
    (text : List Char) (h : (Sequence.piecesFrom items before text).any Piece.isHit = false) :
    Sequence.piecesFrom items before text = text.map .kept := by
  induction text generalizing before with
  | nil => rfl
  | cons c rest ih =>
    rcases hmatch : Sequence.matchAt items before (c :: rest) with _ | ⟨taken, runs⟩
    · rw [Sequence.piecesFrom_kept hmatch] at h ⊢
      rw [ih (some c) (by simpa [Piece.isHit] using h), List.map_cons]
    · unfold Sequence.piecesFrom at h
      simp only [Sequence.scan, hmatch] at h
      rw [Sequence.scan_append] at h
      simp [Piece.isHit] at h

/-- A pattern that does not match keeps all characters. -/
theorem Pattern.pieces_of_no_match {p : Pattern} {text : List Char} (h : p.isMatch text = false) :
    p.pieces text = text.map .kept := by
  unfold Pattern.isMatch at h
  unfold Pattern.pieces at h ⊢
  split
  · rename_i items hitems
    rw [hitems] at h
    exact Sequence.piecesFrom_of_no_hit items none text h
  · rename_i code hcode
    rw [hcode] at h
    have hkept := eq_kept_of_no_hit h
    rwa [flatMap_source_cutAt] at hkept

theorem Pattern.assemble_kept (p : Pattern) (t : Template) (text : List Char) :
    p.assemble t (text.map .kept) = text := by
  unfold Pattern.assemble
  induction text with
  | nil => rfl
  | cons c rest ih => simp [ih]

end Regex

namespace Substitution

/-- A substitution tells whether its pattern matches, be it for all matches or for one. -/
theorem matched_apply (s : Substitution) (text : List Char) :
    (s.apply text).matched = s.pattern.isMatch text := by
  unfold apply Pattern.isMatch
  by_cases h : s.everywhere = true
  · simp [h]
  · simp [h, any_isHit_firstHitOnly]

theorem text_apply_of_no_match {s : Substitution} {text : List Char}
    (h : s.pattern.isMatch text = false) : (s.apply text).text = text := by
  unfold apply
  rw [Pattern.pieces_of_no_match h]
  by_cases he : s.everywhere = true
  · simp [he, Pattern.assemble_kept]
  · simp [he, firstHitOnly_kept, Pattern.assemble_kept]

/-- The texts of some substitutions one after another. -/
def applyEach (subs : List Substitution) (text : List Char) : List Char :=
  subs.foldl (fun text s => (s.apply text).text) text

end Substitution

/-! ## Steps -/

namespace EditStep

open Substitution (applyEach)

/-- One of the substitutions matches the text that those before it leave. -/
def MatchesInTurn (subs : List Substitution) (text : List Char) : Prop :=
  ∃ before s after, subs = before ++ s :: after ∧
    s.pattern.isMatch (applyEach before text) = true

theorem matchesInTurn_nil (text : List Char) : ¬ MatchesInTurn [] text := by
  rintro ⟨before, s, after, he, -⟩
  simp at he

theorem matchesInTurn_cons {s : Substitution} {subs : List Substitution} {text : List Char} :
    MatchesInTurn (s :: subs) text ↔
      s.pattern.isMatch text = true ∨ MatchesInTurn subs (s.apply text).text := by
  constructor
  · rintro ⟨before, t, after, he, hmatch⟩
    cases before with
    | nil =>
      obtain ⟨rfl, rfl⟩ := List.cons.inj he
      exact Or.inl hmatch
    | cons b before =>
      obtain ⟨rfl, rfl⟩ := List.cons.inj he
      exact Or.inr ⟨before, t, after, rfl, hmatch⟩
  · rintro (hmatch | ⟨before, t, after, rfl, hmatch⟩)
    · exact ⟨[], s, subs, rfl, hmatch⟩
    · exact ⟨s :: before, t, after, rfl, hmatch⟩

theorem matched_applyAll (subs : List Substitution) (start : Applied) :
    (applyAll subs start).matched = true ↔
      start.matched = true ∨ MatchesInTurn subs start.text := by
  induction subs generalizing start with
  | nil => simp [applyAll, matchesInTurn_nil]
  | cons s subs ih =>
    have hstep : applyAll (s :: subs) start =
        applyAll subs ⟨start.matched || (s.apply start.text).matched, (s.apply start.text).text⟩ := rfl
    rw [hstep, ih, matchesInTurn_cons, Bool.or_eq_true, Substitution.matched_apply, or_assoc]

/-- A step matches where it is made and one of its substitutions matches in its turn. -/
theorem matched_apply (s : EditStep) (text : List Char) :
    (s.apply text).matched = true ↔
      s.appliesTo text = true ∧ MatchesInTurn s.substitutions text := by
  unfold apply
  by_cases h : s.appliesTo text = true
  · simp [h, matched_applyAll]
  · simp [h]

theorem applyEach_of_no_match {subs : List Substitution} {text : List Char}
    (h : ¬ MatchesInTurn subs text) : applyEach subs text = text := by
  induction subs with
  | nil => rfl
  | cons s subs ih =>
    rw [matchesInTurn_cons, not_or, Bool.not_eq_true] at h
    have hsame := Substitution.text_apply_of_no_match h.1
    rw [hsame] at h
    unfold applyEach at ih ⊢
    rw [List.foldl_cons, hsame]
    exact ih h.2

theorem text_apply_of_no_match {s : EditStep} {text : List Char} (h : (s.apply text).matched = false) :
    (s.apply text).text = text := by
  rw [← Bool.not_eq_true, matched_apply, not_and] at h
  rw [text_apply]
  split
  · rename_i happlies
    exact applyEach_of_no_match (h happlies)
  · rfl

end EditStep

/-! ## Texts carried on -/

/-- The new text, only where something matched. -/
def Applied.new? (a : Applied) : Option (List Char) := if a.matched then some a.text else none

/-- The new text of a step, only where something matched. Each substitution takes the newest text there is,
the one that enters where there is none. -/
def EditStep.new? (s : EditStep) (text : List Char) : Option (List Char) :=
  if s.appliesTo text then
    s.substitutions.foldl (fun newest sub => (sub.apply (newest.getD text)).new?.or newest) none
  else none

namespace RuleSet

/-- The steps with a text that is carried on where a step has no new one. -/
def carrySteps (steps : List EditStep) (line : List Char) : List Char :=
  steps.foldl (fun text s => (s.new? text).getD text) line

/-- The rules of the user with a text that is carried on where a substitution has no new one. -/
def carryUserRules : List UserRule → List Char → Outcome
  | [], text => .emitted text
  | .skip r :: rest, text =>
    if r.matcher.holds text then .elided (.user r.name) else carryUserRules rest text
  | .substitute s :: rest, text => carryUserRules rest ((s.apply text).new?.getD text)

/-- What becomes of a line whose text is carried on where nothing matches. -/
def carryLine (rules : RuleSet) (line : List Char) : Outcome :=
  match findSkipRule rules.skipRules line with
  | some r => .elided (.builtin r.name)
  | none => carryUserRules rules.userRules (carrySteps rules.steps line)

end RuleSet

theorem Substitution.getD_new? (s : Substitution) (text : List Char) :
    (s.apply text).new?.getD text = (s.apply text).text := by
  unfold Applied.new?
  split
  · rfl
  · rename_i h
    rw [Substitution.matched_apply, Bool.not_eq_true] at h
    exact (Substitution.text_apply_of_no_match h).symm

/-- The newest text, where there is one, and else the text that entered. -/
theorem EditStep.getD_newest (subs : List Substitution) (text : List Char) (newest : Option (List Char)) :
    (subs.foldl (fun newest sub => (sub.apply (newest.getD text)).new?.or newest) newest).getD text =
      Substitution.applyEach subs (newest.getD text) := by
  induction subs generalizing newest with
  | nil => rfl
  | cons s subs ih =>
    have hnext : ((s.apply (newest.getD text)).new?.or newest).getD text =
        (s.apply (newest.getD text)).text := by
      rw [← s.getD_new? (newest.getD text)]
      rcases (s.apply (newest.getD text)).new? with _ | new <;> simp
    rw [List.foldl_cons, ih, hnext]
    rfl

theorem EditStep.getD_new? (s : EditStep) (text : List Char) :
    (s.new? text).getD text = (s.apply text).text := by
  unfold new?
  rw [text_apply]
  split
  · exact getD_newest s.substitutions text none
  · rfl

namespace RuleSet

theorem carrySteps_eq (steps : List EditStep) (line : List Char) :
    carrySteps steps line = runSteps steps line := by
  unfold carrySteps runSteps
  simp only [EditStep.getD_new?]

theorem carryUserRules_eq (rules : List UserRule) (text : List Char) :
    carryUserRules rules text = runUserRules rules text := by
  induction rules generalizing text with
  | nil => rfl
  | cons r rules ih =>
    cases r with
    | skip r => simp only [carryUserRules, runUserRules, ih]
    | substitute s => simp only [carryUserRules, runUserRules, Substitution.getD_new?, ih]

/-- Carrying a text on where nothing matched changes nothing. -/
theorem carryLine_eq (rules : RuleSet) (line : List Char) :
    rules.carryLine line = rules.convertLine line := by
  unfold carryLine convertLine
  rcases findSkipRule rules.skipRules line with _ | r
  · simp only [carrySteps_eq, carryUserRules_eq]
  · rfl

/-! ## The rules of the user -/

/-- What a rule that does not drop a text makes of it. -/
def change : UserRule → List Char → List Char
  | .skip _, text => text
  | .substitute s, text => (s.apply text).text

/-- The text as changed by some rules. -/
def changed (rules : List UserRule) (text : List Char) : List Char :=
  rules.foldl (fun text r => change r text) text

/-- No skip rule among some rules holds of the text as changed by those before it. -/
def Passes (rules : List UserRule) (text : List Char) : Prop :=
  ∀ before r after, rules = before ++ .skip r :: after → r.matcher.holds (changed before text) = false

theorem passes_nil (text : List Char) : Passes [] text := by
  intro before r after he
  simp at he

theorem passes_skip {r : SkipRule} {rules : List UserRule} {text : List Char} :
    Passes (.skip r :: rules) text ↔ r.matcher.holds text = false ∧ Passes rules text := by
  constructor
  · intro h
    refine ⟨h [] r rules rfl, fun before q after he => ?_⟩
    exact h (.skip r :: before) q after (by rw [he]; rfl)
  · rintro ⟨hr, h⟩ before q after he
    cases before with
    | nil =>
      obtain ⟨he, -⟩ := List.cons.inj he
      cases he
      exact hr
    | cons b before =>
      obtain ⟨rfl, rfl⟩ := List.cons.inj he
      exact h before q after rfl

theorem passes_substitute {s : Substitution} {rules : List UserRule} {text : List Char} :
    Passes (.substitute s :: rules) text ↔ Passes rules (s.apply text).text := by
  constructor
  · intro h before q after he
    exact h (.substitute s :: before) q after (by rw [he]; rfl)
  · intro h before q after he
    cases before with
    | nil => cases (List.cons.inj he).1
    | cons b before =>
      obtain ⟨rfl, rfl⟩ := List.cons.inj he
      exact h before q after rfl

/-- A text comes out where no skip rule holds in its turn, changed by all rules. -/
theorem runUserRules_eq_emitted {rules : List UserRule} {text t : List Char} :
    runUserRules rules text = .emitted t ↔ Passes rules text ∧ t = changed rules text := by
  induction rules generalizing text with
  | nil => simp [runUserRules, passes_nil, changed, eq_comm]
  | cons r rules ih =>
    cases r with
    | skip r =>
      by_cases h : r.matcher.holds text = true
      · simp [runUserRules, passes_skip, h]
      · simp [runUserRules, passes_skip, h, ih, changed, change]
    | substitute s => simp [runUserRules, passes_substitute, ih, changed, change]

/-- A text is dropped by the first skip rule that holds of it as changed so far. -/
theorem runUserRules_eq_elided {rules : List UserRule} {text : List Char} {cause : Elision} :
    runUserRules rules text = .elided cause ↔
      ∃ before r after, rules = before ++ .skip r :: after ∧ Passes before text ∧
        r.matcher.holds (changed before text) = true ∧ cause = .user r.name := by
  induction rules generalizing text with
  | nil => simp [runUserRules]
  | cons q rules ih =>
    have hcons : (∃ before r after, q :: rules = before ++ .skip r :: after ∧ Passes before text ∧
        r.matcher.holds (changed before text) = true ∧ cause = .user r.name) ↔
        (∃ r, q = .skip r ∧ r.matcher.holds text = true ∧ cause = .user r.name) ∨
        ∃ before r after, rules = before ++ .skip r :: after ∧ Passes (q :: before) text ∧
          r.matcher.holds (changed (q :: before) text) = true ∧ cause = .user r.name := by
      constructor
      · rintro ⟨before, r, after, he, hpasses, hholds, hcause⟩
        cases before with
        | nil => exact Or.inl ⟨r, (List.cons.inj he).1, hholds, hcause⟩
        | cons b before =>
          obtain ⟨rfl, rfl⟩ := List.cons.inj he
          exact Or.inr ⟨before, r, after, rfl, hpasses, hholds, hcause⟩
      · rintro (⟨r, rfl, hholds, hcause⟩ | ⟨before, r, after, rfl, hpasses, hholds, hcause⟩)
        · exact ⟨[], r, rules, rfl, passes_nil text, hholds, hcause⟩
        · exact ⟨q :: before, r, after, rfl, hpasses, hholds, hcause⟩
    rw [hcons]
    cases q with
    | skip r =>
      by_cases h : r.matcher.holds text = true
      · simpa [runUserRules, passes_skip, h] using eq_comm
      · simp [runUserRules, passes_skip, h, ih, changed, change]
    | substitute s => simp [runUserRules, passes_substitute, ih, changed, change]

/-- More rules run on what the first ones leave. -/
theorem runUserRules_append (first later : List UserRule) (text : List Char) :
    runUserRules (first ++ later) text =
      match runUserRules first text with
      | .elided cause => .elided cause
      | .emitted t => runUserRules later t := by
  induction first generalizing text with
  | nil => rfl
  | cons r first ih =>
    cases r with
    | skip r =>
      by_cases h : r.matcher.holds text = true
      · simp [runUserRules, h]
      · simp [runUserRules, h, ih]
    | substitute s => simp [runUserRules, ih]

end RuleSet

/-! ## Rules that are compiled -/

theorem compileRules_append {u v : List SourcedRule} {compiled : List UserRule}
    (h : compileRules (u ++ v) = .ok compiled) :
    ∃ first later, compileRules u = .ok first ∧ compileRules v = .ok later ∧
      compiled = first ++ later := by
  induction u generalizing compiled with
  | nil => exact ⟨[], compiled, rfl, h, rfl⟩
  | cons r u ih =>
    rw [List.cons_append, compileRules] at h
    rcases hr : r.compile with fault | rule
    · rw [hr] at h
      cases h
    rcases hmore : compileRules (u ++ v) with fault | more
    · rw [hr, hmore] at h
      cases h
    rw [hr, hmore] at h
    cases h
    obtain ⟨first, later, hfirst, hlater, rfl⟩ := ih hmore
    refine ⟨rule :: first, later, ?_, hlater, rfl⟩
    rw [compileRules, hr, hfirst]
    rfl

/-- A skip rule of the user looks for its pattern. -/
theorem SourcedRule.pattern_of_compile {r : SourcedRule} {skip : SkipRule}
    (h : r.compile = .ok (.skip skip)) :
    ∃ source p, r.rule.skipPattern = some source ∧ Regex.Pattern.compile? source = some p ∧
      skip.matcher = .pattern p := by
  unfold compile at h
  rcases hskip : r.rule.skipPattern with _ | source
  · rcases hsub : r.rule.substitution with _ | expr
    · simp [hskip, hsub] at h
    · rcases hread : Substitution.read expr with fault | s <;>
        simp [hskip, hsub, hread, bind, Except.bind] at h
  · rcases hsub : r.rule.substitution with _ | expr
    · rcases hp : Regex.Pattern.compile? source with _ | p
      · simp [hskip, hsub, Substitution.compilePattern, hp, bind, Except.bind] at h
      · simp [hskip, hsub, Substitution.compilePattern, hp, bind, Except.bind] at h
        exact ⟨source, p, rfl, hp, by rw [← h]⟩
    · simp [hskip, hsub] at h

theorem pattern_of_mem_compileRules {rules : List SourcedRule} {compiled : List UserRule}
    (h : compileRules rules = .ok compiled) {skip : SkipRule} (hskip : .skip skip ∈ compiled) :
    ∃ r ∈ rules, ∃ source p, r.rule.skipPattern = some source ∧
      Regex.Pattern.compile? source = some p ∧ skip.matcher = .pattern p := by
  induction rules generalizing compiled with
  | nil =>
    cases h
    cases hskip
  | cons r rules ih =>
    obtain ⟨first, later, hfirst, hlater, rfl⟩ := compileRules_append (u := [r]) h
    rcases hr : r.compile with fault | rule
    · simp [compileRules, hr, bind, Except.bind] at hfirst
    · obtain rfl : [rule] = first := by simpa [compileRules, hr, bind, Except.bind] using hfirst
      rcases List.mem_append.mp hskip with hmem | hmem
      · obtain rfl := List.mem_singleton.mp hmem
        exact ⟨r, List.mem_cons_self, SourcedRule.pattern_of_compile hr⟩
      · obtain ⟨q, hq, hpattern⟩ := ih hlater hmem
        exact ⟨q, List.mem_cons_of_mem r hq, hpattern⟩

namespace RuleSet

/-- The settings give the built-in rules and the compiled rules of the user. -/
theorem ofSettings_eq_ok {s : Settings} {rules : RuleSet} :
    ofSettings s = .ok rules ↔
      ∃ compiled, compileRules s.rules = .ok compiled ∧
        rules = { builtin s.tablePrefix with userRules := compiled } := by
  unfold ofSettings
  rcases compileRules s.rules with fault | compiled
  · simp [bind, Except.bind]
  · simp [bind, Except.bind, eq_comm]

/-- The skip rule that is found is the first one that holds. -/
theorem findSkipRule_eq_some {skipRules : List SkipRule} {line : List Char} {r : SkipRule} :
    findSkipRule skipRules line = some r ↔ r.matcher.holds line = true ∧
      ∃ before after, skipRules = before ++ r :: after ∧ ∀ q ∈ before, q.matcher.holds line = false := by
  simp [findSkipRule, List.find?_eq_some_iff_append]

theorem findSkipRule_none {skipRules : List SkipRule} {line : List Char} :
    findSkipRule skipRules line = none ↔ ∀ r ∈ skipRules, r.matcher.holds line = false := by
  simp [findSkipRule]

/-- A built-in skip rule that holds drops the line, whatever the rest of the rules is. -/
theorem convertLine_of_builtin_skip (p : List Char) (user : List UserRule) {line : List Char}
    (h : ∃ r ∈ builtinSkipRules, r.matcher.holds line = true) :
    ∃ r ∈ builtinSkipRules, r.matcher.holds line = true ∧
      ({ builtin p with userRules := user } : RuleSet).convertLine line = .elided (.builtin r.name) := by
  obtain ⟨r, hr, hholds⟩ := h
  rcases hfound : findSkipRule builtinSkipRules line with _ | q
  · rw [findSkipRule_none.mp hfound r hr] at hholds
    cases hholds
  · obtain ⟨hq, before, after, hsplit, -⟩ := findSkipRule_eq_some.mp hfound
    refine ⟨q, hsplit ▸ List.mem_append_right before List.mem_cons_self, hq, ?_⟩
    simp [convertLine, builtin, hfound]

/-- Any other line goes through the steps and then through the rules of the user. -/
theorem convertLine_of_no_builtin_skip (p : List Char) (user : List UserRule) {line : List Char}
    (h : ∀ r ∈ builtinSkipRules, r.matcher.holds line = false) :
    ({ builtin p with userRules := user } : RuleSet).convertLine line =
      runUserRules user (runSteps (builtinSteps p) line) := by
  simp [convertLine, builtin, findSkipRule_none.mpr h]

end RuleSet

/-! ## The law -/

/-- A line of which a built-in skip rule holds is dropped, whatever the settings are. Any other line goes
through the steps one after another and then through the rules of the user: what the rules `u` alone make of it
is final where they drop it, and else the rules `v` run on what they leave, each on the text as changed so far.
Steps and substitutions that match nothing leave a text as it is, so it may be carried on. -/
theorem rules_run_from_left_to_right (s : Settings) (u v : List SourcedRule) (rules : RuleSet)
    (huser : s.rules = u ++ v) (hrules : RuleSet.ofSettings s = .ok rules) :
    (∃ first later, RuleSet.ofSettings { s with rules := u } = .ok first ∧
      compileRules v = .ok later ∧
      (∀ skip, .skip skip ∈ later → ∃ r ∈ v, ∃ source p, r.rule.skipPattern = some source ∧
        Regex.Pattern.compile? source = some p ∧
        ∀ text, skip.matcher.holds text = p.isMatch text) ∧
      ∀ line,
        ((∃ r ∈ builtinSkipRules, r.matcher.holds line = true) →
          ∃ r ∈ builtinSkipRules, r.matcher.holds line = true ∧
            rules.convertLine line = .elided (.builtin r.name)) ∧
        ((∀ r ∈ builtinSkipRules, r.matcher.holds line = false) →
          (RuleSet.builtin s.tablePrefix).convertLine line =
            .emitted ((builtinSteps s.tablePrefix).foldl (fun text step => (step.apply text).text) line) ∧
          (∀ cause, first.convertLine line = .elided cause → rules.convertLine line = .elided cause) ∧
          ∀ t, first.convertLine line = .emitted t →
            (∀ cause, rules.convertLine line = .elided cause ↔
              ∃ before r after, later = before ++ .skip r :: after ∧ RuleSet.Passes before t ∧
                r.matcher.holds (RuleSet.changed before t) = true ∧ cause = .user r.name) ∧
            ∀ text, rules.convertLine line = .emitted text ↔
              RuleSet.Passes later t ∧ text = RuleSet.changed later t) ∧
        rules.carryLine line = rules.convertLine line) ∧
    (∀ (sub : Substitution) text, (sub.apply text).matched = sub.pattern.isMatch text ∧
      ((sub.apply text).matched = false → (sub.apply text).text = text)) ∧
    ∀ (step : EditStep) text,
      ((step.apply text).matched = true ↔
        step.appliesTo text = true ∧ EditStep.MatchesInTurn step.substitutions text) ∧
      ((step.apply text).matched = false → (step.apply text).text = text) := by
  refine ⟨?_, fun sub text => ⟨sub.matched_apply text, fun h => ?_⟩,
    fun step text => ⟨step.matched_apply text, EditStep.text_apply_of_no_match⟩⟩
  · obtain ⟨compiled, hcompiled, rfl⟩ := RuleSet.ofSettings_eq_ok.mp hrules
    rw [huser] at hcompiled
    obtain ⟨first, later, hfirst, hlater, rfl⟩ := compileRules_append hcompiled
    refine ⟨{ RuleSet.builtin s.tablePrefix with userRules := first }, later,
      RuleSet.ofSettings_eq_ok.mpr ⟨first, hfirst, rfl⟩, hlater, fun skip hskip => ?_,
      fun line => ⟨RuleSet.convertLine_of_builtin_skip _ _, fun hnone => ?_, RuleSet.carryLine_eq _ line⟩⟩
    · obtain ⟨r, hr, source, p, hsource, hp, hmatcher⟩ := pattern_of_mem_compileRules hlater hskip
      refine ⟨r, hr, source, p, hsource, hp, fun text => ?_⟩
      rw [hmatcher]
      rfl
    · have hconvert := fun user => RuleSet.convertLine_of_no_builtin_skip s.tablePrefix user hnone
      rw [hconvert first, hconvert (first ++ later), RuleSet.runUserRules_append]
      refine ⟨hconvert [], fun cause hcause => by rw [hcause], fun t ht => ?_⟩
      rw [ht]
      exact ⟨fun cause => RuleSet.runUserRules_eq_elided, fun text => RuleSet.runUserRules_eq_emitted⟩
  · rw [sub.matched_apply] at h
    exact Substitution.text_apply_of_no_match h

/-- The second rule looks for what the first one puts in. -/
theorem a_skip_rule_behind_a_rewrite :
    let u : List SourcedRule := [⟨⟨none, some "s/INTEGER/BIGINT/".toList⟩, "r.toml"⟩]
    let v : List SourcedRule := [⟨⟨some "BIGINT".toList, none⟩, "r.toml"⟩]
    let s : Settings := { rules := u ++ v }
    let line := "\x60a\x60 int(1)".toList
    ∃ rules first, (s.rules = u ++ v ∧ RuleSet.ofSettings s = .ok rules) ∧
      RuleSet.ofSettings { s with rules := u } = .ok first ∧
      first.convertLine line = .emitted "a BIGINT".toList ∧
      rules.convertLine line = .elided (.user "BIGINT (r.toml)") := by
  intro u v s line
  obtain ⟨rules, hrules⟩ : ∃ rules, RuleSet.ofSettings s = .ok rules := ⟨_, rfl⟩
  obtain ⟨⟨first, later, hfirst, hlater, -, hlines⟩, -, -⟩ :=
    rules_run_from_left_to_right s u v rules rfl hrules
  obtain ⟨-, hpasses, -⟩ := hlines line
  have hnone : ∀ r ∈ builtinSkipRules, r.matcher.holds line = false := by decide +kernel
  have hemitted : first.convertLine line = .emitted "a BIGINT".toList := by
    have hall : (RuleSet.ofSettings { s with rules := u }).toOption.all
        (fun rules => rules.convertLine line = .emitted "a BIGINT".toList) = true := by decide +kernel
    rw [hfirst] at hall
    exact of_decide_eq_true hall
  have hcompiled : compileRules v = .ok [.skip ⟨"BIGINT (r.toml)", .pattern (knownPattern "BIGINT")⟩] := rfl
  obtain rfl := Except.ok.inj (hlater.symm.trans hcompiled)
  have hholds : (LineMatcher.pattern (knownPattern "BIGINT")).holds "a BIGINT".toList = true := by
    decide +kernel
  refine ⟨rules, first, ⟨rfl, hrules⟩, hfirst, hemitted, ?_⟩
  rw [((hpasses hnone).2.2 _ hemitted).1]
  exact ⟨[], _, [], rfl, RuleSet.passes_nil _, hholds, rfl⟩

end SqlDump
