-- Rules that are compiled: the settings have a rule set exactly when each rule of the user has a meaning, and
-- else the first rule without one is the fault. A checked file leaves only faults of patterns and substitutions.
import SqlDump.Config
import SqlDump.Proofs.Pipeline
import SqlDump.Proofs.WrittenSubstitution

namespace SqlDump

open Regex

/-! ## Patterns that are built in -/

/-- Compiling the text of the pattern gives the pattern. -/
def Substitution.Compiles (s : Substitution) : Prop :=
  Substitution.compilePattern s.pattern.source = .ok s.pattern

theorem compiles_knownSubstitution (name source : String) (replacement : List Char)
    (h : (Pattern.compile? source.toList).isSome = true) :
    (knownSubstitution name source replacement h).Compiles := by
  have hknown : Pattern.compile? source.toList = some (knownPattern source h) :=
    (Option.some_get h).symm
  have hsource : (knownPattern source h).source = source.toList :=
    Substitution.source_of_compile? hknown
  exact Substitution.compilePattern_eq_ok (hsource.symm ▸ hknown)

theorem compiles_typeMappings : ∀ s ∈ typeMappings, s.Compiles := by
  simp only [typeMappings, List.forall_mem_cons, compiles_knownSubstitution, List.not_mem_nil,
    false_implies, implies_true, and_true]

/-- The built-in patterns compile, whatever the prefix is. -/
theorem compiles_builtinSteps (p : List Char) :
    ∀ step ∈ builtinSteps p, ∀ s ∈ step.substitutions, s.Compiles := by
  simp only [builtinSteps, dropTable, createTable, tableOptions, autoIncrement, unsigned, backquotes,
    insertTable, List.forall_mem_append, List.forall_mem_cons, List.forall_mem_map,
    compiles_knownSubstitution, List.not_mem_nil, false_implies, implies_true, and_true, true_and]
  exact compiles_typeMappings

/-! ## One rule -/

theorem Substitution.compilePattern_eq_error {source : List Char} (h : Pattern.compile? source = none) :
    compilePattern source = .error (.invalidPattern source) := by
  unfold compilePattern
  rw [h]

/-- What a rule is compiled to: a skip rule that looks for its pattern, named by the pattern and the file, or
the substitution that it writes down. -/
inductive SourcedRule.Gives (r : SourcedRule) : UserRule → Prop
  | skip {source : List Char} {p : Pattern} : r.rule = ⟨some source, none⟩ →
      Pattern.compile? source = some p →
      r.Gives (.skip ⟨String.ofList source ++ " (" ++ r.source ++ ")", .pattern p⟩)
  | substitute {expr : List Char} {s : Substitution} : r.rule = ⟨none, some expr⟩ →
      Substitution.read expr = .ok s → r.Gives (.substitute s)

/-- Why a rule has no meaning: its check fails, or the text of its one action has none. -/
inductive SourcedRule.Fails (r : SourcedRule) : Fault → Prop
  | check {fault : Fault} : r.rule.check = .error fault → r.Fails fault
  | skip {source : List Char} : r.rule = ⟨some source, none⟩ → Pattern.compile? source = none →
      r.Fails (.invalidPattern source)
  | substitute {expr : List Char} {fault : Fault} : r.rule = ⟨none, some expr⟩ →
      Substitution.read expr = .error fault → r.Fails fault

namespace SourcedRule

theorem Gives.compile {r : SourcedRule} {u : UserRule} (h : r.Gives u) : r.compile = .ok u := by
  unfold SourcedRule.compile
  cases h with
  | skip hrule hp =>
    simp only [hrule, Substitution.compilePattern_eq_ok hp]
    rfl
  | substitute hrule hread =>
    simp only [hrule, hread]
    rfl

theorem Fails.compile {r : SourcedRule} {fault : Fault} (h : r.Fails fault) :
    r.compile = .error fault := by
  unfold SourcedRule.compile
  cases h with
  | check hcheck =>
    unfold Rule.check at hcheck
    rcases hrule : r.rule with ⟨_ | source, _ | expr⟩ <;> rw [hrule] at hcheck <;> cases hcheck <;> rfl
  | skip hrule hp =>
    simp only [hrule, Substitution.compilePattern_eq_error hp]
    rfl
  | substitute hrule hread =>
    simp only [hrule, hread]
    rfl

theorem gives_or_fails (r : SourcedRule) : (∃ u, r.Gives u) ∨ ∃ fault, r.Fails fault := by
  rcases hrule : r.rule with ⟨_ | source, _ | expr⟩
  · exact Or.inr ⟨.noAction, .check (by rw [hrule]; rfl)⟩
  · rcases hread : Substitution.read expr with fault | s
    · exact Or.inr ⟨fault, .substitute hrule hread⟩
    · exact Or.inl ⟨_, .substitute hrule hread⟩
  · rcases hp : Pattern.compile? source with _ | p
    · exact Or.inr ⟨_, .skip hrule hp⟩
    · exact Or.inl ⟨_, .skip hrule hp⟩
  · exact Or.inr ⟨.twoActions, .check (by rw [hrule]; rfl)⟩

theorem compile_eq_ok {r : SourcedRule} {u : UserRule} : r.compile = .ok u ↔ r.Gives u := by
  refine ⟨fun h => ?_, Gives.compile⟩
  rcases r.gives_or_fails with ⟨u', hu⟩ | ⟨fault, hfault⟩
  · rwa [← Except.ok.inj (hu.compile.symm.trans h)]
  · cases hfault.compile.symm.trans h

end SourcedRule

/-! ## All rules -/

theorem compileRules_eq_ok {rules : List SourcedRule} {user : List UserRule} :
    compileRules rules = .ok user ↔ List.Forall₂ SourcedRule.Gives rules user := by
  induction rules generalizing user with
  | nil =>
    rw [List.forall₂_nil_left_iff]
    exact ⟨fun h => (Except.ok.inj h).symm, fun h => h ▸ rfl⟩
  | cons r rules ih =>
    rw [List.forall₂_cons_left_iff, compileRules]
    constructor
    · intro h
      rcases hr : r.compile with fault | u
      · rw [hr] at h
        cases h
      rcases hrest : compileRules rules with fault | others
      · rw [hr, hrest] at h
        cases h
      rw [hr, hrest] at h
      cases h
      exact ⟨u, others, SourcedRule.compile_eq_ok.mp hr, ih.mp hrest, rfl⟩
    · rintro ⟨u, others, hr, hrest, rfl⟩
      rw [hr.compile, ih.mpr hrest]
      rfl

theorem compileRules_of_front {rules before : List SourcedRule} {r : SourcedRule} {fault : Fault}
    (h : before ++ [r] <+: rules) (hbefore : ∀ q ∈ before, ∃ u, q.Gives u) (hr : r.Fails fault) :
    compileRules rules = .error fault := by
  obtain ⟨after, rfl⟩ := h
  induction before with
  | nil =>
    rw [List.nil_append, List.singleton_append, compileRules, hr.compile]
    rfl
  | cons q before ih =>
    obtain ⟨u, hu⟩ := hbefore q List.mem_cons_self
    have hrest := ih fun s hs => hbefore s (List.mem_cons_of_mem q hs)
    rw [List.cons_append, List.cons_append, compileRules, hu.compile, hrest]
    rfl

theorem exists_first_failure {rules : List SourcedRule} {fault : Fault}
    (h : compileRules rules = .error fault) :
    ∃ before r, before ++ [r] <+: rules ∧ (∀ q ∈ before, ∃ u, q.Gives u) ∧ r.Fails fault := by
  induction rules with
  | nil => cases h
  | cons r rules ih =>
    rcases r.gives_or_fails with ⟨u, hu⟩ | ⟨fault', hr⟩
    · have hrest : compileRules rules = .error fault := by
        rw [compileRules, hu.compile] at h
        rcases hrest : compileRules rules with fault' | others
        · rw [hrest] at h
          exact h
        · rw [hrest] at h
          cases h
      obtain ⟨before, q, hfront, hbefore, hq⟩ := ih hrest
      refine ⟨r :: before, q, List.cons_prefix_cons.mpr ⟨rfl, hfront⟩, fun s hs => ?_, hq⟩
      rcases List.mem_cons.mp hs with rfl | hs
      · exact ⟨u, hu⟩
      · exact hbefore s hs
    · rw [compileRules, hr.compile] at h
      cases h
      exact ⟨[], r, List.cons_prefix_cons.mpr ⟨rfl, List.nil_prefix⟩, by simp, hr⟩

theorem ofSettings_eq_error {s : Settings} {fault : Fault} :
    RuleSet.ofSettings s = .error fault ↔ compileRules s.rules = .error fault := by
  unfold RuleSet.ofSettings
  rcases compileRules s.rules with fault' | user
  · constructor <;> (intro h; cases h; rfl)
  · exact ⟨nofun, nofun⟩

/-! ## Rules of a checked file -/

/-- A fault of a pattern or of a written substitution. -/
def Fault.IsOfText (fault : Fault) : Prop :=
  (∃ source, fault = .invalidPattern source) ∨ ∃ expr flaw, fault = .invalidSubstitution expr flaw

theorem isOfText_of_read {expr : List Char} {fault : Fault}
    (h : Substitution.read expr = .error fault) : fault.IsOfText := by
  unfold Substitution.read at h
  split at h
  · split at h
    · rename_i pattern _ _ _
      rcases hp : Pattern.compile? pattern with _ | p
      · rw [Substitution.compilePattern_eq_error hp] at h
        cases h
        exact Or.inl ⟨_, rfl⟩
      · rw [Substitution.compilePattern_eq_ok hp] at h
        cases h
    · cases h
      exact Or.inr ⟨_, _, rfl⟩
  · cases h
    exact Or.inr ⟨_, _, rfl⟩
  · cases h
    exact Or.inr ⟨_, _, rfl⟩

theorem SourcedRule.Fails.isOfText {r : SourcedRule} {fault : Fault} (h : r.Fails fault)
    (hcheck : r.rule.check = .ok ()) : fault.IsOfText := by
  cases h with
  | check hfault => cases hcheck.symm.trans hfault
  | skip => exact Or.inl ⟨_, rfl⟩
  | substitute _ hread => exact isOfText_of_read hread

theorem check_of_parse {text : List Char} {path : String} {config : Config}
    (h : Config.parse text path = .ok config) : config.check = .ok () := by
  unfold Config.parse at h
  split at h
  · cases h
  · rename_i c _
    rcases hc : c.check with fault | ⟨⟩
    · rw [hc] at h
      cases h
    · rw [hc] at h
      cases h
      exact hc

/-! ## The law -/

/-- The built-in patterns compile under every prefix. So settings give a rule set exactly when every rule of
the user has a meaning, and its rules are then made of theirs, one of each in order. Otherwise the first rule
without a meaning is the fault, under any other settings as well that have the same rules up to there. Where the
rules come from a file that was read and checked, it is a fault of a pattern or of a written substitution. -/
theorem settings_compile_rule_by_rule (s : Settings) :
    (∀ step ∈ builtinSteps s.tablePrefix, ∀ sub ∈ step.substitutions,
      Substitution.compilePattern sub.pattern.source = .ok sub.pattern) ∧
    ((∃ rules, RuleSet.ofSettings s = .ok rules) ↔ ∀ r ∈ s.rules, ∃ u, r.Gives u) ∧
    (∀ rules, RuleSet.ofSettings s = .ok rules →
      rules = { RuleSet.builtin s.tablePrefix with userRules := rules.userRules } ∧
        List.Forall₂ SourcedRule.Gives s.rules rules.userRules ∧
        rules.userRules.length = s.rules.length) ∧
    (∀ fault, RuleSet.ofSettings s = .error fault →
      ∃ (before : List SourcedRule) (r : SourcedRule),
        before ++ [r] <+: s.rules ∧ (∀ q ∈ before, ∃ u, q.Gives u) ∧ r.Fails fault ∧
        ∀ other : Settings, before ++ [r] <+: other.rules → RuleSet.ofSettings other = .error fault) ∧
    ∀ text path config place, Config.parse text path = .ok config →
      s.rules = (Settings.ofConfig config place).rules →
      ∀ fault, RuleSet.ofSettings s = .error fault →
        (∃ source, fault = .invalidPattern source) ∨ ∃ expr flaw, fault = .invalidSubstitution expr flaw := by
  refine ⟨compiles_builtinSteps s.tablePrefix, ?_, ?_, ?_, ?_⟩
  · constructor
    · rintro ⟨rules, hrules⟩ r hr
      obtain ⟨user, huser, -⟩ := RuleSet.ofSettings_eq_ok.mp hrules
      obtain ⟨u, -, hu⟩ := exists_of_forall₂ (compileRules_eq_ok.mp huser) hr
      exact ⟨u, hu⟩
    · intro hall
      rcases hs : RuleSet.ofSettings s with fault | rules
      · obtain ⟨before, r, hfront, -, hr⟩ := exists_first_failure (ofSettings_eq_error.mp hs)
        obtain ⟨u, hu⟩ := hall r (hfront.subset (by simp))
        cases hu.compile.symm.trans hr.compile
      · exact ⟨rules, rfl⟩
  · intro rules hrules
    obtain ⟨user, huser, rfl⟩ := RuleSet.ofSettings_eq_ok.mp hrules
    have hall := compileRules_eq_ok.mp huser
    exact ⟨rfl, hall, hall.length_eq.symm⟩
  · intro fault hfault
    obtain ⟨before, r, hfront, hbefore, hr⟩ := exists_first_failure (ofSettings_eq_error.mp hfault)
    exact ⟨before, r, hfront, hbefore, hr, fun other hother =>
      ofSettings_eq_error.mpr (compileRules_of_front hother hbefore hr)⟩
  · intro text path config place hparse hrules fault hfault
    obtain ⟨before, r, hfront, -, hr⟩ := exists_first_failure (ofSettings_eq_error.mp hfault)
    have hmem : r ∈ s.rules := hfront.subset (by simp)
    rw [hrules] at hmem
    obtain ⟨rule, hrule, rfl⟩ := List.mem_map.mp hmem
    obtain ⟨-, -, hsound⟩ := Config.check_eq_ok.mp (check_of_parse hparse)
    exact hr.isOfText (hsound rule hrule)

/-- A file of three rules: the first one compiles, the second one is a substitution without a replacement,
and the pattern of the third one is not closed. -/
theorem the_second_rule_of_a_file_is_the_fault :
    let text := "[[rules]]\nskip_pattern = \"^a\"\n[[rules]]\nrewrite = \"s/b\"\n[[rules]]\nskip_pattern = \"(\"\n".toList
    let config : Config := ⟨none, none,
      [⟨some "^a".toList, none⟩, ⟨none, some "s/b".toList⟩, ⟨some "(".toList, none⟩]⟩
    let s := Settings.ofConfig config "r.toml"
    let fault := Fault.invalidSubstitution "s/b".toList .noReplacement
    (Config.parse text "r.toml" = .ok config ∧ RuleSet.ofSettings s = .error fault) ∧
      ((∃ source, fault = .invalidPattern source) ∨ ∃ expr flaw, fault = .invalidSubstitution expr flaw) ∧
      ∃ before r, before ++ [r] <+: s.rules ∧ (∀ q ∈ before, ∃ u, SourcedRule.Gives q u) ∧
        SourcedRule.Fails r fault := by
  intro text config s fault
  have hparse : Config.parse text "r.toml" = .ok config := by decide +kernel
  have hfault : RuleSet.ofSettings s = .error fault := rfl
  obtain ⟨-, -, -, hfirst, hfile⟩ := settings_compile_rule_by_rule s
  obtain ⟨before, r, hfront, hbefore, hr, -⟩ := hfirst fault hfault
  exact ⟨⟨hparse, hfault⟩, hfile text "r.toml" config "r.toml" hparse rfl fault hfault,
    before, r, hfront, hbefore, hr⟩

end SqlDump
