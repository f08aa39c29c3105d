-- The log of a conversion. Each line that is dropped leaves one record, in the order of the lines, which names
-- the first rule that drops it and quotes the line as it was read. No other line leaves one.
import SqlDump.Proofs.Pipeline
import SqlDump.Proofs.Reports

namespace SqlDump

/-! ## Why a line is dropped -/

/-- How a record names the rule. -/
def Elision.named : Elision → String
  | builtin rule => rule
  | user rule => "user rule " ++ rule

namespace RuleSet

/-- Why a line is dropped: by the first skip rule that holds of it as it was read, and where there is none, by
the first skip rule of the user that holds of the text as changed so far. -/
inductive DropsBy (rules : RuleSet) (line : List Char) : Elision → Prop
  | builtin {before after : List SkipRule} {r : SkipRule} :
      rules.skipRules = before ++ r :: after → (∀ q ∈ before, q.matcher.holds line = false) →
      r.matcher.holds line = true → rules.DropsBy line (.builtin r.name)
  | user {before after : List UserRule} {r : SkipRule} :
      (∀ q ∈ rules.skipRules, q.matcher.holds line = false) →
      rules.userRules = before ++ .skip r :: after → Passes before (runSteps rules.steps line) →
      r.matcher.holds (changed before (runSteps rules.steps line)) = true →
      rules.DropsBy line (.user r.name)

variable {rules : RuleSet}

theorem DropsBy.convertLine {line : List Char} {cause : Elision} (h : rules.DropsBy line cause) :
    rules.convertLine line = .elided cause := by
  unfold RuleSet.convertLine
  cases h with
  | builtin hsplit hbefore hholds =>
    rw [findSkipRule_eq_some.mpr ⟨hholds, _, _, hsplit, hbefore⟩]
  | user hnone hsplit hpasses hholds =>
    rw [findSkipRule_none.mpr hnone]
    exact runUserRules_eq_elided.mpr ⟨_, _, _, hsplit, hpasses, hholds, rfl⟩

/-- A line is dropped exactly where there is a cause, and the cause is that one. -/
theorem convertLine_eq_elided {line : List Char} {cause : Elision} :
    rules.convertLine line = .elided cause ↔ rules.DropsBy line cause := by
  refine ⟨fun h => ?_, DropsBy.convertLine⟩
  unfold RuleSet.convertLine at h
  rcases hfind : findSkipRule rules.skipRules line with _ | r
  · rw [hfind] at h
    obtain ⟨before, r, after, hsplit, hpasses, hholds, rfl⟩ := runUserRules_eq_elided.mp h
    exact .user (findSkipRule_none.mp hfind) hsplit hpasses hholds
  · rw [hfind] at h
    obtain ⟨hholds, before, after, hsplit, hbefore⟩ := findSkipRule_eq_some.mp hfind
    cases h
    exact .builtin hsplit hbefore hholds

theorem drops_iff {line : Line} : rules.drops line = true ↔ ∃ cause, rules.DropsBy line.content cause := by
  unfold drops
  rcases h : rules.convertLine line.content with cause | text
  · exact ⟨fun _ => ⟨cause, convertLine_eq_elided.mp h⟩, fun _ => rfl⟩
  · refine ⟨nofun, fun ⟨cause, hcause⟩ => ?_⟩
    cases h.symm.trans hcause.convertLine

/-! ## Records -/

/-- The record of a line that is dropped names the rule and quotes the line as it was read. -/
def Records (rules : RuleSet) (line : Line) (e : Event) : Prop :=
  ∃ cause, rules.DropsBy line.content cause ∧ e = .elided cause line.content ∧
    e.render = "DEBUG mysql2pg::rules: " ++
      ("elided by " ++ cause.named ++ ": " ++ String.ofList line.content)

/-- What a line leaves in the log. -/
def record (rules : RuleSet) (line : Line) : List Event :=
  (rules.convertLine line.content).events line.content

theorem render_elided (cause : Elision) (line : List Char) :
    (Event.elided cause line).render = "DEBUG mysql2pg::rules: " ++
      ("elided by " ++ cause.named ++ ": " ++ String.ofList line) := by
  cases cause <;> rfl

theorem records_of_lines (rules : RuleSet) (lines : List Line) :
    List.Forall₂ rules.Records (lines.filter rules.drops) (lines.flatMap rules.record) := by
  induction lines with
  | nil => exact .nil
  | cons line lines ih =>
    rw [List.flatMap_cons]
    unfold record
    rcases h : rules.convertLine line.content with cause | text
    · have hdrops : rules.drops line = true := drops_iff.mpr ⟨cause, convertLine_eq_elided.mp h⟩
      rw [List.filter_cons_of_pos hdrops]
      exact .cons ⟨cause, convertLine_eq_elided.mp h, rfl, render_elided cause line.content⟩ ih
    · have hkept : ¬ rules.drops line = true := by simp [drops, h]
      rw [List.filter_cons_of_neg hkept]
      exact ih

/-- The records are as many as the lines that are counted as dropped. -/
theorem length_of_records {lines : List Line} {events : List Event}
    (h : List.Forall₂ rules.Records (lines.filter rules.drops) events) :
    events.length = (rules.counts lines).elided := by
  rw [← h.length_eq]
  exact List.countP_eq_length_filter.symm

/-- A line that there is no room for is not dropped. -/
theorem record_of_exceeds {room : Option Nat} {line : Line}
    (h : exceeds room (rules.contribution line) = true) : rules.record line = [] := by
  rcases hline : rules.convertLine line.content with cause | text
  · have hnothing : rules.contribution line = [] := by simp [contribution, hline]
    rw [hnothing] at h
    cases room <;> simp [exceeds] at h
  · simp [record, hline, Outcome.events]

end RuleSet

namespace Converter

/-- A run over lines leaves the records of the lines that find room. -/
theorem events_foldl (c : Converter) (lines : List Line) (p : Progress) (h : p.stuck = false) :
    (lines.foldl c.handle p).events.reverse =
      p.events.reverse ++ (before c.rules p.room lines).flatMap c.rules.record := by
  induction lines generalizing p with
  | nil => simp [before]
  | cons line lines ih =>
    have hstep := c.handle_eq p line h
    have hevents : (c.handle p line).events = c.rules.record line ++ p.events := by rw [hstep]; rfl
    have hreverse : (c.rules.record line).reverse = c.rules.record line := by
      unfold RuleSet.record
      cases c.rules.convertLine line.content <;> rfl
    rw [List.foldl_cons, before]
    cases hx : exceeds p.room (c.rules.contribution line) with
    | true =>
      have hstuck : (c.handle p line).stuck = true := by rw [hstep]; exact hx
      rw [c.foldl_handle_of_stuck lines _ hstuck, hevents, RuleSet.record_of_exceeds hx]
      simp
    | false =>
      have hstuck : (c.handle p line).stuck = false := by rw [hstep]; exact hx
      have hroom : (c.handle p line).room = roomAfter p.room (c.rules.contribution line) := by rw [hstep]
      rw [ih _ hstuck, hevents, hroom, List.reverse_append, hreverse]
      simp

theorem events_convert (c : Converter) (arrivals : List Arrival) (sink : Sink) :
    (c.convert arrivals sink).events =
      if exceeds sink.room opening then []
      else (before c.rules (roomAfter sink.room opening)
        (inputLines (readable arrivals))).flatMap c.rules.record := by
  have hopening : Utf8.encode prologue = opening := rfl
  unfold convert run
  rw [ofArrivals_eq, hopening, Progress.write_eq]
  simp only [Bool.false_or]
  cases hx : exceeds sink.room opening with
  | true =>
    rw [c.foldl_handle_of_stuck _ _ rfl]
    rfl
  | false =>
    rw [c.events_foldl _ _ rfl]
    rfl

theorem events_whole (c : Converter) (bytes : List UInt8) :
    (c.convert [.bytes bytes]).events = (inputLines bytes).flatMap c.rules.record := by
  rw [events_convert]
  simp [exceeds, readable, fails, delivered, roomAfter, before_none]

/-- The records are those of the lines that there is room for. -/
theorem exists_recorded (c : Converter) (arrivals : List Arrival) (sink : Sink) :
    let lines := inputLines (readable arrivals)
    ∃ n ≤ lines.length,
      (n = 0 ∨ exceeds sink.room (opening ++ c.rules.script (lines.take n)) = false) ∧
      (n < lines.length → exceeds sink.room (opening ++ c.rules.script (lines.take (n + 1))) = true) ∧
      List.Forall₂ c.rules.Records ((lines.take n).filter c.rules.drops)
        (c.convert arrivals sink).events := by
  intro lines
  rw [c.events_convert]
  cases hx : exceeds sink.room opening with
  | true =>
    refine ⟨0, Nat.zero_le _, Or.inl rfl, fun _ => ?_, .nil⟩
    rw [exceeds_append, hx, Bool.true_or]
  | false =>
    have htake := before_eq_take c.rules (roomAfter sink.room opening) lines
    refine ⟨_, length_before_le c.rules (roomAfter sink.room opening) lines, Or.inr ?_, fun hn => ?_, ?_⟩
    · rw [exceeds_append, hx, Bool.false_or, ← htake]
      exact before_fits _ _ _
    · rw [exceeds_append, hx, Bool.false_or]
      exact before_then_exceeds _ _ _ hn
    · rw [← htake]
      exact c.rules.records_of_lines _

theorem records_of_ok {c : Converter} {arrivals : List Arrival} {sink : Sink} {t : Tally}
    (h : (c.convert arrivals sink).result = .ok t) :
    List.Forall₂ c.rules.Records ((inputLines (delivered arrivals)).filter c.rules.drops)
      (c.convert arrivals sink).events := by
  obtain ⟨hopening, hall⟩ := fits_of_ok h
  rw [c.events_convert, if_neg (by simp [hopening]), hall]
  exact c.rules.records_of_lines _

/-! ## The law -/

/-- A conversion leaves one record for each line that is dropped, in the order of the lines, and none for any
other line. The first `n` lines are those that there is room for; where nothing fails these are all lines, and
there are as many records as lines counted as dropped. A line is dropped by the first skip rule that holds of it
as it was read, else by the first skip rule of the user that holds of the text as changed so far; rules that are
made from settings have the built-in skip rules. -/
theorem each_dropped_line_leaves_one_record (c : Converter) (arrivals : List Arrival) (sink : Sink) :
    let done := c.convert arrivals sink
    let lines := inputLines (readable arrivals)
    (∃ n ≤ lines.length,
      (n = 0 ∨ exceeds sink.room (opening ++ c.rules.script (lines.take n)) = false) ∧
      (n < lines.length → exceeds sink.room (opening ++ c.rules.script (lines.take (n + 1))) = true) ∧
      List.Forall₂ c.rules.Records ((lines.take n).filter c.rules.drops) done.events ∧
      done.events.length = (c.rules.counts (lines.take n)).elided) ∧
    (∀ t, done.result = .ok t →
      List.Forall₂ c.rules.Records ((inputLines (delivered arrivals)).filter c.rules.drops) done.events ∧
      done.events.length = t.elided) ∧
    (∀ line, c.rules.drops line = true ↔ ∃ cause, c.rules.DropsBy line.content cause) ∧
    ∀ s, RuleSet.ofSettings s = .ok c.rules → c.rules.skipRules = builtinSkipRules := by
  intro done lines
  refine ⟨?_, fun t ht => ?_, fun line => RuleSet.drops_iff, fun s hs => ?_⟩
  · obtain ⟨n, hn, hfits, hmore, hrecords⟩ := c.exists_recorded arrivals sink
    exact ⟨n, hn, hfits, hmore, hrecords, RuleSet.length_of_records hrecords⟩
  · have hrecords := records_of_ok ht
    refine ⟨hrecords, ?_⟩
    rw [RuleSet.length_of_records hrecords, (convert_ok ht).2]
  · obtain ⟨user, -, hrules⟩ := RuleSet.ofSettings_eq_ok.mp hs
    rw [hrules]
    rfl

/-- A comment that two rules hold of, a line that is kept, and one that a rule of the user drops for a word that
the rule before it has put there. -/
theorem records_of_a_comment_and_of_a_changed_line :
    let s : Settings := { rules := [⟨⟨none, some "s/INTEGER/BIGINT/".toList⟩, "r.toml"⟩,
      ⟨⟨some "BIGINT".toList, none⟩, "r.toml"⟩] }
    let dump := Utf8.encode "-- SET NAMES x\nb\n\x60a\x60 int(1)".toList
    let records := [Event.elided (.builtin "line-comment") "-- SET NAMES x".toList,
      .elided (.user "BIGINT (r.toml)") "\x60a\x60 int(1)".toList]
    ∃ rules, RuleSet.ofSettings s = .ok rules ∧
      let done := ({ rules } : Converter).convert [.bytes dump]
      done.result = .ok ⟨3, 0, 2⟩ ∧ done.events = records ∧ done.events.length = 2 ∧
      List.Forall₂ rules.Records ((inputLines dump).filter rules.drops) done.events := by
  intro s dump records
  obtain ⟨rules, hrules⟩ : ∃ rules, RuleSet.ofSettings s = .ok rules := ⟨_, rfl⟩
  refine ⟨rules, hrules, ?_⟩
  intro done
  have hlines : rules.counts (inputLines dump) = ⟨3, 0, 2⟩ ∧
      (inputLines dump).flatMap rules.record = records := by
    have hall : (RuleSet.ofSettings s).toOption.all (fun rules =>
        rules.counts (inputLines dump) = ⟨3, 0, 2⟩ ∧
          (inputLines dump).flatMap rules.record = records) = true := by decide +kernel
    rw [hrules] at hall
    exact of_decide_eq_true hall
  have hresult : done.result = .ok ⟨3, 0, 2⟩ := by
    unfold done
    rw [result_whole, ← hlines.1]
  have hevents : done.events = (inputLines dump).flatMap rules.record := events_whole { rules } dump
  have hdelivered : delivered [.bytes dump] = dump := List.append_nil dump
  obtain ⟨-, hok, -⟩ := each_dropped_line_leaves_one_record { rules } [.bytes dump] {}
  obtain ⟨hrecords, hlength⟩ := hok ⟨3, 0, 2⟩ hresult
  rw [hdelivered] at hrecords
  exact ⟨hresult, hevents.trans hlines.2, hlength, hrecords⟩

end Converter

end SqlDump
