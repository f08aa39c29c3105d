-- What is reported while a conversion runs: each time so many lines have been read, the counts so far. They
-- are what a conversion of these lines alone ends with.
import SqlDump.Proofs.Transfer
import Mathlib.Data.List.Induction

namespace SqlDump

/-! ## Counts compared -/

/-- Counts are compared one by one. -/
instance : LE Tally := ⟨fun a b => a.read ≤ b.read ∧ a.changed ≤ b.changed ∧ a.elided ≤ b.elided⟩

theorem Tally.le_add (a b : Tally) : a ≤ a + b :=
  ⟨Nat.le_add_right _ _, Nat.le_add_right _ _, Nat.le_add_right _ _⟩

namespace RuleSet

/-- More lines give more counts. -/
theorem counts_le_of_prefix (rules : RuleSet) {x y : List Line} (h : x <+: y) :
    rules.counts x ≤ rules.counts y := by
  obtain ⟨z, rfl⟩ := h
  rw [counts_append]
  exact Tally.le_add _ _

/-- No line is both dropped and changed. -/
theorem counts_fit (rules : RuleSet) (lines : List Line) :
    (rules.counts lines).changed + (rules.counts lines).elided ≤ (rules.counts lines).read := by
  induction lines with
  | nil => exact Nat.le_refl 0
  | cons line lines ih =>
    have hline : (rules.counts [line]).changed + (rules.counts [line]).elided ≤ (rules.counts [line]).read := by
      unfold counts changes drops
      rcases h : rules.convertLine line.content with cause | text
      · simp [h]
      · by_cases ht : text = line.content <;> simp [h, ht]
    rw [counts_cons]
    simp only [Tally.add_def]
    omega

end RuleSet

namespace Converter

/-! ## Reports of a run -/

theorem dueOver_concat (c : Converter) (t : Tally) (lines : List Line) (line : Line) :
    c.dueOver t (lines ++ [line]) =
      c.dueOver t lines ++ c.due (t + c.rules.counts (lines ++ [line])) := by
  induction lines generalizing t with
  | nil => simp [dueOver]
  | cons first lines ih =>
    rw [List.cons_append, dueOver, dueOver, ih, List.append_assoc, Tally.add_assoc,
      ← c.rules.counts_cons first]

/-- A report for each whole multiple of the interval, with the counts of the lines up to there. -/
theorem dueOver_eq (c : Converter) (lines : List Line) :
    c.dueOver {} lines = (List.range (lines.length / c.interval)).map fun j =>
      c.rules.counts (lines.take ((j + 1) * c.interval)) := by
  induction lines using List.reverseRecOn with
  | nil => simp [dueOver]
  | append_singleton lines line ih =>
    -- the reports before the last line have not changed
    have hbefore : ∀ j ∈ List.range (lines.length / c.interval),
        c.rules.counts (lines.take ((j + 1) * c.interval)) =
          c.rules.counts ((lines ++ [line]).take ((j + 1) * c.interval)) := by
      intro j hj
      have hle : (j + 1) * c.interval ≤ lines.length :=
        Nat.mul_le_of_le_div _ _ _ (List.mem_range.mp hj)
      rw [List.take_append_of_le_length hle]
    have hstart : ({} : Tally) + c.rules.counts (lines ++ [line]) = c.rules.counts (lines ++ [line]) := by
      simp [Tally.add_def]
    have hlength : (lines ++ [line]).length = lines.length + 1 := by simp
    have hread : (c.rules.counts (lines ++ [line])).read = lines.length + 1 := hlength
    rw [dueOver_concat, ih, hstart, List.map_congr_left hbefore, hlength, Nat.succ_div]
    unfold due
    rw [hread]
    by_cases hdvd : c.interval ∣ lines.length + 1
    · have hwhole : (lines.length / c.interval + 1) * c.interval = lines.length + 1 := by
        rw [← Nat.succ_div_of_dvd hdvd]
        exact Nat.div_mul_cancel hdvd
      rw [if_pos (Nat.mod_eq_zero_of_dvd hdvd), if_pos hdvd, List.range_succ, List.map_append,
        List.map_singleton, hwhole, ← hlength, List.take_length]
    · have hrest : ¬ (lines.length + 1) % c.interval = 0 := fun he => hdvd (Nat.dvd_of_mod_eq_zero he)
      rw [if_neg hrest, if_neg hdvd, List.append_nil, Nat.add_zero]

/-- Where there is room for all, no line is cut off. -/
theorem before_of_fits {rules : RuleSet} {room : Option Nat} {lines : List Line}
    (h : exceeds room (rules.script lines) = false) : before rules room lines = lines := by
  induction lines generalizing room with
  | nil => rfl
  | cons line lines ih =>
    rw [RuleSet.script_cons, exceeds_append, Bool.or_eq_false_iff] at h
    rw [before, if_neg (by simp [h.1]), ih h.2]

/-- A conversion that succeeds has room for the prologue and for all lines. -/
theorem fits_of_ok {c : Converter} {arrivals : List Arrival} {sink : Sink} {t : Tally}
    (h : (c.convert arrivals sink).result = .ok t) :
    exceeds sink.room opening = false ∧
      before c.rules (roomAfter sink.room opening) (inputLines (readable arrivals)) =
        inputLines (delivered arrivals) := by
  rw [result_convert] at h
  split at h
  · cases h
  · rename_i hno
    simp only [Bool.or_eq_true, not_or, Bool.not_eq_true] at hno
    obtain ⟨⟨hroom, hread⟩, -⟩ := hno
    have hall : readable arrivals = delivered arrivals := by simp [readable, hread]
    rw [exceeds_append, Bool.or_eq_false_iff] at hroom
    exact ⟨hroom.1, by rw [before_of_fits hroom.2, hall]⟩

/-- A conversion that succeeds has made the reports of all its lines. -/
theorem reports_of_ok {c : Converter} {arrivals : List Arrival} {sink : Sink} {t : Tally}
    (h : (c.convert arrivals sink).result = .ok t) :
    (c.convert arrivals sink).reports = c.dueOver {} (inputLines (delivered arrivals)) := by
  obtain ⟨hopening, hall⟩ := fits_of_ok h
  rw [reports_convert, if_neg (by simp [hopening]), hall]

/-! ## The law -/

/-- A conversion that succeeds has made a report for each whole multiple of the interval, where zero counts
as one. The report behind `j` intervals has the counts that a conversion of the lines up to there ends with,
however these are delivered and wherever they go. In the reports and at the end no more lines are changed and
dropped than are read, and from report to report no count falls. -/
theorem reports_are_the_counts_of_the_lines_so_far (rules : RuleSet) (interval : Nat)
    {arrivals : List Arrival} {sink : Sink} {t : Tally}
    (h : ((({ rules } : Converter).withInterval interval).convert arrivals sink).result = .ok t) :
    let c := ({ rules } : Converter).withInterval interval
    let m := max interval 1
    let input := delivered arrivals
    let reports := (c.convert arrivals sink).reports
    (c.interval = m ∧ 0 < m) ∧
    reports.length = (inputLines input).length / m ∧
    (∀ j, 0 < j → j ≤ (inputLines input).length / m →
      ∃ s, reports[j - 1]? = some s ∧
        (c.convert [.bytes (firstLines (j * m) input)]).result = .ok s ∧
        ∀ others place s', delivered others = firstLines (j * m) input →
          (c.convert others place).result = .ok s' → s' = s) ∧
    (∀ s ∈ t :: reports, s.changed + s.elided ≤ s.read) ∧
    reports.Pairwise (fun a b => a.read < b.read ∧ a ≤ b) ∧ ∀ s ∈ reports, s ≤ t := by
  intro c m input reports
  have hm : 0 < m := Nat.le_max_right interval 1
  obtain ⟨-, rfl⟩ := convert_ok h
  have hreports : reports = (List.range ((inputLines input).length / m)).map fun j =>
      c.rules.counts ((inputLines input).take ((j + 1) * m)) :=
    (reports_of_ok h).trans (dueOver_eq c _)
  rw [hreports]
  refine ⟨⟨rfl, hm⟩, by simp, fun j hpos hj => ?_, fun s hs => ?_, ?_, fun s hs => ?_⟩
  · obtain ⟨i, rfl⟩ := Nat.exists_eq_add_one_of_ne_zero (Nat.ne_of_gt hpos)
    refine ⟨c.rules.counts ((inputLines input).take ((i + 1) * m)), ?_, ?_, ?_⟩
    · rw [Nat.add_sub_cancel, List.getElem?_map, List.getElem?_range hj, Option.map_some]
    · rw [result_whole, inputLines_firstLines]
    · intro others place s' hothers hs'
      rw [(convert_ok hs').2, hothers, inputLines_firstLines]
  · rcases List.mem_cons.mp hs with rfl | hs
    · exact c.rules.counts_fit _
    · obtain ⟨j, -, rfl⟩ := List.mem_map.mp hs
      exact c.rules.counts_fit _
  · rw [List.pairwise_map]
    refine List.Pairwise.imp_of_mem ?_ List.pairwise_lt_range
    intro i j hi hj hij
    have hless : (i + 1) * m < (j + 1) * m := Nat.mul_lt_mul_of_pos_right (Nat.succ_lt_succ hij) hm
    have hfits : (j + 1) * m ≤ (inputLines input).length :=
      Nat.mul_le_of_le_div _ _ _ (List.mem_range.mp hj)
    refine ⟨?_, c.rules.counts_le_of_prefix (List.take_prefix_take_left (Nat.le_of_lt hless))⟩
    simp only [RuleSet.counts, List.length_take]
    omega
  · obtain ⟨j, -, rfl⟩ := List.mem_map.mp hs
    exact c.rules.counts_le_of_prefix (List.take_prefix _ _)

/-- Four lines, the last one open, of which one is dropped and two are changed, in steps of two. -/
theorem reports_behind_two_and_four_lines :
    let rules : RuleSet := ⟨builtinSkipRules, [{ substitutions := [backquotes] }], []⟩
    let c := ({ rules } : Converter).withInterval 2
    let dump := Utf8.encode "SET NAMES utf8;\n\x60a\x60\nb\n\x60c\x60".toList
    let done := c.convert [.bytes dump]
    done.result = .ok ⟨4, 2, 1⟩ ∧ done.reports.length = 2 ∧
      done.reports[0]? = some ⟨2, 1, 1⟩ ∧ done.reports[1]? = some ⟨4, 2, 1⟩ ∧
      (c.convert [.bytes (firstLines 2 dump)]).result = .ok ⟨2, 1, 1⟩ := by
  intro rules c dump done
  have hresult : done.result = .ok ⟨4, 2, 1⟩ := by
    unfold done
    rw [result_whole]
    decide +kernel
  have htwo : (c.convert [.bytes (firstLines 2 dump)]).result = .ok ⟨2, 1, 1⟩ := by
    rw [result_whole]
    decide +kernel
  have hfour : (c.convert [.bytes (firstLines 4 dump)]).result = .ok ⟨4, 2, 1⟩ := by
    rw [result_whole]
    decide +kernel
  have hcount : (inputLines (delivered [.bytes dump])).length / 2 = 2 := by decide +kernel
  obtain ⟨-, hlength, hlines, -⟩ := reports_are_the_counts_of_the_lines_so_far rules 2 hresult
  obtain ⟨first, hfirst, hsame, -⟩ := hlines 1 (by decide) (hcount.symm ▸ by decide)
  obtain ⟨second, hsecond, hagain, -⟩ := hlines 2 (by decide) (hcount.symm ▸ by decide)
  obtain rfl := Except.ok.inj (hsame.symm.trans htwo)
  obtain rfl := Except.ok.inj (hagain.symm.trans hfour)
  exact ⟨hresult, hlength.trans hcount, hfirst, hsecond, htwo⟩

end Converter

end SqlDump
