-- Conversions whose reading or writing fails: what is written is a beginning of what would have been
-- written, and the reports are those of the lines before the failure.
import SqlDump.Proofs.Conversion

namespace SqlDump.Converter

/-! ## The lines before a failed write -/

theorem before_none (rules : RuleSet) (lines : List Line) : before rules none lines = lines := by
  induction lines with
  | nil => rfl
  | cons line lines ih => simp [before, exceeds, roomAfter, ih]

/-- The lines before a failed write are the first ones. -/
theorem before_eq_take (rules : RuleSet) (room : Option Nat) (lines : List Line) :
    before rules room lines = lines.take (before rules room lines).length := by
  induction lines generalizing room with
  | nil => rfl
  | cons line lines ih =>
    unfold before
    split
    · rfl
    · rw [List.length_cons, List.take_succ_cons, ← ih]

theorem length_before_le (rules : RuleSet) (room : Option Nat) (lines : List Line) :
    (before rules room lines).length ≤ lines.length := by
  rw [before_eq_take]
  exact List.length_take_le' _ _

/-- There is room for what they add. -/
theorem before_fits (rules : RuleSet) (room : Option Nat) (lines : List Line) :
    exceeds room (rules.script (before rules room lines)) = false := by
  induction lines generalizing room with
  | nil => cases room <;> simp [before, RuleSet.script, exceeds]
  | cons line lines ih =>
    unfold before
    split
    · cases room <;> simp [RuleSet.script, exceeds]
    · rename_i h
      rw [RuleSet.script_cons, exceeds_append, ih]
      simpa using h

/-- There is none for one line more. -/
theorem before_then_exceeds (rules : RuleSet) (room : Option Nat) (lines : List Line)
    (h : (before rules room lines).length < lines.length) :
    exceeds room (rules.script (lines.take ((before rules room lines).length + 1))) = true := by
  induction lines generalizing room with
  | nil => simp at h
  | cons line lines ih =>
    rw [List.take_succ_cons, RuleSet.script_cons, exceeds_append, Bool.or_eq_true]
    by_cases hx : exceeds room (rules.contribution line) = true
    · exact Or.inl hx
    · have hb : before rules room (line :: lines) =
          line :: before rules (roomAfter room (rules.contribution line)) lines := by
        rw [before, if_neg hx]
      rw [hb, List.length_cons] at h ⊢
      exact Or.inr (ih _ (by simpa using h))

/-! ## A run without failures -/

/-- The first lines of an input. -/
def firstLines (n : Nat) (bytes : List UInt8) : List UInt8 := ((stretches bytes).take n).flatten

theorem inputLines_firstLines (n : Nat) (bytes : List UInt8) :
    inputLines (firstLines n bytes) = (inputLines bytes).take n := by
  unfold inputLines firstLines
  rw [stretches_take, List.map_take]

theorem written_whole (c : Converter) (bytes : List UInt8) :
    (c.convert [.bytes bytes]).written = opening ++ c.rules.script (inputLines bytes) := by
  rw [written_convert]
  simp [kept, readable, fails, delivered]

theorem result_whole (c : Converter) (bytes : List UInt8) :
    (c.convert [.bytes bytes]).result = .ok (c.rules.counts (inputLines bytes)) := by
  rw [result_convert]
  simp [exceeds, readable, fails, delivered]

theorem reports_whole (c : Converter) (bytes : List UInt8) :
    (c.convert [.bytes bytes]).reports = c.dueOver {} (inputLines bytes) := by
  rw [reports_convert]
  simp [exceeds, readable, fails, delivered, roomAfter, before_none]

/-! ## The law -/

/-- Reading fails once `r` bytes of `bytes` have come, and never where there are fewer. -/
def DeliversUpTo (r : Nat) (bytes : List UInt8) (arrivals : List Arrival) : Prop :=
  delivered arrivals = bytes.take r ∧ fails arrivals = decide (r ≤ bytes.length)

instance (r : Nat) (bytes : List UInt8) (arrivals : List Arrival) :
    Decidable (DeliversUpTo r bytes arrivals) :=
  inferInstanceAs (Decidable (_ ∧ _))

/-- The part of an input that is converted where reading fails behind `r` bytes. -/
def readUpTo (r : Nat) (bytes : List UInt8) : List UInt8 :=
  if r ≤ bytes.length then wholeLines (bytes.take r) else bytes

theorem readable_of_delivers {r : Nat} {bytes : List UInt8} {arrivals : List Arrival}
    (h : DeliversUpTo r bytes arrivals) : readable arrivals = readUpTo r bytes := by
  unfold readable readUpTo
  rw [h.1, h.2]
  by_cases hr : r ≤ bytes.length
  · simp [hr]
  · simp [hr, List.take_of_length_le (Nat.le_of_not_le hr)]

/-- Writing fails, or reading, or the last flush. -/
theorem fails_somewhere {w r k : Nat} {out : List UInt8} {flushFails : Bool} :
    (exceeds (some w) out || decide (r ≤ k) || flushFails) = true ↔
      ¬ (k < r ∧ out.length ≤ w ∧ flushFails = false) := by
  rw [Bool.or_eq_true, Bool.or_eq_true, exceeds_some, decide_eq_true_eq]
  cases flushFails with
  | true => simp
  | false =>
    simp only [Bool.false_eq_true, or_false, and_true]
    omega

/-- Where reading fails behind `r` bytes, writing behind `w` bytes, or the last flush, whole lines of what
came are converted, a beginning of their script is written, and only a run without failures succeeds. The
reports are those of a run over the first `n` lines, which still fit. -/
theorem a_failure_leaves_a_beginning (rules : RuleSet) (interval : Nat) (bytes : List UInt8) (r w : Nat)
    (flushFails : Bool) (arrivals : List Arrival) (h : DeliversUpTo r bytes arrivals) :
    let c := ({ rules } : Converter).withInterval interval
    let input := readUpTo r bytes
    let whole := c.convert [.bytes input]
    let done := c.convert arrivals ⟨some w, flushFails⟩
    let size := fun n => (c.convert [.bytes (firstLines n input)]).written.length
    (r ≤ bytes.length → input <+: bytes.take r ∧ Ended input ∧
      ∀ a, a <+: bytes.take r → Ended a → a.length ≤ input.length) ∧
    done.written = whole.written.take (min w whole.written.length) ∧
    (∃ t, whole.result = .ok t) ∧
    done.result =
      (if bytes.length < r ∧ whole.written.length ≤ w ∧ flushFails = false then whole.result
      else .error .transferFailed) ∧
    (w < opening.length → done.reports = []) ∧
    (opening.length ≤ w → ∃ n ≤ (stretches input).length,
      size n ≤ w ∧ (n < (stretches input).length → w < size (n + 1)) ∧
      done.reports = (c.convert [.bytes (firstLines n input)]).reports) := by
  intro c input whole done size
  have hread : readable arrivals = input := readable_of_delivers h
  have hsize : ∀ n, size n =
      (opening ++ c.rules.script ((inputLines input).take n)).length := by
    intro n
    simp only [size]
    rw [written_whole, inputLines_firstLines]
  refine ⟨fun hr => ?_, ?_, ⟨_, result_whole c input⟩, ?_, fun hw => ?_, fun hw => ?_⟩
  · have hi : input = wholeLines (bytes.take r) := if_pos hr
    rw [hi]
    exact ⟨wholeLines_begins _, ended_wholeLines _, wholeLines_longest _⟩
  · simp only [done, whole]
    rw [written_convert, written_whole, hread]
    exact List.take_eq_take_iff.mpr (by simp)
  · have hwhole : whole.written = opening ++ c.rules.script (inputLines input) := written_whole c input
    have hdone : done.result =
        if exceeds (some w) whole.written || decide (r ≤ bytes.length) || flushFails then
          .error .transferFailed
        else whole.result := by
      rw [hwhole, ← h.2]
      simp only [done, whole]
      rw [result_convert, result_whole, hread]
    rw [hdone]
    by_cases hgood : bytes.length < r ∧ whole.written.length ≤ w ∧ flushFails = false
    · rw [if_pos hgood, if_neg]
      rw [fails_somewhere, not_not]
      exact hgood
    · rw [if_neg hgood, if_pos]
      rw [fails_somewhere]
      exact hgood
  · simp only [done]
    rw [reports_convert]
    exact if_pos (exceeds_some.mpr hw)
  · let lines := before c.rules (some (w - opening.length)) (inputLines input)
    have htake : lines = (inputLines input).take lines.length := before_eq_take _ _ _
    have hcount : (stretches input).length = (inputLines input).length := by simp [inputLines]
    refine ⟨lines.length, ?_, ?_, fun hn => ?_, ?_⟩
    · rw [hcount]
      exact length_before_le _ _ _
    · have hfits : (c.rules.script lines).length ≤ w - opening.length :=
        not_exceeds_some.mp (before_fits c.rules (some (w - opening.length)) (inputLines input))
      rw [hsize, ← htake, List.length_append]
      omega
    · have hmore : w - opening.length <
          (c.rules.script ((inputLines input).take (lines.length + 1))).length :=
        exceeds_some.mp (before_then_exceeds c.rules (some (w - opening.length)) (inputLines input)
          (by rw [← hcount]; exact hn))
      rw [hsize, List.length_append]
      omega
    · simp only [done]
      have hroom : exceeds (some w) opening = false := not_exceeds_some.mpr hw
      rw [reports_convert, reports_whole, inputLines_firstLines, hread, hroom, ← htake]
      rfl

/-- Reading fails within the second line, and there is just room for the first. -/
theorem a_failure_within_the_second_line :
    let rules : RuleSet := ⟨builtinSkipRules, [{ substitutions := [backquotes] }], []⟩
    let c := ({ rules } : Converter).withInterval 1
    let bytes := Utf8.encode "`a` text\nb\n".toList
    let arrivals := [Arrival.bytes (Utf8.encode "`a` te".toList), .bytes (Utf8.encode "xt\nb".toList),
      .failure]
    let whole := c.convert [.bytes (readUpTo 10 bytes)]
    let w := opening.length + 7
    let done := c.convert arrivals ⟨some w, false⟩
    DeliversUpTo 10 bytes arrivals ∧
      done.written = whole.written.take (min w whole.written.length) ∧
      whole.written = opening ++ Utf8.encode "a text\n".toList ∧ done.reports = [⟨1, 1, 0⟩] := by
  intro rules c bytes arrivals whole w done
  have h : DeliversUpTo 10 bytes arrivals := by decide +kernel
  obtain ⟨_, hwritten, _⟩ := a_failure_leaves_a_beginning rules 1 bytes 10 w false arrivals h
  have hscript : c.rules.script (inputLines (readUpTo 10 bytes)) = Utf8.encode "a text\n".toList := by
    decide +kernel
  have hwhole : whole.written = opening ++ Utf8.encode "a text\n".toList := by
    unfold whole
    rw [written_whole, hscript]
  have hfits : exceeds (some w) opening = false :=
    not_exceeds_some.mpr (Nat.le_add_right _ 7)
  have hleft : roomAfter (some w) opening = some 7 := by simp [roomAfter, w]
  have hdue : c.dueOver {} (before c.rules (some 7) (inputLines (readable arrivals))) = [⟨1, 1, 0⟩] := by
    decide +kernel
  have hreports : done.reports = [⟨1, 1, 0⟩] := by
    unfold done
    rw [reports_convert, hfits, hleft, hdue]
    exact if_neg Bool.false_ne_true
  exact ⟨h, hwritten, hwhole, hreports⟩

end SqlDump.Converter
