-- What a conversion writes and counts: the prologue once, then what each line adds, in order, as far as
-- the writer takes it. One line is one step, and a failed write ends all steps.
import SqlDump.Convert
import SqlDump.Proofs.Lines

namespace SqlDump

/-! ## What lines add -/

instance : Add Tally := ⟨fun a b => ⟨a.read + b.read, a.changed + b.changed, a.elided + b.elided⟩⟩

theorem Tally.add_def (a b : Tally) :
    a + b = ⟨a.read + b.read, a.changed + b.changed, a.elided + b.elided⟩ := rfl

namespace RuleSet

/-- What a line adds to the script: nothing where it is dropped, else its new text, with a line feed
where it had one. -/
def contribution (rules : RuleSet) (line : Line) : List UInt8 :=
  match rules.convertLine line.content with
  | .elided _ => []
  | .emitted text => Utf8.encode text ++ if line.terminated then [lineFeed] else []

/-- Whether a line is dropped. -/
def drops (rules : RuleSet) (line : Line) : Bool :=
  match rules.convertLine line.content with
  | .elided _ => true
  | .emitted _ => false

/-- Whether a line is written with another text. -/
def changes (rules : RuleSet) (line : Line) : Bool :=
  match rules.convertLine line.content with
  | .elided _ => false
  | .emitted text => decide (text ≠ line.content)

/-- The script of some lines, without the prologue. -/
def script (rules : RuleSet) (lines : List Line) : List UInt8 := lines.flatMap rules.contribution

/-- The counts of some lines. -/
def counts (rules : RuleSet) (lines : List Line) : Tally :=
  ⟨lines.length, lines.countP rules.changes, lines.countP rules.drops⟩

theorem script_cons (rules : RuleSet) (line : Line) (lines : List Line) :
    rules.script (line :: lines) = rules.contribution line ++ rules.script lines := rfl

theorem script_append (rules : RuleSet) (x y : List Line) :
    rules.script (x ++ y) = rules.script x ++ rules.script y := List.flatMap_append

theorem counts_append (rules : RuleSet) (x y : List Line) :
    rules.counts (x ++ y) = rules.counts x + rules.counts y := by
  simp [counts, Tally.add_def]

theorem counts_cons (rules : RuleSet) (line : Line) (lines : List Line) :
    rules.counts (line :: lines) = rules.counts [line] + rules.counts lines :=
  counts_append rules [line] lines

end RuleSet

theorem Tally.add_assoc (a b c : Tally) : a + b + c = a + (b + c) := by
  simp [Tally.add_def, Nat.add_assoc]

/-! ## Room -/

/-- The bytes that a writer keeps of those it is given. -/
def kept (room : Option Nat) (bytes : List UInt8) : List UInt8 :=
  match room with
  | none => bytes
  | some n => bytes.take n

/-- Whether there are more bytes than room. -/
def exceeds (room : Option Nat) (bytes : List UInt8) : Bool := room.any (· < bytes.length)

/-- The room behind some bytes. -/
def roomAfter (room : Option Nat) (bytes : List UInt8) : Option Nat := room.map (· - bytes.length)

theorem exceeds_some {n : Nat} {a : List UInt8} : exceeds (some n) a = true ↔ n < a.length := by
  simp [exceeds]

theorem not_exceeds_some {n : Nat} {a : List UInt8} : exceeds (some n) a = false ↔ a.length ≤ n := by
  simp [exceeds]

theorem kept_of_not_exceeds {room : Option Nat} {a : List UInt8} (h : exceeds room a = false) :
    kept room a = a := by
  cases room with
  | none => rfl
  | some n => exact List.take_of_length_le (by simpa [exceeds] using h)

theorem kept_append_of_exceeds {room : Option Nat} {a : List UInt8} (b : List UInt8)
    (h : exceeds room a = true) : kept room (a ++ b) = kept room a := by
  cases room with
  | none => simp [exceeds] at h
  | some n =>
    have : n ≤ a.length := Nat.le_of_lt (by simpa [exceeds] using h)
    exact List.take_append_of_le_length this

theorem kept_append {room : Option Nat} {a : List UInt8} (b : List UInt8)
    (h : exceeds room a = false) : kept room (a ++ b) = a ++ kept (roomAfter room a) b := by
  cases room with
  | none => rfl
  | some n =>
    have hn : a.length ≤ n := by simpa [exceeds] using h
    simp only [kept, roomAfter, Option.map_some]
    rw [List.take_append, List.take_of_length_le hn]

theorem exceeds_append (room : Option Nat) (a b : List UInt8) :
    exceeds room (a ++ b) = (exceeds room a || exceeds (roomAfter room a) b) := by
  cases room with
  | none => rfl
  | some n =>
    rw [Bool.eq_iff_iff]
    simp only [exceeds, roomAfter, Option.any_some, Option.map_some, List.length_append,
      Bool.or_eq_true, decide_eq_true_eq]
    omega

theorem roomAfter_append (room : Option Nat) (a b : List UInt8) :
    roomAfter room (a ++ b) = roomAfter (roomAfter room a) b := by
  cases room with
  | none => rfl
  | some n => simp [roomAfter, Nat.sub_sub]

/-! ## One write -/

namespace Progress

theorem write_eq (p : Progress) (bytes : List UInt8) :
    p.write bytes = { p with
      written := (kept p.room bytes).reverse ++ p.written
      room := roomAfter p.room bytes
      stuck := p.stuck || exceeds p.room bytes } := by
  unfold write
  split
  · rename_i h
    simp [kept, exceeds, roomAfter, h, List.reverseAux_eq]
  · rename_i n h
    split
    · rename_i hn
      have hkept : bytes.take n = bytes := List.take_of_length_le hn
      simp [kept, exceeds, roomAfter, h, hkept, List.reverseAux_eq, Nat.not_lt.mpr hn]
    · rename_i hn
      have hlt : n < bytes.length := Nat.lt_of_not_le hn
      simp [kept, exceeds, roomAfter, h, hlt, List.reverseAux_eq, Nat.sub_eq_zero_of_le hlt.le]

theorem write_nil (p : Progress) : p.write [] = p := by
  rw [write_eq]
  cases p with
  | mk tally written room => cases room <;> simp [kept, exceeds, roomAfter]

/-- Two writes are one write of all bytes. -/
theorem writeMore_write (p : Progress) (a b : List UInt8) (h : p.stuck = false) :
    (p.write a).writeMore b = p.write (a ++ b) := by
  unfold writeMore
  simp only [write_eq, h, Bool.false_or]
  cases ha : exceeds p.room a with
  | true =>
    have hz : roomAfter p.room (a ++ b) = roomAfter p.room a := by
      cases hr : p.room with
      | none => rfl
      | some n =>
        have : n < a.length := by simpa [exceeds, hr] using ha
        simp only [roomAfter, Option.map_some, List.length_append, Option.some.injEq]
        omega
    simp [exceeds_append, ha, kept_append_of_exceeds b ha, hz]
  | false =>
    simp [exceeds_append, ha, kept_append b ha, kept_of_not_exceeds ha, roomAfter_append]

end Progress

/-! ## One line -/

namespace Converter

theorem count_convertLine (rules : RuleSet) (t : Tally) (line : Line) :
    count t line (rules.convertLine line.content) = t + rules.counts [line] := by
  unfold RuleSet.counts RuleSet.changes RuleSet.drops
  rcases h : rules.convertLine line.content with cause | text
  · simp [count, h, Tally.add_def]
  · by_cases ht : text = line.content
    · simp [count, h, ht, Tally.add_def]
    · simp [count, h, ht, Tally.add_def]

/-- The counts that are reported behind a line. -/
def due (c : Converter) (t : Tally) : List Tally := if t.read % c.interval = 0 then [t] else []

/-- Writes what the outcome of a line asks for. -/
def put (p : Progress) (line : Line) : Outcome → Progress
  | .elided _ => p
  | .emitted text =>
    if line.terminated then (p.write (Utf8.encode text)).writeMore [lineFeed]
    else p.write (Utf8.encode text)

/-- A line is written in one go. -/
theorem put_convertLine (rules : RuleSet) (p : Progress) (line : Line) (h : p.stuck = false) :
    put p line (rules.convertLine line.content) = p.write (rules.contribution line) := by
  unfold RuleSet.contribution
  rcases rules.convertLine line.content with cause | text
  · exact p.write_nil.symm
  · by_cases ht : line.terminated = true
    · simp only [put, ht, if_true]
      rw [p.writeMore_write _ _ h]
    · simp [put, ht]

theorem handle_put (c : Converter) (p : Progress) (line : Line) (h : p.stuck = false) :
    c.handle p line =
      let outcome := c.rules.convertLine line.content
      let t := count p.tally line outcome
      let q := put { p with tally := t, events := outcome.events line.content ++ p.events } line outcome
      if !q.stuck && t.read % c.interval == 0 then { q with reports := t :: q.reports } else q := by
  unfold handle
  rw [h, if_neg Bool.false_ne_true]
  rfl

/-- A line is counted, its contribution goes out whole or in part, and a report is made where one is due
and nothing failed. -/
theorem handle_eq (c : Converter) (p : Progress) (line : Line) (h : p.stuck = false) :
    c.handle p line =
      { tally := p.tally + c.rules.counts [line]
        written := (kept p.room (c.rules.contribution line)).reverse ++ p.written
        room := roomAfter p.room (c.rules.contribution line)
        stuck := exceeds p.room (c.rules.contribution line)
        reports :=
          if exceeds p.room (c.rules.contribution line) then p.reports
          else c.due (p.tally + c.rules.counts [line]) ++ p.reports
        events := (c.rules.convertLine line.content).events line.content ++ p.events } := by
  rw [c.handle_put p line h]
  simp only [count_convertLine]
  rw [put_convertLine c.rules _ line (by exact h), Progress.write_eq]
  simp only [h, Bool.false_or, due]
  cases exceeds p.room (c.rules.contribution line) with
  | true => simp
  | false => by_cases hd : (p.tally + c.rules.counts [line]).read % c.interval = 0 <;> simp [hd]

/-- After a failed write nothing more happens. -/
theorem foldl_handle_of_stuck (c : Converter) (lines : List Line) (p : Progress)
    (h : p.stuck = true) : lines.foldl c.handle p = p := by
  induction lines with
  | nil => rfl
  | cons line lines ih =>
    have hstep : c.handle p line = p := by simp [handle, h]
    rw [List.foldl_cons, hstep, ih]

/-! ## A run over lines -/

/-- The reports of a run that begins with some counts and never fails. -/
def dueOver (c : Converter) (t : Tally) : List Line → List Tally
  | [] => []
  | line :: lines =>
    c.due (t + c.rules.counts [line]) ++ c.dueOver (t + c.rules.counts [line]) lines

/-- The lines before the first one whose contribution goes past the room. -/
def before (rules : RuleSet) (room : Option Nat) : List Line → List Line
  | [] => []
  | line :: lines =>
    if exceeds room (rules.contribution line) then []
    else line :: before rules (roomAfter room (rules.contribution line)) lines

/-- What a run over lines makes of a state without a failure. -/
structure RunFrom (c : Converter) (lines : List Line) (p q : Progress) : Prop where
  written : q.written.reverse = p.written.reverse ++ kept p.room (c.rules.script lines)
  stuck : q.stuck = exceeds p.room (c.rules.script lines)
  tally : q.stuck = false → q.tally = p.tally + c.rules.counts lines
  reports : q.reports.reverse = p.reports.reverse ++ c.dueOver p.tally (before c.rules p.room lines)

theorem due_reverse (c : Converter) (t : Tally) : (c.due t).reverse = c.due t := by
  unfold due
  split <;> rfl

theorem runFrom_foldl (c : Converter) (lines : List Line) (p : Progress) (h : p.stuck = false) :
    RunFrom c lines p (lines.foldl c.handle p) := by
  induction lines generalizing p with
  | nil =>
    refine ⟨?_, ?_, fun _ => rfl, ?_⟩
    · cases hr : p.room <;> simp [kept, RuleSet.script]
    · cases hr : p.room <;> simp [h, exceeds, RuleSet.script]
    · simp [before, dueOver]
  | cons line lines ih =>
    rw [List.foldl_cons]
    have hstep := c.handle_eq p line h
    cases hx : exceeds p.room (c.rules.contribution line) with
    | true =>
      simp only [hx, if_true] at hstep
      rw [c.foldl_handle_of_stuck lines _ (by rw [hstep]), hstep]
      refine ⟨?_, ?_, fun hs => ?_, ?_⟩
      · simp [RuleSet.script_cons, kept_append_of_exceeds _ hx]
      · simp [RuleSet.script_cons, exceeds_append, hx]
      · simp at hs
      · simp [before, hx, dueOver]
    | false =>
      simp only [hx, Bool.false_eq_true, if_false] at hstep
      have hrun := ih (c.handle p line) (by rw [hstep])
      rw [hstep] at hrun
      rw [hstep]
      refine ⟨?_, ?_, fun hs => ?_, ?_⟩
      · rw [hrun.written]
        simp [RuleSet.script_cons, kept_append _ hx, kept_of_not_exceeds hx]
      · rw [hrun.stuck]
        simp [RuleSet.script_cons, exceeds_append, hx]
      · rw [hrun.tally hs, c.rules.counts_cons line lines, Tally.add_assoc]
      · rw [hrun.reports]
        simp [before, hx, dueOver, due_reverse]

/-- The bytes of the prologue. -/
def opening : List UInt8 := Utf8.encode prologue

/-- What a whole run over lines leaves. -/
structure Ran (c : Converter) (lines : List Line) (room : Option Nat) (q : Progress) : Prop where
  written : q.written.reverse = kept room (opening ++ c.rules.script lines)
  stuck : q.stuck = exceeds room (opening ++ c.rules.script lines)
  tally : q.stuck = false → q.tally = c.rules.counts lines
  reports : q.reports.reverse =
    if exceeds room opening then []
    else c.dueOver {} (before c.rules (roomAfter room opening) lines)

theorem ran_run (c : Converter) (lines : List Line) (room : Option Nat) :
    Ran c lines room (c.run lines room) := by
  have hopening : Utf8.encode prologue = opening := rfl
  unfold run
  rw [hopening, Progress.write_eq]
  simp only [Bool.false_or, List.append_nil]
  cases hx : exceeds room opening with
  | true =>
    rw [c.foldl_handle_of_stuck lines _ rfl]
    refine ⟨?_, ?_, fun hs => ?_, ?_⟩
    · simp [kept_append_of_exceeds _ hx]
    · simp [exceeds_append, hx]
    · simp at hs
    · simp [hx]
  | false =>
    have hrun := c.runFrom_foldl lines
      { written := (kept room opening).reverse, room := roomAfter room opening } rfl
    refine ⟨?_, ?_, fun hs => ?_, ?_⟩
    · rw [hrun.written]
      simp [kept_append _ hx, kept_of_not_exceeds hx]
    · rw [hrun.stuck]
      simp [exceeds_append, hx]
    · rw [hrun.tally hs]
      simp [Tally.add_def]
    · rw [hrun.reports]
      simp [hx]

/-! ## A whole conversion -/

theorem written_convert (c : Converter) (arrivals : List Arrival) (sink : Sink) :
    (c.convert arrivals sink).written =
      kept sink.room (opening ++ c.rules.script (inputLines (readable arrivals))) := by
  unfold convert
  rw [ofArrivals_eq]
  exact (c.ran_run _ sink.room).written

theorem result_convert (c : Converter) (arrivals : List Arrival) (sink : Sink) :
    (c.convert arrivals sink).result =
      if exceeds sink.room (opening ++ c.rules.script (inputLines (readable arrivals))) ||
          fails arrivals || sink.flushFails then
        .error .transferFailed
      else .ok (c.rules.counts (inputLines (readable arrivals))) := by
  unfold convert
  rw [ofArrivals_eq]
  have hran := c.ran_run (inputLines (readable arrivals)) sink.room
  simp only [hran.stuck]
  split
  · rfl
  · rename_i h
    rw [hran.tally]
    rw [hran.stuck]
    simp only [Bool.or_eq_true, not_or, Bool.not_eq_true] at h
    exact h.1.1

theorem reports_convert (c : Converter) (arrivals : List Arrival) (sink : Sink) :
    (c.convert arrivals sink).reports =
      if exceeds sink.room opening then []
      else c.dueOver {} (before c.rules (roomAfter sink.room opening)
        (inputLines (readable arrivals))) := by
  unfold convert
  rw [ofArrivals_eq]
  exact (c.ran_run _ sink.room).reports

/-- A conversion that succeeds has read all bytes and written the whole script. -/
theorem convert_ok {c : Converter} {arrivals : List Arrival} {sink : Sink} {t : Tally}
    (h : (c.convert arrivals sink).result = .ok t) :
    (c.convert arrivals sink).written =
        opening ++ c.rules.script (inputLines (delivered arrivals)) ∧
      t = c.rules.counts (inputLines (delivered arrivals)) := by
  rw [result_convert] at h
  split at h
  · cases h
  · rename_i hno
    simp only [Bool.or_eq_true, not_or, Bool.not_eq_true] at hno
    obtain ⟨⟨hroom, hread⟩, _⟩ := hno
    have hall : readable arrivals = delivered arrivals := by simp [readable, hread]
    rw [hall] at h hroom
    refine ⟨?_, ?_⟩
    · rw [written_convert, hall, kept_of_not_exceeds hroom]
    · cases h
      rfl

/-! ## The laws -/

/-- Where reading and writing go well a conversion succeeds. One that succeeds has written the prologue
once and then what each line adds, in order, and has counted the lines. So the script of an input cut
behind a line feed is the scripts of both parts, and the counts add up. -/
theorem a_conversion_writes_every_line_in_order (c : Converter) :
    (∀ arrivals, fails arrivals = false → ∃ t, (c.convert arrivals).result = .ok t) ∧
    (∀ arrivals sink t, (c.convert arrivals sink).result = .ok t →
      (c.convert arrivals sink).written =
          opening ++ c.rules.script (inputLines (delivered arrivals)) ∧
        t = c.rules.counts (inputLines (delivered arrivals))) ∧
    ∀ x y z sx sy sz tx ty tz, (c.convert x sx).result = .ok tx →
      (c.convert y sy).result = .ok ty → (c.convert z sz).result = .ok tz →
      delivered z = delivered x ++ delivered y → Ended (delivered x) →
      ∃ ox oy, (c.convert x sx).written = opening ++ ox ∧
        (c.convert y sy).written = opening ++ oy ∧
        (c.convert z sz).written = opening ++ (ox ++ oy) ∧ tz = tx + ty := by
  refine ⟨fun arrivals h => ?_, fun arrivals sink t h => convert_ok h, ?_⟩
  · refine ⟨c.rules.counts (inputLines (readable arrivals)), ?_⟩
    rw [result_convert, if_neg]
    simp [exceeds, h]
  · intro x y z sx sy sz tx ty tz hx hy hz hxy hend
    obtain ⟨wx, rfl⟩ := convert_ok hx
    obtain ⟨wy, rfl⟩ := convert_ok hy
    obtain ⟨wz, rfl⟩ := convert_ok hz
    refine ⟨_, _, wx, wy, ?_, ?_⟩
    · rw [wz, hxy, inputLines_append _ _ hend, RuleSet.script_append]
    · rw [hxy, inputLines_append _ _ hend, RuleSet.counts_append]

theorem a_dump_cut_behind_its_second_line :
    let c : Converter := ⟨⟨builtinSkipRules, [{ substitutions := [backquotes] }], []⟩, 1⟩
    let x := [Arrival.bytes (Utf8.encode "SET NAMES utf8;\r\n  `a".toList), .interruption,
      .bytes (Utf8.encode "` text\n".toList)]
    let y := [Arrival.bytes (Utf8.encode "b".toList)]
    ((c.convert x).result = .ok ⟨2, 1, 1⟩ ∧ (c.convert y).result = .ok ⟨1, 0, 0⟩ ∧
      (c.convert (x ++ y)).result = .ok ⟨3, 1, 1⟩ ∧
      delivered (x ++ y) = delivered x ++ delivered y ∧ Ended (delivered x)) ∧
    ∃ ox oy, (c.convert x).written = opening ++ ox ∧ (c.convert y).written = opening ++ oy ∧
      (c.convert (x ++ y)).written = opening ++ (ox ++ oy) ∧
      (⟨3, 1, 1⟩ : Tally) = ⟨2, 1, 1⟩ + ⟨1, 0, 0⟩ := by
  intro c x y
  have hx : (c.convert x).result = .ok ⟨2, 1, 1⟩ := by
    rw [result_convert]
    decide +kernel
  have hy : (c.convert y).result = .ok ⟨1, 0, 0⟩ := by
    rw [result_convert]
    decide +kernel
  have hz : (c.convert (x ++ y)).result = .ok ⟨3, 1, 1⟩ := by
    rw [result_convert]
    decide +kernel
  have hxy : delivered (x ++ y) = delivered x ++ delivered y := by decide +kernel
  have hend : Ended (delivered x) := Or.inr (by decide +kernel)
  exact ⟨⟨hx, hy, hz, hxy, hend⟩,
    (a_conversion_writes_every_line_in_order c).2.2 x y (x ++ y) {} {} {} _ _ _ hx hy hz hxy hend⟩

end Converter

end SqlDump
