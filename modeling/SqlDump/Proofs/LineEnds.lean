-- The lines of an input, told together: joined again they are the text of the input with its ends made
-- alike. So it makes no difference which of the two ends a line has.
import SqlDump.Proofs.ReadBack

namespace SqlDump

/-! ## Lines joined again -/

/-- A line with its end. -/
def Line.text (line : Line) : List Char := line.content ++ if line.terminated then ['\n'] else []

/-- The bytes with one carriage return less before each line feed that has one. -/
def dropReturns : List UInt8 → List UInt8
  | [] => []
  | b :: rest =>
    if b = carriageReturn ∧ rest.head? = some lineFeed then dropReturns rest else b :: dropReturns rest

theorem dropReturns_of_no_feed {x : List UInt8} (h : lineFeed ∉ x) : dropReturns x = x := by
  induction x with
  | nil => rfl
  | cons b x ih =>
    rw [List.mem_cons, not_or] at h
    have hhead : ¬ (b = carriageReturn ∧ x.head? = some lineFeed) := fun hb =>
      h.2 (List.mem_of_head? hb.2)
    simp [dropReturns, hhead, ih h.2]

theorem dropReturns_append_feed {x : List UInt8} (rest : List UInt8) (h : lineFeed ∉ x) :
    dropReturns (x ++ lineFeed :: rest) =
      (if x.getLast? = some carriageReturn then x.dropLast else x) ++ lineFeed :: dropReturns rest := by
  induction x with
  | nil => simp [dropReturns, lineFeed, carriageReturn]
  | cons b x ih =>
    rw [List.mem_cons, not_or] at h
    cases x with
    | nil =>
      have hne : lineFeed ≠ carriageReturn := by decide
      by_cases hb : b = carriageReturn <;> simp [dropReturns, hb, hne]
    | cons c x =>
      -- what stands behind the first byte is no line feed
      have hc : c ≠ lineFeed := by
        rintro rfl
        simp at h
      have hb : dropReturns (b :: c :: x ++ lineFeed :: rest) =
          b :: dropReturns (c :: x ++ lineFeed :: rest) := by simp [dropReturns, hc]
      rw [hb, ih h.2, List.getLast?_cons_cons]
      split <;> simp

/-- Joined again the lines are the text of the input, but for the carriage returns of the ends. -/
theorem flatMap_text_inputLines (bytes : List UInt8) :
    (inputLines bytes).flatMap Line.text = Utf8.decode (dropReturns bytes) := by
  induction bytes using feed_induction with
  | last x hx =>
    rw [inputLines_of_no_feed hx, dropReturns_of_no_feed hx]
    by_cases hnil : x = []
    · subst hnil; rfl
    · simp [hnil, Line.text]
  | more x rest hx ih =>
    rw [inputLines_append_feed rest hx, dropReturns_append_feed rest hx, ofStretch_concat,
      List.flatMap_cons, ih]
    have hcut := Utf8.decode_append_encodeChar
      (if x.getLast? = some carriageReturn then x.dropLast else x) '\n' (dropReturns rest)
    have hfeed : Utf8.encodeChar '\n' = [lineFeed] := by decide
    rw [hfeed, List.singleton_append] at hcut
    rw [hcut]
    simp [Line.text]

/-! ## Lines counted -/

/-- Every line feed ends a line. -/
theorem countP_terminated_inputLines (bytes : List UInt8) :
    (inputLines bytes).countP (·.terminated) = bytes.count lineFeed := by
  induction bytes using feed_induction with
  | last x hx =>
    rw [inputLines_of_no_feed hx, List.count_eq_zero_of_not_mem hx]
    split <;> simp
  | more x rest hx ih =>
    rw [inputLines_append_feed rest hx, ofStretch_concat, List.countP_cons, ih, List.count_append,
      List.count_cons, List.count_eq_zero_of_not_mem hx]
    simp

theorem exists_open_inputLines (bytes : List UInt8) :
    (∃ line ∈ inputLines bytes, line.terminated = false) ↔ ¬ Ended bytes := by
  induction bytes using feed_induction with
  | last x hx =>
    have hended : Ended x ↔ x = [] := ⟨fun h => h.eq_nil_of_no_feed hx, Or.inl⟩
    rw [inputLines_of_no_feed hx, hended]
    split <;> simp_all
  | more x rest hx ih =>
    have hended : Ended (x ++ lineFeed :: rest) ↔ Ended rest := by
      refine ⟨Ended.of_append_feed, fun h => Or.inr ?_⟩
      rcases h with rfl | h
      · simp
      · simp [List.getLast?_append, List.getLast?_cons, h]
    rw [inputLines_append_feed rest hx, ofStretch_concat, hended, ← ih]
    simp

/-! ## Other ends -/

/-- The bytes with a carriage return set before some of the line feeds that have none. `chosen` tells them
by their places, `i` is the place of the first byte and `before` what stands to its left. -/
def addReturns (chosen : Nat → Bool) : Nat → Option UInt8 → List UInt8 → List UInt8
  | _, _, [] => []
  | i, before, b :: rest =>
    let others := addReturns chosen (i + 1) (some b) rest
    if b = lineFeed ∧ before ≠ some carriageReturn ∧ chosen i = true then
      carriageReturn :: lineFeed :: others
    else b :: others

theorem addReturns_of_no_feed (chosen : Nat → Bool) (i : Nat) (before : Option UInt8)
    {x : List UInt8} (h : lineFeed ∉ x) : addReturns chosen i before x = x := by
  induction x generalizing i before with
  | nil => rfl
  | cons b x ih =>
    rw [List.mem_cons, not_or] at h
    simp [addReturns, Ne.symm h.1, ih _ _ h.2]

/-- The first line feed stays as it is or gets a carriage return, and the rest is changed in the same way. -/
theorem addReturns_append_feed (chosen : Nat → Bool) (i : Nat) (before : Option UInt8)
    {x : List UInt8} (rest : List UInt8) (h : lineFeed ∉ x) :
    ∃ j, addReturns chosen i before (x ++ lineFeed :: rest) =
        x ++ lineFeed :: addReturns chosen j (some lineFeed) rest ∨
      x.getLast?.or before ≠ some carriageReturn ∧
        addReturns chosen i before (x ++ lineFeed :: rest) =
          (x ++ [carriageReturn]) ++ lineFeed :: addReturns chosen j (some lineFeed) rest := by
  induction x generalizing i before with
  | nil =>
    refine ⟨i + 1, ?_⟩
    by_cases hb : before ≠ some carriageReturn ∧ chosen i = true
    · right
      simp [addReturns, hb]
    · left
      simp only [List.nil_append, addReturns, true_and]
      rw [if_neg hb]
  | cons b x ih =>
    rw [List.mem_cons, not_or] at h
    have hb : addReturns chosen i before (b :: x ++ lineFeed :: rest) =
        b :: addReturns chosen (i + 1) (some b) (x ++ lineFeed :: rest) := by
      simp [addReturns, Ne.symm h.1]
    have hlast : (b :: x).getLast?.or before = x.getLast?.or (some b) := by
      rw [List.getLast?_cons]
      cases x.getLast? <;> rfl
    obtain ⟨j, hcases⟩ := ih (i + 1) (some b) h.2
    refine ⟨j, ?_⟩
    rw [hb, hlast]
    rcases hcases with hkept | ⟨hopen, hadded⟩
    · left
      rw [hkept]
      rfl
    · right
      rw [hadded]
      exact ⟨hopen, rfl⟩

/-- Which of the two ends a line has makes no difference. -/
theorem inputLines_addReturns (chosen : Nat → Bool) (i : Nat) (before : Option UInt8)
    (bytes : List UInt8) : inputLines (addReturns chosen i before bytes) = inputLines bytes := by
  induction bytes using feed_induction generalizing i before with
  | last x hx => rw [addReturns_of_no_feed chosen i before hx]
  | more x rest hx ih =>
    obtain ⟨j, hkept | ⟨hopen, hadded⟩⟩ := addReturns_append_feed chosen i before rest hx
    · rw [hkept, inputLines_append_feed _ hx, inputLines_append_feed _ hx, ih]
    · have hne : lineFeed ≠ carriageReturn := by decide
      have hreturn : lineFeed ∉ x ++ [carriageReturn] := by simp [hx, hne]
      have hlast : x.getLast? ≠ some carriageReturn := by
        intro he
        rw [he] at hopen
        exact hopen rfl
      rw [hadded, inputLines_append_feed _ hreturn, inputLines_append_feed _ hx, ih,
        ofStretch_concat, ofStretch_concat, List.getLast?_concat, List.dropLast_concat, if_pos rfl,
        if_neg hlast]

/-! ## The law -/

/-- No line that is read holds a line feed, and only the last one may be open. As many lines are ended as
there are line feeds, and one is open where something is left behind the last of them. Joined again the
lines are the text of the input without the carriage returns of its ends, and an input in which some of
the bare line feeds are given one has the same lines. -/
theorem lines_joined_again_are_the_input {arrivals : List Arrival} (h : fails arrivals = false) :
    ∃ lines, LineStream.ofArrivals arrivals = ⟨lines, false⟩ ∧
      (∀ line ∈ lines, '\n' ∉ line.content) ∧ OnlyLastOpen lines ∧
      lines.countP (·.terminated) = (delivered arrivals).count lineFeed ∧
      ((∃ line ∈ lines, line.terminated = false) ↔
        delivered arrivals ≠ [] ∧ (delivered arrivals).getLast? ≠ some lineFeed) ∧
      lines.flatMap Line.text = Utf8.decode (dropReturns (delivered arrivals)) ∧
      ∀ chosen others, fails others = false →
        delivered others = addReturns chosen 0 none (delivered arrivals) →
        LineStream.ofArrivals others = ⟨lines, false⟩ := by
  have hlines : ∀ others, fails others = false →
      LineStream.ofArrivals others = ⟨inputLines (delivered others), false⟩ := by
    intro others hothers
    rw [ofArrivals_eq, readable, hothers]
    rfl
  refine ⟨inputLines (delivered arrivals), hlines arrivals h, not_lineFeed_mem_content,
    onlyLastOpen_inputLines _, countP_terminated_inputLines _, ?_, flatMap_text_inputLines _, ?_⟩
  · rw [exists_open_inputLines, Ended, not_or]
  · intro chosen others hothers hdelivered
    rw [hlines others hothers, hdelivered, inputLines_addReturns]

/-- A character cut short before the end of its line, two carriage returns before one line feed, and an
open line; then the same with a carriage return before the last line feed. -/
theorem lines_with_a_character_cut_short :
    let x := [Arrival.bytes [0x61, 0xE2, 0x82, 13], .interruption, .bytes [10, 13, 13, 10, 13, 0x62, 10, 13]]
    let y := [Arrival.bytes [0x61, 0xE2, 0x82, 13, 10, 13, 13, 10, 13, 0x62, 13, 10, 13]]
    let lines : List Line := [⟨['a'], true⟩, ⟨['\r'], true⟩, ⟨['\r', 'b'], true⟩, ⟨['\r'], false⟩]
    (fails x = false ∧ fails y = false ∧
      delivered y = addReturns (fun _ => true) 0 none (delivered x)) ∧
    LineStream.ofArrivals x = ⟨lines, false⟩ ∧ LineStream.ofArrivals y = ⟨lines, false⟩ ∧
      lines.countP (·.terminated) = 3 ∧
      lines.flatMap Line.text = Utf8.decode (dropReturns (delivered x)) := by
  intro x y lines
  have hx : fails x = false := rfl
  have hy : fails y = false := rfl
  have hsame : delivered y = addReturns (fun _ => true) 0 none (delivered x) := by decide
  obtain ⟨found, hfound, -, -, hcount, -, htext, hothers⟩ := lines_joined_again_are_the_input hx
  have hread : LineStream.ofArrivals x = ⟨lines, false⟩ := by decide +kernel
  obtain rfl : found = lines := by
    rw [hread] at hfound
    exact (LineStream.mk.inj hfound).1.symm
  have hthree : (delivered x).count lineFeed = 3 := by decide
  exact ⟨⟨hx, hy, hsame⟩, hread, hothers _ y hy hsame, hcount.trans hthree, htext⟩

end SqlDump
