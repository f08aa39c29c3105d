-- Reading a script back: no text that is emitted holds a line feed, so the script has the lines of the
-- prologue and then one for each text, but for a carriage return that the line's end takes with it.
import SqlDump.Proofs.Characters
import SqlDump.Proofs.Conversion
import SqlDump.Proofs.Decoding

namespace SqlDump

/-! ## Lines that are read -/

theorem inputLines_of_no_feed {x : List UInt8} (h : lineFeed ∉ x) :
    inputLines x = if x = [] then [] else [⟨Utf8.decode x, false⟩] := by
  unfold inputLines
  split
  · rename_i hx
    rw [hx]
    rfl
  · rename_i hx
    have hline := ofStretch_unended x h
    rw [Line.unended, List.reverse_reverse] at hline
    rw [stretches_of_no_feed x h hx, List.map_singleton, hline]

theorem inputLines_append_feed {x : List UInt8} (rest : List UInt8) (h : lineFeed ∉ x) :
    inputLines (x ++ lineFeed :: rest) = Line.ofStretch (x ++ [lineFeed]) :: inputLines rest := by
  unfold inputLines
  rw [stretches_append_feed x rest h, List.map_cons]

theorem ofStretch_concat (x : List UInt8) :
    Line.ofStretch (x ++ [lineFeed]) =
      ⟨Utf8.decode (if x.getLast? = some carriageReturn then x.dropLast else x), true⟩ := by
  have hlast : (x ++ [lineFeed]).getLast? = some lineFeed := by simp
  unfold Line.ofStretch
  rw [if_pos hlast, List.dropLast_concat]

/-- No line that is read holds a line feed. -/
theorem not_lineFeed_mem_content {bytes : List UInt8} :
    ∀ line ∈ inputLines bytes, '\n' ∉ line.content := by
  have hclean : ∀ {x : List UInt8}, lineFeed ∉ x → '\n' ∉ Utf8.decode x :=
    fun h hc => h (Utf8.lineFeed_of_mem_decode hc)
  induction bytes using feed_induction with
  | last x hx =>
    rw [inputLines_of_no_feed hx]
    intro line hline
    split at hline
    · cases hline
    · obtain rfl := List.mem_singleton.mp hline
      exact hclean hx
  | more x rest hx ih =>
    rw [inputLines_append_feed rest hx, ofStretch_concat]
    intro line hline
    rcases List.mem_cons.mp hline with rfl | hline
    · refine hclean ?_
      split
      · exact fun hm => hx (List.mem_of_mem_dropLast hm)
      · exact hx
    · exact ih line hline

/-- A line that another one follows is terminated. -/
def OnlyLastOpen (lines : List Line) : Prop := lines.Pairwise fun line _ => line.terminated = true

theorem onlyLastOpen_inputLines (bytes : List UInt8) : OnlyLastOpen (inputLines bytes) := by
  induction bytes using feed_induction with
  | last x hx =>
    rw [inputLines_of_no_feed hx]
    split
    · exact List.Pairwise.nil
    · exact List.pairwise_singleton _ _
  | more x rest hx ih =>
    rw [inputLines_append_feed rest hx, ofStretch_concat]
    exact List.pairwise_cons.mpr ⟨fun _ _ => rfl, ih⟩

/-! ## Lines that are written -/

namespace Line

/-- The bytes of a line that is written. -/
def bytes (line : Line) : List UInt8 :=
  Utf8.encode line.content ++ if line.terminated then [lineFeed] else []

/-- A text without the carriage return at its end. -/
def withoutReturn (text : List Char) : List Char :=
  if text.getLast? = some '\r' then text.dropLast else text

/-- What is read of a line that was written. The end of a line takes one carriage return with it, and
nothing is read of an empty text that no line feed follows. -/
def readBack (line : Line) : Option Line :=
  if line.terminated then some ⟨withoutReturn line.content, true⟩
  else if line.content = [] then none
  else some line

end Line

/-- The end of a line takes a carriage return from the bytes of a text as from the text. -/
theorem decode_without_return (text : List Char) :
    Utf8.decode (if (Utf8.encode text).getLast? = some carriageReturn
        then (Utf8.encode text).dropLast else Utf8.encode text) =
      Line.withoutReturn text := by
  rcases text.eq_nil_or_concat with rfl | ⟨init, c, rfl⟩
  · rfl
  · unfold Line.withoutReturn
    rw [List.concat_eq_append, List.getLast?_concat, List.dropLast_concat]
    by_cases hc : c = '\r'
    · have hbytes : Utf8.encode (init ++ [c]) = Utf8.encode init ++ [carriageReturn] := by
        rw [Utf8.encode_append, hc]
        rfl
      rw [if_pos ((Utf8.getLast?_encode_concat init c).mpr hc), if_pos (congrArg some hc), hbytes,
        List.dropLast_concat, Utf8.decode_encode]
    · rw [if_neg (mt (Utf8.getLast?_encode_concat init c).mp hc),
        if_neg (mt Option.some.inj hc), Utf8.decode_encode]

/-- Lines of which only the last may be open are read back one by one. -/
theorem inputLines_flatMap_bytes {lines : List Line} (hclean : ∀ line ∈ lines, '\n' ∉ line.content)
    (hopen : OnlyLastOpen lines) :
    inputLines (lines.flatMap Line.bytes) = lines.filterMap Line.readBack := by
  induction lines with
  | nil => rfl
  | cons line lines ih =>
    obtain ⟨hfirst, hrest⟩ := List.pairwise_cons.mp hopen
    have hfeed : lineFeed ∉ Utf8.encode line.content := fun h =>
      hclean line List.mem_cons_self (Utf8.lineFeed_mem_encode.mp h)
    rw [List.flatMap_cons, List.filterMap_cons, Line.bytes, Line.readBack]
    by_cases ht : line.terminated = true
    · rw [if_pos ht, if_pos ht, List.append_assoc, List.singleton_append,
        inputLines_append_feed _ hfeed, ofStretch_concat, decode_without_return,
        ih (fun l hl => hclean l (List.mem_cons_of_mem line hl)) hrest]
    · -- An open line is the last one.
      have hnil : lines = [] := List.eq_nil_iff_forall_not_mem.mpr fun l hl => ht (hfirst l hl)
      rw [if_neg ht, if_neg ht, hnil, List.flatMap_nil, List.append_nil, List.append_nil,
        inputLines_of_no_feed hfeed, Utf8.decode_encode]
      by_cases hc : line.content = []
      · rw [hc]
        rfl
      · have hbytes : Utf8.encode line.content ≠ [] := fun h =>
          hc (by rw [← Utf8.decode_encode line.content, h]; rfl)
        have hfalse : line.terminated = false := by simpa using ht
        have hline : (⟨line.content, false⟩ : Line) = line := by rw [← hfalse]
        rw [if_neg hbytes, if_neg hc, hline]
        rfl

/-! ## Texts that are emitted -/

/-- The template of a rule of the user; a skip rule has none. -/
def UserRule.template : UserRule → List Char
  | .skip _ => []
  | .substitute s => s.replacement

namespace RuleSet

/-- The lines that are emitted, as they are written. -/
def emitted (rules : RuleSet) (lines : List Line) : List Line :=
  lines.filterMap fun line =>
    match rules.convertLine line.content with
    | .elided _ => none
    | .emitted text => some ⟨text, line.terminated⟩

theorem script_eq_emitted (rules : RuleSet) (lines : List Line) :
    rules.script lines = (rules.emitted lines).flatMap Line.bytes := by
  induction lines with
  | nil => rfl
  | cons line lines ih =>
    rw [script_cons, ih, emitted, emitted, List.filterMap_cons, contribution]
    rcases rules.convertLine line.content with cause | text
    · rfl
    · by_cases ht : line.terminated = true <;> simp [Line.bytes, ht]

theorem onlyLastOpen_emitted (rules : RuleSet) {lines : List Line} (h : OnlyLastOpen lines) :
    OnlyLastOpen (rules.emitted lines) := by
  refine List.Pairwise.filterMap _ ?_ h
  intro line _ ht out hout _ _
  split at hout
  · cases hout
  · cases hout
    exact ht

theorem not_mem_of_runUserRules {userRules : List UserRule} {text out : List Char} {c : Char}
    (hs : ∀ r ∈ userRules, c ∉ r.template) (h : c ∉ text)
    (hout : runUserRules userRules text = .emitted out) : c ∉ out := by
  induction userRules generalizing text with
  | nil =>
    cases hout
    exact h
  | cons r rest ih =>
    have hrest : ∀ r ∈ rest, c ∉ r.template := fun s hm => hs s (List.mem_cons_of_mem r hm)
    cases r with
    | skip r =>
      simp only [runUserRules] at hout
      split at hout
      · cases hout
      · exact ih hrest h hout
    | substitute s =>
      refine ih hrest (fun hc => ?_) hout
      rcases Substitution.mem_text_apply hc with hc | hc
      · exact h hc
      · exact hs _ List.mem_cons_self hc

/-- The built-in rules and those of a user bring in no character but their own and those of the prefix. -/
theorem not_mem_of_convertLine {s : Settings} {rules : RuleSet} {line out : List Char} {c : Char}
    (hrules : ofSettings s = .ok rules) (hp : c ∉ s.tablePrefix) (hc : c ∉ spelling)
    (hs : ∀ r ∈ rules.userRules, c ∉ r.template) (h : c ∉ line)
    (hout : rules.convertLine line = .emitted out) : c ∉ out := by
  have hsteps : rules.steps = builtinSteps s.tablePrefix := by
    unfold ofSettings at hrules
    rcases hcompiled : compileRules s.rules with fault | userRules
    · rw [hcompiled] at hrules
      cases hrules
    · rw [hcompiled] at hrules
      cases hrules
      rfl
  unfold convertLine at hout
  split at hout
  · cases hout
  · refine not_mem_of_runUserRules hs ?_ hout
    rw [hsteps]
    exact not_mem_runSteps (not_mem_builtinSteps hp hc) h

end RuleSet

/-! ## The law -/

/-- The lines of the prologue. -/
def prologueLines : List Line :=
  ["-- Converted PEQ Database for PostgreSQL",
    "-- Original MySQL dump converted to PostgreSQL syntax",
    "",
    "SET client_encoding = 'UTF8';",
    "SET standard_conforming_strings = on;",
    ""].map fun text => ⟨text.toList, true⟩

theorem ended_opening : Ended Converter.opening := Or.inr (by decide +kernel)

theorem inputLines_opening : inputLines Converter.opening = prologueLines := by decide +kernel

/-- Where neither the prefix nor a template of the user holds a line feed, no text that is emitted
holds one, whatever was read. So a whole script that is read back has the lines of the prologue and then
those that were emitted, one by one and in order, but for a carriage return at the end of each and an
empty text that no line feed follows. -/
theorem a_script_is_read_back_line_by_line {s : Settings} {rules : RuleSet}
    (hrules : RuleSet.ofSettings s = .ok rules) (hp : '\n' ∉ s.tablePrefix)
    (hs : ∀ r ∈ rules.userRules, '\n' ∉ r.template) :
    (∀ bytes, ∀ line ∈ inputLines bytes, ∀ text, rules.convertLine line.content = .emitted text →
      '\n' ∉ text) ∧
    ∀ interval arrivals sink t,
      ((⟨rules, interval⟩ : Converter).convert arrivals sink).result = .ok t →
      ∀ back, fails back = false →
        delivered back = ((⟨rules, interval⟩ : Converter).convert arrivals sink).written →
        LineStream.ofArrivals back =
          ⟨prologueLines ++
            (rules.emitted (inputLines (delivered arrivals))).filterMap Line.readBack, false⟩ := by
  have hclean : ∀ bytes, ∀ line ∈ inputLines bytes, ∀ text,
      rules.convertLine line.content = .emitted text → '\n' ∉ text := fun bytes line hline text =>
    RuleSet.not_mem_of_convertLine hrules hp (by decide) hs (not_lineFeed_mem_content line hline)
  refine ⟨hclean, fun interval arrivals sink t hok back hfails hback => ?_⟩
  have hemitted : ∀ line ∈ rules.emitted (inputLines (delivered arrivals)), '\n' ∉ line.content := by
    intro out hout
    obtain ⟨line, hline, hout⟩ := List.mem_filterMap.mp hout
    split at hout
    · cases hout
    · rename_i text htext
      cases hout
      exact hclean _ line hline text htext
  have hopen := rules.onlyLastOpen_emitted (onlyLastOpen_inputLines (delivered arrivals))
  have hreadable : readable back =
      Converter.opening ++ rules.script (inputLines (delivered arrivals)) := by
    rw [readable, hfails, hback, (Converter.convert_ok hok).1]
    rfl
  rw [ofArrivals_eq, hfails, hreadable, inputLines_append _ _ ended_opening, inputLines_opening,
    RuleSet.script_eq_emitted, inputLines_flatMap_bytes hemitted hopen]

/-- A rule that writes a carriage return and one that empties the last line. -/
theorem a_script_with_a_carriage_return_is_read_back :
    let s : Settings := { rules := [⟨⟨none, some "s/;$/\r/".toList⟩, "rules.toml"⟩,
      ⟨⟨none, some "s/^end$//".toList⟩, "rules.toml"⟩] }
    let x := [Arrival.bytes (Utf8.encode "-- a\r\nb;\n".toList), .bytes (Utf8.encode "end".toList)]
    ∃ rules, (RuleSet.ofSettings s = .ok rules ∧ '\n' ∉ s.tablePrefix ∧
        (∀ r ∈ rules.userRules, '\n' ∉ r.template) ∧
        ∃ t, ((⟨rules, 1⟩ : Converter).convert x).result = .ok t) ∧
      (∀ line ∈ inputLines (delivered x), ∀ text, rules.convertLine line.content = .emitted text →
        '\n' ∉ text) ∧
      rules.emitted (inputLines (delivered x)) = [⟨"b\r".toList, true⟩, ⟨[], false⟩] ∧
      LineStream.ofArrivals [.bytes ((⟨rules, 1⟩ : Converter).convert x).written] =
        ⟨prologueLines ++ [⟨"b".toList, true⟩], false⟩ := by
  intro s x
  have hcheck : (RuleSet.ofSettings s).toOption.any (fun rules =>
      (∀ r ∈ rules.userRules, '\n' ∉ r.template) ∧
        rules.emitted (inputLines (delivered x)) = [⟨"b\r".toList, true⟩, ⟨[], false⟩]) = true := by
    decide +kernel
  rcases hrules : RuleSet.ofSettings s with fault | rules
  · rw [hrules] at hcheck
    cases hcheck
  · rw [hrules] at hcheck
    obtain ⟨hs, hemitted⟩ := of_decide_eq_true hcheck
    have hp : '\n' ∉ s.tablePrefix := by decide
    have hresult : ((⟨rules, 1⟩ : Converter).convert x).result =
        .ok (rules.counts (inputLines (delivered x))) := Converter.result_convert _ _ _
    obtain ⟨hclean, hback⟩ := a_script_is_read_back_line_by_line hrules hp hs
    refine ⟨rules, ⟨rfl, hp, hs, _, hresult⟩, hclean _, hemitted, ?_⟩
    rw [hback 1 x {} _ hresult _ rfl (List.append_nil _), hemitted]
    rfl

end SqlDump
