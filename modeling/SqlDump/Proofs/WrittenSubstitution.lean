-- Substitutions that are written down with a backslash before each delimiter are read back, whatever the
-- delimiter is. A pattern that ends in a backslash is not: its end is taken for a part of it.
import SqlDump.Rule.Substitution

namespace SqlDump.Substitution

open Regex

/-- A text with a backslash before each delimiter. -/
def escapeDelimiter (d : Char) (text : List Char) : List Char :=
  text.flatMap fun c => if c = d then ['\\', c] else [c]

/-- A pattern, a replacement and flags between delimiters. -/
def written (d : Char) (pattern replacement flags : List Char) : List Char :=
  's' :: d :: (escapeDelimiter d pattern ++ d :: (escapeDelimiter d replacement ++ d :: flags))

/-! ## Parts -/

variable {d : Char} {text rest : List Char}

theorem splitParts_delimiter (hd : d ≠ '\\') (rest : List Char) :
    splitParts d (d :: rest) = [] :: splitParts d rest := by
  cases rest <;> simp [splitParts, hd]

theorem splitParts_escaped (d : Char) (rest : List Char) :
    splitParts d ('\\' :: d :: rest) = consPart d (splitParts d rest) := by
  simp [splitParts]

/-- Any other character belongs to the part, a backslash where no delimiter follows it. -/
theorem splitParts_plain {c : Char} (hc : c = d → c = '\\') (hnext : c = '\\' → rest.head? ≠ some d) :
    splitParts d (c :: rest) = consPart c (splitParts d rest) := by
  cases rest with
  | nil =>
    have hplain : ¬ (c ≠ '\\' ∧ c = d) := fun h => h.1 (hc h.2)
    simp only [splitParts, if_neg hplain, consPart]
  | cons e more =>
    by_cases hslash : c = '\\'
    · have he : e ≠ d := by simpa using hnext hslash
      simp [splitParts, hslash, he]
    · have hother : c ≠ d := fun he => hslash (hc he)
      simp [splitParts, hslash, hother]

theorem splitParts_of_not_mem (h : d ∉ text) : splitParts d text = [text] := by
  induction text with
  | nil => rfl
  | cons c text ih =>
    rw [List.mem_cons, not_or] at h
    have hnext : c = '\\' → text.head? ≠ some d := fun _ he => h.2 (List.mem_of_head? he)
    rw [splitParts_plain (fun he => absurd he.symm h.1) hnext, ih h.2]
    rfl

/-- Characters in front of a part belong to it. -/
theorem foldr_consPart (text part : List Char) (parts : List (List Char)) :
    text.foldr consPart (part :: parts) = (text ++ part) :: parts := by
  induction text with
  | nil => rfl
  | cons c text ih =>
    rw [List.foldr_cons, ih]
    rfl

/-! ## Escaped parts -/

/-- No delimiter stands in front of an escaped text. -/
theorem head?_escapeDelimiter (hd : d ≠ '\\') (hne : text ≠ []) (rest : List Char) :
    (escapeDelimiter d text ++ rest).head? ≠ some d := by
  obtain ⟨c, text, rfl⟩ := List.exists_cons_of_ne_nil hne
  unfold escapeDelimiter
  by_cases hc : c = d
  · simp [hc, Ne.symm hd]
  · simp [hc]

/-- An escaped text belongs to the first part of what stands behind it, unless it ends in a backslash and a
delimiter stands there. -/
theorem splitParts_escapeDelimiter_append (hd : d ≠ '\\')
    (hlast : text.getLast? = some '\\' → rest.head? ≠ some d) :
    splitParts d (escapeDelimiter d text ++ rest) = text.foldr consPart (splitParts d rest) := by
  induction text with
  | nil => rfl
  | cons c text ih =>
    have hshort : text.getLast? = some '\\' → rest.head? ≠ some d := by
      intro he
      rw [List.getLast?_cons, he] at hlast
      exact hlast rfl
    by_cases hc : c = d
    · have hcons : escapeDelimiter d (c :: text) ++ rest =
          '\\' :: d :: (escapeDelimiter d text ++ rest) := by simp [escapeDelimiter, hc]
      rw [hcons, splitParts_escaped, ih hshort, hc, List.foldr_cons]
    · have hcons : escapeDelimiter d (c :: text) ++ rest =
          c :: (escapeDelimiter d text ++ rest) := by simp [escapeDelimiter, hc]
      have hnext : c = '\\' → (escapeDelimiter d text ++ rest).head? ≠ some d := by
        intro hslash
        by_cases hne : text = []
        · rw [hne] at hlast ⊢
          exact hlast (congrArg some hslash)
        · exact head?_escapeDelimiter hd hne rest
      rw [hcons, splitParts_plain (fun he => absurd he hc) hnext, ih hshort, List.foldr_cons]

/-- An escaped text is read up to the delimiter behind it, unless it ends in a backslash. -/
theorem splitParts_escapeDelimiter (hd : d ≠ '\\') (hlast : text.getLast? ≠ some '\\')
    (rest : List Char) :
    splitParts d (escapeDelimiter d text ++ d :: rest) = text :: splitParts d rest := by
  rw [splitParts_escapeDelimiter_append hd fun he => absurd he hlast, splitParts_delimiter hd,
    foldr_consPart, List.append_nil]

/-- A backslash at the end of an escaped text escapes the delimiter behind it. -/
theorem escapeDelimiter_concat (hd : d ≠ '\\') (x y : List Char) :
    escapeDelimiter d (x ++ ['\\']) ++ d :: escapeDelimiter d y = escapeDelimiter d (x ++ d :: y) := by
  simp [escapeDelimiter, Ne.symm hd]

/-! ## The law -/

theorem compilePattern_eq_ok {source : List Char} {p : Pattern} (h : Pattern.compile? source = some p) :
    compilePattern source = .ok p := by
  unfold compilePattern
  rw [h]

theorem source_of_compile? {source : List Char} {p : Pattern} (h : Pattern.compile? source = some p) :
    p.source = source := by
  unfold Pattern.compile? at h
  obtain ⟨parsed, -, rfl⟩ := Option.map_eq_some_iff.mp h
  rfl

theorem read_of_parts {parts : List (List Char)} {pattern replacement : List Char}
    (hparts : splitParts d rest = pattern :: replacement :: parts) :
    read ('s' :: d :: rest) = (compilePattern pattern).map fun p =>
      ⟨String.ofList ('s' :: d :: rest), p, replacement, (parts.headD []).contains 'g'⟩ := by
  simp only [read, hparts]
  cases compilePattern pattern <;> rfl

variable {pattern replacement flags : List Char} {p : Pattern}

theorem read_written (hp : Pattern.compile? pattern = some p) (hd : d ≠ '\\')
    (hpattern : pattern.getLast? ≠ some '\\') (hreplacement : replacement.getLast? ≠ some '\\')
    (hflags : d ∉ flags) :
    read (written d pattern replacement flags) =
      .ok ⟨String.ofList (written d pattern replacement flags), p, replacement, flags.contains 'g'⟩ := by
  have hparts := splitParts_escapeDelimiter hd hpattern (escapeDelimiter d replacement ++ d :: flags)
  rw [splitParts_escapeDelimiter hd hreplacement, splitParts_of_not_mem hflags] at hparts
  unfold written
  rw [read_of_parts hparts, compilePattern_eq_ok hp]
  rfl

/-- Behind a pattern that ends in a backslash the replacement goes to the pattern, and the flags take its
place. -/
theorem read_written_of_backslash {x : List Char} (hd : d ≠ '\\')
    (hreplacement : replacement.getLast? ≠ some '\\') (hflags : d ∉ flags) :
    read (written d (x ++ ['\\']) replacement flags) =
      (compilePattern (x ++ d :: replacement)).map fun p =>
        ⟨String.ofList (written d (x ++ ['\\']) replacement flags), p, flags, false⟩ := by
  have hlast : (x ++ d :: replacement).getLast? ≠ some '\\' := by
    rw [List.getLast?_append, List.getLast?_cons]
    cases hr : replacement.getLast? with
    | none => simpa using hd
    | some c =>
      rw [hr] at hreplacement
      simpa using hreplacement
  have hparts := splitParts_escapeDelimiter hd hlast flags
  rw [splitParts_of_not_mem hflags, ← escapeDelimiter_concat hd, List.append_assoc,
    List.cons_append] at hparts
  exact read_of_parts hparts

/-- With any delimiter a substitution is read back as it was written exactly when its pattern does not end
in a backslash. Behind one that does, the delimiter and the replacement become a part of the pattern, the
flags are what it is replaced by, and none are left. -/
theorem a_written_substitution_is_read_back_exactly (hp : Pattern.compile? pattern = some p)
    (hd : d ≠ '\\') (hreplacement : replacement.getLast? ≠ some '\\') (hflags : d ∉ flags) :
    p.source = pattern ∧
    (read (written d pattern replacement flags) =
        .ok ⟨String.ofList (written d pattern replacement flags), p, replacement,
          flags.contains 'g'⟩ ↔
      pattern.getLast? ≠ some '\\') ∧
    ∀ x, pattern = x ++ ['\\'] →
      read (written d pattern replacement flags) =
        (compilePattern (x ++ d :: replacement)).map fun q =>
          ⟨String.ofList (written d pattern replacement flags), q, flags, false⟩ := by
  have hsource := source_of_compile? hp
  have hmisread : ∀ x, pattern = x ++ ['\\'] →
      read (written d pattern replacement flags) =
        (compilePattern (x ++ d :: replacement)).map fun q =>
          ⟨String.ofList (written d pattern replacement flags), q, flags, false⟩ := by
    rintro x rfl
    exact read_written_of_backslash hd hreplacement hflags
  refine ⟨hsource, ⟨?_, fun hlast => read_written hp hd hlast hreplacement hflags⟩, hmisread⟩
  intro hread hlast
  obtain ⟨x, hx⟩ := List.getLast?_eq_some_iff.mp hlast
  rw [hmisread x hx] at hread
  unfold compilePattern at hread
  cases hq : Pattern.compile? (x ++ d :: replacement) with
  | none =>
    rw [hq] at hread
    cases hread
  | some q =>
    -- the pattern that was read is spelt with the delimiter where the written one has its last backslash
    rw [hq] at hread
    have hsame : q = p := congrArg Substitution.pattern (Except.ok.inj hread)
    rw [← hsame, source_of_compile? hq, hx, List.append_right_inj, List.cons.injEq] at hsource
    exact hd hsource.1

/-- A pattern with the delimiter in it, once behind a backslash, and a pattern of two backslashes. -/
theorem patterns_with_backslashes_between_slashes :
    let slashes := "a\\/b|[/\\\\]".toList
    let double := "\\\\".toList
    ∃ p q, (Pattern.compile? slashes = some p ∧ Pattern.compile? double = some q ∧ '/' ≠ '\\' ∧
        "x/y".toList.getLast? ≠ some '\\' ∧ '/' ∉ "ig".toList) ∧
      (written '/' slashes "x/y".toList "ig".toList = "s/a\\\\/b|[\\/\\\\]/x\\/y/ig".toList ∧
        read (written '/' slashes "x/y".toList "ig".toList) =
          .ok ⟨"s/a\\\\/b|[\\/\\\\]/x\\/y/ig", p, "x/y".toList, true⟩) ∧
      read (written '/' double "x/y".toList "ig".toList) ≠
          .ok ⟨"s/\\\\/x\\/y/ig", q, "x/y".toList, true⟩ ∧
        read (written '/' double "x/y".toList "ig".toList) =
          (compilePattern "\\/x/y".toList).map fun r => ⟨"s/\\\\/x\\/y/ig", r, "ig".toList, false⟩ := by
  intro slashes double
  have hslashes : (Pattern.compile? slashes).isSome = true := by decide +kernel
  have hdouble : (Pattern.compile? double).isSome = true := by decide +kernel
  obtain ⟨p, hp⟩ := Option.isSome_iff_exists.mp hslashes
  obtain ⟨q, hq⟩ := Option.isSome_iff_exists.mp hdouble
  have hd : '/' ≠ '\\' := by decide
  have hreplacement : "x/y".toList.getLast? ≠ some '\\' := by decide
  have hflags : '/' ∉ "ig".toList := by decide
  obtain ⟨-, hback, -⟩ := a_written_substitution_is_read_back_exactly hp hd hreplacement hflags
  obtain ⟨-, hnot, hmisread⟩ := a_written_substitution_is_read_back_exactly hq hd hreplacement hflags
  exact ⟨p, q, ⟨hp, hq, hd, hreplacement, hflags⟩, ⟨rfl, hback.mpr (by decide)⟩,
    fun hread => hnot.mp hread rfl, hmisread ['\\'] rfl⟩

end SqlDump.Substitution
