-- Documents of a simple form: a line sets a key to a string or a number, or begins a member of a list. What is
-- written so is read back line by line, whatever characters the strings hold.
import SqlDump.Toml.Parser
import Mathlib.Data.List.TakeWhile
import Mathlib.Tactic.Ring

namespace SqlDump.Toml

/-! ## Writing -/

/-- What stands for a character behind a backslash, where there is a short way. -/
def shortEscape? : Char → Option Char
  | '"' => some '"'
  | '\\' => some '\\'
  | '\x08' => some 'b'
  | '\t' => some 't'
  | '\n' => some 'n'
  | '\x0c' => some 'f'
  | '\r' => some 'r'
  | _ => none

/-- The digits of a number in base 16, as many as are asked for. -/
def hexDigits : Nat → Nat → List Char
  | 0, _ => []
  | count + 1, n => Nat.digitChar (n / 16 ^ count) :: hexDigits count (n % 16 ^ count)

/-- A character told by its number behind a backslash. -/
def codePoint (c : Char) : List Char :=
  if c.toNat < 0x10000 then 'u' :: hexDigits 4 c.toNat else 'U' :: hexDigits 8 c.toNat

/-- A character within quotes. What cannot stand for itself is told behind a backslash; others are told by
their number where one wishes so. -/
def escaped (spelled : Char → Bool) (c : Char) : List Char :=
  match shortEscape? c with
  | some d => ['\\', d]
  | none => if isPlain c && !spelled c then [c] else '\\' :: codePoint c

/-- A string on one line. -/
def quoted (spelled : Char → Bool) (s : List Char) : List Char :=
  '"' :: (s.flatMap (escaped spelled) ++ ['"'])

/-- A line of a document. -/
inductive Entry
  | string (key : Key) (s : List Char)
  | number (key : Key) (n : Nat)
  | member (key : Key)

namespace Entry

def write (spelled : Char → Bool) : Entry → List Char
  | string key s => key ++ (" = ".toList ++ (quoted spelled s ++ ['\n']))
  | number key n => key ++ (" = ".toList ++ (Nat.toDigits 10 n ++ ['\n']))
  | member key => "[[".toList ++ (key ++ "]]\n".toList)

/-- What a line says. -/
def statement : Entry → Statement
  | string key s => .assign [key] (.string s)
  | number key n => .assign [key] (.integer 10 (Nat.toDigits 10 n))
  | member key => .member [key]

def key : Entry → Key
  | string key _ => key
  | number key _ => key
  | member key => key

end Entry

/-! ## Strings -/

variable {spelled : Char → Bool}

theorem readEscape_short {c d : Char} (h : shortEscape? c = some d) (rest : List Char) :
    readEscape (d :: rest) = some (c, rest) := by
  unfold shortEscape? at h
  split at h <;> cases h <;> rfl

theorem hexDigit?_digitChar : ∀ d < 16, hexDigit? (Nat.digitChar d) = some d := by decide

theorem readCodePoint_digit {d : Nat} (hd : d < 16) (count start : Nat) (rest : List Char) :
    readCodePoint (count + 1) start (Nat.digitChar d :: rest) =
      readCodePoint count (16 * start + d) rest := by
  rw [readCodePoint, hexDigit?_digitChar d hd]

/-- Digits in base 16 are read back as the number they were written for. -/
theorem readCodePoint_hexDigits {count n : Nat} (h : n < 16 ^ count) (start : Nat) (rest : List Char) :
    readCodePoint count start (hexDigits count n ++ rest) =
      readCodePoint 0 (start * 16 ^ count + n) rest := by
  induction count generalizing n start with
  | zero =>
    obtain rfl : n = 0 := by simpa using h
    simp [hexDigits]
  | succ count ih =>
    have hpos : 0 < 16 ^ count := Nat.pow_pos (by omega)
    have hdigit : n / 16 ^ count < 16 := by
      rw [Nat.div_lt_iff_lt_mul hpos]
      rwa [Nat.pow_succ, Nat.mul_comm] at h
    have hrest := ih (Nat.mod_lt n hpos) (16 * start + n / 16 ^ count)
    have hsum : (16 * start + n / 16 ^ count) * 16 ^ count + n % 16 ^ count =
        start * 16 ^ (count + 1) + n := by
      calc (16 * start + n / 16 ^ count) * 16 ^ count + n % 16 ^ count
          = start * 16 ^ (count + 1) + (16 ^ count * (n / 16 ^ count) + n % 16 ^ count) := by ring
        _ = start * 16 ^ (count + 1) + n := by rw [Nat.div_add_mod]
    rw [hexDigits, List.cons_append, readCodePoint_digit hdigit, hrest, hsum]

theorem readEscape_codePoint (c : Char) (rest : List Char) :
    readEscape (codePoint c ++ rest) = some (c, rest) := by
  have hvalid : c.toNat.isValidChar := c.valid
  have hread : readCodePoint 0 c.toNat rest = some (c, rest) := by
    rw [readCodePoint, if_pos hvalid, Char.ofNat_toNat]
  unfold codePoint
  split
  · rename_i h
    have hbound : c.toNat < 16 ^ 4 := h
    have hdigits := readCodePoint_hexDigits hbound 0 rest
    rw [Nat.zero_mul, Nat.zero_add, hread] at hdigits
    exact hdigits
  · have hbound : c.toNat < 16 ^ 8 := by
      simp only [Nat.isValidChar] at hvalid
      omega
    have hdigits := readCodePoint_hexDigits hbound 0 rest
    rw [Nat.zero_mul, Nat.zero_add, hread] at hdigits
    exact hdigits

/-- No character within quotes looks like a closing quote. -/
theorem exists_escaped (spelled : Char → Bool) (c : Char) :
    ∃ d more, escaped spelled c = d :: more ∧ d ≠ '"' := by
  unfold escaped
  split
  · exact ⟨'\\', _, rfl, by decide⟩
  · rename_i hshort
    split
    · refine ⟨c, [], rfl, ?_⟩
      rintro rfl
      cases hshort
    · exact ⟨'\\', _, rfl, by decide⟩

/-- A written character is read back, and the reader goes on behind it. -/
theorem readBasic_escaped (spelled : Char → Bool) (c : Char) (fuel : Nat) (rest : List Char) :
    readBasic (fuel + 1) (escaped spelled c ++ rest) =
      (readBasic fuel rest).map fun found => (c :: found.1, found.2) := by
  have hbehind : ∀ text, readEscape text = some (c, rest) →
      readBasic (fuel + 1) ('\\' :: text) =
        (readBasic fuel rest).map fun found => (c :: found.1, found.2) := by
    intro text htext
    rw [readBasic, htext]
    rfl
  unfold escaped
  split
  · rename_i d hshort
    exact hbehind _ (readEscape_short hshort rest)
  · rename_i hshort
    split
    · rename_i hplain
      have hquote : c ≠ '"' := by
        rintro rfl
        cases hshort
      have hslash : c ≠ '\\' := by
        rintro rfl
        cases hshort
      rw [Bool.and_eq_true] at hplain
      rw [List.singleton_append, readBasic]
      simp [hquote, hslash, hplain.1]
    · exact hbehind _ (readEscape_codePoint c rest)

theorem readBasic_written (spelled : Char → Bool) (s rest : List Char) {fuel : Nat}
    (h : s.length < fuel) :
    readBasic fuel (s.flatMap (escaped spelled) ++ '"' :: rest) = some (s, rest) := by
  induction s generalizing fuel with
  | nil =>
    obtain ⟨fuel, rfl⟩ := Nat.exists_eq_succ_of_ne_zero (Nat.ne_of_gt h)
    rfl
  | cons c s ih =>
    obtain ⟨fuel, rfl⟩ := Nat.exists_eq_succ_of_ne_zero (Nat.ne_of_gt (Nat.zero_lt_of_lt h))
    have hrest := ih (Nat.lt_of_succ_lt_succ h)
    rw [List.flatMap_cons, List.append_assoc, readBasic_escaped, hrest]
    rfl

theorem length_le_flatMap_escaped (spelled : Char → Bool) (s : List Char) :
    s.length ≤ (s.flatMap (escaped spelled)).length := by
  induction s with
  | nil => exact Nat.le_refl 0
  | cons c s ih =>
    obtain ⟨d, more, he, -⟩ := exists_escaped spelled c
    rw [List.flatMap_cons, List.length_append, he, List.length_cons, List.length_cons]
    omega

/-- One quote at the front, without two more behind it, opens a string on one line. -/
theorem readString_of_one_quote {text : List Char} (h : ∀ rest, text ≠ '"' :: '"' :: rest) :
    readString ('"' :: text) = readBasic (text.length + 1) text := by
  unfold readString
  split
  · rename_i rest he
    exact absurd (List.tail_eq_of_cons_eq he) (h rest)
  · rename_i he
    cases he
  · rename_i he
    cases he
    rfl
  · rename_i he
    cases he
  · rename_i hnot _
    exact absurd rfl (hnot text)

/-- A string is read back, with what stands behind it. -/
theorem readString_quoted (spelled : Char → Bool) (s rest : List Char) (h : rest.head? ≠ some '"') :
    readString (quoted spelled s ++ rest) = some (s, rest) := by
  have hform : quoted spelled s ++ rest = '"' :: (s.flatMap (escaped spelled) ++ '"' :: rest) := by
    simp [quoted]
  have hone : ∀ more, s.flatMap (escaped spelled) ++ '"' :: rest ≠ '"' :: '"' :: more := by
    intro more he
    cases s with
    | nil =>
      have hrest : rest = '"' :: more := List.tail_eq_of_cons_eq he
      rw [hrest] at h
      exact h rfl
    | cons c s =>
      obtain ⟨d, more', hd, hne⟩ := exists_escaped spelled c
      rw [List.flatMap_cons, hd] at he
      exact hne (List.head_eq_of_cons_eq he)
  have hlength := length_le_flatMap_escaped spelled s
  rw [hform, readString_of_one_quote hone, readBasic_written]
  rw [List.length_append]
  omega

/-! ## Numbers -/

/-- Digits as a number is written with: no zero stands before others. -/
structure Digits (text : List Char) : Prop where
  ne_nil : text ≠ []
  all : ∀ c ∈ text, c.isDigit = true
  lead : ∀ c rest, text ≠ '0' :: c :: rest

theorem head?_toDigits {n : Nat} (h : 0 < n) : (Nat.toDigits 10 n).head? ≠ some '0' := by
  induction n using Nat.strongRecOn with
  | ind n ih =>
    rw [Nat.toDigits_eq_if (by omega)]
    split
    · intro he
      have hzero : Nat.digitChar n = '0' := Option.some.inj he
      rw [Nat.digitChar_eq_zero] at hzero
      omega
    · obtain ⟨c, text, htext⟩ := List.exists_cons_of_ne_nil (Nat.toDigits_ne_nil (b := 10) (n := n / 10))
      have hhead := ih (n / 10) (by omega) (by omega)
      rw [htext] at hhead ⊢
      exact hhead

theorem digits_toDigits (n : Nat) : Digits (Nat.toDigits 10 n) := by
  refine ⟨Nat.toDigits_ne_nil, fun c hc => Nat.isDigit_of_mem_toDigits (by omega) (by omega) hc, ?_⟩
  intro c rest he
  by_cases hn : n < 10
  · rw [Nat.toDigits_of_lt_base hn] at he
    exact absurd (List.tail_eq_of_cons_eq he) (List.cons_ne_nil c rest).symm
  · refine head?_toDigits (n := n) (by omega) ?_
    rw [he]
    rfl

theorem digit?_of_isDigit {c : Char} (h : c.isDigit = true) : digit? 10 c = some (c.toNat - '0'.toNat) := by
  have hbounds : 48 ≤ c.toNat ∧ c.toNat ≤ 57 := Char.isDigit_iff_toNat.mp h
  have hrange : '0' ≤ c ∧ c ≤ '9' := by
    simp only [Char.le_def, UInt32.le_iff_toNat_le]
    exact hbounds
  have hsmall : c.toNat - '0'.toNat < 10 := by
    have hzero : '0'.toNat = 48 := rfl
    omega
  unfold digit?
  rw [if_pos hrange]
  exact if_pos (decide_eq_true hsmall)

theorem ne_of_isDigit {c d : Char} (h : c.isDigit = true) (hd : d.isDigit = false) : c ≠ d := by
  rintro rfl
  rw [h] at hd
  cases hd

theorem foldlM_digit? (text : List Char) (start : Nat) (h : ∀ c ∈ text, c.isDigit = true) :
    text.foldlM (fun n c => (digit? 10 c).map (10 * n + ·)) start =
      some (Nat.ofDigitChars 10 text start) := by
  induction text generalizing start with
  | nil => rfl
  | cons c text ih =>
    rw [List.foldlM_cons, digit?_of_isDigit (h c List.mem_cons_self)]
    exact ih _ fun d hd => h d (List.mem_cons_of_mem c hd)

/-- Digits are read back as the number they are written for. -/
theorem natural?_toDigits (n : Nat) : natural? 10 (Nat.toDigits 10 n) = some n := by
  unfold natural?
  rw [if_neg (by simp), foldlM_digit? _ 0 (digits_toDigits n).all, Nat.ofDigitChars_ten_toDigits]

namespace Digits

variable {text : List Char}

theorem signed_eq (h : Digits text) : signed text = (false, text) := by
  unfold signed
  split
  · exact absurd (h.all '-' List.mem_cons_self) (by decide)
  · exact absurd (h.all '+' List.mem_cons_self) (by decide)
  · rfl

/-- Digits have no underscores that could be in a wrong place. -/
theorem underscoresFit_of_digits (h : ∀ c ∈ text, c.isDigit = true) (afterDigit : Bool) :
    underscoresFit 10 afterDigit text = true := by
  induction text generalizing afterDigit with
  | nil => rfl
  | cons c text ih =>
    have hc : c ≠ '_' := ne_of_isDigit (h c List.mem_cons_self) (by decide)
    have hrest := ih (fun d hd => h d (List.mem_cons_of_mem c hd)) (digit? 10 c).isSome
    rw [underscoresFit]
    · exact hrest
    · rintro he -
      exact hc he
    · rintro d more he -
      exact hc he

theorem isWhole_eq (h : Digits text) (hvalue : (natural? 10 text).isSome = true) :
    isWhole text = true := by
  have hfilter : text.filter (· != '_') = text := by
    refine List.filter_eq_self.mpr fun c hc => ?_
    simpa using ne_of_isDigit (h.all c hc) (by decide)
  unfold isWhole
  split
  · exact absurd rfl (h.lead _ _)
  · rw [isDigits, underscoresFit_of_digits h.all, hfilter, hvalue]
    rfl

theorem numeric?_eq (h : Digits text) (hvalue : (natural? 10 text).isSome = true) :
    numeric? text = some (.integer 10 text) := by
  have hend : text.dropWhile Char.isDigit = [] := by
    rw [List.dropWhile_eq_nil_iff]
    exact h.all
  unfold numeric?
  simp only [h.signed_eq, hend, h.isWhole_eq hvalue, if_true]

theorem scalar?_eq (h : Digits text) (hvalue : (natural? 10 text).isSome = true) :
    scalar? text = some (.integer 10 text) := by
  have hno : ∀ w : List Char, (∃ c ∈ w, c.isDigit = false) → text ≠ w := by
    rintro w ⟨c, hc, hdigit⟩ rfl
    rw [h.all c hc] at hdigit
    cases hdigit
  have hfirst : text.head?.any Char.isDigit = true := by
    obtain ⟨c, rest, rfl⟩ := List.exists_cons_of_ne_nil h.ne_nil
    exact h.all c List.mem_cons_self
  unfold scalar?
  rw [if_neg (hno _ ⟨'t', by decide, by decide⟩), if_neg (hno _ ⟨'f', by decide, by decide⟩)]
  split
  · exact absurd rfl (h.lead _ _)
  · exact absurd rfl (h.lead _ _)
  · exact absurd rfl (h.lead _ _)
  · have hspecial : ¬ (text = "inf".toList ∨ text = "nan".toList) := by
      rintro (he | he)
      · exact hno _ ⟨'i', by decide, by decide⟩ he
      · exact hno _ ⟨'n', by decide, by decide⟩ he
    simp only [h.signed_eq, if_neg hspecial, hfirst, if_true, h.numeric?_eq hvalue]

end Digits

theorem isScalarChar_of_isDigit {c : Char} (h : c.isDigit = true) : isScalarChar c = true := by
  have hne : ∀ d, d.isDigit = false → (c == d) = false := fun d hd =>
    beq_eq_false_iff_ne.mpr (ne_of_isDigit h hd)
  rw [isScalarChar, hne '=' rfl, hne ',' rfl, hne '[' rfl, hne ']' rfl, hne '\x7b' rfl, hne '\x7d' rfl,
    hne '#' rfl, hne ' ' rfl, hne '\t' rfl, hne '\r' rfl, hne '\n' rfl]
  rfl

/-- A number at the end of its line is read back as its digits. -/
theorem readScalar_toDigits (n : Nat) (rest : List Char) :
    readScalar (Nat.toDigits 10 n ++ '\n' :: rest) =
      some (.integer 10 (Nat.toDigits 10 n), '\n' :: rest) := by
  have hdigits := digits_toDigits n
  have hvalue : (natural? 10 (Nat.toDigits 10 n)).isSome = true := by
    rw [natural?_toDigits]
    rfl
  have hchars : ∀ c ∈ Nat.toDigits 10 n, isScalarChar c = true := fun c hc =>
    isScalarChar_of_isDigit (hdigits.all c hc)
  have hstop : isScalarChar '\n' = false := by decide
  have htake : (Nat.toDigits 10 n ++ '\n' :: rest).takeWhile isScalarChar = Nat.toDigits 10 n := by
    rw [List.takeWhile_append_of_pos hchars, List.takeWhile_cons_of_neg (by simp [hstop]),
      List.append_nil]
  have hdrop : (Nat.toDigits 10 n ++ '\n' :: rest).dropWhile isScalarChar = '\n' :: rest := by
    rw [List.dropWhile_append_of_pos hchars, List.dropWhile_cons_of_neg (by simp [hstop])]
  have hblanks : ('\n' :: rest).takeWhile isBlank = [] :=
    List.takeWhile_cons_of_neg (by decide)
  have hword : ∀ fuel, scalarText (fuel + 1) (Nat.toDigits 10 n ++ '\n' :: rest) =
      (Nat.toDigits 10 n, '\n' :: rest) := by
    intro fuel
    simp only [scalarText, htake, hdrop, hblanks]
    rfl
  unfold readScalar
  rw [hword]
  simp only [hdigits.scalar?_eq hvalue]
  rfl

theorem integerValue?_toDigits (n : Nat) : integerValue? 10 (Nat.toDigits 10 n) = some (n : Int) := by
  unfold integerValue?
  rw [(digits_toDigits n).signed_eq]
  simp only [natural?_toDigits]
  rfl

/-! ## Lines -/

/-- A key that needs no quotes. -/
structure Bare (key : Key) : Prop where
  ne_nil : key ≠ []
  all : key.all isBareKeyChar = true

theorem ne_of_isBareKeyChar {c d : Char} (h : isBareKeyChar c = true) (hd : isBareKeyChar d = false) :
    c ≠ d := by
  rintro rfl
  rw [h] at hd
  cases hd

theorem isBlank_of_isBareKeyChar {c : Char} (h : isBareKeyChar c = true) : isBlank c = false := by
  have hspace : c ≠ ' ' := ne_of_isBareKeyChar h (by decide)
  have htab : c ≠ '\t' := ne_of_isBareKeyChar h (by decide)
  simp [isBlank, hspace, htab]

theorem dropBlanks_cons {c : Char} (h : isBlank c = false) (rest : List Char) :
    dropBlanks (c :: rest) = c :: rest := List.dropWhile_cons_of_neg (by simp [h])

section Keys

variable {key : Key} (hkey : Bare key)

include hkey

theorem exists_bare : ∃ c more, key = c :: more ∧ isBareKeyChar c = true := by
  obtain ⟨c, more, rfl⟩ := List.exists_cons_of_ne_nil hkey.ne_nil
  have hall := hkey.all
  rw [List.all_cons, Bool.and_eq_true] at hall
  exact ⟨c, more, rfl, hall.1⟩

theorem readKeyPart_bare {c : Char} (hc : isBareKeyChar c = false) (rest : List Char) :
    readKeyPart (key ++ c :: rest) = some (key, c :: rest) := by
  have hsimple : readSimpleString (key ++ c :: rest) = none := by
    obtain ⟨d, more, rfl, hd⟩ := exists_bare hkey
    unfold readSimpleString
    split
    · rename_i he
      exact absurd (List.head_eq_of_cons_eq he) (ne_of_isBareKeyChar hd (by decide))
    · rename_i he
      exact absurd (List.head_eq_of_cons_eq he) (ne_of_isBareKeyChar hd (by decide))
    · rfl
  have htake : (key ++ c :: rest).takeWhile isBareKeyChar = key := by
    rw [List.takeWhile_append_of_pos (List.all_eq_true.mp hkey.all),
      List.takeWhile_cons_of_neg (by simp [hc]), List.append_nil]
  unfold readKeyPart
  rw [hsimple]
  simp only [htake, List.drop_left, List.isEmpty_iff, hkey.ne_nil, if_false]

/-- A key without quotes is read up to what follows it. -/
theorem readKey_bare {c d : Char} (hc : isBareKeyChar c = false) (hd : d ≠ '.')
    {rest behind : List Char} (hrest : dropBlanks (c :: rest) = d :: behind) :
    readKey (key ++ c :: rest) = some ([key], d :: behind) := by
  have hfront : dropBlanks (key ++ c :: rest) = key ++ c :: rest := by
    obtain ⟨e, more, rfl, he⟩ := exists_bare hkey
    exact dropBlanks_cons (isBlank_of_isBareKeyChar he) _
  unfold readKey
  rw [readKeyParts, hfront, readKeyPart_bare hkey hc]
  simp only [Option.bind_eq_bind, Option.bind_some, hrest]
  split
  · rename_i he
    exact absurd (List.head_eq_of_cons_eq he) hd
  · rfl

/-- A line that sets a key to a value is read back, whatever stands in the lines behind it. -/
theorem readStatement_assign {c : Char} (hc : isBlank c = false) {v : Value} {text rest : List Char}
    (hvalue : ∀ fuel, readValue (fuel + 1) 0 (c :: text) = some (v, '\n' :: rest)) :
    readStatement (key ++ (" = ".toList ++ c :: text)) = some (.assign [key] v, '\n' :: rest) := by
  have hread : readKey (key ++ ' ' :: ("= ".toList ++ c :: text)) =
      some ([key], '=' :: (' ' :: c :: text)) := readKey_bare hkey (by decide) (by decide) rfl
  have hblanks : dropBlanks (' ' :: c :: text) = c :: text := dropBlanks_cons hc text
  have hopen : ∀ more, key ++ ' ' :: ("= ".toList ++ c :: text) ≠ '[' :: more := by
    obtain ⟨d, more', rfl, hd⟩ := exists_bare hkey
    intro more he
    exact ne_of_isBareKeyChar hd (by decide) (List.head_eq_of_cons_eq he)
  show readStatement (key ++ ' ' :: ("= ".toList ++ c :: text)) = _
  unfold readStatement
  split
  · rename_i he
    exact absurd he (hopen _)
  · rename_i he
    exact absurd he (hopen _)
  · rw [hread]
    simp only [Option.bind_eq_bind, Option.bind_some, hblanks, hvalue]

/-- A line that begins a member of a list is read back. -/
theorem readStatement_member (rest : List Char) :
    readStatement ("[[".toList ++ (key ++ ("]]".toList ++ '\n' :: rest))) =
      some (.member [key], '\n' :: rest) := by
  have hread : readKey (key ++ ("]]".toList ++ '\n' :: rest)) =
      some ([key], "]]".toList ++ '\n' :: rest) :=
    readKey_bare hkey (by decide) (by decide) rfl
  show readStatement ('[' :: '[' :: (key ++ ("]]".toList ++ '\n' :: rest))) = _
  rw [readStatement, hread]
  rfl

end Keys

theorem readValue_quoted (spelled : Char → Bool) (s rest : List Char) (fuel : Nat) :
    readValue (fuel + 1) 0 (quoted spelled s ++ '\n' :: rest) = some (.string s, '\n' :: rest) := by
  have hread := readString_quoted spelled s ('\n' :: rest) (by simp)
  unfold quoted at hread ⊢
  rw [List.cons_append] at hread ⊢
  rw [readValue, hread]
  rfl

theorem readValue_toDigits (n : Nat) (rest : List Char) (fuel : Nat) :
    readValue (fuel + 1) 0 (Nat.toDigits 10 n ++ '\n' :: rest) =
      some (.integer 10 (Nat.toDigits 10 n), '\n' :: rest) := by
  have hread := readScalar_toDigits n rest
  have hdigits := digits_toDigits n
  obtain ⟨c, text, htext⟩ := List.exists_cons_of_ne_nil hdigits.ne_nil
  have hc : c.isDigit = true := hdigits.all c (by rw [htext]; exact List.mem_cons_self)
  have hne : ∀ d, d.isDigit = false → c ≠ d := fun d => ne_of_isDigit hc
  rw [htext] at hread ⊢
  rw [List.cons_append] at hread ⊢
  rw [readValue]
  · exact hread
  all_goals
    intro more he
    exact hne _ (by decide) (List.head_eq_of_cons_eq he)

namespace Entry

/-- Every line is read back as what it says. -/
theorem readStatement_write (spelled : Char → Bool) (l : Entry) (hkey : Bare l.key) (rest : List Char) :
    readStatement (l.write spelled ++ rest) = some (l.statement, '\n' :: rest) := by
  cases l with
  | string key s =>
    have hform : (string key s).write spelled ++ rest =
        key ++ (" = ".toList ++ '"' :: (s.flatMap (escaped spelled) ++ '"' :: '\n' :: rest)) := by
      simp [write, quoted]
    have hvalue : ∀ fuel, readValue (fuel + 1) 0
        ('"' :: (s.flatMap (escaped spelled) ++ '"' :: '\n' :: rest)) =
          some (.string s, '\n' :: rest) := by
      intro fuel
      have hread := readValue_quoted spelled s rest fuel
      simpa [quoted] using hread
    rw [hform]
    exact readStatement_assign hkey (by decide) hvalue
  | number key n =>
    have hdigits := digits_toDigits n
    obtain ⟨c, text, htext⟩ := List.exists_cons_of_ne_nil hdigits.ne_nil
    have hc : c.isDigit = true := hdigits.all c (by rw [htext]; exact List.mem_cons_self)
    have hblank : isBlank c = false := by
      simp [isBlank, ne_of_isDigit hc (d := ' ') (by decide), ne_of_isDigit hc (d := '\t') (by decide)]
    have hform : (number key n).write spelled ++ rest =
        key ++ (" = ".toList ++ c :: (text ++ '\n' :: rest)) := by
      simp [write, htext]
    have hvalue : ∀ fuel, readValue (fuel + 1) 0 (c :: (text ++ '\n' :: rest)) =
        some (.integer 10 (Nat.toDigits 10 n), '\n' :: rest) := by
      intro fuel
      have hread := readValue_toDigits n rest fuel
      rwa [htext] at hread ⊢
    rw [hform]
    exact readStatement_assign hkey hblank hvalue
  | member key =>
    have hform : (member key).write spelled ++ rest =
        "[[".toList ++ (key ++ ("]]".toList ++ '\n' :: rest)) := by
      simp [write]
    rw [hform]
    exact readStatement_member hkey rest

/-- A line begins with its key or a bracket. -/
theorem exists_write (spelled : Char → Bool) (l : Entry) (hkey : Bare l.key) :
    ∃ c more, l.write spelled = c :: more ∧ (isBareKeyChar c = true ∨ c = '[') := by
  cases l with
  | string key s =>
    obtain ⟨c, more, rfl, hc⟩ := exists_bare hkey
    exact ⟨c, _, rfl, Or.inl hc⟩
  | number key n =>
    obtain ⟨c, more, rfl, hc⟩ := exists_bare hkey
    exact ⟨c, _, rfl, Or.inl hc⟩
  | member key => exact ⟨'[', _, rfl, Or.inr rfl⟩

/-- Such a beginning is no blank, no comment and no line break. -/
theorem dropLines_cons {c : Char} (h : isBareKeyChar c = true ∨ c = '[') (fuel : Nat)
    (rest : List Char) : dropLines fuel (c :: rest) = some (c :: rest) := by
  have hne : ∀ d, isBareKeyChar d = false → d ≠ '[' → c ≠ d := by
    rintro d hd hopen rfl
    rcases h with h | h
    · rw [h] at hd
      cases hd
    · exact hopen h
  have hblank : isBlank c = false := by
    simp [isBlank, hne ' ' (by decide) (by decide), hne '\t' (by decide) (by decide)]
  have hcomment : dropComment (c :: rest) = some (c :: rest) := by
    unfold dropComment
    split
    · rename_i he
      exact absurd (List.head_eq_of_cons_eq he) (hne _ (by decide) (by decide))
    · rfl
  have hbreak : lineBreak? (c :: rest) = none := by
    unfold lineBreak?
    split
    · rename_i he
      exact absurd (List.head_eq_of_cons_eq he) (hne _ (by decide) (by decide))
    · rename_i he
      exact absurd (List.head_eq_of_cons_eq he) (hne _ (by decide) (by decide))
    · rfl
  cases fuel with
  | zero => rfl
  | succ fuel =>
    rw [dropLines, dropBlanks_cons hblank, hcomment]
    simp only [Option.bind_eq_bind, Option.bind_some, hbreak]

/-- A document is read back line by line. -/
theorem readStatements_write (spelled : Char → Bool) (lines : List Entry)
    (hkeys : ∀ l ∈ lines, Bare l.key) {fuel : Nat} (h : lines.length < fuel) :
    readStatements fuel (lines.flatMap (write spelled)) = some (lines.map statement) := by
  induction lines generalizing fuel with
  | nil =>
    obtain ⟨fuel, rfl⟩ := Nat.exists_eq_succ_of_ne_zero (Nat.ne_of_gt h)
    rfl
  | cons l lines ih =>
    obtain ⟨fuel, rfl⟩ := Nat.exists_eq_succ_of_ne_zero (Nat.ne_of_gt (Nat.zero_lt_of_lt h))
    have hrest := ih (fun m hm => hkeys m (List.mem_cons_of_mem l hm)) (Nat.lt_of_succ_lt_succ h)
    have hkey := hkeys l List.mem_cons_self
    obtain ⟨c, more, hwrite, hc⟩ := exists_write spelled l hkey
    have hread := readStatement_write spelled l hkey (lines.flatMap (write spelled))
    have hend : ∀ text, dropBlanks ('\n' :: text) = '\n' :: text ∧
        dropComment ('\n' :: text) = some ('\n' :: text) ∧ lineBreak? ('\n' :: text) = some text :=
      fun text => ⟨dropBlanks_cons (by decide) text, rfl, rfl⟩
    rw [List.flatMap_cons, readStatements, hwrite, List.cons_append, dropLines_cons hc]
    rw [hwrite, List.cons_append] at hread
    simp only [Option.bind_eq_bind, Option.bind_some, hread, hend, hrest]
    rfl

theorem length_le_flatMap_write (spelled : Char → Bool) (lines : List Entry)
    (hkeys : ∀ l ∈ lines, Bare l.key) : lines.length ≤ (lines.flatMap (write spelled)).length := by
  induction lines with
  | nil => exact Nat.le_refl 0
  | cons l lines ih =>
    have hrest := ih fun m hm => hkeys m (List.mem_cons_of_mem l hm)
    obtain ⟨c, more, hwrite, -⟩ := exists_write spelled l (hkeys l List.mem_cons_self)
    rw [List.flatMap_cons, List.length_append, hwrite, List.length_cons, List.length_cons]
    omega

end Entry

/-- A written document is read as the table that its lines build, one after another. -/
theorem parse?_write (spelled : Char → Bool) (lines : List Entry) (hkeys : ∀ l ∈ lines, Bare l.key) :
    parse? (lines.flatMap (Entry.write spelled)) =
      ((lines.map Entry.statement).foldlM Document.step {}).bind fun d => d.close.map finishRows := by
  have hlength := Entry.length_le_flatMap_write spelled lines hkeys
  have hread := Entry.readStatements_write spelled lines hkeys (Nat.lt_succ_of_le hlength)
  have hmark : ∀ rest, lines.flatMap (Entry.write spelled) ≠ '\ufeff' :: rest := by
    intro rest he
    cases lines with
    | nil => cases he
    | cons l lines =>
      obtain ⟨c, more, hwrite, hc⟩ := Entry.exists_write spelled l (hkeys l List.mem_cons_self)
      rw [List.flatMap_cons, hwrite] at he
      rcases hc with hc | rfl
      · exact ne_of_isBareKeyChar hc (by decide) (List.head_eq_of_cons_eq he)
      · exact absurd (List.head_eq_of_cons_eq he) (by decide)
  unfold parse?
  split
  · rename_i he
    exact absurd he (hmark _)
  · simp only [hread, Option.bind_eq_bind, Option.bind_some, Option.map_eq_bind]
    rfl

end SqlDump.Toml
