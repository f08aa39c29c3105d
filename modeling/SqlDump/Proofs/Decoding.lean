-- The laws of UTF-8: decoding reads every written character back, whatever was begun before it, and a line
-- feed that is read or written is the byte of that name.
import SqlDump.Text.Lines

namespace SqlDump.Utf8

/-! ## What has begun -/

/-- A character that has begun goes on with a byte of its own kind, and ends with at least 128. -/
structure Begun.Sound (g : Begun) : Prop where
  low : 0x80 ≤ g.low
  high : g.high ≤ 0xBF
  long : 2 ≤ 64 * g.bits + (g.low - 0x80)
  last : g.owed ≤ 1 → 0x80 ≤ 64 * g.bits + (g.low - 0x80)

theorem sound_lead {b : Nat} {g : Begun} (h : (lead b).2 = some g) : g.Sound := by
  unfold lead at h
  repeat' split at h
  all_goals
    cases h
    try constructor <;> dsimp only <;> omega

theorem sound_step {begun : Option Begun} {b : Nat} {g : Begun} (hs : ∀ g ∈ begun, g.Sound)
    (h : (step begun b).2 = some g) : g.Sound := by
  cases begun with
  | none => exact sound_lead h
  | some g' =>
    obtain ⟨hlow, hhigh, hlong, _⟩ := hs g' rfl
    simp only [step] at h
    split at h
    · split at h
      · cases h
      · cases h
        constructor <;> dsimp only <;> omega
    · exact sound_lead h

/-- A decoder that has begun a character soundly, or none. -/
def Decoder.Sound (d : Decoder) : Prop := ∀ g ∈ d.begun, g.Sound

theorem Decoder.feed_eq (d : Decoder) (b : UInt8) :
    d.feed b = ⟨(step d.begun b.toNat).2, (step d.begun b.toNat).1.toList ++ d.text⟩ := by
  unfold Decoder.feed
  rcases step d.begun b.toNat with ⟨_ | c, begun⟩ <;> rfl

theorem Decoder.Sound.feed {d : Decoder} (h : d.Sound) (b : UInt8) : (d.feed b).Sound := by
  intro g hg
  rw [Decoder.feed_eq] at hg
  exact sound_step h hg

theorem Decoder.Sound.foldl {d : Decoder} (h : d.Sound) (bytes : List UInt8) :
    (bytes.foldl Decoder.feed d).Sound := by
  induction bytes generalizing d with
  | nil => exact h
  | cons b bytes ih => exact ih (h.feed b)

theorem Decoder.sound_none (text : List Char) : Decoder.Sound ⟨none, text⟩ := by
  rintro g ⟨⟩

/-! ## Reading a character -/

theorem toNat_byte {n : Nat} (h : n < 256) : (UInt8.ofNat n).toNat = n := by
  rw [UInt8.toNat_ofNat']
  omega

/-- A byte that goes on with no character is a first byte. -/
theorem step_eq_lead {begun : Option Begun} (hs : ∀ g ∈ begun, g.Sound) {b : Nat}
    (hb : b < 0x80 ∨ 0xC0 ≤ b) : step begun b = lead b := by
  cases begun with
  | none => rfl
  | some g =>
    obtain ⟨hlow, hhigh, _, _⟩ := hs g rfl
    simp only [step]
    rw [if_neg (by omega)]

theorem feed_first {d : Decoder} (h : d.Sound) {b : Nat} (hb : b < 0x80 ∨ 0xC0 ≤ b) (hlt : b < 256) :
    d.feed (UInt8.ofNat b) = ⟨(lead b).2, (lead b).1.toList ++ d.text⟩ := by
  rw [Decoder.feed_eq, toNat_byte hlt, step_eq_lead h hb]

theorem feed_next {g : Begun} {b : Nat} (text : List Char) (howed : 1 < g.owed)
    (hb : g.low ≤ b ∧ b ≤ g.high) (hlt : b < 256) :
    Decoder.feed ⟨some g, text⟩ (UInt8.ofNat b) =
      ⟨some ⟨g.owed - 1, 0x80, 0xBF, 64 * g.bits + (b - 0x80)⟩, text⟩ := by
  rw [Decoder.feed_eq, toNat_byte hlt]
  simp only [step]
  rw [if_pos hb, if_neg (Nat.not_le.mpr howed)]
  rfl

theorem feed_last {g : Begun} {b : Nat} (text : List Char) (howed : g.owed ≤ 1)
    (hb : g.low ≤ b ∧ b ≤ g.high) (hlt : b < 256) :
    Decoder.feed ⟨some g, text⟩ (UInt8.ofNat b) =
      ⟨none, Char.ofNat (64 * g.bits + (b - 0x80)) :: text⟩ := by
  rw [Decoder.feed_eq, toNat_byte hlt]
  simp only [step]
  rw [if_pos hb, if_pos howed]
  rfl

theorem lead_two {n : Nat} (hlow : 0x80 ≤ n) (hhigh : n < 0x800) :
    lead (0xC0 + n / 64) = (none, some ⟨1, 0x80, 0xBF, n / 64⟩) := by
  unfold lead
  rw [if_neg (by omega), if_neg (by omega), if_pos (by omega), Nat.add_sub_cancel_left]

theorem lead_three {n : Nat} (hhigh : n < 0x10000) :
    lead (0xE0 + n / 4096) = (none, some ⟨2, if n / 4096 = 0 then 0xA0 else 0x80,
      if n / 4096 = 13 then 0x9F else 0xBF, n / 4096⟩) := by
  unfold lead
  rw [if_neg (by omega), if_neg (by omega), if_neg (by omega), if_pos (by omega),
    Nat.add_sub_cancel_left]
  simp only [show 0xE0 + n / 4096 = 0xE0 ↔ n / 4096 = 0 by omega,
    show 0xE0 + n / 4096 = 0xED ↔ n / 4096 = 13 by omega]

theorem lead_four {n : Nat} (hhigh : n < 0x110000) :
    lead (0xF0 + n / 262144) = (none, some ⟨3, if n / 262144 = 0 then 0x90 else 0x80,
      if n / 262144 = 4 then 0x8F else 0xBF, n / 262144⟩) := by
  unfold lead
  rw [if_neg (by omega), if_neg (by omega), if_neg (by omega), if_neg (by omega), if_pos (by omega),
    Nat.add_sub_cancel_left]
  simp only [show 0xF0 + n / 262144 = 0xF0 ↔ n / 262144 = 0 by omega,
    show 0xF0 + n / 262144 = 0xF4 ↔ n / 262144 = 4 by omega]

/-- The bytes of a character are read as the character, whatever was begun before them. -/
theorem foldl_feed_encodeChar {d : Decoder} (h : d.Sound) (c : Char) :
    (encodeChar c).foldl Decoder.feed d = ⟨none, c :: d.text⟩ := by
  have hvalid : c.toNat < 0xD800 ∨ 0xDFFF < c.toNat ∧ c.toNat < 0x110000 := c.valid
  have hc : Char.ofNat c.toNat = c := Char.ofNat_toNat c
  unfold encodeChar
  generalize c.toNat = n at hvalid hc
  dsimp only
  split
  · rw [List.foldl_cons, List.foldl_nil, feed_first h (by omega) (by omega), lead, if_pos (by omega), hc]
    rfl
  split
  · have hbits : 64 * (n / 64) + (0x80 + n % 64 - 0x80) = n := by omega
    rw [List.foldl_cons, List.foldl_cons, List.foldl_nil, feed_first h (by omega) (by omega),
      lead_two (by omega) (by omega), feed_last _ (by dsimp only; omega) (by dsimp only; omega) (by omega)]
    dsimp only
    rw [hbits, hc]
    rfl
  split
  · have hbits : 64 * (64 * (n / 4096) + (0x80 + n / 64 % 64 - 0x80)) + (0x80 + n % 64 - 0x80) = n := by
      omega
    -- The bounds of the second byte keep out long forms and surrogates, which no character is.
    have hsecond : (if n / 4096 = 0 then 0xA0 else 0x80) ≤ 0x80 + n / 64 % 64 ∧
        0x80 + n / 64 % 64 ≤ if n / 4096 = 13 then 0x9F else 0xBF := by
      constructor <;> split <;> omega
    rw [List.foldl_cons, List.foldl_cons, List.foldl_cons, List.foldl_nil,
      feed_first h (by omega) (by omega), lead_three (by omega),
      feed_next _ (by dsimp only; omega) hsecond (by omega),
      feed_last _ (by dsimp only; omega) (by dsimp only; omega) (by omega)]
    dsimp only
    rw [hbits, hc]
    rfl
  · have hbits : 64 * (64 * (64 * (n / 262144) + (0x80 + n / 4096 % 64 - 0x80))
        + (0x80 + n / 64 % 64 - 0x80)) + (0x80 + n % 64 - 0x80) = n := by omega
    have hsecond : (if n / 262144 = 0 then 0x90 else 0x80) ≤ 0x80 + n / 4096 % 64 ∧
        0x80 + n / 4096 % 64 ≤ if n / 262144 = 4 then 0x8F else 0xBF := by
      constructor <;> split <;> omega
    rw [List.foldl_cons, List.foldl_cons, List.foldl_cons, List.foldl_cons, List.foldl_nil,
      feed_first h (by omega) (by omega), lead_four (by omega),
      feed_next _ (by dsimp only; omega) hsecond (by omega),
      feed_next _ (by dsimp only; omega) (by dsimp only; omega) (by omega),
      feed_last _ (by dsimp only; omega) (by dsimp only; omega) (by omega)]
    dsimp only
    rw [hbits, hc]
    rfl

theorem text_foldl_feed_encode {d : Decoder} (h : d.Sound) (text : List Char) :
    ((encode text).foldl Decoder.feed d).text = text.reverse ++ d.text := by
  induction text generalizing d with
  | nil => rfl
  | cons c text ih =>
    have hcons : encode (c :: text) = encodeChar c ++ encode text := rfl
    rw [hcons, List.foldl_append, foldl_feed_encodeChar h, ih (Decoder.sound_none _)]
    simp

/-- A written text is read back as it was. -/
theorem decode_encode (text : List Char) : decode (encode text) = text := by
  unfold decode
  rw [text_foldl_feed_encode (Decoder.sound_none [])]
  simp

/-- What a decoder adds to a text does not depend on the text. -/
theorem foldl_feed_text (begun : Option Begun) (text : List Char) (bytes : List UInt8) :
    (bytes.foldl Decoder.feed ⟨begun, text⟩).text =
      (bytes.foldl Decoder.feed ⟨begun, []⟩).text ++ text := by
  induction bytes generalizing begun text with
  | nil => rfl
  | cons b bytes ih =>
    simp only [List.foldl_cons, Decoder.feed_eq]
    rw [ih, ih _ (_ ++ [])]
    simp

/-- Where a character is written, what stands before it and what stands behind it are read apart. -/
theorem decode_append_encodeChar (x : List UInt8) (c : Char) (y : List UInt8) :
    decode (x ++ (encodeChar c ++ y)) = decode x ++ c :: decode y := by
  have hx : (x.foldl Decoder.feed {}).Sound := (Decoder.sound_none []).foldl x
  unfold decode
  rw [List.foldl_append, List.foldl_append, foldl_feed_encodeChar hx, foldl_feed_text]
  simp

/-! ## Single bytes -/

theorem encode_append (a b : List Char) : encode (a ++ b) = encode a ++ encode b :=
  List.flatMap_append

/-- A character below 128 is one byte, and no other character has that byte. -/
theorem byte_mem_encodeChar {a c : Char} (ha : a.toNat < 0x80) :
    UInt8.ofNat a.toNat ∈ encodeChar c ↔ c = a := by
  have heq : UInt8.ofNat c.toNat = UInt8.ofNat a.toNat → c.toNat < 0x80 → c = a := by
    intro h hc
    have hn := congrArg UInt8.toNat h
    rw [toNat_byte (by omega), toNat_byte (by omega)] at hn
    exact Char.toNat_inj.mp hn
  have hne : ∀ n < 256, 0x80 ≤ n → UInt8.ofNat a.toNat ≠ UInt8.ofNat n := by
    intro n hn hle h
    have hn' := congrArg UInt8.toNat h
    rw [toNat_byte (by omega), toNat_byte hn] at hn'
    omega
  have hvalid : c.toNat < 0xD800 ∨ 0xDFFF < c.toNat ∧ c.toNat < 0x110000 := c.valid
  constructor
  · intro h
    unfold encodeChar at h
    dsimp only at h
    split at h
    · rename_i hc
      exact heq (List.mem_singleton.mp h).symm hc
    split at h
    · simp only [List.mem_cons, List.not_mem_nil, or_false] at h
      rcases h with h | h <;> exact absurd h (hne _ (by omega) (by omega))
    split at h
    · simp only [List.mem_cons, List.not_mem_nil, or_false] at h
      rcases h with h | h | h <;> exact absurd h (hne _ (by omega) (by omega))
    · simp only [List.mem_cons, List.not_mem_nil, or_false] at h
      rcases h with h | h | h | h <;> exact absurd h (hne _ (by omega) (by omega))
  · rintro rfl
    unfold encodeChar
    dsimp only
    rw [if_pos ha]
    exact List.mem_singleton_self _

theorem byte_mem_encode {a : Char} (ha : a.toNat < 0x80) {text : List Char} :
    UInt8.ofNat a.toNat ∈ encode text ↔ a ∈ text := by
  unfold encode
  rw [List.mem_flatMap]
  constructor
  · rintro ⟨c, hc, hb⟩
    rwa [← (byte_mem_encodeChar ha).mp hb]
  · exact fun h => ⟨a, h, (byte_mem_encodeChar ha).mpr rfl⟩

theorem lineFeed_mem_encode {text : List Char} : lineFeed ∈ encode text ↔ '\n' ∈ text :=
  byte_mem_encode (a := '\n') (by decide)

/-- The last byte of a text is a carriage return where its last character is one. -/
theorem getLast?_encode_concat (text : List Char) (c : Char) :
    (encode (text ++ [c])).getLast? = some carriageReturn ↔ c = '\r' := by
  have hsplit : encode (text ++ [c]) = encode text ++ encodeChar c := by
    rw [encode_append]
    exact congrArg _ (List.append_nil _)
  have hne : encodeChar c ≠ [] := by
    unfold encodeChar
    dsimp only
    repeat' split
    all_goals simp
  have hlast := List.getLast?_eq_some_getLast hne
  rw [hsplit, List.getLast?_append, hlast, Option.some_or, ← hlast]
  constructor
  · intro h
    exact (byte_mem_encodeChar (a := '\r') (by decide)).mp (List.mem_of_getLast? h)
  · rintro rfl
    rfl

theorem toNat_ofNat_eq {n m : Nat} (h : (Char.ofNat n).toNat = m) (hm : m ≠ 0) : n = m := by
  by_cases hvalid : n.isValidChar
  · have hchar : Char.ofNat n = Char.ofNatAux n hvalid := dif_pos hvalid
    rw [hchar] at h
    exact h
  · have hchar : Char.ofNat n = '\x00' := dif_neg hvalid
    rw [hchar] at h
    exact absurd h.symm hm

/-- A step reads a line feed from the byte of that name only. -/
theorem byte_of_step_lineFeed {begun : Option Begun} (hs : ∀ g ∈ begun, g.Sound) {b : UInt8}
    (h : (step begun b.toNat).1 = some '\n') : b = lineFeed := by
  have hlead : (lead b.toNat).1 = some '\n' → b = lineFeed := by
    intro h
    unfold lead at h
    repeat' split at h
    all_goals first | cases h | skip
    have hn : b.toNat = 10 := by
      refine toNat_ofNat_eq ?_ (by decide)
      rw [Option.some.inj h]
      rfl
    exact UInt8.toNat_inj.mp hn
  cases begun with
  | none => exact hlead h
  | some g =>
    simp only [step] at h
    split at h
    · rename_i hb
      split at h
      · rename_i howed
        have hlast := (hs g rfl).last howed
        have hn : 64 * g.bits + (b.toNat - 0x80) = 10 := by
          refine toNat_ofNat_eq ?_ (by decide)
          rw [Option.some.inj h]
          rfl
        have hlow := (hs g rfl).low
        omega
      · cases h
    · exact hlead h

theorem lineFeed_of_mem_foldl {d : Decoder} (hd : d.Sound) {bytes : List UInt8}
    (h : '\n' ∈ (bytes.foldl Decoder.feed d).text) : '\n' ∈ d.text ∨ lineFeed ∈ bytes := by
  induction bytes generalizing d with
  | nil => exact Or.inl h
  | cons b bytes ih =>
    rcases ih (hd.feed b) h with h | h
    · rw [Decoder.feed_eq] at h
      rcases List.mem_append.mp h with h | h
      · have hb := byte_of_step_lineFeed hd (Option.mem_toList.mp h)
        exact Or.inr (hb ▸ List.mem_cons_self)
      · exact Or.inl h
    · exact Or.inr (List.mem_cons_of_mem b h)

/-- A line feed that is read is a byte of what was read. -/
theorem lineFeed_of_mem_decode {bytes : List UInt8} (h : '\n' ∈ decode bytes) :
    lineFeed ∈ bytes := by
  rcases lineFeed_of_mem_foldl (Decoder.sound_none []) (List.mem_reverse.mp h) with h | h
  · cases h
  · exact h

end SqlDump.Utf8
