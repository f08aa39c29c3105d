-- What a decoder passes over: where no character stands, the longest beginning of one, or a single byte
-- that begins none. So a text is read whatever stands on either side of it.
import SqlDump.Proofs.Decoding
import Mathlib.Data.List.Basic

namespace SqlDump.Utf8

/-! ## Beginnings of characters -/

/-- The bytes are a beginning of some character, or all of it. -/
def Begins (x : List UInt8) : Prop := ∃ c, x <+: encodeChar c

/-- A byte that stands behind the first one of a character. -/
def IsTail (b : UInt8) : Prop := 0x80 ≤ b.toNat ∧ b.toNat ≤ 0xBF

theorem encodeChar_ne_nil (c : Char) : encodeChar c ≠ [] := by
  unfold encodeChar
  dsimp only
  repeat' split
  all_goals simp

theorem isTail_of_mem_tail {c : Char} {b : UInt8} (h : b ∈ (encodeChar c).tail) : IsTail b := by
  have htail : ∀ n < 256, 0x80 ≤ n → n ≤ 0xBF → b = UInt8.ofNat n → IsTail b := by
    rintro n hn hlow hhigh rfl
    unfold IsTail
    rw [toNat_byte hn]
    exact ⟨hlow, hhigh⟩
  unfold encodeChar at h
  dsimp only at h
  split at h
  · cases h
  split at h
  · exact htail _ (by omega) (by omega) (by omega) (List.mem_singleton.mp h)
  split at h
  · simp only [List.tail_cons, List.mem_cons, List.not_mem_nil, or_false] at h
    rcases h with h | h <;> exact htail _ (by omega) (by omega) (by omega) h
  · simp only [List.tail_cons, List.mem_cons, List.not_mem_nil, or_false] at h
    rcases h with h | h | h <;> exact htail _ (by omega) (by omega) (by omega) h

theorem IsTail.lead_eq {b : UInt8} (h : IsTail b) : lead b.toNat = (none, none) := by
  obtain ⟨hlow, hhigh⟩ := h
  unfold lead
  rw [if_neg (by omega), if_pos (by omega)]

/-- Outside of a character such bytes are passed over. -/
theorem foldl_feed_tails {x : List UInt8} (h : ∀ b ∈ x, IsTail b) (text : List Char) :
    x.foldl Decoder.feed ⟨none, text⟩ = ⟨none, text⟩ := by
  induction x with
  | nil => rfl
  | cons b x ih =>
    have hfeed : Decoder.feed ⟨none, text⟩ b = ⟨none, text⟩ := by
      rw [Decoder.feed_eq]
      simp only [step, (h b List.mem_cons_self).lead_eq]
      rfl
    rw [List.foldl_cons, hfeed, ih fun c hc => h c (List.mem_cons_of_mem b hc)]

/-- Bytes that leave the decoder between characters without a character read begin none. -/
theorem not_begins_of_state {x : List UInt8} (hne : x ≠ []) (h : x.foldl Decoder.feed {} = ⟨none, []⟩) :
    ¬ Begins x := by
  rintro ⟨c, more, hc⟩
  have htails : ∀ b ∈ more, IsTail b := by
    intro b hb
    refine isTail_of_mem_tail (c := c) ?_
    rw [← hc, List.tail_append_of_ne_nil hne]
    exact List.mem_append_right _ hb
  have hread := foldl_feed_encodeChar (Decoder.sound_none []) c
  have hnone : (x ++ more).foldl Decoder.feed {} = ⟨none, []⟩ := by
    rw [List.foldl_append, h, foldl_feed_tails htails]
  rw [← hc, hnone] at hread
  cases congrArg Decoder.text hread

theorem Begins.of_prefix {x y : List UInt8} (h : Begins y) (hxy : x <+: y) : Begins x := by
  obtain ⟨c, hc⟩ := h
  exact ⟨c, hxy.trans hc⟩

/-- A whole character leaves a text behind. -/
theorem text_ne_nil_of_prefix {c : Char} {x : List UInt8} (h : encodeChar c <+: x) :
    (x.foldl Decoder.feed {}).text ≠ [] := by
  obtain ⟨more, rfl⟩ := h
  rw [List.foldl_append, foldl_feed_encodeChar (Decoder.sound_none []), foldl_feed_text]
  simp

/-! ## First bytes -/

/-- The bytes `x` go on to a character with any bytes that the decoder would go on with. -/
def Completes (x : List UInt8) (g : Begun) : Prop :=
  ∀ b more, g.low ≤ b.toNat → b.toNat ≤ g.high → more.length + 1 = g.owed → (∀ b ∈ more, IsTail b) →
    ∃ c, encodeChar c = x ++ b :: more

theorem exists_toNat_eq {n : Nat} (h : n.isValidChar) : ∃ c : Char, c.toNat = n :=
  ⟨Char.ofNatAux n h, rfl⟩

variable {b b₁ b₂ b₃ : UInt8}

theorem exists_two_bytes (hb : 0xC2 ≤ b.toNat ∧ b.toNat < 0xE0) (h₁ : IsTail b₁) :
    ∃ c, encodeChar c = [b, b₁] := by
  obtain ⟨hlow, hhigh⟩ := h₁
  obtain ⟨c, hc⟩ := exists_toNat_eq (n := 64 * (b.toNat - 0xC0) + (b₁.toNat - 0x80)) (by omega)
  have hfirst : 0xC0 + c.toNat / 64 = b.toNat := by omega
  have hsecond : 0x80 + c.toNat % 64 = b₁.toNat := by omega
  refine ⟨c, ?_⟩
  unfold encodeChar
  dsimp only
  rw [if_neg (by omega), if_pos (by omega), hfirst, hsecond, UInt8.ofNat_toNat, UInt8.ofNat_toNat]

theorem exists_three_bytes (hb : 0xE0 ≤ b.toNat ∧ b.toNat < 0xF0) (h₁ : IsTail b₁) (h₂ : IsTail b₂)
    (hlong : b.toNat = 0xE0 → 0xA0 ≤ b₁.toNat) (hpair : b.toNat = 0xED → b₁.toNat ≤ 0x9F) :
    ∃ c, encodeChar c = [b, b₁, b₂] := by
  obtain ⟨hlow₁, hhigh₁⟩ := h₁
  obtain ⟨hlow₂, hhigh₂⟩ := h₂
  obtain ⟨c, hc⟩ := exists_toNat_eq
    (n := 4096 * (b.toNat - 0xE0) + 64 * (b₁.toNat - 0x80) + (b₂.toNat - 0x80)) (by omega)
  have hfirst : 0xE0 + c.toNat / 4096 = b.toNat := by omega
  have hsecond : 0x80 + c.toNat / 64 % 64 = b₁.toNat := by omega
  have hthird : 0x80 + c.toNat % 64 = b₂.toNat := by omega
  refine ⟨c, ?_⟩
  unfold encodeChar
  dsimp only
  rw [if_neg (by omega), if_neg (by omega), if_pos (by omega), hfirst, hsecond, hthird,
    UInt8.ofNat_toNat, UInt8.ofNat_toNat, UInt8.ofNat_toNat]

theorem exists_four_bytes (hb : 0xF0 ≤ b.toNat ∧ b.toNat < 0xF5) (h₁ : IsTail b₁) (h₂ : IsTail b₂)
    (h₃ : IsTail b₃) (hlong : b.toNat = 0xF0 → 0x90 ≤ b₁.toNat)
    (hlarge : b.toNat = 0xF4 → b₁.toNat ≤ 0x8F) : ∃ c, encodeChar c = [b, b₁, b₂, b₃] := by
  obtain ⟨hlow₁, hhigh₁⟩ := h₁
  obtain ⟨hlow₂, hhigh₂⟩ := h₂
  obtain ⟨hlow₃, hhigh₃⟩ := h₃
  obtain ⟨c, hc⟩ := exists_toNat_eq (n := 262144 * (b.toNat - 0xF0) + 4096 * (b₁.toNat - 0x80) +
    64 * (b₂.toNat - 0x80) + (b₃.toNat - 0x80)) (by omega)
  have hfirst : 0xF0 + c.toNat / 262144 = b.toNat := by omega
  have hsecond : 0x80 + c.toNat / 4096 % 64 = b₁.toNat := by omega
  have hthird : 0x80 + c.toNat / 64 % 64 = b₂.toNat := by omega
  have hfourth : 0x80 + c.toNat % 64 = b₃.toNat := by omega
  refine ⟨c, ?_⟩
  unfold encodeChar
  dsimp only
  rw [if_neg (by omega), if_neg (by omega), if_neg (by omega), hfirst, hsecond, hthird, hfourth,
    UInt8.ofNat_toNat, UInt8.ofNat_toNat, UInt8.ofNat_toNat, UInt8.ofNat_toNat]

/-- The bounds behind a first byte let through what makes a character and nothing else. -/
theorem completes_lead {g : Begun} (h : (lead b.toNat).2 = some g) : Completes [b] g := by
  intro b₁ more hlow hhigh howed htails
  unfold lead at h
  split at h
  · cases h
  split at h
  · cases h
  split at h
  · cases h
    obtain rfl := List.length_eq_zero_iff.mp (Nat.succ.inj howed)
    exact exists_two_bytes (by omega) ⟨hlow, hhigh⟩
  split at h
  · cases h
    obtain ⟨b₂, rfl⟩ := List.length_eq_one_iff.mp (Nat.succ.inj howed)
    dsimp only at hlow hhigh
    refine exists_three_bytes (by omega) ⟨by split at hlow <;> omega, by split at hhigh <;> omega⟩
      (htails b₂ List.mem_cons_self) (fun he => ?_) fun he => ?_
    · rwa [if_pos he] at hlow
    · rwa [if_pos he] at hhigh
  split at h
  · cases h
    obtain ⟨b₂, b₃, rfl⟩ := List.length_eq_two.mp (Nat.succ.inj howed)
    dsimp only at hlow hhigh
    refine exists_four_bytes (by omega) ⟨by split at hlow <;> omega, by split at hhigh <;> omega⟩
      (htails b₂ List.mem_cons_self) (htails b₃ (by simp)) (fun he => ?_) fun he => ?_
    · rwa [if_pos he] at hlow
    · rwa [if_pos he] at hhigh
  · cases h

theorem owes_lead {n : Nat} {g : Begun} (h : (lead n).2 = some g) : 0 < g.owed ∧ g.low ≤ g.high := by
  unfold lead at h
  repeat' split at h
  all_goals
    cases h
    try constructor <;> dsimp only <;> omega

theorem exists_encodeChar_of_lead {c : Char} (h : (lead b.toNat).1 = some c) :
    ∃ d, encodeChar d = [b] := by
  unfold lead at h
  split at h
  · rename_i hb
    obtain ⟨d, hd⟩ := exists_toNat_eq (n := b.toNat) (Or.inl (Nat.lt_trans hb (by decide)))
    refine ⟨d, ?_⟩
    unfold encodeChar
    dsimp only
    rw [if_pos (by omega), hd, UInt8.ofNat_toNat]
  · repeat' split at h
    all_goals cases h

/-! ## A character that has begun -/

/-- The bytes `x` have begun a character and are no whole one. -/
structure HasBegun (x : List UInt8) (g : Begun) : Prop where
  state : x.foldl Decoder.feed {} = ⟨some g, []⟩
  owes : 0 < g.owed
  low_le : g.low ≤ g.high
  completes : Completes x g

theorem hasBegun_lead {g : Begun} (h : lead b.toNat = (none, some g)) : HasBegun [b] g := by
  have hsnd : (lead b.toNat).2 = some g := by rw [h]
  obtain ⟨howes, hlow⟩ := owes_lead hsnd
  refine ⟨?_, howes, hlow, completes_lead hsnd⟩
  rw [List.foldl_cons, List.foldl_nil, Decoder.feed_eq]
  simp only [step, h]
  rfl

namespace HasBegun

variable {x : List UInt8} {g : Begun}

theorem ne_nil (h : HasBegun x g) : x ≠ [] := by
  rintro rfl
  cases congrArg Decoder.begun h.state

theorem sound (h : HasBegun x g) : g.Sound := by
  have hsound := (Decoder.sound_none []).foldl x
  rw [h.state] at hsound
  exact hsound g rfl

theorem begins (h : HasBegun x g) : Begins x := by
  have hhigh := h.sound.high
  have hlow := h.low_le
  have howes := h.owes
  have hbyte : (UInt8.ofNat g.low).toNat = g.low := toNat_byte (by omega)
  have htails : ∀ b ∈ List.replicate (g.owed - 1) (0x80 : UInt8), IsTail b := by
    intro b hb
    rw [List.eq_of_mem_replicate hb]
    exact ⟨by decide, by decide⟩
  obtain ⟨c, hc⟩ := h.completes (UInt8.ofNat g.low) (List.replicate (g.owed - 1) 0x80)
    (by omega) (by omega) (by rw [List.length_replicate]; omega) htails
  exact ⟨c, hc ▸ List.prefix_append x _⟩

theorem state_concat (h : HasBegun x g) (b : UInt8) :
    (x ++ [b]).foldl Decoder.feed {} = Decoder.feed ⟨some g, []⟩ b := by
  rw [List.foldl_append, h.state]
  rfl

/-- A byte within the bounds goes on with the character. -/
theorem next (h : HasBegun x g) (howed : 1 < g.owed) (hb : g.low ≤ b.toNat ∧ b.toNat ≤ g.high) :
    HasBegun (x ++ [b]) ⟨g.owed - 1, 0x80, 0xBF, 64 * g.bits + (b.toNat - 0x80)⟩ := by
  have hfeed := feed_next [] howed hb b.toNat_lt
  rw [UInt8.ofNat_toNat] at hfeed
  refine ⟨by rw [h.state_concat, hfeed], Nat.sub_pos_of_lt howed, Nat.le_of_ble_eq_true rfl, ?_⟩
  intro c more hlow hhigh hmore htails
  have hall : ∀ d ∈ c :: more, IsTail d := by
    intro d hd
    rcases List.mem_cons.mp hd with rfl | hd
    · exact ⟨hlow, hhigh⟩
    · exact htails d hd
  have hlength : (c :: more).length + 1 = g.owed := by
    rw [List.length_cons, hmore]
    exact Nat.sub_add_cancel (Nat.le_of_lt howed)
  obtain ⟨e, he⟩ := h.completes b (c :: more) hb.1 hb.2 hlength hall
  exact ⟨e, by rw [he, List.append_assoc, List.singleton_append]⟩

/-- The last byte within the bounds completes it. -/
theorem last (h : HasBegun x g) (howed : g.owed ≤ 1) (hb : g.low ≤ b.toNat ∧ b.toNat ≤ g.high) :
    ∃ c, encodeChar c = x ++ [b] :=
  h.completes b [] hb.1 hb.2 (Nat.le_antisymm h.owes howed) (by simp)

theorem feed_outside (hb : ¬ (g.low ≤ b.toNat ∧ b.toNat ≤ g.high)) (text : List Char) :
    Decoder.feed ⟨some g, text⟩ b = Decoder.feed ⟨none, text⟩ b := by
  rw [Decoder.feed_eq, Decoder.feed_eq]
  simp only [step, if_neg hb]

/-- With a byte outside the bounds the bytes are the beginning of no character. -/
theorem not_begins (h : HasBegun x g) (hb : ¬ (g.low ≤ b.toNat ∧ b.toNat ≤ g.high)) :
    ¬ Begins (x ++ [b]) := by
  intro hbegins
  obtain ⟨c, more, hc⟩ := hbegins
  have htail : IsTail b := by
    refine isTail_of_mem_tail (c := c) ?_
    rw [← hc, List.append_assoc, List.tail_append_of_ne_nil h.ne_nil]
    exact List.mem_append_right _ List.mem_cons_self
  refine not_begins_of_state (by simp) ?_ ⟨c, more, hc⟩
  rw [h.state_concat, feed_outside hb, Decoder.feed_eq]
  simp only [step, htail.lead_eq]
  rfl

end HasBegun

/-! ## What is passed over -/

/-- In front of `rest` the bytes `x` are passed over: no character stands there, and they are the longest
beginning of one, or a single byte where not even that begins one. -/
structure PassedOver (x rest : List UInt8) : Prop where
  some_byte : x ≠ []
  no_character : ∀ c, ¬ encodeChar c <+: x ++ rest
  begins_or_single : Begins x ∨ x.length = 1
  longest : ∀ y, y <+: x ++ rest → Begins y → y.length ≤ x.length

theorem PassedOver.unique {x y u v : List UInt8} (hx : PassedOver x u) (hy : PassedOver y v)
    (h : x ++ u = y ++ v) : x = y ∧ u = v := by
  have hle : ∀ {x y u v : List UInt8}, PassedOver x u → PassedOver y v → x ++ u = y ++ v →
      x.length ≤ y.length := by
    intro x y u v hx hy h
    rcases hx.begins_or_single with hbegins | hsingle
    · exact hy.longest x (h ▸ List.prefix_append x u) hbegins
    · rw [hsingle]
      exact List.length_pos_of_ne_nil hy.some_byte
  exact List.append_inj h (Nat.le_antisymm (hle hx hy h) (hle hy hx h.symm))

theorem passedOver_of_single {rest : List UInt8} (h : ¬ Begins [b]) : PassedOver [b] rest := by
  have hlongest : ∀ y, y <+: [b] ++ rest → Begins y → y = [] := by
    intro y hy hbegins
    cases y with
    | nil => rfl
    | cons c y =>
      obtain ⟨rfl, -⟩ := List.cons_prefix_cons.mp hy
      exact absurd (hbegins.of_prefix (List.prefix_append [c] y)) h
  refine ⟨by simp, fun c hc => ?_, Or.inr rfl, fun y hy hbegins => ?_⟩
  · exact encodeChar_ne_nil c (hlongest _ hc ⟨c, List.prefix_rfl⟩)
  · rw [hlongest y hy hbegins]
    exact Nat.zero_le _

/-- A character that has begun is passed over where it does not go on. -/
theorem HasBegun.passedOver {x rest : List UInt8} {g : Begun} (h : HasBegun x g)
    (hstop : ∀ b ∈ rest.head?, ¬ Begins (x ++ [b])) : PassedOver x rest := by
  have hlongest : ∀ y, y <+: x ++ rest → Begins y → y <+: x := by
    intro y hy hbegins
    rcases List.prefix_or_prefix_of_prefix hy (List.prefix_append x rest) with hin | ⟨z, rfl⟩
    · exact hin
    · cases z with
      | nil => simp
      | cons b z =>
        obtain ⟨more, rfl⟩ := (List.prefix_append_right_inj x).mp hy
        have hbeginning : x ++ [b] <+: x ++ b :: z := ⟨z, by simp⟩
        exact absurd (hbegins.of_prefix hbeginning) (hstop b rfl)
  refine ⟨h.ne_nil, fun c hc => ?_, Or.inl h.begins, fun y hy hbegins => (hlongest y hy hbegins).length_le⟩
  have htext := text_ne_nil_of_prefix (hlongest _ hc ⟨c, List.prefix_rfl⟩)
  rw [h.state] at htext
  exact htext rfl

/-- Behind bytes that have begun a character there stands the rest of it, or they are passed over with the
bytes that still go on with it. -/
theorem HasBegun.split {x : List UInt8} {g : Begun} (h : HasBegun x g) (rest : List UInt8) :
    (∃ c more, x ++ rest = encodeChar c ++ more) ∨
      ∃ y more, x ++ rest = y ++ more ∧ PassedOver y more ∧ decode (x ++ rest) = decode more := by
  induction rest generalizing x g with
  | nil =>
    refine Or.inr ⟨x, [], rfl, h.passedOver (by simp), ?_⟩
    unfold decode
    rw [List.append_nil, h.state]
    rfl
  | cons b rest ih =>
    by_cases hb : g.low ≤ b.toNat ∧ b.toNat ≤ g.high
    · have hassoc : x ++ b :: rest = (x ++ [b]) ++ rest := by simp
      rw [hassoc]
      by_cases howed : g.owed ≤ 1
      · obtain ⟨c, hc⟩ := h.last howed hb
        exact Or.inl ⟨c, rest, by rw [hc]⟩
      · exact ih (h.next (Nat.lt_of_not_le howed) hb)
    · refine Or.inr ⟨x, b :: rest, rfl, h.passedOver ?_, ?_⟩
      · rintro c ⟨⟩
        exact h.not_begins hb
      · unfold decode
        rw [List.foldl_append, h.state, List.foldl_cons, feed_outside hb]
        rfl

/-- At each place there is a character or something that is passed over. -/
theorem exists_split {bytes : List UInt8} (h : bytes ≠ []) :
    (∃ c more, bytes = encodeChar c ++ more) ∨
      ∃ y more, bytes = y ++ more ∧ PassedOver y more ∧ decode bytes = decode more := by
  obtain ⟨b, rest, rfl⟩ := List.exists_cons_of_ne_nil h
  rcases hlead : lead b.toNat with ⟨_ | c, _ | g⟩
  · have hfeed : Decoder.feed {} b = {} := by
      rw [Decoder.feed_eq]
      simp only [step, hlead]
      rfl
    refine Or.inr ⟨[b], rest, rfl, passedOver_of_single (not_begins_of_state (by simp) hfeed), ?_⟩
    unfold decode
    rw [List.foldl_cons, hfeed]
  · exact (hasBegun_lead hlead).split rest
  all_goals
    obtain ⟨d, hd⟩ := exists_encodeChar_of_lead (congrArg Prod.fst hlead)
    exact Or.inl ⟨d, rest, by rw [hd]; rfl⟩

theorem decode_of_passedOver {x rest : List UInt8} (h : PassedOver x rest) :
    decode (x ++ rest) = decode rest := by
  have hne : x ++ rest ≠ [] := by simp [h.some_byte]
  rcases exists_split hne with ⟨c, more, hc⟩ | ⟨y, more, hy, hover, hdecode⟩
  · exact absurd (hc ▸ List.prefix_append _ more) (h.no_character c)
  · obtain ⟨rfl, rfl⟩ := h.unique hover hy
    exact hdecode

/-! ## Reading from left to right -/

/-- How bytes are read from left to right: a character that stands in front is taken, and else what is
passed over there leaves no trace. -/
inductive Reads : List UInt8 → List Char → Prop
  | nil : Reads [] []
  | character (c : Char) {rest : List UInt8} {text : List Char} :
      Reads rest text → Reads (encodeChar c ++ rest) (c :: text)
  | passedOver {x rest : List UInt8} {text : List Char} :
      PassedOver x rest → Reads rest text → Reads (x ++ rest) text

theorem decode_encodeChar_append (c : Char) (rest : List UInt8) :
    decode (encodeChar c ++ rest) = c :: decode rest := decode_append_encodeChar [] c rest

theorem reads_decode (bytes : List UInt8) : Reads bytes (decode bytes) := by
  induction hn : bytes.length using Nat.strongRecOn generalizing bytes with
  | _ n ih =>
    by_cases hne : bytes = []
    · subst hne
      exact .nil
    rcases exists_split hne with ⟨c, more, rfl⟩ | ⟨y, more, rfl, hover, hdecode⟩
    · have hpos := List.length_pos_of_ne_nil (encodeChar_ne_nil c)
      rw [List.length_append] at hn
      rw [decode_encodeChar_append]
      exact .character c (ih more.length (by omega) more rfl)
    · have hpos := List.length_pos_of_ne_nil hover.some_byte
      rw [List.length_append] at hn
      rw [hdecode]
      exact .passedOver hover (ih more.length (by omega) more rfl)

theorem reads_iff {bytes : List UInt8} {text : List Char} : Reads bytes text ↔ text = decode bytes := by
  constructor
  · intro h
    induction h with
    | nil => rfl
    | character c _ ih => rw [decode_encodeChar_append, ih]
    | passedOver hover _ ih => rw [decode_of_passedOver hover, ih]
  · rintro rfl
    exact reads_decode bytes

theorem decode_append_encode (a : List UInt8) {text : List Char} (h : text ≠ []) (b : List UInt8) :
    decode (a ++ (encode text ++ b)) = decode a ++ text ++ decode b := by
  induction text generalizing a with
  | nil => exact absurd rfl h
  | cons c text ih =>
    have hcons : encode (c :: text) = encodeChar c ++ encode text := rfl
    rw [hcons, List.append_assoc, decode_append_encodeChar]
    cases text with
    | nil => simp [encode]
    | cons d text =>
      have hrest := ih [] (by simp)
      rw [List.nil_append] at hrest
      rw [hrest]
      simp [decode]

/-! ## The law -/

/-- A text is read as it was written, whatever bytes stand before it and behind it, and these are read as if
they stood alone. So what was written is read back, and writing what was read and reading it again changes
nothing. Whatever the bytes are, they are read character by character, where none stands the longest
beginning of one is passed over, and nothing else is. -/
theorem a_text_is_read_between_any_bytes :
    (∀ (a b : List UInt8) (text : List Char), text ≠ [] →
      decode (a ++ encode text ++ b) = decode a ++ text ++ decode b) ∧
    (∀ text, decode (encode text) = text) ∧
    (∀ bytes, decode (encode (decode bytes)) = decode bytes) ∧
    ∀ bytes text, Reads bytes text ↔ text = decode bytes := by
  refine ⟨fun a b text h => ?_, decode_encode, fun bytes => decode_encode _, fun bytes text => reads_iff⟩
  rw [List.append_assoc]
  exact decode_append_encode a h b

/-- Three bytes of a character of four before the text, and a surrogate behind it. -/
theorem a_text_between_a_cut_and_a_surrogate :
    let cut : List UInt8 := [0x61, 0xF0, 0x9F, 0x98]
    let surrogate : List UInt8 := [0xED, 0xA0, 0x80, 0x62]
    "é€".toList ≠ [] ∧
      decode (cut ++ encode "é€".toList ++ surrogate) = "aé€b".toList := by
  intro cut surrogate
  have hne : "é€".toList ≠ [] := by decide
  refine ⟨hne, ?_⟩
  rw [a_text_is_read_between_any_bytes.1 cut surrogate "é€".toList hne]
  decide

end SqlDump.Utf8
