/-
  UTF-8 and percent coding are undone. The bytes of a character are read as that character
  (`decodeStep_encodeChar`), so a text is read from its bytes (`decodeLossy_encode`), and from its
  percent codes, as long as no percent sign stands for itself (`percentDecode_append`).
-/
import Mathlib.Data.List.Basic
import Taskbook.Text.Percent

namespace Taskbook.Text

/-! ## Bytes of a character -/

theorem toNat_byte {n : Nat} (h : n < 0x100) : (UInt8.ofNat n).toNat = n := by
  rw [UInt8.toNat_ofNat']
  omega

/-- A byte that continues a character. -/
def Continues (n : Nat) : Prop := 0x80 ≤ n ∧ n ≤ 0xbf

theorem isContinuation_byte {n : Nat} (h : Continues n) :
    isContinuation (UInt8.ofNat n) = true := by
  obtain ⟨hlow, hhigh⟩ := h
  unfold isContinuation
  rw [Bool.and_eq_true, decide_eq_true_eq, decide_eq_true_eq, UInt8.le_iff_toNat_le,
    UInt8.le_iff_toNat_le, toNat_byte (by omega)]
  exact ⟨hlow, hhigh⟩

theorem isSecond_byte {a b : Nat} (ha : a < 0x100) (hb : Continues b)
    (hlong : a = 0xe0 → 0xa0 ≤ b) (hsurrogate : a = 0xed → b ≤ 0x9f)
    (hlonger : a = 0xf0 → 0x90 ≤ b) (hlast : a = 0xf4 → b ≤ 0x8f) :
    isSecond (UInt8.ofNat a) (UInt8.ofNat b) = true := by
  have hbyte : b < 0x100 := by
    have := hb.2
    omega
  unfold isSecond
  rw [isContinuation_byte hb]
  simp only [Bool.true_and, Bool.and_eq_true, Bool.or_eq_true, decide_eq_true_eq, ne_eq,
    ← UInt8.toNat_inj, UInt8.le_iff_toNat_le, toNat_byte ha, toNat_byte hbyte]
  simp only [UInt8.reduceToNat]
  omega

theorem low_byte {n : Nat} (h : Continues n) : low (UInt8.ofNat n) = n % 0x40 := by
  have hbyte : n < 0x100 := by
    have := h.2
    omega
  unfold low
  rw [toNat_byte hbyte]

theorem byte_lt_iff {a : Nat} (ha : a < 0x100) (bound : UInt8) :
    UInt8.ofNat a < bound ↔ a < bound.toNat := by
  rw [UInt8.lt_iff_toNat_lt, toNat_byte ha]

variable {a b c d : Nat}

/-- A first byte behind which others follow. -/
theorem not_single_of_first (hfirst : 0xc2 ≤ a) (hlast : a ≤ 0xf4) :
    ¬ UInt8.ofNat a < 0x80 ∧ ¬ (UInt8.ofNat a < 0xc2 || 0xf4 < UInt8.ofNat a) = true := by
  have hbyte : a < 0x100 := by omega
  rw [Bool.or_eq_true, decide_eq_true_eq, decide_eq_true_eq, byte_lt_iff hbyte, byte_lt_iff hbyte,
    UInt8.lt_iff_toNat_lt, toNat_byte hbyte]
  show ¬ a < 0x80 ∧ ¬ (a < 0xc2 ∨ 0xf4 < a)
  omega

theorem decodeStep_two (hfirst : 0xc2 ≤ a) (hlast : a < 0xe0) (hb : Continues b) (rest : Bytes) :
    decodeStep (UInt8.ofNat a) (UInt8.ofNat b :: rest) =
      .char (Char.ofNat (a % 0x20 * 0x40 + b % 0x40)) rest := by
  have hbyte : a < 0x100 := by omega
  obtain ⟨hmany, hstart⟩ := not_single_of_first hfirst (by omega)
  have hsecond : isSecond (UInt8.ofNat a) (UInt8.ofNat b) = true :=
    isSecond_byte hbyte hb (by omega) (by omega) (by omega) (by omega)
  have htwo : UInt8.ofNat a < 0xe0 := (byte_lt_iff hbyte 0xe0).mpr hlast
  unfold decodeStep
  rw [if_neg hmany, if_neg hstart]
  dsimp only
  rw [hsecond, Bool.not_true, if_neg Bool.false_ne_true, if_pos htwo, toNat_byte hbyte, low_byte hb]

theorem decodeStep_three (hfirst : 0xe0 ≤ a) (hlast : a < 0xf0) (hb : Continues b)
    (hc : Continues c) (hlong : a = 0xe0 → 0xa0 ≤ b) (hsurrogate : a = 0xed → b ≤ 0x9f)
    (rest : Bytes) :
    decodeStep (UInt8.ofNat a) (UInt8.ofNat b :: UInt8.ofNat c :: rest) =
      .char (Char.ofNat (a % 0x10 * 0x1000 + b % 0x40 * 0x40 + c % 0x40)) rest := by
  have hbyte : a < 0x100 := by omega
  obtain ⟨hmany, hstart⟩ := not_single_of_first (by omega : 0xc2 ≤ a) (by omega)
  have hsecond : isSecond (UInt8.ofNat a) (UInt8.ofNat b) = true :=
    isSecond_byte hbyte hb hlong hsurrogate (by omega) (by omega)
  have htwo : ¬ UInt8.ofNat a < 0xe0 := fun h => by
    have hlt : a < 0xe0 := (byte_lt_iff hbyte 0xe0).mp h
    omega
  have hthree : UInt8.ofNat a < 0xf0 := (byte_lt_iff hbyte 0xf0).mpr hlast
  unfold decodeStep
  rw [if_neg hmany, if_neg hstart]
  dsimp only
  rw [hsecond, Bool.not_true, if_neg Bool.false_ne_true, if_neg htwo, isContinuation_byte hc,
    Bool.not_true, if_neg Bool.false_ne_true, if_pos hthree, toNat_byte hbyte, low_byte hb,
    low_byte hc]

theorem decodeStep_four (hfirst : 0xf0 ≤ a) (hlast : a ≤ 0xf4) (hb : Continues b)
    (hc : Continues c) (hd : Continues d) (hlong : a = 0xf0 → 0x90 ≤ b)
    (hend : a = 0xf4 → b ≤ 0x8f) (rest : Bytes) :
    decodeStep (UInt8.ofNat a) (UInt8.ofNat b :: UInt8.ofNat c :: UInt8.ofNat d :: rest) =
      .char (Char.ofNat (a % 0x08 * 0x40000 + b % 0x40 * 0x1000 + c % 0x40 * 0x40 + d % 0x40))
        rest := by
  have hbyte : a < 0x100 := by omega
  obtain ⟨hmany, hstart⟩ := not_single_of_first (by omega : 0xc2 ≤ a) hlast
  have hsecond : isSecond (UInt8.ofNat a) (UInt8.ofNat b) = true :=
    isSecond_byte hbyte hb (by omega) (by omega) hlong hend
  have htwo : ¬ UInt8.ofNat a < 0xe0 := fun h => by
    have hlt : a < 0xe0 := (byte_lt_iff hbyte 0xe0).mp h
    omega
  have hthree : ¬ UInt8.ofNat a < 0xf0 := fun h => by
    have hlt : a < 0xf0 := (byte_lt_iff hbyte 0xf0).mp h
    omega
  unfold decodeStep
  rw [if_neg hmany, if_neg hstart]
  dsimp only
  rw [hsecond, Bool.not_true, if_neg Bool.false_ne_true, if_neg htwo, isContinuation_byte hc,
    Bool.not_true, if_neg Bool.false_ne_true, if_neg hthree, isContinuation_byte hd,
    Bool.not_true, if_neg Bool.false_ne_true, toNat_byte hbyte, low_byte hb, low_byte hc,
    low_byte hd]

/-! ## Texts -/

/-- Six bits of a number as a byte that continues a character. -/
theorem continues_tail (n : Nat) : Continues (n % 0x40 + 0x80) := by
  unfold Continues
  omega

/-- A character is what is read at the head of its bytes. -/
theorem decodeStep_encodeChar (c : Char) : ∃ first more, String.utf8EncodeChar c = first :: more ∧
    ∀ rest, decodeStep first (more ++ rest) = .char c rest := by
  have hchar : Char.ofNat c.val.toNat = c := Char.ofNat_toNat c
  have hvalid : c.val.toNat < 0xd800 ∨ 0xdfff < c.val.toNat ∧ c.val.toNat < 0x110000 := c.valid
  unfold String.utf8EncodeChar
  dsimp only
  generalize c.val.toNat = n at hchar hvalid
  split
  · next hone =>
    refine ⟨_, _, rfl, fun rest => ?_⟩
    unfold decodeStep
    rw [if_pos ((byte_lt_iff (by omega) 0x80).mpr (Nat.lt_succ_of_le hone)), toNat_byte (by omega),
      hchar]
    rfl
  split
  · next hone htwo =>
    refine ⟨_, _, rfl, fun rest => ?_⟩
    have hvalue : (n / 0x40 % 0x20 + 0xc0) % 0x20 * 0x40 + (n % 0x40 + 0x80) % 0x40 = n := by omega
    rw [List.cons_append, decodeStep_two (by omega) (by omega) (continues_tail _), hvalue, hchar]
    rfl
  split
  · next hone htwo hthree =>
    refine ⟨_, _, rfl, fun rest => ?_⟩
    have hvalue : (n / 0x1000 % 0x10 + 0xe0) % 0x10 * 0x1000 +
        (n / 0x40 % 0x40 + 0x80) % 0x40 * 0x40 + (n % 0x40 + 0x80) % 0x40 = n := by omega
    rw [List.cons_append, List.cons_append, decodeStep_three (by omega) (by omega)
      (continues_tail _) (continues_tail _) (by omega) (by omega), hvalue, hchar]
    rfl
  · next hone htwo hthree =>
    refine ⟨_, _, rfl, fun rest => ?_⟩
    have hvalue : (n / 0x40000 % 0x08 + 0xf0) % 0x08 * 0x40000 +
        (n / 0x1000 % 0x40 + 0x80) % 0x40 * 0x1000 + (n / 0x40 % 0x40 + 0x80) % 0x40 * 0x40 +
        (n % 0x40 + 0x80) % 0x40 = n := by omega
    rw [List.cons_append, List.cons_append, List.cons_append, decodeStep_four (by omega) (by omega)
      (continues_tail _) (continues_tail _) (continues_tail _) (by omega) (by omega), hvalue, hchar]
    rfl

theorem decodeLossy_encodeChar (c : Char) (rest : Bytes) :
    decodeLossy (String.utf8EncodeChar c ++ rest) = c :: decodeLossy rest := by
  obtain ⟨first, more, hbytes, hread⟩ := decodeStep_encodeChar c
  rw [hbytes, List.cons_append, decodeLossy]
  split
  · next c' after heq =>
    rw [hread] at heq
    obtain ⟨rfl, rfl⟩ := Utf8Step.char.inj heq
    rfl
  · next heq =>
    rw [hread] at heq
    cases heq

theorem decodeLossy_encode_append (s : Text) (rest : Bytes) :
    decodeLossy (encode s ++ rest) = s ++ decodeLossy rest := by
  induction s with
  | nil => rfl
  | cons c s ih =>
    show decodeLossy (String.utf8EncodeChar c ++ encode s ++ rest) = c :: (s ++ decodeLossy rest)
    rw [List.append_assoc, decodeLossy_encodeChar, ih]

/-- A text is read from its bytes. -/
theorem decodeLossy_encode (s : Text) : decodeLossy (encode s) = s := by
  have hread := decodeLossy_encode_append s []
  rwa [List.append_nil, decodeLossy, List.append_nil] at hread

theorem decodeFrom_encode (position : Nat) (s : Text) : decodeFrom position (encode s) = .ok s := by
  induction s generalizing position with
  | nil => rw [encode, List.flatMap_nil, decodeFrom]
  | cons c s ih =>
    obtain ⟨first, more, hbytes, hread⟩ := decodeStep_encodeChar c
    have hencode : encode (c :: s) = first :: (more ++ encode s) := by
      rw [encode, List.flatMap_cons, hbytes]
      rfl
    rw [hencode, decodeFrom]
    split
    · next c' after heq =>
      rw [hread] at heq
      obtain ⟨rfl, rfl⟩ := Utf8Step.char.inj heq
      rw [ih]
      rfl
    · next heq =>
      rw [hread] at heq
      cases heq

/-- There is no fault in the bytes of a text. -/
theorem decode_encode (s : Text) : decode (encode s) = .ok s := decodeFrom_encode 0 s

/-! ## Percent codes -/

/-- The two digits of a byte give its value. -/
theorem percentBytes_percentByte (b : UInt8) (rest : Text) :
    percentBytes (percentByte b ++ rest) = b :: percentBytes rest := by
  have hdigit : ∀ n < 16,
      hexValue? (Char.ofNat (if n < 10 then 0x30 + n else 0x37 + n)) = some n := by decide
  have hbyte : b.toNat < 256 := b.toNat_lt
  have hhigh := hdigit (b.toNat / 16) (by omega)
  have hlow := hdigit (b.toNat % 16) (by omega)
  have hvalue : 16 * (b.toNat / 16) + b.toNat % 16 = b.toNat := by omega
  unfold percentByte
  dsimp only
  rw [List.cons_append, List.cons_append, List.cons_append, List.nil_append, percentBytes, hhigh,
    hlow]
  dsimp only
  rw [hvalue, UInt8.ofNat_toNat]

theorem percentBytes_flatMap (bytes : Bytes) (rest : Text) :
    percentBytes (bytes.flatMap percentByte ++ rest) = bytes ++ percentBytes rest := by
  induction bytes with
  | nil => rfl
  | cons b bytes ih =>
    rw [List.flatMap_cons, List.append_assoc, percentBytes_percentByte, ih, List.cons_append]

theorem percentBytes_cons {c : Char} (hc : c ≠ '%') (rest : Text) :
    percentBytes (c :: rest) = String.utf8EncodeChar c ++ percentBytes rest := by
  rw [percentBytes]
  rintro a b more rfl
  exact absurd rfl hc

/-- What is written for a character stands for its bytes, unless it is a percent sign that stands
    for itself. -/
theorem percentBytes_percentChar {keep : Char → Bool} {c : Char}
    (h : keep '%' = true → c ≠ '%') (rest : Text) :
    percentBytes (percentChar keep c ++ rest) = String.utf8EncodeChar c ++ percentBytes rest := by
  unfold percentChar
  split
  · next hkept =>
    have hc : c ≠ '%' := by
      rintro rfl
      have hreserved : isUnreserved '%' = false := by decide
      rw [hreserved, Bool.false_or] at hkept
      exact h hkept rfl
    exact percentBytes_cons hc rest
  · exact percentBytes_flatMap (String.utf8EncodeChar c) rest

theorem percentBytes_percentEncode {keep : Char → Bool} {s : Text}
    (h : keep '%' = true → '%' ∉ s) : percentBytes (percentEncode keep s) = encode s := by
  induction s with
  | nil => rfl
  | cons c s ih =>
    have hc : keep '%' = true → c ≠ '%' := fun hkeep heq => h hkeep (heq ▸ List.mem_cons_self)
    have hs : keep '%' = true → '%' ∉ s := fun hkeep hmem => h hkeep (List.mem_cons_of_mem _ hmem)
    show percentBytes (percentChar keep c ++ percentEncode keep s) =
      String.utf8EncodeChar c ++ encode s
    rw [percentBytes_percentChar hc, ih hs]

theorem percentBytes_append {head : Text} (hhead : '%' ∉ head) (rest : Text) :
    percentBytes (head ++ rest) = encode head ++ percentBytes rest := by
  induction head with
  | nil => rfl
  | cons c head ih =>
    simp only [List.mem_cons, not_or] at hhead
    show percentBytes (c :: (head ++ rest)) =
      String.utf8EncodeChar c ++ encode head ++ percentBytes rest
    rw [percentBytes_cons (Ne.symm hhead.1), ih hhead.2, List.append_assoc]

/-- A text without percent signs in front is read as it is written. -/
theorem percentDecode_head {head : Text} (hhead : '%' ∉ head) (s : Text) :
    percentDecode (head ++ s) = head ++ percentDecode s := by
  unfold percentDecode
  rw [percentBytes_append hhead, decodeLossy_encode_append]

/-- Percent coding is undone behind a text without percent signs, unless a percent sign stands for
    itself. -/
theorem percentDecode_append {head s : Text} {keep : Char → Bool} (hhead : '%' ∉ head)
    (h : keep '%' = true → '%' ∉ s) : percentDecode (head ++ percentEncode keep s) = head ++ s := by
  rw [percentDecode_head hhead]
  unfold percentDecode
  rw [percentBytes_percentEncode h, decodeLossy_encode]

/-- In a coded text stand the characters of the text that are kept, and percent signs, letters and
    digits of ASCII. -/
theorem of_mem_percentEncode {keep : Char → Bool} {s : Text} {c : Char}
    (h : c ∈ percentEncode keep s) :
    c ∈ s ∧ (isUnreserved c || keep c) = true ∨ c = '%' ∨ isAsciiAlnum c = true := by
  have hdigit : ∀ n < 16,
      isAsciiAlnum (Char.ofNat (if n < 10 then 0x30 + n else 0x37 + n)) = true := by decide
  obtain ⟨d, hd, hc⟩ := List.mem_flatMap.mp h
  unfold percentChar at hc
  split at hc
  · next hkept =>
    rw [List.mem_singleton.mp hc]
    exact Or.inl ⟨hd, hkept⟩
  · obtain ⟨b, -, hb⟩ := List.mem_flatMap.mp hc
    have hbyte : b.toNat < 256 := b.toNat_lt
    unfold percentByte at hb
    simp only [List.mem_cons, List.not_mem_nil, or_false] at hb
    rcases hb with rfl | rfl | rfl
    · exact Or.inr (Or.inl rfl)
    · exact Or.inr (Or.inr (hdigit _ (by omega)))
    · exact Or.inr (Or.inr (hdigit _ (by omega)))

end Taskbook.Text
