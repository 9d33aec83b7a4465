/-
  Texts that are percent decoded although their percent signs may stand for themselves.

  A text is read code by code and character by character (`code_induction`). Coding that leaves
  percent signs alone makes no codes and breaks none, so a text coded in this way is read as the
  text itself would be (`percentBytes_percentEncode_of_keep`), not as it is written.

  What is read is no longer than the text. Each code and each other character gives bytes
  (`Pieced`), the bytes of a character begin with one that continues nothing, and the decoder skips
  only bytes that do: so no character is made of bytes of two others
  (`Pieced.length_decodeLossy_le`). A code has three characters, and a text is read as it is written
  exactly if there is none in it (`percentDecode_eq_self_iff`).
-/
import Mathlib.Data.List.Infix
import Taskbook.Proofs.Text.Percent

namespace Taskbook.Text

variable {s rest : Text} {keep : Char → Bool} {c : Char}

/-! ## Codes -/

/-- A hexadecimal digit. -/
def IsHex (c : Char) : Prop := ∃ n, hexValue? c = some n

/-- Two digits stand at the head of a text. -/
def StartsDigits (s : Text) : Prop := ∃ a b rest, s = a :: b :: rest ∧ IsHex a ∧ IsHex b

/-- A percent sign with two digits behind it stands in a text. -/
def HoldsCode (s : Text) : Prop := ∃ rest, '%' :: rest <:+ s ∧ StartsDigits rest

theorem holdsCode_cons :
    HoldsCode (c :: rest) ↔ (c = '%' ∧ StartsDigits rest) ∨ HoldsCode rest := by
  unfold HoldsCode
  constructor
  · rintro ⟨more, hsuffix, hdigits⟩
    rcases List.suffix_cons_iff.mp hsuffix with heq | hsuffix
    · obtain ⟨rfl, rfl⟩ := List.cons.inj heq
      exact Or.inl ⟨rfl, hdigits⟩
    · exact Or.inr ⟨more, hsuffix, hdigits⟩
  · rintro (⟨rfl, hdigits⟩ | ⟨more, hsuffix, hdigits⟩)
    · exact ⟨rest, List.suffix_rfl, hdigits⟩
    · exact ⟨more, hsuffix.trans (List.suffix_cons c rest), hdigits⟩

theorem not_holdsCode_nil : ¬ HoldsCode [] := by
  rintro ⟨rest, hsuffix, -⟩
  exact absurd (List.suffix_nil.mp hsuffix) (List.cons_ne_nil _ _)

theorem startsDigits_cons_cons {a b : Char} :
    StartsDigits (a :: b :: rest) ↔ IsHex a ∧ IsHex b := by
  constructor
  · rintro ⟨a, b, more, heq, ha, hb⟩
    cases heq
    exact ⟨ha, hb⟩
  · rintro ⟨ha, hb⟩
    exact ⟨a, b, rest, rfl, ha, hb⟩

instance : DecidablePred IsHex := fun c =>
  decidable_of_iff ((hexValue? c).isSome = true) Option.isSome_iff_exists

instance : DecidablePred StartsDigits
  | [] => isFalse nofun
  | [_] => isFalse nofun
  | _ :: _ :: _ => decidable_of_iff _ startsDigits_cons_cons.symm

instance decidableHoldsCode : DecidablePred HoldsCode
  | [] => isFalse not_holdsCode_nil
  | _ :: rest =>
    have := decidableHoldsCode rest
    decidable_of_iff _ holdsCode_cons.symm

/-- Texts are read from the left, a code or a character at a time. -/
@[elab_as_elim]
theorem code_induction {motive : Text → Prop} (nil : motive [])
    (code : ∀ a b rest, IsHex a → IsHex b → motive rest → motive ('%' :: a :: b :: rest))
    (char : ∀ c rest, (c = '%' → ¬ StartsDigits rest) → motive rest → motive (c :: rest))
    (s : Text) : motive s := by
  induction hlength : s.length using Nat.strong_induction_on generalizing s with
  | _ n ih =>
    subst hlength
    cases s with
    | nil => exact nil
    | cons c rest =>
      by_cases hcode : c = '%' ∧ StartsDigits rest
      · obtain ⟨rfl, a, b, more, rfl, ha, hb⟩ := hcode
        refine code a b more ha hb (ih more.length ?_ more rfl)
        simp only [List.length_cons]
        omega
      · exact char c rest (fun hc hdigits => hcode ⟨hc, hdigits⟩)
          (ih rest.length (Nat.lt_succ_self _) rest rfl)

theorem percentBytes_code {a b : Char} (ha : IsHex a) (hb : IsHex b) :
    ∃ byte, ∀ rest, percentBytes ('%' :: a :: b :: rest) = byte :: percentBytes rest := by
  obtain ⟨x, hx⟩ := ha
  obtain ⟨y, hy⟩ := hb
  refine ⟨UInt8.ofNat (16 * x + y), fun rest => ?_⟩
  rw [percentBytes, hx, hy]

/-- A character that begins no code stands for its bytes. -/
theorem percentBytes_char (h : c = '%' → ¬ StartsDigits rest) :
    percentBytes (c :: rest) = String.utf8EncodeChar c ++ percentBytes rest := by
  by_cases hc : c = '%'
  · subst hc
    match rest, h rfl with
    | [], _ => rfl
    | [a], _ => rfl
    | a :: b :: more, hdigits =>
      rw [percentBytes]
      split
      · next x y hx hy => exact absurd ⟨a, b, more, rfl, ⟨x, hx⟩, ⟨y, hy⟩⟩ hdigits
      · rfl
  · exact percentBytes_cons hc rest

/-- A text without codes stands for its bytes. -/
theorem percentBytes_eq_encode (h : ¬ HoldsCode s) : percentBytes s = encode s := by
  induction s with
  | nil => rfl
  | cons c rest ih =>
    rw [holdsCode_cons, not_or, not_and] at h
    rw [percentBytes_char h.1, ih h.2]
    rfl

/-! ## Coding that leaves percent signs alone -/

theorem isAsciiAlnum_of_isHex (h : IsHex c) : isAsciiAlnum c = true := by
  obtain ⟨n, hn⟩ := h
  have hcases : isAsciiDigit c = true ∨ ('a' ≤ c ∧ c ≤ 'f') ∨ ('A' ≤ c ∧ c ≤ 'F') := by
    by_contra hnone
    simp only [not_or] at hnone
    obtain ⟨hdigit, hsmall, hcapital⟩ := hnone
    unfold hexValue? at hn
    rw [if_neg hdigit, if_neg (by simpa using hsmall), if_neg (by simpa using hcapital)] at hn
    cases hn
  unfold isAsciiAlnum isAsciiLetter isCapital isSmall
  simp only [Bool.or_eq_true, Bool.and_eq_true, decide_eq_true_eq]
  rcases hcases with hdigit | ⟨hlow, hhigh⟩ | ⟨hlow, hhigh⟩
  · exact Or.inr hdigit
  · exact Or.inl (Or.inr ⟨hlow, Char.le_trans hhigh (by decide)⟩)
  · exact Or.inl (Or.inl ⟨hlow, Char.le_trans hhigh (by decide)⟩)

/-- What is written for a character is the character itself or begins with a percent sign. -/
theorem percentChar_cases (keep : Char → Bool) (c : Char) :
    percentChar keep c = [c] ∨ ∃ more, percentChar keep c = '%' :: more := by
  obtain ⟨first, more, hbytes, -⟩ := decodeStep_encodeChar c
  unfold percentChar
  split
  · exact Or.inl rfl
  · rw [hbytes]
    exact Or.inr ⟨_, rfl⟩

theorem percentEncode_eq_nil_iff : percentEncode keep s = [] ↔ s = [] := by
  constructor
  · intro h
    cases s with
    | nil => rfl
    | cons c rest =>
      have hchar : percentChar keep c = [] := (List.append_eq_nil_iff.mp h).1
      rcases percentChar_cases keep c with hself | ⟨more, hcoded⟩
      · rw [hself] at hchar
        cases hchar
      · rw [hcoded] at hchar
        cases hchar
  · rintro rfl
    rfl

theorem eq_cons_of_percentEncode {a : Char} {more : Text}
    (h : percentEncode keep s = a :: more) (ha : IsHex a) :
    ∃ rest, s = a :: rest ∧ percentEncode keep rest = more := by
  cases s with
  | nil => cases h
  | cons c rest =>
    change percentChar keep c ++ percentEncode keep rest = a :: more at h
    rcases percentChar_cases keep c with hself | ⟨coded, hcoded⟩
    · rw [hself] at h
      obtain ⟨rfl, hmore⟩ := List.cons.inj h
      exact ⟨rest, rfl, hmore⟩
    · rw [hcoded] at h
      obtain ⟨rfl, -⟩ := List.cons.inj h
      obtain ⟨n, hn⟩ := ha
      cases hn

/-- Coding puts no digits at the head of a text. -/
theorem startsDigits_of_percentEncode (h : StartsDigits (percentEncode keep s)) :
    StartsDigits s := by
  obtain ⟨a, b, more, heq, ha, hb⟩ := h
  obtain ⟨rest, rfl, hrest⟩ := eq_cons_of_percentEncode heq ha
  obtain ⟨others, rfl, -⟩ := eq_cons_of_percentEncode hrest hb
  exact ⟨a, b, others, rfl, ha, hb⟩

theorem percentEncode_cons_of_kept (h : (isUnreserved c || keep c) = true) (rest : Text) :
    percentEncode keep (c :: rest) = c :: percentEncode keep rest := by
  show percentChar keep c ++ _ = _
  unfold percentChar
  rw [if_pos h]
  rfl

theorem percentEncode_cons_of_isHex (h : IsHex c) (rest : Text) :
    percentEncode keep (c :: rest) = c :: percentEncode keep rest :=
  percentEncode_cons_of_kept (by simp [isUnreserved, isAsciiAlnum_of_isHex h]) rest

/-- Where percent signs stand for themselves, a coded text is read as the text itself would be. -/
theorem percentBytes_percentEncode_of_keep (hkeep : keep '%' = true) (s : Text) :
    percentBytes (percentEncode keep s) = percentBytes s := by
  have hpercent : ∀ rest, percentEncode keep ('%' :: rest) = '%' :: percentEncode keep rest :=
    percentEncode_cons_of_kept (by rw [hkeep, Bool.or_true])
  induction s using code_induction with
  | nil => rfl
  | code a b rest ha hb ih =>
    obtain ⟨byte, hbyte⟩ := percentBytes_code ha hb
    rw [hpercent, percentEncode_cons_of_isHex ha, percentEncode_cons_of_isHex hb, hbyte, hbyte, ih]
  | char c rest hc ih =>
    rw [percentBytes_char hc]
    by_cases hsign : c = '%'
    · subst hsign
      rw [hpercent, percentBytes_char fun _ hdigits =>
        hc rfl (startsDigits_of_percentEncode hdigits), ih]
    · show percentBytes (percentChar keep c ++ percentEncode keep rest) = _
      rw [percentBytes_percentChar fun _ => hsign, ih]

/-! ## The length of what is read -/

theorem isContinuation_of_isSecond {a b : UInt8} (h : isSecond a b = true) :
    isContinuation b = true := by
  unfold isSecond at h
  simp only [Bool.and_eq_true] at h
  exact h.1.1.1.1

/-- Behind the byte that is read, the decoder skips only bytes that continue a character. -/
theorem rest_decodeStep (a : UInt8) (bytes : Bytes) :
    ∃ skipped, bytes = skipped ++ (decodeStep a bytes).rest ∧
      ∀ b ∈ skipped, isContinuation b = true := by
  unfold decodeStep
  split
  · exact ⟨[], rfl, by simp⟩
  split
  · exact ⟨[], rfl, by simp⟩
  split
  · exact ⟨[], rfl, by simp⟩
  · next b rest₁ =>
    split
    · exact ⟨[], rfl, by simp⟩
    next hsecond =>
    have hb : isContinuation b = true := isContinuation_of_isSecond (by simpa using hsecond)
    split
    · exact ⟨[b], rfl, by simpa using hb⟩
    split
    · exact ⟨[b], rfl, by simpa using hb⟩
    · next c rest₂ =>
      split
      · exact ⟨[b], rfl, by simpa using hb⟩
      next hthird =>
      have hc : isContinuation c = true := by simpa using hthird
      split
      · exact ⟨[b, c], rfl, by simp [hb, hc]⟩
      split
      · exact ⟨[b, c], rfl, by simp [hb, hc]⟩
      · next d rest₃ =>
        split
        · exact ⟨[b, c], rfl, by simp [hb, hc]⟩
        next hfourth =>
        have hd : isContinuation d = true := by simpa using hfourth
        exact ⟨[b, c, d], rfl, by simp [hb, hc, hd]⟩

/-- The bytes of a character do not begin with one that continues a character. -/
theorem not_isContinuation_of_encodeChar {first : UInt8} {more : Bytes}
    (h : String.utf8EncodeChar c = first :: more) : ¬ isContinuation first = true := by
  obtain ⟨first', more', hbytes, hread⟩ := decodeStep_encodeChar c
  obtain ⟨rfl, rfl⟩ := List.cons.inj (h.symm.trans hbytes)
  intro hcontinues
  unfold isContinuation at hcontinues
  simp only [Bool.and_eq_true, decide_eq_true_eq, UInt8.le_iff_toNat_le, UInt8.reduceToNat]
    at hcontinues
  have hstep := hread []
  unfold decodeStep at hstep
  rw [if_neg (by rw [UInt8.lt_iff_toNat_lt]; simp only [UInt8.reduceToNat]; omega),
    if_pos (by
      rw [Bool.or_eq_true, decide_eq_true_eq, UInt8.lt_iff_toNat_lt]
      simp only [UInt8.reduceToNat]
      omega)] at hstep
  cases hstep

/-- Bytes made of so many pieces, each the bytes of a character or a byte that a code stands for. -/
inductive Pieced : Nat → Bytes → Prop where
  | nil : Pieced 0 []
  | char {n : Nat} {bytes : Bytes} (c : Char) (h : Pieced n bytes) :
      Pieced (n + 1) (String.utf8EncodeChar c ++ bytes)
  | byte {n : Nat} {bytes : Bytes} (b : UInt8) (h : Pieced n bytes) : Pieced (n + 1) (b :: bytes)

namespace Pieced

variable {n : Nat} {bytes : Bytes}

/-- A byte at the head that continues a character is a piece of its own. -/
theorem tail {b : UInt8} (h : Pieced n (b :: bytes)) (hb : isContinuation b = true) :
    ∃ m < n, Pieced m bytes := by
  generalize hall : b :: bytes = all at h
  cases h with
  | nil => cases hall
  | char c hrest =>
    obtain ⟨first, more, hbytes, -⟩ := decodeStep_encodeChar c
    rw [hbytes] at hall
    obtain ⟨rfl, -⟩ := List.cons.inj hall
    exact absurd hb (not_isContinuation_of_encodeChar hbytes)
  | byte _ hrest =>
    obtain ⟨rfl, rfl⟩ := List.cons.inj hall
    exact ⟨_, Nat.lt_succ_self _, hrest⟩

theorem drop {skipped : Bytes} (h : Pieced n (skipped ++ bytes))
    (hskipped : ∀ b ∈ skipped, isContinuation b = true) : ∃ m ≤ n, Pieced m bytes := by
  induction skipped generalizing n with
  | nil => exact ⟨n, le_rfl, h⟩
  | cons b skipped ih =>
    obtain ⟨hb, hmore⟩ := List.forall_mem_cons.mp hskipped
    obtain ⟨m, hm, hrest⟩ := h.tail hb
    obtain ⟨k, hk, hbytes⟩ := ih hrest hmore
    exact ⟨k, by omega, hbytes⟩

/-- No more characters are read than there are pieces. -/
theorem length_decodeLossy_le (h : Pieced n bytes) : (decodeLossy bytes).length ≤ n := by
  induction n using Nat.strong_induction_on generalizing bytes with
  | _ n ih =>
    cases h with
    | nil => rw [decodeLossy, List.length_nil]
    | char c hrest =>
      rw [decodeLossy_encodeChar, List.length_cons]
      exact Nat.succ_le_succ (ih _ (Nat.lt_succ_self _) hrest)
    | @byte n bytes b hrest =>
      obtain ⟨skipped, hskipped, hcontinue⟩ := rest_decodeStep b bytes
      obtain ⟨m, hm, hafter⟩ := (hskipped ▸ hrest).drop hcontinue
      have hlength : (decodeLossy (b :: bytes)).length =
          (decodeLossy (decodeStep b bytes).rest).length + 1 := by
        rw [decodeLossy]
        split
        · next hstep => rw [hstep]; rfl
        · next hstep => rw [hstep]; rfl
      have := ih m (by omega) hafter
      omega

end Pieced

/-- A text has at least as many characters as its bytes have pieces, and more if it holds a code. -/
theorem pieced_percentBytes (s : Text) :
    ∃ n, Pieced n (percentBytes s) ∧ n ≤ s.length ∧ (HoldsCode s → n < s.length) := by
  induction s using code_induction with
  | nil => exact ⟨0, .nil, le_rfl, fun h => absurd h not_holdsCode_nil⟩
  | code a b rest ha hb ih =>
    obtain ⟨n, hpieced, hle, -⟩ := ih
    obtain ⟨byte, hbyte⟩ := percentBytes_code ha hb
    rw [hbyte]
    refine ⟨n + 1, hpieced.byte byte, ?_⟩
    simp only [List.length_cons]
    omega
  | char c rest hc ih =>
    obtain ⟨n, hpieced, hle, hlt⟩ := ih
    rw [percentBytes_char hc]
    refine ⟨n + 1, hpieced.char c, Nat.succ_le_succ hle, fun hcode => ?_⟩
    rcases holdsCode_cons.mp hcode with ⟨hsign, hdigits⟩ | hcode
    · exact absurd hdigits (hc hsign)
    · exact Nat.succ_lt_succ (hlt hcode)

theorem length_percentDecode_le (s : Text) : (percentDecode s).length ≤ s.length := by
  obtain ⟨n, hpieced, hle, -⟩ := pieced_percentBytes s
  exact hpieced.length_decodeLossy_le.trans hle

theorem length_percentDecode_lt (h : HoldsCode s) : (percentDecode s).length < s.length := by
  obtain ⟨n, hpieced, -, hlt⟩ := pieced_percentBytes s
  exact hpieced.length_decodeLossy_le.trans_lt (hlt h)

/-- A text is read as it is written exactly if it holds no code. -/
theorem percentDecode_eq_self_iff : percentDecode s = s ↔ ¬ HoldsCode s := by
  constructor
  · intro heq hcode
    exact absurd (congrArg List.length heq) (Nat.ne_of_lt (length_percentDecode_lt hcode))
  · intro hplain
    unfold percentDecode
    rw [percentBytes_eq_encode hplain, decodeLossy_encode]

/-! ## Parts of a coded text -/

variable {p : Char → Bool}

/-- Coding leaves a text in the same parts where a character ends the first one that stands for
    itself and is in no code. -/
theorem span_percentEncode (hkeep : ∀ c, p c = false → keep c = true) (hsign : p '%' = true)
    (halnum : ∀ c, isAsciiAlnum c = true → p c = true) (s : Text) :
    (percentEncode keep s).takeWhile p = percentEncode keep (s.takeWhile p) ∧
      (percentEncode keep s).dropWhile p = percentEncode keep (s.dropWhile p) := by
  induction s with
  | nil => exact ⟨rfl, rfl⟩
  | cons c rest ih =>
    by_cases hc : p c = true
    · have hcoded : ∀ d ∈ percentChar keep c, p d = true := by
        intro d hd
        have hmem : d ∈ percentEncode keep [c] := by
          rw [percentEncode, List.flatMap_singleton]
          exact hd
        rcases of_mem_percentEncode hmem with ⟨hself, -⟩ | rfl | hdigit
        · rw [List.mem_singleton.mp hself]
          exact hc
        · exact hsign
        · exact halnum d hdigit
      rw [List.takeWhile_cons_of_pos hc, List.dropWhile_cons_of_pos hc, ← ih.2]
      show (percentChar keep c ++ percentEncode keep rest).takeWhile p =
          percentChar keep c ++ percentEncode keep (rest.takeWhile p) ∧
        (percentChar keep c ++ percentEncode keep rest).dropWhile p = _
      rw [List.takeWhile_append_of_pos hcoded, List.dropWhile_append_of_pos hcoded, ih.1]
      exact ⟨rfl, rfl⟩
    · have hkept : (isUnreserved c || keep c) = true := by
        rw [hkeep c (Bool.eq_false_iff.mpr hc), Bool.or_true]
      rw [percentEncode_cons_of_kept hkept, List.takeWhile_cons_of_neg hc,
        List.dropWhile_cons_of_neg hc, List.takeWhile_cons_of_neg hc, List.dropWhile_cons_of_neg hc,
        percentEncode_cons_of_kept hkept]
      exact ⟨rfl, rfl⟩

end Taskbook.Text
