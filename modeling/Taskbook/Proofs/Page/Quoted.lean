/-
  Attributes with values in double quotes that hold any other character. `dropIds` does not know of
  quotes: it leaves out each run of text that starts like an `id` (`IsIdStart`), and keeps a text
  exactly if it holds none (`dropIds_eq_self_iff`). A section reads the attributes of its heading up
  to the first `>`, also where that stands in a value. So of those attributes (`Pairs`) the ones up
  to the first value with a `>` are read, and the others stay as they are. What is left is what
  should be if each text that is read as an `id` is one, and no `id` comes too late to be read
  (`Pairs.left_eq_wanted_iff`).
-/
import Mathlib.Data.List.Flatten
import Taskbook.Proofs.Page.Attribute

namespace Taskbook.Page

/-! ## Where an `id` starts -/

/-- Blanks, a name that is taken for `id`, an equals sign, with blanks around it or not, and the
    first character of a value. -/
inductive IsIdStart : Text → Prop
  | intro {gap before behind : Text} {i d c : Char} (hgap : IsGap gap)
      (hi : isLetterI i = true) (hd : d = 'd' ∨ d = 'D') (hbefore : ∀ b ∈ before, isBlank b = true)
      (hbehind : ∀ b ∈ behind, isBlank b = true) (hc : isBlank c = false) (hend : c ≠ '>') :
      IsIdStart (gap ++ i :: d :: (before ++ '=' :: (behind ++ [c])))

/-- Somewhere in the text an `id` starts. -/
def HoldsId (s : Text) : Prop := ∃ phrase, IsIdStart phrase ∧ phrase <:+: s

variable {s t : Text}

theorem HoldsId.mono (h : HoldsId s) (hst : s <:+: t) : HoldsId t := by
  obtain ⟨phrase, hphrase, hs⟩ := h
  exact ⟨phrase, hphrase, hs.trans hst⟩

theorem not_holdsId_of_notMem (h : '=' ∉ s) : ¬ HoldsId s := by
  rintro ⟨phrase, ⟨-, -, -, -, -, -, -⟩, hs⟩
  exact h (hs.subset (by simp))

theorem holdsId_cons {c : Char} :
    HoldsId (c :: s) ↔ (∃ phrase, IsIdStart phrase ∧ phrase <+: c :: s) ∨ HoldsId s := by
  unfold HoldsId
  simp only [List.infix_cons_iff, and_or_left, exists_or]

theorem not_holdsId_nil : ¬ HoldsId [] := not_holdsId_of_notMem List.not_mem_nil

theorem isLetterI_not_blank {c : Char} (h : isLetterI c = true) : isBlank c = false := by
  unfold isLetterI at h
  simp only [Bool.or_eq_true, decide_eq_true_eq] at h
  rcases h with ((rfl | rfl) | rfl) | rfl <;> decide

/-! ## Reading an `id` -/

theorem skipBareValue?_cons {c : Char} (hc : isBlank c = false) (hend : c ≠ '>') :
    (skipBareValue? (c :: s)).isSome := by
  simp [skipBareValue?, hc, hend]

theorem isSome_skipValue?_iff :
    (skipValue? s).isSome ↔ ∃ c rest, s = c :: rest ∧ isBlank c = false ∧ c ≠ '>' := by
  cases s with
  | nil => simp [skipValue?]
  | cons c s =>
    have hbare : (skipBareValue? (c :: s)).isSome ↔ isBlank c = false ∧ c ≠ '>' := by
      simp [skipBareValue?]
    have hvalue : (skipValue? (c :: s)).isSome ↔ (skipBareValue? (c :: s)).isSome := by
      unfold skipValue?
      dsimp only
      split
      · next hquote =>
        -- a quote starts a value, closed or not
        have hsome : (skipBareValue? (c :: s)).isSome := by
          simp only [Bool.or_eq_true, decide_eq_true_eq] at hquote
          rcases hquote with rfl | rfl
          · exact skipBareValue?_cons (by decide) (by decide)
          · exact skipBareValue?_cons (by decide) (by decide)
        split
        · simp [hsome]
        · rfl
      · rfl
    rw [hvalue, hbare]
    simp

theorem isIdStart_of_skipId? {after : Text} (h : skipId? s = some after) :
    ∃ phrase, IsIdStart phrase ∧ phrase <+: s := by
  unfold skipId? at h
  split at h
  · next b head =>
    split at h
    · next hb =>
      split at h
      · next i d tail hname =>
        split at h
        · next hid =>
          split at h
          · next value hequals =>
            obtain ⟨c, rest, hrest, hc, hend⟩ :=
              isSome_skipValue?_iff.mp (Option.isSome_of_mem h)
            obtain ⟨gap, hgap, hhead⟩ := IsGap.exists_of_cons (s := head) hb
            have hblank : ∀ u : Text, ∀ x ∈ u.takeWhile isBlank, isBlank x = true :=
              fun u x hx => List.mem_takeWhile_imp hx
            simp only [Bool.and_eq_true, Bool.or_eq_true, decide_eq_true_eq] at hid
            refine ⟨_, .intro hgap hid.1 hid.2 (hblank tail) (hblank value) hc hend, rest, ?_⟩
            have hvalue : value.takeWhile isBlank ++ c :: rest = value := by
              rw [← hrest, List.takeWhile_append_dropWhile]
            have htail : tail.takeWhile isBlank ++ '=' :: value = tail := by
              rw [← hequals, List.takeWhile_append_dropWhile]
            rw [hhead, hname]
            simp only [List.append_assoc, List.cons_append, List.nil_append, hvalue, htail]
          · cases h
        · cases h
      · cases h
    · cases h
  · cases h

theorem isSome_skipId? {phrase : Text} (h : IsIdStart phrase) (hs : phrase <+: s) :
    (skipId? s).isSome := by
  obtain ⟨rest, rfl⟩ := hs
  obtain @⟨gap, before, behind, i, d, c, hgap, hi, hd, hbefore, hbehind, hc, hend⟩ := h
  obtain ⟨b, blanks, rfl, hb, hblanks⟩ := hgap.exists_cons
  have hname : isLetterI i && (d = 'd' || d = 'D') := by simpa [hi] using hd
  have hhead : (blanks ++ i :: d :: (before ++ '=' :: (behind ++ c :: rest))).dropWhile isBlank =
      i :: d :: (before ++ '=' :: (behind ++ c :: rest)) :=
    Text.dropWhile_append hblanks (Text.startsOutside_cons.mpr (isLetterI_not_blank hi))
  have htail : (before ++ '=' :: (behind ++ c :: rest)).dropWhile isBlank =
      '=' :: (behind ++ c :: rest) :=
    Text.dropWhile_append hbefore (Text.startsOutside_cons.mpr (by decide))
  have hvalue : (behind ++ c :: rest).dropWhile isBlank = c :: rest :=
    Text.dropWhile_append hbehind (Text.startsOutside_cons.mpr hc)
  have hsome : (skipValue? (c :: rest)).isSome :=
    isSome_skipValue?_iff.mpr ⟨c, rest, rfl, hc, hend⟩
  simp only [List.append_assoc, List.cons_append, List.nil_append, skipId?, hb, if_true, hhead,
    hname, htail, hvalue, hsome]

theorem skipId?_eq_none_iff :
    skipId? s = none ↔ ¬ ∃ phrase, IsIdStart phrase ∧ phrase <+: s := by
  constructor
  · rintro hnone ⟨phrase, hphrase, hs⟩
    have hsome := isSome_skipId? hphrase hs
    rw [hnone] at hsome
    cases hsome
  · intro hnot
    rw [Option.eq_none_iff_forall_ne_some]
    intro after hsome
    exact hnot (isIdStart_of_skipId? hsome)

/-! ## What is left out -/

theorem length_dropIds_le (s : Text) : (dropIds s).length ≤ s.length := by
  induction s using dropIds.induct with
  | case1 s after hsome ih =>
    rw [dropIds_of_some hsome]
    exact ih.trans (length_of_skipId? hsome).le
  | case2 =>
    rw [dropIds_nil]
  | case3 c rest hnone ih =>
    rw [dropIds_cons_of_none hnone]
    exact Nat.succ_le_succ ih

/-- A text stays as it is exactly if no `id` starts in it. -/
theorem dropIds_eq_self_iff : dropIds s = s ↔ ¬ HoldsId s := by
  induction s using dropIds.induct with
  | case1 s after hsome ih =>
    obtain ⟨phrase, hphrase, hs⟩ := isIdStart_of_skipId? hsome
    have hholds : HoldsId s := ⟨phrase, hphrase, hs.isInfix⟩
    have hshort : (dropIds s).length < s.length := by
      rw [dropIds_of_some hsome]
      exact (length_dropIds_le after).trans_lt (length_of_skipId? hsome)
    constructor
    · intro heq
      rw [heq] at hshort
      exact absurd hshort (Nat.lt_irrefl _)
    · exact fun hnot => absurd hholds hnot
  | case2 => exact ⟨fun _ => not_holdsId_nil, fun _ => dropIds_nil⟩
  | case3 c rest hnone ih =>
    have hstart := skipId?_eq_none_iff.mp hnone
    rw [dropIds_cons_of_none hnone, List.cons_inj_right, ih, holdsId_cons]
    simp [hstart]

/-- A head with the character `q` in its last place at most ends with the first `q`. -/
theorem prefix_concat_of_notMem {front value rest : Text} {q c : Char} (hfront : q ∉ front)
    (h : front ++ [c] <+: value ++ q :: rest) : front ++ [c] <+: value ++ [q] := by
  obtain ⟨more, hmore⟩ := h
  rw [List.append_assoc, List.singleton_append] at hmore
  rcases List.append_eq_append_iff.mp hmore with ⟨a, rfl, hrest⟩ | ⟨a, rfl, hrest⟩
  · cases a with
    | nil => exact ⟨[], by simp [(List.cons.inj hrest).1]⟩
    | cons e a => exact ⟨a ++ [q], by simp [(List.cons.inj hrest).1]⟩
  · cases a with
    | nil => exact ⟨[], by simp [(List.cons.inj hrest).1]⟩
    | cons e a =>
      rw [(List.cons.inj hrest).1] at hfront
      exact absurd (List.mem_append_right _ List.mem_cons_self) hfront

/-- An `id` that starts in front of a closing quote has started when the quote is read. -/
theorem IsIdStart.up_to_quote {phrase value rest : Text} (h : IsIdStart phrase)
    (hphraseStart : phrase <+: value ++ '"' :: rest) : phrase <+: value ++ ['"'] := by
  obtain @⟨gap, before, behind, i, d, c, hgap, hi, hd, hbefore, hbehind, -, -⟩ := h
  have hblank : ∀ {u : Text}, (∀ b ∈ u, isBlank b = true) → '"' ∉ u := fun hu hmem =>
    absurd (hu '"' hmem) (by decide)
  have hi : '"' ≠ i := by
    rintro rfl
    exact absurd hi (by decide)
  have hd : '"' ≠ d := by
    rintro rfl
    exact absurd hd (by decide)
  have hfront : '"' ∉ gap ++ i :: d :: (before ++ '=' :: behind) := by
    simp [hblank hgap.blank, hblank hbefore, hblank hbehind, hi, hd]
  have hsplit : gap ++ i :: d :: (before ++ '=' :: (behind ++ [c])) =
      gap ++ i :: d :: (before ++ '=' :: behind) ++ [c] := by simp
  rw [hsplit] at hphraseStart ⊢
  exact prefix_concat_of_notMem hfront hphraseStart

/-- What is behind a value does not make an `id` of its text. -/
theorem dropIds_append_of_quote {value : Text}
    (hnot : ¬ HoldsId (value ++ ['"'])) (rest : Text) :
    dropIds (value ++ '"' :: rest) = value ++ '"' :: dropIds rest := by
  induction value with
  | nil =>
    have hquote : ∀ c ∈ ['"'], isBlank c = false := List.forall_mem_singleton.mpr (by decide)
    exact dropIds_append_of_not_blank hquote rest
  | cons c value ih =>
    rw [List.cons_append, holdsId_cons, not_or] at hnot
    have hnone : skipId? (c :: (value ++ '"' :: rest)) = none := by
      rw [skipId?_eq_none_iff]
      rintro ⟨phrase, hphrase, hphraseStart⟩
      have hstart : phrase <+: c :: value ++ ['"'] := hphrase.up_to_quote hphraseStart
      exact hnot.1 ⟨phrase, hphrase, hstart⟩
    rw [List.cons_append, dropIds_cons_of_none hnone, ih hnot.2, List.cons_append]

/-- Blanks stay in front of what cannot be the name of an `id`. -/
theorem dropIds_blanks {gap word : Text} (hgap : ∀ b ∈ gap, isBlank b = true)
    (hword : ∀ b blanks, isBlank b = true → (∀ x ∈ blanks, isBlank x = true) →
      skipId? (b :: (blanks ++ word)) = none) : dropIds (gap ++ word) = gap ++ dropIds word := by
  induction gap with
  | nil => rfl
  | cons b gap ih =>
    obtain ⟨hb, hgap⟩ := List.forall_mem_cons.mp hgap
    rw [List.cons_append, dropIds_cons_of_none (hword b gap hb hgap), ih hgap, List.cons_append]

/-! ## Attributes with quotes -/

/-- An attribute with a value in double quotes, with the blanks in front of it and around its
    equals sign. -/
structure Pair where
  gap : Text
  name : Text
  before : Text := []
  behind : Text := []
  value : Text
  deriving DecidableEq

namespace Pair

/-- The attribute up to the quote that opens its value. -/
def head (pair : Pair) : Text :=
  pair.gap ++ (pair.name ++ (pair.before ++ '=' :: (pair.behind ++ ['"'])))

/-- The value, with the quote that closes it. -/
def closed (pair : Pair) : Text := pair.value ++ ['"']

def text (pair : Pair) : Text := pair.head ++ pair.closed

/-- What is read of the value: nothing from the first `>` on. -/
def seen (pair : Pair) : Text := pair.closed.takeWhile (· ≠ '>')

/-- Whether the attribute is an `id`, in any letter case. -/
def isId (pair : Pair) : Bool :=
  match pair.name with
  | [i, d] => (i = 'i' || i = 'I') && (d = 'd' || d = 'D')
  | _ => false

/-- Whether the name is taken for `id`. -/
def isTaken (pair : Pair) : Bool := Attribute.isId ⟨pair.gap, pair.name, pair.value⟩

/-- Whether the value can be read to its end. -/
def isOpen (pair : Pair) : Bool := decide ('>' ∉ pair.value)

/-- The name ends at the equals sign or the blanks in front of it, and the value at its closing
    quote. -/
structure Plain (pair : Pair) : Prop where
  gap : IsGap pair.gap
  name_ne_nil : pair.name ≠ []
  name : ∀ c ∈ pair.name, isBlank c = false ∧ c ≠ '=' ∧ c ≠ '>'
  before : ∀ c ∈ pair.before, isBlank c = true
  behind : ∀ c ∈ pair.behind, isBlank c = true
  value : '"' ∉ pair.value

variable {pair : Pair}

theorem plain_iff : pair.Plain ↔
    IsGap pair.gap ∧ pair.name ≠ [] ∧
      pair.name.all (fun c => !isBlank c && c ≠ '=' && c ≠ '>') = true ∧
      pair.before.all isBlank = true ∧ pair.behind.all isBlank = true ∧ '"' ∉ pair.value := by
  have hname : pair.name.all (fun c => !isBlank c && c ≠ '=' && c ≠ '>') = true ↔
      ∀ c ∈ pair.name, isBlank c = false ∧ c ≠ '=' ∧ c ≠ '>' := by simp [and_assoc]
  rw [hname, List.all_eq_true, List.all_eq_true]
  exact ⟨fun h => ⟨h.gap, h.name_ne_nil, h.name, h.before, h.behind, h.value⟩,
    fun h => ⟨h.1, h.2.1, h.2.2.1, h.2.2.2.1, h.2.2.2.2.1, h.2.2.2.2.2⟩⟩

instance (pair : Pair) : Decidable pair.Plain := decidable_of_iff _ plain_iff.symm

theorem isTaken_of_isId (h : pair.isId = true) : pair.isTaken = true := by
  obtain ⟨gap, name, before, behind, value⟩ := pair
  unfold isId at h
  dsimp only at h
  split at h
  · next i d =>
    obtain ⟨hi, hd⟩ := Bool.and_eq_true_iff.mp h
    have hletter : isLetterI i = true := by
      unfold isLetterI
      rw [hi]
      rfl
    exact Bool.and_eq_true_iff.mpr ⟨hletter, hd⟩
  · cases h

theorem seen_of_isOpen (h : pair.isOpen = true) : pair.seen = pair.closed := by
  have hvalue : '>' ∉ pair.value := of_decide_eq_true h
  refine List.takeWhile_eq_self_iff.mpr fun c hc => ?_
  unfold closed at hc
  simp only [List.mem_append, List.mem_singleton] at hc
  rcases hc with hc | rfl
  · simpa using fun heq : c = '>' => hvalue (heq ▸ hc)
  · decide

namespace Plain

theorem noClosing_head (h : pair.Plain) : ∀ c ∈ pair.head, decide (c ≠ '>') = true := by
  have hblank : ∀ {u : Text}, (∀ c ∈ u, isBlank c = true) → '>' ∉ u := fun hu hmem =>
    absurd (hu '>' hmem) (by decide)
  have hname : '>' ∉ pair.name := fun hmem => (h.name '>' hmem).2.2 rfl
  have hhead : '>' ∉ pair.head := by
    unfold head
    simp [hblank h.gap.blank, hname, hblank h.before, hblank h.behind]
  intro c hc
  simpa using fun heq : c = '>' => hhead (heq ▸ hc)

/-- In front of a name that is not taken for one no `id` is read. -/
theorem skipId?_head (h : pair.Plain) (hnot : pair.isTaken = false) {b : Char} {blanks : Text}
    (hb : isBlank b = true) (hblanks : ∀ c ∈ blanks, isBlank c = true) (rest : Text) :
    skipId? (b :: (blanks ++ (pair.name ++ (pair.before ++ '=' :: rest)))) = none := by
  obtain ⟨gap, name, before, behind, value⟩ := pair
  obtain ⟨-, hne, hname, hbefore, -, -⟩ := h
  unfold isTaken Attribute.isId at hnot
  dsimp only at hne hname hbefore hnot ⊢
  have hstart : Text.StartsOutside isBlank (name ++ (before ++ '=' :: rest)) :=
    (Text.startsOutside_of_forall fun c hc => (hname c hc).1).append hne
  have hequals : isBlank '=' = false := by decide
  unfold skipId?
  dsimp only
  rw [if_pos hb, Text.dropWhile_append hblanks hstart]
  match name, hne, hname with
  | [i], _, _ =>
    -- the second character is a blank or the equals sign
    cases before with
    | nil => simp
    | cons c before =>
      have hc : isBlank c = true := hbefore c List.mem_cons_self
      have hd : c ≠ 'd' ∧ c ≠ 'D' :=
        ⟨by rintro rfl; exact absurd hc (by decide), by rintro rfl; exact absurd hc (by decide)⟩
      simp [hd]
  | [i, d], _, _ =>
    dsimp only at hnot
    simp [hnot]
  | i :: d :: e :: more, _, hname =>
    obtain ⟨heblank, he, -⟩ := hname e (by simp)
    simp [heblank, he]

theorem dropIds_head (h : pair.Plain) (hnot : pair.isTaken = false) (rest : Text) :
    dropIds (pair.head ++ rest) = pair.head ++ dropIds rest := by
  have hword : ∀ c : Char, isLetterI c = false → isBlank c = false → ∀ more : Text,
      ∀ b blanks, isBlank b = true → (∀ x ∈ blanks, isBlank x = true) →
        skipId? (b :: (blanks ++ c :: more)) = none := by
    intro c hi hc more b blanks hb hblanks
    have hdrop : (blanks ++ c :: more).dropWhile isBlank = c :: more :=
      Text.dropWhile_append hblanks (Text.startsOutside_cons.mpr hc)
    cases more <;> simp [skipId?, hdrop, hi]
  have hequals : ∀ c ∈ ['='], isBlank c = false := List.forall_mem_singleton.mpr (by decide)
  have hquote : ∀ c ∈ ['"'], isBlank c = false := List.forall_mem_singleton.mpr (by decide)
  have hnames : ∀ c ∈ pair.name, isBlank c = false := fun c hc => (h.name c hc).1
  have hbehind : dropIds (pair.behind ++ '"' :: rest) = pair.behind ++ '"' :: dropIds rest := by
    rw [dropIds_blanks h.behind (hword '"' (by decide) (by decide) rest)]
    congr 1
    exact dropIds_append_of_not_blank hquote rest
  have hbefore : dropIds (pair.before ++ '=' :: (pair.behind ++ '"' :: rest)) =
      pair.before ++ '=' :: (pair.behind ++ '"' :: dropIds rest) := by
    rw [dropIds_blanks h.before (hword '=' (by decide) (by decide) _), ← hbehind]
    congr 1
    exact dropIds_append_of_not_blank hequals _
  have hsplit : ∀ more : Text, pair.head ++ more =
      pair.gap ++ (pair.name ++ (pair.before ++ '=' :: (pair.behind ++ '"' :: more))) := by
    intro more
    simp [head]
  rw [hsplit, hsplit, dropIds_blanks h.gap.blank fun b blanks hb hblanks =>
      h.skipId?_head hnot hb hblanks _, dropIds_append_of_not_blank hnames, hbefore]

theorem dropIds_text_append (h : pair.Plain) (hnot : pair.isTaken = false)
    (hvalue : ¬ HoldsId pair.closed) (rest : Text) :
    dropIds (pair.text ++ rest) = pair.text ++ dropIds rest := by
  have hsplit : ∀ more : Text, pair.text ++ more = pair.head ++ (pair.value ++ '"' :: more) := by
    intro more
    simp [text, Pair.closed]
  rw [hsplit, hsplit, h.dropIds_head hnot, dropIds_append_of_quote hvalue]

/-- An attribute that is taken for an `id` is left out up to its closing quote. -/
theorem dropIds_text_append_of_isTaken (h : pair.Plain) (htaken : pair.isTaken = true)
    (rest : Text) : dropIds (pair.text ++ rest) = dropIds rest := by
  obtain ⟨gap, name, before, behind, value⟩ := pair
  obtain ⟨hgap, -, -, hbefore, hbehind, hvalue⟩ := h
  unfold isTaken Attribute.isId at htaken
  dsimp only at hgap hbefore hbehind hvalue htaken
  obtain ⟨b, blanks, rfl, hb, hblanks⟩ := hgap.exists_cons
  split at htaken
  · next i d =>
    have hi : isLetterI i = true := (Bool.and_eq_true_iff.mp htaken).1
    have hhead : (blanks ++ i :: d :: (before ++ '=' :: (behind ++ '"' ::
        (value ++ '"' :: rest)))).dropWhile isBlank =
          i :: d :: (before ++ '=' :: (behind ++ '"' :: (value ++ '"' :: rest))) :=
      Text.dropWhile_append hblanks (Text.startsOutside_cons.mpr (isLetterI_not_blank hi))
    have htail : (before ++ '=' :: (behind ++ '"' :: (value ++ '"' :: rest))).dropWhile isBlank =
        '=' :: (behind ++ '"' :: (value ++ '"' :: rest)) :=
      Text.dropWhile_append hbefore (Text.startsOutside_cons.mpr (by decide))
    have hquote : (behind ++ '"' :: (value ++ '"' :: rest)).dropWhile isBlank =
        '"' :: (value ++ '"' :: rest) :=
      Text.dropWhile_append hbehind (Text.startsOutside_cons.mpr (by decide))
    have hsome : skipId? (b :: (blanks ++ i :: d :: (before ++ '=' :: (behind ++ '"' ::
        (value ++ '"' :: rest))))) = some rest := by
      simp only [skipId?, hb, if_true, hhead, htaken, htail, hquote, skipValue?_quoted hvalue]
    rw [← dropIds_of_some hsome]
    simp [text, head, Pair.closed]
  · cases htaken

end Plain

end Pair

/-! ## What a section keeps of a heading's attributes -/

/-- What a section leaves of the text behind the name of its heading. -/
def leave (s : Text) : Text := dropIds (s.takeWhile (· ≠ '>')) ++ s.dropWhile (· ≠ '>')

/-- The attributes of a heading. -/
structure Pairs where
  pairs : List Pair
  /-- The blanks at the end. -/
  tail : Text := []
  deriving DecidableEq

namespace Pairs

def text (form : Pairs) : Text := form.pairs.flatMap Pair.text ++ form.tail

structure Plain (form : Pairs) : Prop where
  pairs : ∀ pair ∈ form.pairs, pair.Plain
  tail : ∀ c ∈ form.tail, isBlank c = true

instance (form : Pairs) : Decidable form.Plain :=
  decidable_of_iff ((∀ pair ∈ form.pairs, pair.Plain) ∧ form.tail.all isBlank = true) (by
    rw [List.all_eq_true]
    exact ⟨fun h => ⟨h.1, h.2⟩, fun h => ⟨h.pairs, h.tail⟩⟩)

/-- What is left of the attributes. -/
def left (form : Pairs) : Text := leave form.text

/-- What should be left of them: those that are no `id`. -/
def wanted (form : Pairs) : Text := text { form with pairs := form.pairs.filter (!·.isId) }

/-- The attributes in front of the first whose value has a `>`. -/
def passed (form : Pairs) : List Pair := form.pairs.takeWhile Pair.isOpen

/-- The first attribute whose value has a `>`, and those behind it. -/
def cutOff (form : Pairs) : List Pair := form.pairs.dropWhile Pair.isOpen

/-- The attributes that are read, the last of them up to a `>` in its value. -/
def read (form : Pairs) : List Pair := form.passed ++ form.cutOff.head?.toList

/-- What is read as an `id` is one, whole attributes and the text of values alike. -/
def Legible (form : Pairs) : Prop :=
  ∀ pair ∈ form.read, (pair.isTaken = true → pair.isId = true) ∧
    (pair.isId = false → ¬ HoldsId pair.seen)

variable {form : Pairs}

end Pairs

/-! ### Attribute by attribute -/

theorem eq_false_of_dropWhile {α : Type} {p : α → Bool} {l rest : List α} {a : α}
    (h : l.dropWhile p = a :: rest) : p a = false := by
  have hhead := List.head?_dropWhile_not p l
  rwa [h] at hhead

theorem takeWhile_prefix_takeWhile_append (p : Char → Bool) (s t : Text) :
    s.takeWhile p <+: (s ++ t).takeWhile p := by
  rw [List.takeWhile_append]
  split
  · exact (List.takeWhile_prefix p).trans (List.prefix_append s _)
  · exact List.prefix_refl _

theorem leave_eq_self_iff : leave s = s ↔ ¬ HoldsId (s.takeWhile (· ≠ '>')) := by
  rw [← dropIds_eq_self_iff]
  unfold leave
  conv_lhs => rhs; rw [← List.takeWhile_append_dropWhile (p := fun c => decide (c ≠ '>')) (l := s)]
  exact List.append_left_inj _

namespace Pair

variable {pair : Pair}

theorem noClosing_seen {c : Char} (h : c ∈ pair.seen) : decide (c ≠ '>') = true := by
  have htake : c ∈ pair.closed.takeWhile (fun d => decide (d ≠ '>')) := h
  have hc := List.mem_takeWhile_imp htake
  exact hc

theorem noClosing_text (h : pair.Plain) (hopen : pair.isOpen = true) :
    ∀ c ∈ pair.text, decide (c ≠ '>') = true := by
  intro c hc
  rcases List.mem_append.mp hc with hc | hc
  · exact h.noClosing_head c hc
  · rw [← seen_of_isOpen hopen] at hc
    exact noClosing_seen hc

/-- A value with a `>` is read up to the first. -/
theorem exists_closed_of_not_isOpen (hnot : pair.isOpen = false) :
    ∃ unseen, pair.closed = pair.seen ++ '>' :: unseen := by
  have hmem : '>' ∈ pair.value := by simpa [isOpen] using hnot
  have hdrop := List.takeWhile_append_dropWhile (p := fun c => decide (c ≠ '>')) (l := pair.closed)
  cases hrest : pair.closed.dropWhile (· ≠ '>') with
  | nil =>
    have hall := List.dropWhile_eq_nil_iff.mp hrest '>' (List.mem_append_left _ hmem)
    exact absurd hall (by decide)
  | cons c unseen =>
    have hc : c = '>' := by simpa using eq_false_of_dropWhile hrest
    rw [hrest, hc] at hdrop
    exact ⟨unseen, hdrop.symm⟩

theorem leave_text_append (h : pair.Plain) (hopen : pair.isOpen = true)
    (hvalue : pair.isTaken = false → ¬ HoldsId pair.seen) (s : Text) :
    leave (pair.text ++ s) = if pair.isTaken then leave s else pair.text ++ leave s := by
  have hfront := noClosing_text h hopen
  unfold leave
  rw [List.takeWhile_append_of_pos hfront, List.dropWhile_append_of_pos hfront]
  cases htaken : pair.isTaken with
  | true => rw [if_pos rfl, h.dropIds_text_append_of_isTaken htaken]
  | false =>
    have hclosed : ¬ HoldsId pair.closed := seen_of_isOpen hopen ▸ hvalue htaken
    simp [h.dropIds_text_append htaken hclosed]

/-- Behind the `>` in a value all stays as it is. -/
theorem leave_text_append_of_not_isOpen (h : pair.Plain) {unseen : Text}
    (hunseen : pair.closed = pair.seen ++ '>' :: unseen) (s : Text) :
    leave (pair.text ++ s) = dropIds (pair.head ++ pair.seen) ++ '>' :: (unseen ++ s) := by
  have hfront : ∀ c ∈ pair.head ++ pair.seen, decide (c ≠ '>') = true := by
    intro c hc
    rcases List.mem_append.mp hc with hc | hc
    · exact h.noClosing_head c hc
    · exact noClosing_seen hc
  have htext : pair.text ++ s = pair.head ++ pair.seen ++ '>' :: (unseen ++ s) := by
    unfold text
    rw [hunseen]
    simp
  have hend : Text.StartsOutside (fun c => decide (c ≠ '>')) ('>' :: (unseen ++ s)) :=
    Text.startsOutside_cons.mpr (by decide)
  rw [htext, leave, Text.takeWhile_append hfront hend, Text.dropWhile_append hfront hend]

/-- What is behind a `>` in a value is all left, whatever becomes of what is in front of it. -/
theorem length_lt_leave (h : pair.Plain) (hnot : pair.isOpen = false) (s : Text) :
    s.length < (leave (pair.text ++ s)).length := by
  obtain ⟨unseen, hunseen⟩ := exists_closed_of_not_isOpen hnot
  rw [leave_text_append_of_not_isOpen h hunseen]
  simp only [List.length_append, List.length_cons]
  omega

theorem text_ne_nil (pair : Pair) : pair.text ≠ [] := by simp [text, closed]

end Pair

theorem leave_flatMap_append {l : List Pair} (hplain : ∀ pair ∈ l, pair.Plain)
    (hopen : ∀ pair ∈ l, pair.isOpen = true)
    (hvalue : ∀ pair ∈ l, pair.isTaken = false → ¬ HoldsId pair.seen) (s : Text) :
    leave (l.flatMap Pair.text ++ s) =
      (l.filter (!·.isTaken)).flatMap Pair.text ++ leave s := by
  induction l with
  | nil => rfl
  | cons pair l ih =>
    obtain ⟨hpair, hplain⟩ := List.forall_mem_cons.mp hplain
    obtain ⟨hpairOpen, hopen⟩ := List.forall_mem_cons.mp hopen
    obtain ⟨hpairValue, hvalue⟩ := List.forall_mem_cons.mp hvalue
    rw [List.flatMap_cons, List.append_assoc, Pair.leave_text_append hpair hpairOpen hpairValue,
      ih hplain hopen hvalue]
    cases htaken : pair.isTaken <;> simp [htaken]

theorem length_flatMap_filter_le (p : Pair → Bool) (l : List Pair) :
    ((l.filter p).flatMap Pair.text).length ≤ (l.flatMap Pair.text).length :=
  (List.filter_sublist.flatMap Pair.text).length_le

theorem flatMap_filter_eq_iff (p : Pair → Bool) (l : List Pair) :
    (l.filter p).flatMap Pair.text = l.flatMap Pair.text ↔ ∀ pair ∈ l, p pair = true := by
  rw [← List.filter_eq_self]
  constructor
  · intro h
    by_contra hne
    induction l with
    | nil => exact hne rfl
    | cons pair l ih =>
      cases hp : p pair with
      | true =>
        simp only [List.filter_cons_of_pos hp, List.flatMap_cons, List.append_cancel_left_eq,
          List.cons_inj_right] at h hne
        exact ih h hne
      | false =>
        have hlength := congrArg List.length h
        have hshort := length_flatMap_filter_le p l
        have hpos := List.length_pos_iff.mpr pair.text_ne_nil
        rw [List.filter_cons_of_neg (by simp [hp]), List.flatMap_cons,
          List.length_append] at hlength
        omega
  · intro h
    rw [h]

/-! ### All attributes -/

namespace Pairs

variable {form : Pairs}

theorem text_eq (form : Pairs) : form.text =
    form.passed.flatMap Pair.text ++ (form.cutOff.flatMap Pair.text ++ form.tail) := by
  have hpairs : form.passed ++ form.cutOff = form.pairs := List.takeWhile_append_dropWhile
  unfold text
  rw [← hpairs, List.flatMap_append, List.append_assoc]

theorem isOpen_of_mem_passed {pair : Pair} (h : pair ∈ form.passed) : pair.isOpen = true :=
  List.mem_takeWhile_imp h

theorem mem_of_mem_passed {pair : Pair} (h : pair ∈ form.passed) : pair ∈ form.pairs :=
  List.takeWhile_subset _ h

theorem mem_of_mem_cutOff {pair : Pair} (h : pair ∈ form.cutOff) : pair ∈ form.pairs :=
  (List.dropWhile_suffix _).subset h

theorem not_isOpen_of_cutOff {pair : Pair} {more : List Pair} (h : form.cutOff = pair :: more) :
    pair.isOpen = false := eq_false_of_dropWhile h

theorem leave_tail (h : form.Plain) : leave form.tail = form.tail := by
  rw [leave_eq_self_iff]
  refine not_holdsId_of_notMem fun hmem => ?_
  exact absurd (h.tail '=' (List.takeWhile_subset _ hmem)) (by decide)

/-- Of attributes that are read right, those that are an `id` are left out up to the first value
    with a `>`. -/
theorem left_eq (h : form.Plain)
    (hvalue : ∀ pair ∈ form.read, pair.isTaken = false → ¬ HoldsId pair.seen) :
    form.left = (form.passed.filter (!·.isTaken)).flatMap Pair.text ++
      leave (form.cutOff.flatMap Pair.text ++ form.tail) := by
  unfold left
  rw [text_eq]
  exact leave_flatMap_append (fun pair hpair => h.pairs pair (mem_of_mem_passed hpair))
    (fun pair hpair => isOpen_of_mem_passed hpair)
    (fun pair hpair => hvalue pair (List.mem_append_left _ hpair)) _

/-- From the first value with a `>` on, all stays as it is, if that value is no `id`'s. -/
theorem leave_cutOff_of_not_isTaken (h : form.Plain) {pair : Pair} {more : List Pair}
    (hcut : form.cutOff = pair :: more) (hnot : pair.isTaken = false)
    (hvalue : ¬ HoldsId pair.seen) (s : Text) :
    leave (pair.text ++ s) = pair.text ++ s := by
  have hplain : pair.Plain := h.pairs pair (mem_of_mem_cutOff (hcut ▸ List.mem_cons_self))
  obtain ⟨unseen, hunseen⟩ := Pair.exists_closed_of_not_isOpen (not_isOpen_of_cutOff hcut)
  rw [Pair.leave_text_append_of_not_isOpen hplain hunseen, hplain.dropIds_head hnot,
    dropIds_eq_self_iff.mpr hvalue, Pair.text, hunseen]
  simp

theorem Legible.isTaken_eq (h : form.Legible) {pair : Pair} (hpair : pair ∈ form.read) :
    pair.isTaken = pair.isId := by
  cases hid : pair.isId with
  | true => exact Pair.isTaken_of_isId hid
  | false =>
    refine Bool.eq_false_iff.mpr fun htaken => ?_
    rw [(h pair hpair).1 htaken] at hid
    cases hid

theorem wanted_eq (form : Pairs) : form.wanted =
    (form.passed.filter (!·.isId)).flatMap Pair.text ++
      ((form.cutOff.filter (!·.isId)).flatMap Pair.text ++ form.tail) := by
  have hpairs : form.passed ++ form.cutOff = form.pairs := List.takeWhile_append_dropWhile
  unfold wanted text
  dsimp only
  rw [← hpairs, List.filter_append, List.flatMap_append, List.append_assoc]

/-- What is left is what should be exactly if no `id` is cut off. -/
theorem left_eq_wanted_iff (h : form.Plain) (hlegible : form.Legible) :
    form.left = form.wanted ↔ ∀ pair ∈ form.cutOff, pair.isId = false := by
  have hvalue : ∀ pair ∈ form.read, pair.isTaken = false → ¬ HoldsId pair.seen :=
    fun pair hpair hnot => (hlegible pair hpair).2 (hlegible.isTaken_eq hpair ▸ hnot)
  have hpassed : form.passed.filter (!·.isTaken) = form.passed.filter (!·.isId) :=
    List.filter_congr fun pair hpair => by
      rw [hlegible.isTaken_eq (List.mem_append_left _ hpair)]
  rw [left_eq h hvalue, hpassed, wanted_eq, List.append_cancel_left_eq]
  cases hcut : form.cutOff with
  | nil => simpa using leave_tail h
  | cons pair more =>
    have hread : pair ∈ form.read := List.mem_append_right _ (by simp [hcut])
    rw [List.flatMap_cons, List.append_assoc, List.forall_mem_cons]
    cases hid : pair.isId with
    | true =>
      -- the attributes behind the `id` are more than those of them that are wanted
      have hplain : pair.Plain := h.pairs pair (mem_of_mem_cutOff (hcut ▸ List.mem_cons_self))
      have hlong := Pair.length_lt_leave hplain (not_isOpen_of_cutOff hcut)
        (more.flatMap Pair.text ++ form.tail)
      have hshort := length_flatMap_filter_le (!·.isId) more
      rw [List.filter_cons_of_neg (by simp [hid])]
      refine iff_of_false (fun heq => ?_) (by simp)
      rw [heq] at hlong
      simp only [List.length_append] at hlong
      omega
    | false =>
      have hnot : pair.isTaken = false := (hlegible.isTaken_eq hread).trans hid
      rw [leave_cutOff_of_not_isTaken h hcut hnot (hvalue pair hread hnot),
        List.filter_cons_of_pos (by simp [hid]), List.flatMap_cons, List.append_assoc,
        List.append_cancel_left_eq, List.append_left_inj, eq_comm, flatMap_filter_eq_iff]
      simp

/-- What is seen of a value stands in front of the first `>` of all. -/
theorem seen_within (h : form.Plain) {pair : Pair} (hpair : pair ∈ form.read) :
    pair.seen <:+: form.text.takeWhile (· ≠ '>') := by
  obtain ⟨l, rest, hl, htext⟩ : ∃ (l : List Pair) (rest : Text),
      (∀ other ∈ l, other ∈ form.passed) ∧
        form.text = l.flatMap Pair.text ++ (pair.head ++ (pair.closed ++ rest)) := by
    rw [text_eq]
    rcases List.mem_append.mp hpair with hpassed | hcut
    · obtain ⟨l, r, hsplit⟩ := List.append_of_mem hpassed
      exact ⟨l, r.flatMap Pair.text ++ (form.cutOff.flatMap Pair.text ++ form.tail),
        fun other hother => hsplit ▸ List.mem_append_left _ hother, by simp [hsplit, Pair.text]⟩
    · rw [Option.mem_toList, List.head?_eq_some_iff] at hcut
      obtain ⟨more, hmore⟩ := hcut
      exact ⟨form.passed, more.flatMap Pair.text ++ form.tail, fun other hother => hother,
        by simp [hmore, Pair.text]⟩
  have hfront : ∀ c ∈ l.flatMap Pair.text, decide (c ≠ '>') = true := by
    intro c hc
    obtain ⟨other, hother, hc⟩ := List.mem_flatMap.mp hc
    exact Pair.noClosing_text (h.pairs other (mem_of_mem_passed (hl other hother)))
      (isOpen_of_mem_passed (hl other hother)) c hc
  have hplain : pair.Plain := by
    rcases List.mem_append.mp hpair with hpassed | hcut
    · exact h.pairs pair (mem_of_mem_passed hpassed)
    · exact h.pairs pair (mem_of_mem_cutOff (List.mem_of_mem_head? (Option.mem_toList.mp hcut)))
  rw [htext, List.takeWhile_append_of_pos hfront,
    List.takeWhile_append_of_pos hplain.noClosing_head]
  have hseen := (takeWhile_prefix_takeWhile_append (· ≠ '>') pair.closed rest).isInfix
  exact (hseen.trans (List.suffix_append _ _).isInfix).trans (List.suffix_append _ _).isInfix

/-- Attributes of which none is taken for an `id` stay as they are exactly if no `id` starts in a
    value that is read. -/
theorem left_eq_text_iff (h : form.Plain) (hnone : ∀ pair ∈ form.read, pair.isTaken = false) :
    form.left = form.text ↔ ∀ pair ∈ form.read, ¬ HoldsId pair.seen := by
  constructor
  · intro heq pair hpair hholds
    exact leave_eq_self_iff.mp heq (hholds.mono (seen_within h hpair))
  · intro hnot
    have hpassed : form.passed.filter (!·.isTaken) = form.passed :=
      List.filter_eq_self.mpr fun pair hpair => by simp [hnone pair (List.mem_append_left _ hpair)]
    rw [left_eq h fun pair hpair _ => hnot pair hpair, hpassed, text_eq]
    congr 1
    cases hcut : form.cutOff with
    | nil => exact leave_tail h
    | cons pair more =>
      have hread : pair ∈ form.read := List.mem_append_right _ (by simp [hcut])
      rw [List.flatMap_cons, List.append_assoc]
      exact leave_cutOff_of_not_isTaken h hcut (hnone pair hread) (hnot pair hread) _

end Pairs

end Taskbook.Page
