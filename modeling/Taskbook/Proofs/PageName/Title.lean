/-
  Titles, character by character. A title is made in two passes: the first cuts acronyms off the
  words behind them, the second looks for capitals behind small letters and digits. Both decide
  whether a word ends with a character by that character and the next two, and what the first puts
  in is no such place for the second, so one look at each place is enough (`title_cons`). The spaces
  of a title part just those characters between which words end, so there is nothing left to do in
  it (`title_title`).
-/
import Taskbook.PageName.Title

namespace Taskbook.PageName

/-- A word ends with the character at a place: the next one is a capital, and the character is a
    small letter or a digit, or else a capital too, with a small letter behind the next one. -/
def wordEnds (s : Text) (i : Nat) : Bool :=
  match s[i]?, s[i + 1]? with
  | some a, some b =>
    isCapital b && (isSmall a || isDigit a || isCapital a && s[i + 2]?.any isSmall)
  | _, _ => false

/-- The character at a place of a text, with a space behind it if a word ends there. -/
def spaced (s : Text) (place : Char × Nat) : Text :=
  if wordEnds s place.2 = true then [place.1, ' '] else [place.1]

/-- A capital with a small letter behind it. -/
def capitalised (s : Text) : Bool :=
  match s with
  | b :: c :: _ => isCapital b && isSmall c
  | _ => false

variable {a b c : Char} {s rest : Text}

/-! ## Acronyms -/

theorem isSmall_eq_false_of_isCapital (h : isCapital c = true) : isSmall c = false := by
  unfold isCapital at h
  unfold isSmall
  simp only [Bool.and_eq_true, Bool.and_eq_false_iff, decide_eq_true_eq, decide_eq_false_iff_not,
    Char.le_def, UInt32.le_iff_toNat_le] at h ⊢
  have hZ : 'Z'.val.toNat < 'a'.val.toNat := by decide
  omega

/-- Of a run of capitals, the first is followed by a space only if just one is behind it. -/
theorem cutRun_cons_cons (a b : Char) (run after : Text) :
    cutRun (a :: b :: run) after =
      if run = [] ∧ after.head?.any isSmall = true then [a, ' ', b]
      else a :: cutRun (b :: run) after := by
  cases after with
  | nil => cases run <;> simp [cutRun]
  | cons c after =>
    cases run with
    | nil => by_cases hc : isSmall c = true <;> simp [cutRun, hc]
    | cons d run =>
      have hlast := List.getLast?_eq_some_getLast (List.cons_ne_nil d run)
      by_cases hc : isSmall c = true <;> simp [cutRun, hc, hlast]

theorem cutRun_singleton (c : Char) (after : Text) : cutRun [c] after = [c] := by
  cases after <;> simp [cutRun]

theorem cutAcronyms_nil : cutAcronyms [] = [] := by rw [cutAcronyms]

theorem cutAcronyms_of_capital (hc : isCapital c = true) (rest : Text) :
    cutAcronyms (c :: rest) =
      cutRun (c :: rest.takeWhile isCapital) (rest.dropWhile isCapital) ++
        cutAcronyms (rest.dropWhile isCapital) := by
  rw [cutAcronyms, if_pos hc]

theorem cutAcronyms_of_not_capital (hc : isCapital c = false) (rest : Text) :
    cutAcronyms (c :: rest) = c :: cutAcronyms rest := by
  rw [cutAcronyms, if_neg (by simp [hc])]

theorem capitalised_cons (b : Char) (rest : Text) :
    capitalised (b :: rest) = (isCapital b && rest.head?.any isSmall) := by
  cases rest <;> simp [capitalised]

/-- A small letter behind a capital ends the run of capitals. -/
theorem any_isSmall_iff (rest : Text) :
    rest.head?.any isSmall = true ↔
      rest.takeWhile isCapital = [] ∧ (rest.dropWhile isCapital).head?.any isSmall = true := by
  cases rest with
  | nil => simp
  | cons c after =>
    by_cases hc : isCapital c = true
    · simp [hc, isSmall_eq_false_of_isCapital hc]
    · simp [hc]

/-- The first pass looks at each character once. -/
theorem cutAcronyms_cons (c : Char) (rest : Text) :
    cutAcronyms (c :: rest) =
      if (isCapital c && capitalised rest) = true then c :: ' ' :: cutAcronyms rest
      else c :: cutAcronyms rest := by
  cases hc : isCapital c with
  | false => exact cutAcronyms_of_not_capital hc rest
  | true =>
    rw [cutAcronyms_of_capital hc, Bool.true_and]
    cases rest with
    | nil => simp [cutRun_singleton, capitalised, cutAcronyms_nil]
    | cons b after =>
      cases hb : isCapital b with
      | true =>
        rw [List.takeWhile_cons_of_pos hb, List.dropWhile_cons_of_pos hb, cutRun_cons_cons,
          cutAcronyms_of_capital hb]
        simp only [capitalised_cons, hb, Bool.true_and, any_isSmall_iff after]
        split
        · next hlast =>
          rw [hlast.1, cutRun_singleton]
          rfl
        · rfl
      | false =>
        rw [List.takeWhile_cons_of_neg (by simp [hb]), List.dropWhile_cons_of_neg (by simp [hb]),
          cutRun_singleton, capitalised_cons, hb]
        rfl

theorem head?_cutAcronyms (s : Text) : (cutAcronyms s).head? = s.head? := by
  cases s with
  | nil => rw [cutAcronyms_nil]
  | cons c rest =>
    rw [cutAcronyms_cons]
    split <;> rfl

/-! ## Words -/

theorem cutWords_cons (c : Char) (rest : Text) :
    cutWords (c :: rest) =
      if ((isSmall c || isDigit c) && rest.head?.any isCapital) = true then
        c :: ' ' :: cutWords rest
      else c :: cutWords rest := by
  cases rest <;> simp [cutWords]

theorem isCapital_space : isCapital ' ' = false := by decide

theorem isSmall_space : isSmall ' ' = false := by decide

theorem isDigit_space : isDigit ' ' = false := by decide

theorem cutWords_space (rest : Text) : cutWords (' ' :: rest) = ' ' :: cutWords rest := by
  rw [cutWords_cons, isSmall_space, isDigit_space]
  rfl

theorem wordEnds_cons_zero (c : Char) (rest : Text) :
    wordEnds (c :: rest) 0 =
      ((isSmall c || isDigit c) && rest.head?.any isCapital ||
        isCapital c && capitalised rest) := by
  cases rest with
  | nil => simp [wordEnds, capitalised]
  | cons b after =>
    rw [capitalised_cons]
    cases hb : isCapital b <;> simp [wordEnds, hb, List.head?_eq_getElem?]

/-! ## Titles -/

theorem title_nil : title [] = [] := by rw [title, cutAcronyms_nil, cutWords]

/-- A title is made by one look at each character. -/
theorem title_cons (c : Char) (rest : Text) :
    title (c :: rest) =
      if wordEnds (c :: rest) 0 = true then c :: ' ' :: title rest else c :: title rest := by
  unfold title
  rw [wordEnds_cons_zero, cutAcronyms_cons]
  cases hacronym : isCapital c && capitalised rest with
  | true =>
    rw [if_pos rfl, Bool.or_true, if_pos rfl, cutWords_cons, List.head?_cons, Option.any_some,
      isCapital_space, Bool.and_false, if_neg Bool.false_ne_true, cutWords_space]
  | false =>
    rw [if_neg Bool.false_ne_true, cutWords_cons, head?_cutAcronyms, Bool.or_false]

theorem head?_title (s : Text) : (title s).head? = s.head? := by
  cases s with
  | nil => rw [title_nil]
  | cons c rest =>
    rw [title_cons]
    split <;> rfl

/-- The spaces that are put in are all that is new. -/
theorem filter_title (s : Text) : (title s).filter (· ≠ ' ') = s.filter (· ≠ ' ') := by
  induction s with
  | nil => rw [title_nil]
  | cons c rest ih =>
    rw [title_cons, List.filter_cons, ← ih]
    split
    · simp [List.filter_cons]
    · rw [List.filter_cons]

/-- Each character is followed by a space if a word ends with it. -/
theorem title_eq_flatMap (s : Text) : title s = s.zipIdx.flatMap (spaced s) := by
  induction s with
  | nil => exact title_nil
  | cons c rest ih =>
    have hrest : (rest.zipIdx 1).flatMap (spaced (c :: rest)) = title rest := by
      rw [ih, List.zipIdx_succ, List.flatMap_map]
      rfl
    rw [title_cons, List.zipIdx_cons, List.flatMap_cons, hrest, spaced]
    split <;> rfl

example : title "HTTPServer2GoX" = "HTTP Server2 Go X" := by
  rw [title_eq_flatMap]
  decide +kernel

theorem capitalised_of_title (h : capitalised (title s) = true) : capitalised s = true := by
  cases s with
  | nil =>
    rw [title_nil] at h
    cases h
  | cons b rest =>
    rw [title_cons] at h
    split at h
    · rw [capitalised_cons, List.head?_cons, Option.any_some, isSmall_space, Bool.and_false] at h
      cases h
    · rwa [capitalised_cons, head?_title, ← capitalised_cons] at h

/-- A title is its own title. -/
theorem title_title (s : Text) : title (title s) = title s := by
  induction s with
  | nil => rw [title_nil, title_nil]
  | cons c rest ih =>
    rw [title_cons]
    split
    · have hc : wordEnds (c :: ' ' :: title rest) 0 = false := by
        rw [wordEnds_cons_zero, List.head?_cons, capitalised_cons, Option.any_some, isCapital_space]
        simp
      have hspace : wordEnds (' ' :: title rest) 0 = false := by
        rw [wordEnds_cons_zero, isSmall_space, isDigit_space, isCapital_space]
        rfl
      rw [title_cons c, hc, if_neg Bool.false_ne_true, title_cons ' ', hspace,
        if_neg Bool.false_ne_true, ih]
    · next hends =>
      have hc : ¬ wordEnds (c :: title rest) 0 = true := by
        simp only [wordEnds_cons_zero, head?_title, Bool.or_eq_true, Bool.and_eq_true] at hends ⊢
        exact fun h => hends (h.imp_right fun hc => ⟨hc.1, capitalised_of_title hc.2⟩)
      rw [title_cons c, if_neg hc, ih]

/-- In the title of a name each character is followed by one space exactly if a word ends with it:
    if a capital follows a small letter or a digit, or if a capital follows a capital and has a
    small letter behind it. Nothing else is new, so without their spaces the name and its title are
    the same, and the title is its own title. -/
theorem title_parts_words (name : Text) :
    title name = name.zipIdx.flatMap (spaced name) ∧
      (title name).filter (· ≠ ' ') = name.filter (· ≠ ' ') ∧ title (title name) = title name :=
  ⟨title_eq_flatMap name, filter_title name, title_title name⟩

end Taskbook.PageName
