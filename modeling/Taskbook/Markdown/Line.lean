/-
  Lines that open a block. Each recogniser looks at one line without its line feed; `indent` is the
  number of spaces that may stand before the mark.
-/
import Taskbook.Markdown.Document
import Taskbook.Text.Lines

namespace Taskbook.Markdown

/-- Space or tab. -/
def isGap (c : Char) : Bool := c = ' ' || c = '\t'

/-- A character of an empty line. -/
def isVoid (c : Char) : Bool := isGap c || c = '\x0b' || c = '\x0c'

/-- The first line without its line feed, and what follows the line feed. -/
def cutLine (s : Text) : Text × Text :=
  (s.takeWhile (· ≠ '\n'), (s.dropWhile (· ≠ '\n')).drop 1)

/-- The first line with its line feed, if it has one, and what follows. -/
def takeLine (s : Text) : Text × Text :=
  match s.dropWhile (· ≠ '\n') with
  | _ :: rest => (s.takeWhile (· ≠ '\n') ++ ['\n'], rest)
  | [] => (s, [])

theorem length_takeLine_lt {s : Text} (h : s ≠ []) : (takeLine s).2.length < s.length := by
  unfold takeLine
  split
  · next c rest hrest =>
    have := (List.dropWhile_suffix (· ≠ '\n') (l := s)).length_le
    rw [hrest, List.length_cons] at this
    exact this
  · exact List.length_pos_iff.mpr h

/-- The lines at the head of a text that `keep` takes, and what follows them. -/
def takeLines (keep : Text → Bool) (s : Text) : Text × Text :=
  if _h : s = [] then ([], [])
  else if keep (cutLine s).1 then
    let more := takeLines keep (takeLine s).2
    ((takeLine s).1 ++ more.1, more.2)
  else ([], s)
termination_by s.length
decreasing_by exact length_takeLine_lt _h

theorem length_takeLines_le (keep : Text → Bool) (s : Text) :
    (takeLines keep s).2.length ≤ s.length := by
  fun_induction takeLines keep s with
  | case1 => exact Nat.le_refl _
  | case2 s h _ more ih => exact Nat.le_trans ih (Nat.le_of_lt (length_takeLine_lt h))
  | case3 => exact Nat.le_refl _

theorem length_takeLines_lt {keep : Text → Bool} {s : Text} (h : (takeLines keep s).1 ≠ []) :
    (takeLines keep s).2.length < s.length := by
  unfold takeLines at h ⊢
  split at h
  · exact absurd rfl h
  · next hs =>
    split at h
    · next hk =>
      simp only [hs, hk, dite_false, if_true]
      exact Nat.lt_of_le_of_lt (length_takeLines_le keep _) (length_takeLine_lt hs)
    · exact absurd rfl h

/-- A function done to every line of a text. -/
def mapLines (f : Text → Text) (s : Text) : Text :=
  Text.join ['\n'] ((Text.splitOn ['\n'] s).map f)

/-- The number of spaces at the head of a line, and the line without them. -/
def dropIndent (s : Text) : Nat × Text :=
  ((s.takeWhile (· = ' ')).length, s.dropWhile (· = ' '))

/-- The line without its indent, if that has at most `indent` spaces. -/
def unindent? (indent : Nat) (s : Text) : Option Text :=
  let (n, rest) := dropIndent s
  if n ≤ indent then some rest else none

/-- At most `n` spaces are taken off the head of a line. -/
def dropSpaces : Nat → Text → Text
  | n + 1, ' ' :: rest => dropSpaces n rest
  | _, s => s

/-- A tab behind at most three spaces becomes spaces up to the column `width`. -/
def expandLeadingTab (width : Nat) (s : Text) : Text :=
  match dropIndent s with
  | (n, '\t' :: rest) => if n ≤ 3 then List.replicate (max n width) ' ' ++ rest else s
  | _ => s

/-- A tab behind at most three spaces becomes four spaces. -/
def expandTab (s : Text) : Text :=
  match dropIndent s with
  | (n, '\t' :: rest) => if n ≤ 3 then List.replicate (n + 4) ' ' ++ rest else s
  | _ => s

/-- The gap at the head of a line that goes on in the given column, each tab in it made the spaces
    up to the next column that is a multiple of four. -/
def expandGap (column : Nat) : Text → Text
  | ' ' :: rest => ' ' :: expandGap (column + 1) rest
  | '\t' :: rest =>
    let width := 4 - column % 4
    List.replicate width ' ' ++ expandGap (column + width) rest
  | s => s

/-- Whether a line is empty, and ended by a line feed. -/
def startsBlank (s : Text) : Bool :=
  match s.dropWhile isVoid with
  | '\n' :: _ => true
  | _ => false

/-- A heading without the closing run of `#` and the blanks around it. -/
def trimHashes (s : Text) : Text :=
  let inner := Text.trimEnd isBlank s
  let stem := Text.trimEnd (· = '#') inner
  if stem.length = inner.length then s
  else if stem = [] then []
  else
    let short := Text.trimEnd isBlank stem
    if short.length = stem.length then s else short

/-- The level and text of a heading: up to six `#`, and a gap before the text. -/
def heading? (indent : Nat) (line : Text) : Option (Nat × Text) := do
  let s ← unindent? indent line
  let level := (s.takeWhile (· = '#')).length
  let rest := s.dropWhile (· = '#')
  if level = 0 || 6 < level then none
  else if rest.head?.all isGap then some (level, trimHashes (Text.trim isAsciiBlank rest))
  else none

/-- Whether a line separates: three or more of one mark and nothing else but gaps. -/
def separates (indent : Nat) (line : Text) : Bool :=
  match unindent? indent line with
  | some (c :: rest) =>
    (c = '-' || c = '_' || c = '*') && rest.all (fun d => d = c || isGap d) &&
      3 ≤ (c :: rest).countP (· = c)
  | _ => false

/-- The level that an underline gives to the text above it, by its last mark. -/
def underline? (line : Text) : Option Nat := do
  let s ← unindent? 3 line
  let marks := Text.trimEnd isGap s
  if marks.all fun c => c = '=' || c = '-' then
    marks.getLast?.map fun c => if c = '=' then 1 else 2
  else none

/-- An opening fence: its indent, its mark, the number of marks and the words behind it. -/
structure Fence where
  indent : Nat
  mark : Char
  width : Nat
  info : Text

/-- The fence that a line opens. -/
def fence? (indent : Nat) (line : Text) : Option Fence :=
  let (n, s) := dropIndent line
  match s with
  | c :: _ =>
    let width := (s.takeWhile (· = c)).length
    if n ≤ indent && (c = '\x60' || c = '~') && 3 ≤ width then
      some { indent := n, mark := c, width, info := (s.dropWhile (· = c)).dropWhile isGap }
    else none
  | [] => none

/-- Whether a fence opens a block: the words behind a fence of backticks hold none. -/
def Fence.isSound (fence : Fence) : Bool := !(fence.mark = '\x60' && fence.info.contains '\x60')

/-- Whether a line closes a fence. -/
def Fence.closedBy (fence : Fence) (line : Text) : Bool :=
  match unindent? 3 line with
  | some s =>
    fence.width ≤ (s.takeWhile (· = fence.mark)).length &&
      (s.dropWhile (· = fence.mark)).all isGap
  | none => false

/-- What follows the mark of a quoted line. -/
def quoted? (indent : Nat) (line : Text) : Option Text :=
  match unindent? indent line with
  | some ('>' :: rest) => some rest
  | _ => none

/-- The opening of a list item: its indent, its marker and what follows the marker. -/
structure ItemMark where
  indent : Nat
  marker : Text
  text : Text

/-- Whether what follows a marker is empty or kept apart from it by a gap. -/
def keepsApart (s : Text) : Bool := s.head?.all isGap

/-- The list item that a line opens, of any kind. -/
def itemMark? (indent : Nat) (line : Text) : Option ItemMark :=
  let (n, s) := dropIndent line
  if indent < n then none
  else
    match s with
    | c :: rest =>
      if c = '*' || c = '+' || c = '-' then
        if keepsApart rest then some { indent := n, marker := [c], text := rest } else none
      else
        let digits := s.takeWhile isDigit
        match s.dropWhile isDigit with
        | d :: after =>
          if (d = '.' || d = ')') && digits ≠ [] && digits.length ≤ 9 && keepsApart after then
            some { indent := n, marker := digits ++ [d], text := after }
          else none
        | [] => none
    | [] => none

/-- The next item of a list whose markers end in `bullet`. -/
def nextItem? (indent : Nat) (bullet : Char) (line : Text) : Option ItemMark :=
  let (n, s) := dropIndent line
  if indent < n then none
  else if bullet = '.' || bullet = ')' then
    let digits := s.takeWhile isDigit
    match s.dropWhile isDigit with
    | d :: after =>
      if d = bullet && digits ≠ [] && digits.length ≤ 9 && keepsApart after then
        some { indent := n, marker := digits ++ [d], text := after }
      else none
    | [] => none
  else
    match s with
    | c :: after =>
      if c = bullet && keepsApart after then some { indent := n, marker := [c], text := after }
      else none
    | [] => none

/-- Whether a line is indented code: four spaces or a tab, and at least one more character. -/
def isIndented (line : Text) : Bool :=
  (line.drop 4 ≠ [] && (line.take 4).all (· = ' ')) ||
    match line.dropWhile (· = ' ') with
    | '\t' :: _ :: _ => true
    | _ => false

end Taskbook.Markdown
