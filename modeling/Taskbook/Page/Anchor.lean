/-
  Anchors of headings: groups of small letters and digits of ASCII with single hyphens between them,
  made from the first run of text behind a tag that starts with a letter.
-/
import Taskbook.Text.Case

namespace Taskbook.Page

/-- The first run of text that follows a closing angle bracket, blanks aside, and starts with a
    letter; it ends before the next opening angle bracket. -/
def leadRun? : Text → Option Text
  | [] => none
  | c :: rest =>
    if c = '>' then
      match rest.dropWhile isBlank with
      | d :: tail => if isLead d then some (d :: tail.takeWhile (· ≠ '<')) else leadRun? rest
      | [] => none
    else leadRun? rest

/-- A character that stands for itself in an anchor. -/
def isAnchorChar (c : Char) : Bool := isSmall c || isAsciiDigit c

/-- A text with each run of other characters turned into one hyphen; `gap` says that such a run has
    begun. -/
def hyphenate (gap : Bool) : Text → Text
  | [] => []
  | c :: rest =>
    if isAnchorChar c then c :: hyphenate false rest
    else if gap then hyphenate true rest
    else '-' :: hyphenate true rest

/-- The anchor of a heading, read off what follows its tag's name. -/
def anchor (fragment : Text) : Text :=
  match leadRun? fragment with
  | none => "section"
  | some run =>
    match Text.trimEnd (· = '-') (hyphenate false run.lower) with
    | [] => "section"
    | slug => slug

end Taskbook.Page
