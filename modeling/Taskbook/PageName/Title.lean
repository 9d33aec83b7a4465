/-
  Names of pages and their titles. A name is made of word characters and hyphens. Two checks stand
  at the entrances: the forms and the import take the letters and numbers of every script and let
  one final line feed pass; the API takes identifier characters and nothing behind them.

  A name is one word with capitals inside; the title has a space between the words. The last capital
  of an acronym belongs to the word that follows it.
-/
import Taskbook.Text.Class

namespace Taskbook.PageName

/-- The most characters a name may have at the API. -/
def maxLength : Nat := 255

/-- The check at the forms and at the import. -/
def accepted (name : Text) : Bool :=
  let stem := Text.dropFinalNewline name
  stem ≠ [] && stem.all fun c => isWord c || c = '-'

/-- The check at the API, length apart. -/
def wellFormed (name : Text) : Bool :=
  name ≠ [] && name.all fun c => isIdentifier c || c = '-'

/-- A run of capitals, cut before its last one when a small letter follows. -/
def cutRun (run after : Text) : Text :=
  match run.getLast?, after with
  | some last, c :: _ =>
    if isSmall c && 2 ≤ run.length then run.dropLast ++ [' ', last] else run
  | _, _ => run

/-- A name with its acronyms cut off from the words behind them. -/
def cutAcronyms : Text → Text
  | [] => []
  | c :: rest =>
    if isCapital c then
      cutRun (c :: rest.takeWhile isCapital) (rest.dropWhile isCapital) ++
        cutAcronyms (rest.dropWhile isCapital)
    else c :: cutAcronyms rest
termination_by s => s.length
decreasing_by
  all_goals have := (List.dropWhile_suffix isCapital (l := rest)).length_le
  all_goals simp only [List.length_cons]
  all_goals omega

/-- A name with a space between a small letter or digit and the capital behind it. -/
def cutWords : Text → Text
  | [] => []
  | c :: rest =>
    match rest with
    | [] => [c]
    | d :: _ =>
      if (isSmall c || isDigit c) && isCapital d then c :: ' ' :: cutWords rest
      else c :: cutWords rest

/-- The title of a page. -/
def title (name : Text) : Text := cutWords (cutAcronyms name)

end Taskbook.PageName
