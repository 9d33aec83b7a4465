/-
  Emphasis. A run of stars or low lines may open emphasis, close it, or both, as the characters
  around it tell. A run that closes takes the nearest run before it that pairs with it; two marks on
  both sides make strong emphasis, one mark plain emphasis, and what is left of a run goes on. Where
  a closing run has found no partner, later closing runs of its kind do not look past it. Marks that
  find no partner are text.
-/
import Taskbook.Markdown.Document
import Taskbook.Text.Class

namespace Taskbook.Markdown

/-- A run of marks of emphasis. -/
structure Run where
  mark : Char
  /-- The number of marks the run was read with. -/
  width : Nat
  /-- The number of marks that are not used up yet. -/
  left : Nat
  opens : Bool
  closes : Bool
  deriving DecidableEq, Repr

/-- Whether a run between two characters leans on the text on the side of `near`. The ends of a text
    count as blanks. -/
def leansOn (far near : Option Char) : Bool :=
  near.any fun c => !isBlank c && (!isSymbol c || far.all fun d => isBlank d || isSymbol d)

/-- The run of `width` marks between two characters. Within a word, low lines neither open nor
    close. -/
def Run.between (mark : Char) (width : Nat) (before after : Option Char) : Run :=
  let left := leansOn before after
  let right := leansOn after before
  let free := mark ≠ '_'
  { mark, width, left := width
    opens := left && (free || !right || before.any isSymbol)
    closes := right && (free || !left || after.any isSymbol) }

/-- Whether two runs pair. If one of them may both open and close, their widths do not add up to a
    multiple of three, unless both are such multiples. -/
def Run.pairs (opener closer : Run) : Bool :=
  opener.opens && opener.mark = closer.mark &&
    !((opener.closes || closer.opens) && (opener.width + closer.width) % 3 = 0 &&
      opener.width % 3 ≠ 0)

/-- A piece of a text in which emphasis is not read yet. -/
inductive Piece where
  | span (span : Span)
  | run (run : Run)

/-- A run that may open emphasis, and the spans before it, the last one first. -/
structure Opened where
  run : Run
  /-- The number of runs before it. -/
  place : Nat
  before : List Span

/-- The kind of a closing run: its mark, and how many of its marks are left beyond threes. -/
def Run.kind (run : Run) : Char × Nat := (run.mark, run.left % 3)

/-- For kinds of closing runs the place of the last one that has found no partner. -/
abbrev Floors := List ((Char × Nat) × Nat)

/-- The place before which no closing run of the kind looks for a partner. -/
def Floors.below (floors : Floors) (kind : Char × Nat) : Nat := (floors.lookup kind).getD 0

/-- The closing run at the given place has found no partner. -/
def Floors.raise (floors : Floors) (kind : Char × Nat) (place : Nat) : Floors :=
  (kind, place) :: floors.filter (·.1 ≠ kind)

/-- What has been read of a text: the runs that may open emphasis, the innermost one first, the
    spans behind the innermost of them, the last one first, and the number of runs. -/
structure Nesting where
  outer : List Opened := []
  spans : List Span := []
  floors : Floors := []
  place : Nat := 0

/-- The marks left of a run as text. -/
def Run.literal (run : Run) : Span := .text (List.replicate run.left run.mark)

/-- Spans behind an opening run that has found no partner, the last one first. -/
def Opened.abandon (opened : Opened) (spans : List Span) : List Span :=
  spans ++ opened.run.literal :: opened.before

/-- The nearest opening run from the place `floor` on that pairs with `closer`: the spans behind it,
    the run, and the opening runs before it. -/
def nearestOpener? (closer : Run) (floor : Nat) (spans : List Span) :
    List Opened → Option (List Span × Opened × List Opened)
  | [] => none
  | opened :: outer =>
    if opened.place < floor then none
    else if opened.run.pairs closer then some (spans, opened, outer)
    else nearestOpener? closer floor (opened.abandon spans) outer

/-- The partner of a closing run, if emphasis may enclose what stands between the two. -/
def Nesting.partner? (nesting : Nesting) (run : Run) :
    Option (List Span × Opened × List Opened) :=
  if run.closes then
    (nearestOpener? run (nesting.floors.below run.kind) nesting.spans nesting.outer).filter
      fun found => mayEnclose found.1
  else none

/-- A run that closes nothing more: it may open emphasis, or it is text. -/
def Nesting.leave (nesting : Nesting) (run : Run) : Nesting :=
  let floors :=
    if run.closes then nesting.floors.raise run.kind nesting.place else nesting.floors
  if run.opens then
    { nesting with
      outer := { run, place := nesting.place, before := nesting.spans } :: nesting.outer
      spans := []
      floors }
  else { nesting with spans := run.literal :: nesting.spans, floors }

/-- What has been read once `run` has been. -/
def Nesting.pass (nesting : Nesting) (run : Run) : Nesting :=
  if _h : run.left = 0 then nesting
  else
    match nesting.partner? run with
    | some (body, opened, outer) =>
      let used := if 2 ≤ run.left && 2 ≤ opened.run.left then 2 else 1
      let inner := joinTexts body.reverse
      let span := if used = 2 then Span.strong inner else .emphasis inner
      let rest := { opened.run with left := opened.run.left - used }
      let (outer, spans) :=
        if rest.left = 0 then (outer, span :: opened.before)
        else ({ opened with run := rest } :: outer, [span])
      Nesting.pass { nesting with outer, spans } { run with left := run.left - used }
    | none => nesting.leave run
termination_by run.left
decreasing_by
  show run.left - _ < run.left
  split <;> omega

/-- One more piece. -/
def Nesting.add (nesting : Nesting) : Piece → Nesting
  | .span span => { nesting with spans := span :: nesting.spans }
  | .run run =>
    let passed := nesting.pass run
    { passed with place := passed.place + 1 }

/-- The spans of pieces, their emphasis read. -/
def emphasize (pieces : List Piece) : List Span :=
  let nesting := pieces.foldl Nesting.add {}
  joinTexts (nesting.outer.foldl (fun spans opened => opened.abandon spans) nesting.spans).reverse

end Taskbook.Markdown
