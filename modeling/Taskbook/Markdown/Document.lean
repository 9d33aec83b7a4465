/-
  Documents between reading and writing. A block holds its text as it was read; the text of a
  paragraph is read as spans when it is written, since the link targets of the whole document have
  to be known by then.
-/
import Taskbook.Text.Basic

namespace Taskbook.Markdown

/-- How the cells of a column are aligned. -/
inductive Alignment where
  | none
  | left
  | center
  | right
  deriving DecidableEq, Repr

/-- A block of a document. -/
inductive Block where
  /-- Lines of text, the last one first. -/
  | paragraph (lines : List Text)
  /-- A paragraph within a list that is set tight. -/
  | plain (text : Text)
  | heading (level : Nat) (text : Text)
  | separator
  | blank
  /-- Code with the words behind the opening fence. -/
  | code (code info : Text)
  /-- HTML that is passed on as it is. -/
  | html (text : Text)
  | quote (body : List Block)
  /-- List items, numbered from `start` on or with bullets. -/
  | list (start : Option Nat) (items : List (List Block))
  | table (alignments : List Alignment) (header : List Text) (rows : List (List Text))

/-- The text of a paragraph whose lines are given last line first. -/
def joinLines (lines : List Text) : Text := lines.reverse.flatten

/-- A run of text with its markup. -/
inductive Span where
  | text (content : Text)
  | code (content : Text)
  | emphasis (body : List Span)
  | strong (body : List Span)
  | struck (body : List Span)
  | link (url : Text) (title : Option Text) (body : List Span)
  /-- An address that is a link of its own; within a link it is the text it was read from. -/
  | address (url shown source : Text)
  | image (url : Text) (title : Option Text) (body : List Span)
  | html (content : Text)
  | hardBreak
  | softBreak

mutual

/-- The number of spans around the innermost text of a span, itself included. -/
def Span.height : Span → Nat
  | .emphasis body | .strong body | .struck body => Span.heightAll body + 1
  | .link _ _ body | .image _ _ body => Span.heightAll body + 1
  | _ => 0

/-- The greatest height among spans. -/
def Span.heightAll : List Span → Nat
  | [] => 0
  | span :: rest => max span.height (Span.heightAll rest)

end

/-- The greatest height of a span. A mark that would make a higher one is text. -/
def maxHeight : Nat := 20

/-- Whether spans may become the body of a span. -/
def mayEnclose (body : List Span) : Bool := Span.heightAll body < maxHeight

/-- Spans with each run of texts made one text. -/
def joinTexts : List Span → List Span
  | .text content :: rest =>
    match joinTexts rest with
    | .text more :: after => .text (content ++ more) :: after
    | joined => .text content :: joined
  | span :: rest => span :: joinTexts rest
  | [] => []

/-- Where a link label leads. -/
structure Target where
  url : Text
  title : Option Text

/-- Link labels, folded, with their targets. -/
abbrev Targets := List (Text × Target)

/-- One more label; a label that is there keeps its target. -/
def Targets.add (targets : Targets) (key : Text) (target : Target) : Targets :=
  if (targets.lookup key).isSome then targets else targets ++ [(key, target)]

end Taskbook.Markdown
