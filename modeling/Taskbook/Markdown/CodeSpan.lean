/-
  Code within a line: a run of backticks, the code, and the next run of just as many backticks.
-/
import Taskbook.Text.Class

namespace Taskbook.Markdown

/-- The backtick. -/
def tick : Char := '\x60'

/-- The code before the next run of just `width` backticks, and what follows that run. `code` is the
    code before `s`, last character first, and ends with `ticks` backticks. -/
def readCode? (width : Nat) (code : Text) (ticks : Nat) : Text → Option (Text × Text)
  | [] => if ticks = width then some ((code.drop width).reverse, []) else none
  | c :: rest =>
    if c = tick then readCode? width (c :: code) (ticks + 1) rest
    else if ticks = width then some ((code.drop width).reverse, c :: rest)
    else readCode? width (c :: code) 0 rest

/-- Code without the one space that sets it apart from its marks on both sides. -/
def trimCode (s : Text) : Text :=
  if s.all (· = ' ') then s
  else
    match s with
    | ' ' :: rest => if rest.getLast? = some ' ' then rest.dropLast else s
    | _ => s

/-- The code at the head of a text that starts with a backtick, a line end in it being a space, and
    what follows. -/
def readCodeSpan? (s : Text) : Option (Text × Text) :=
  let width := (s.takeWhile (· = tick)).length
  (readCode? width [] 0 (s.dropWhile (· = tick))).map fun (code, rest) =>
    (trimCode (code.map fun c => if c = '\n' then ' ' else c), rest)

end Taskbook.Markdown
