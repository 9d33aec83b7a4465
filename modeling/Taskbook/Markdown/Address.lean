/-
  Addresses that are links without further marks: an address with its scheme or a mail address in
  angle brackets, and a web address that stands by itself. Each reader gives the address and what
  follows it.
-/
import Taskbook.Markdown.CodeSpan

namespace Taskbook.Markdown

/-- A character of a scheme. -/
def isSchemeChar (c : Char) : Bool := isAsciiAlnum c || c = '.' || c = '+' || c = '-'

/-- The address in angle brackets at the head of a text: a scheme of 2 to 32 characters, a colon,
    and no blank. -/
def readAddress? (s : Text) : Option (Text × Text) :=
  match s with
  | '<' :: c :: rest =>
    let tail := rest.takeWhile isSchemeChar
    match rest.dropWhile isSchemeChar with
    | ':' :: more =>
      if isAsciiLetter c && tail ≠ [] && tail.length ≤ 31 then
        let stays (d : Char) : Bool := d ≠ '<' && d ≠ '>' && 0x20 < d.toNat
        match more.dropWhile stays with
        | '>' :: after => some (c :: tail ++ ':' :: more.takeWhile stays, after)
        | _ => none
      else none
    | _ => none
  | _ => none

/-- A character of the name in a mail address. -/
def isMailChar (c : Char) : Bool :=
  isAsciiAlnum c || (".!#$%&'*+/=?^_\x7b|\x7d~-" : Text).contains c || c = tick

/-- Whether a text is a label of a host's name. -/
def isHostLabel (s : Text) : Bool :=
  s.length ≤ 63 && s.head?.any isAsciiAlnum && s.getLast?.any isAsciiAlnum &&
    s.all fun c => isAsciiAlnum c || c = '-'

/-- The mail address in angle brackets at the head of a text. -/
def readMailAddress? (s : Text) : Option (Text × Text) :=
  match s with
  | '<' :: rest =>
    let name := rest.takeWhile isMailChar
    match rest.dropWhile isMailChar with
    | '@' :: more =>
      let inHost (c : Char) : Bool := isAsciiAlnum c || c = '-' || c = '.'
      let host := more.takeWhile inHost
      match more.dropWhile inHost with
      | '>' :: after =>
        if name ≠ [] && (Text.splitOn ['.'] host).all isHostLabel then
          some (name ++ '@' :: host, after)
        else none
      | _ => none
    | _ => none
  | _ => none

/-- A character with which a web address that stands by itself may end. -/
def endsWebAddress (c : Char) : Bool := !(isBlank c || ("<.,:;\"')]" : Text).contains c)

/-- The web address that stands by itself at the head of a text. It goes on to a blank or an angle
    bracket, and punctuation at its end is not part of it. Within brackets it ends before a closing
    one, whatever stands there. -/
def readWebAddress? (bracketed : Bool) (s : Text) : Option (Text × Text) := do
  let rest ← Text.dropPrefix? "http" s
  let (scheme, rest) : Text × Text :=
    match rest with
    | 's' :: more => ("https", more)
    | _ => ("http", rest)
  let tail ← Text.dropPrefix? "://" rest
  let run := tail.takeWhile fun c => !isBlank c && c ≠ '<'
  let kept := Text.trimEnd (fun c => !endsWebAddress c) run
  if kept.length < 2 then none
  else
    let kept := if bracketed then kept.takeWhile (· ≠ ']') else kept
    some (scheme ++ "://" ++ kept, tail.drop kept.length)

end Taskbook.Markdown
