/-
  Hosts in the authority of an address: numeric addresses of version 4 and, in brackets, of version
  6, names in ASCII, and names in other scripts, which are written in ASCII label by label.
-/
import Taskbook.Http.Label
import Taskbook.Text.Percent

namespace Taskbook.Http.Host

/-- Whether a text is a numeric address of version 4: four numbers below 256 without further zeros
    in front. -/
def isVersion4 (s : Text) : Bool :=
  let parts := Text.splitOn ['.'] s
  let isOctet (part : Text) : Bool :=
    part ≠ [] && part.length ≤ 3 && part.all isAsciiDigit && (part = ['0'] || part.head? ≠ some '0') &&
      decimalValue part ≤ 255
  parts.length = 4 && parts.all isOctet

/-- Whether a text is four numbers with dots between them. -/
def looksNumeric (s : Text) : Bool :=
  let parts := Text.splitOn ['.'] s
  parts.length = 4 && parts.all fun part => part ≠ [] && part.all isAsciiDigit

/-- Whether a text is one to four digits of base 16. -/
def isHexGroup (part : Text) : Bool :=
  part ≠ [] && part.length ≤ 4 && part.all fun c => (hexValue? c).isSome

/-- Whether groups between colons make up an address of version 6. One empty group within it stands
    for as many zeros as are missing; an empty group at an end goes with such a group beside it. -/
def isVersion6Groups (groups : List Text) : Bool :=
  let inner := groups.tail.dropLast
  if inner.contains [] then
    let before := groups.takeWhile (· ≠ [])
    let (high, rest) : List Text × List Text :=
      match before with
      | [] => ([], groups.drop 2)
      | _ => (before, groups.drop (before.length + 1))
    let low := if rest = [[]] then [] else rest
    (before ≠ [] || (groups.drop 1).head? = some []) && (high ++ low).all isHexGroup &&
      high.length + low.length ≤ 7
  else groups.length = 8 && groups.all isHexGroup

/-- Whether a text is a numeric address of version 6. It may end with an address of version 4 in the
    place of two groups, and a zone may stand behind it. -/
def isVersion6 (s : Text) : Bool :=
  let address := s.takeWhile (· ≠ '%')
  let zoneFits :=
    match s.dropWhile (· ≠ '%') with
    | _ :: zone => zone ≠ [] && !zone.contains '%'
    | [] => true
  let groups := Text.splitOn [':'] address
  let last := groups.getLast?.getD []
  let groups := if isVersion4 last then groups.dropLast ++ [['0'], ['0']] else groups
  zoneFits && 3 ≤ groups.length && isVersion6Groups groups

/-- A character that stays as it is in the name of a host. -/
def keptInName (c : Char) : Bool := ("!$&'()*+,;=\"\x60\x7b\x7d%|\\" : Text).contains c

/-- A dot between the labels of a name. -/
def isDot (c : Char) : Bool :=
  c = '.' || c.toNat = 0x3002 || c.toNat = 0xff0e || c.toNat = 0xff61

/-- The labels of a name. -/
def labels (s : Text) : List Text := Text.splitOn ['.'] (s.map fun c => if isDot c then '.' else c)

/-- A name of any script in ASCII; a dot may stand at its end. -/
def name? (s : Text) : Option Text := do
  if Label.maxName < s.length then none
  else
    let parts := labels s
    let rooted := parts.getLast? = some []
    let coded ← (if rooted then parts.dropLast else parts).mapM Label.toAscii?
    let name := Text.join ['.'] (if rooted then coded ++ [[]] else coded)
    if name.length ≤ (if rooted then Label.maxName else Label.maxName - 1) then some name else none

/-- What is wrong with a name in ASCII that begins with a label of another script. -/
def fault? (host : Text) : Option LabelFault :=
  if !Text.startsWith host "xn--" then none
  else if Label.maxName < host.length then some .form
  else
    let parts := labels host
    (if parts.getLast? = some [] then parts.dropLast else parts).findSome? Label.asciiFault?

/-- The normal form of a host, without brackets; `none` if it is no host. -/
def normal? (host : Text) : Option Text :=
  if host = [] then some []
  else if looksNumeric host then if isVersion4 host then some host else none
  else if Text.startsWith host ['['] && host.getLast? = some ']' && 2 ≤ host.length then
    let inner := (host.drop 1).dropLast
    if isVersion6 inner then some inner else none
  else if host.all fun c => c.toNat < 0x80 then
    some (Text.percentEncode keptInName (Text.asciiLower host))
  else name? host.lower

end Taskbook.Http.Host
