/-
  Documents read block by block. `opening?` says which block begins at the start of a line, `take`
  reads it, and a line that begins none belongs to a paragraph. The body of a quotation or of a list
  item is a document of its own; it holds fewer marks than the text around it, so a budget of as
  many levels as the text has characters is never used up.
-/
import Taskbook.Markdown.Link
import Taskbook.Markdown.RawHtml
import Taskbook.Markdown.Table
import Taskbook.Number.Whole

namespace Taskbook.Markdown

/-- Which containers may begin. -/
structure Rules where
  quotes : Bool := true
  lists : Bool := true
  tables : Bool := false

/-- The depth from which on a container holds no other. -/
def maxDepth : Nat := 19

/-- Which containers may begin in a container that lies within so many others. -/
def Rules.within (depth : Nat) : Rules := { quotes := depth < maxDepth, lists := depth < maxDepth }

/-- The text of a container. A line of it that goes on with a paragraph of a quotation without the
    quotation's mark is known by the number of characters from there to the end. -/
structure Body where
  text : Text
  unmarked : List Nat := []

/-- A document that is being read, from the start of a line on. -/
structure Reading where
  rest : Text
  /-- The lines of a quotation that lack its mark; they underline nothing. -/
  unmarked : List Nat := []
  /-- The blocks read, the last one first. -/
  blocks : List Block := []
  targets : Targets
  /-- The number of containers around the document. -/
  depth : Nat

/-- How a document within a container is read: the number of containers around it, what may begin in
    it, its text and the targets known so far. -/
abbrev ReadBody := Nat → Rules → Body → Targets → List Block × Targets

/-- What begins at the start of a line. -/
inductive Opening where
  | fence (fence : Fence)
  | indented
  | heading (level : Nat) (text : Text)
  | underline (level : Nat)
  | separator
  | quote (text : Text)
  | item (mark : ItemMark)
  | definition (label after : Text)
  | html (mark : HtmlMark) (after : Text)
  | blank
  | table (block : Option Block) (after : Text)

/-- The HTML mark that opens a block. -/
def htmlOpening? (indent : Nat) (s : Text) : Option Opening := do
  let (mark, after) ← htmlMark? (← unindent? indent s)
  pure (.html mark after)

/-- The label that a definition begins with. -/
def definition? (s : Text) : Option Opening := do
  match ← unindent? 3 s with
  | '[' :: rest =>
    let (label, after) ← readLabel? maxLabel rest
    match after with
    | ':' :: tail => some (.definition label tail)
    | _ => none
  | _ => none

/-- What begins at the start of the next line, the first of the kinds that fit. -/
def opening? (rules : Rules) (reading : Reading) : Option Opening :=
  let s := reading.rest
  let line := (cutLine s).1
  ((fence? 3 line).map .fence) <|>
  (if isIndented line then some .indented else none) <|>
  ((heading? 3 line).map fun found => .heading found.1 found.2) <|>
  ((underline? line).bind fun level =>
    if reading.unmarked.contains s.length then none else some (.underline level)) <|>
  (if separates 3 line then some .separator else none) <|>
  (if rules.quotes then (quoted? 3 line).map .quote else none) <|>
  (if rules.lists then (itemMark? 3 line).map .item else none) <|>
  definition? s <|>
  htmlOpening? 3 s <|>
  (if startsBlank s then some .blank else none) <|>
  (if rules.tables then (readTable? s).map fun found => .table found.1 found.2 else none)

/-- The HTML mark that may end a quotation or a list item. -/
def htmlBreak? (indent : Nat) (s : Text) : Option Opening := do
  let (mark, after) ← htmlMark? (← unindent? indent s)
  if mark.interrupts after then some (.html mark after) else none

/-- What ends a quotation at a line without its mark. -/
def quoteBreak? (s : Text) : Option Opening :=
  let line := (cutLine s).1
  (if startsBlank s then some .blank else none) <|>
  (if separates 3 line then some .separator else none) <|>
  ((fence? 3 line).map .fence) <|>
  ((itemMark? 3 line).map .item) <|>
  htmlBreak? 3 s

/-- What ends a list item at a line that is not indented, items aside. -/
def itemBreak? (indent : Nat) (s : Text) : Option Opening :=
  let line := (cutLine s).1
  ((fence? indent line).map .fence) <|>
  ((heading? indent line).map fun found => .heading found.1 found.2) <|>
  ((quoted? indent line).map .quote) <|>
  htmlBreak? indent s

namespace Reading

/-- One more block. -/
def push (reading : Reading) (block : Block) (rest : Text) : Reading :=
  { reading with rest, blocks := block :: reading.blocks }

/-- Lines, which `rest` follows, put to the paragraph before them, if there is one. -/
def extendBy? (reading : Reading) (lines rest : Text) : Option Reading :=
  match reading.blocks with
  | .paragraph before :: more =>
    some { reading with rest, blocks := .paragraph (lines :: before) :: more }
  | _ => none

/-- The next line put to the paragraph before it, if there is one. -/
def extend? (reading : Reading) : Option Reading :=
  reading.extendBy? (takeLine reading.rest).1 (takeLine reading.rest).2

/-- Lines, which `rest` follows, put to the paragraph before them or to a new one. -/
def passBy (reading : Reading) (lines rest : Text) : Reading :=
  (reading.extendBy? lines rest).getD (reading.push (.paragraph [lines]) rest)

/-- The next line put to the paragraph before it or to a new one. -/
def passLine (reading : Reading) : Reading :=
  reading.passBy (takeLine reading.rest).1 (takeLine reading.rest).2

/-- What follows the next line. -/
def afterLine (reading : Reading) : Text := (cutLine reading.rest).2

end Reading

/-- A fenced block. -/
def readFence? (fence : Fence) (reading : Reading) : Option Reading :=
  if !fence.isSound then none
  else
    let (code, rest) := takeLines (fun line => !fence.closedBy line) reading.afterLine
    let code := if fence.indent = 0 then code else mapLines (dropSpaces fence.indent) code
    some (reading.push (.code code (Text.trim isBlank (unescapeMarks fence.info))) (takeLine rest).2)

/-- A block of indented code, or one more line of a paragraph. Lines of blanks go on with code. -/
def readIndented (reading : Reading) : Reading :=
  reading.extend?.getD <|
    let (lines, rest) := takeLines (fun line => isIndented line || line.all isBlank) reading.rest
    let code := mapLines (fun line => dropSpaces 4 (expandLeadingTab 4 line)) lines
    reading.push (.code (Text.trim (· = '\n') code) []) rest

/-- The text up to the next empty line, and what follows. -/
def untilBlank (s : Text) : Text × Text :=
  let (line, rest) := takeLine s
  let (more, after) := takeLines (fun line => !line.all isVoid) rest
  (line ++ more, after)

/-- What follows gaps and a line feed. -/
def skipLineEnd? (s : Text) : Option Text :=
  match s.dropWhile isGap with
  | '\n' :: rest => some rest
  | _ => none

/-- The definition of a label, or one more line of a paragraph. A title counts only if nothing
    follows it on its line. -/
def readDefinition? (label after : Text) (reading : Reading) : Option Reading :=
  match reading.extend? with
  | some extended => some extended
  | none => do
    let key := foldLabel label
    if key = [] then none
    else
      let (destination, rest) ← readDefined? after
      let (near, far) := untilBlank rest
      let titled : Option (Text × Text) := do
        let (title, after) ← readTitle? near
        pure (title, ← skipLineEnd? (after ++ far))
      let (title, rest) ←
        match titled with
        | some (title, rest) => some (some title, rest)
        | none => (skipLineEnd? rest).map fun rest => (none, rest)
      let target : Target :=
        { url := encodeUrl (unescapeMarks destination), title := title.filter (· ≠ []) }
      pure { reading with rest, targets := reading.targets.add key target }

/-- An HTML block up to the line that holds `ending`. -/
def readHtmlThrough (ending after : Text) (reading : Reading) : Reading :=
  match Text.cut? ending after with
  | none => reading.push (.html reading.rest) []
  | some (_, tail) =>
    let rest := (takeLine tail).2
    reading.push (.html (reading.rest.take (reading.rest.length - rest.length))) rest

/-- An HTML block up to the next empty line. -/
def readHtmlUntilBlank (reading : Reading) : Reading :=
  let (text, rest) := takeLines (fun line => !line.all isVoid) reading.rest
  reading.push (.html text) rest

/-- An HTML block. Tags that have to stand alone do not end a paragraph. -/
def readHtml? (mark : HtmlMark) (after : Text) (reading : Reading) : Option Reading :=
  let alone : Option Reading :=
    match reading.extend? with
    | some extended => some extended
    | none => if mark.opens after then some (readHtmlUntilBlank reading) else none
  match mark with
  | .comment => some (readHtmlThrough "-->" after reading)
  | .instruction => some (readHtmlThrough "?>" after reading)
  | .characterData => some (readHtmlThrough "]]>" after reading)
  | .declaration => some (readHtmlThrough ">" after reading)
  | .closeTag name =>
    if blockElements.contains (Text.asciiLower name) then some (readHtmlUntilBlank reading)
    else alone
  | .openTag name =>
    let element := Text.asciiLower name
    if verbatimElements.contains element then
      some (readHtmlThrough ("</" ++ element ++ ">") after reading)
    else if blockElements.contains element then some (readHtmlUntilBlank reading)
    else alone

/-- A quoted line without its mark and the space behind it. -/
def dropQuoteMark (line : Text) : Text :=
  let line :=
    match line.dropWhile (· = ' ') with
    | '>' :: rest => rest
    | _ => line
  dropSpaces 1 (expandLeadingTab 3 line)

/-- Whether the last line of a text is empty. -/
def endsBlank (s : Text) : Bool :=
  s.all isBlank ||
    match s.reverse with
    | '\n' :: rest => (rest.takeWhile (· ≠ '\n')).all isGap && rest.contains '\n'
    | _ => false

/-- Lines of a quotation, with its mark or without. -/
structure QuotedLines where
  marked : Bool := true
  text : Text

/-- The places of the lines without a mark among the given ones, the last one first, which `after`
    characters follow. -/
def unmarkedPlaces (after : Nat) : List QuotedLines → List Nat
  | [] => []
  | lines :: before =>
    let place := after + lines.text.length
    if lines.marked then unmarkedPlaces place before
    else place :: unmarkedPlaces place before

/-- The text of a quotation whose lines are given last line first. -/
def quotedBody (lines : List QuotedLines) : Body :=
  let lines := lines.map fun lines => { lines with text := mapLines expandTab lines.text }
  { text := joinLines (lines.map (·.text)), unmarked := unmarkedPlaces 0 lines }

/-- How a block that begins in the middle of a container is read. -/
abbrev Take := Opening → Reading → Option Reading

/-- The further lines of a quotation, the last one first: marked lines, and lines without a mark
    that go on with its last paragraph. The flag tells whether another block has ended it, which has
    been read by then. -/
def quoteLines (take : Take) (lines : List QuotedLines) (afterBlank : Bool) (reading : Reading) :
    List QuotedLines × Reading × Bool :=
  if _h : reading.rest = [] then (lines, reading, false)
  else
    let marked := takeLines (fun line => (quoted? 3 line).isSome) reading.rest
    if _hm : marked.1 ≠ [] then
      let body := mapLines dropQuoteMark marked.1
      quoteLines take ({ text := body } :: lines) (endsBlank body)
        { reading with rest := marked.2 }
    else if afterBlank then (lines, reading, false)
    else
      match (quoteBreak? reading.rest).bind fun opening => take opening reading with
      | some after => (lines, after, true)
      | none =>
        let line := expandLeadingTab 3 (takeLine reading.rest).1
        quoteLines take ({ marked := false, text := line } :: lines) afterBlank
          { reading with rest := (takeLine reading.rest).2 }
termination_by reading.rest.length
decreasing_by
  · exact length_takeLines_lt _hm
  · exact length_takeLine_lt _h

/-- A quotation. If its first line is empty or code, only marked lines go on with it. It stands
    before the last of the blocks that have been read to end it. -/
def readQuote (readBody : ReadBody) (take : Take) (text : Text) (reading : Reading) : Reading :=
  let first := dropSpaces 1 (expandLeadingTab 3 text) ++ ['\n']
  let line := (cutLine first).1
  let strict := startsBlank first || isIndented line || (fence? 3 line).isSome
  let reading := { reading with rest := reading.afterLine }
  let (lines, after, broken) :=
    if strict then
      let (marked, rest) := takeLines (fun line => (quoted? 3 line).isSome) reading.rest
      ([{ text := mapLines dropQuoteMark marked }, { text := first }], { reading with rest }, false)
    else quoteLines take [{ text := first }] false reading
  let (body, targets) :=
    readBody (reading.depth + 1) (.within reading.depth) (quotedBody lines) after.targets
  let after := { after with targets }
  match broken, after.blocks with
  | true, last :: before => { after with blocks := last :: .quote body :: before }
  | _, _ => after.push (.quote body) after.rest

/-- How a list item ends. -/
inductive ItemEnd where
  | done
  | next (mark : ItemMark) (afterBlank : Bool)
  | broken

/-- The further lines of a list item, the last one first. Its text starts in column `width` and its
    marker ends in column `lead`. -/
def itemLines (take : Take) (bullet : Char) (lead width : Nat) (bare : Bool) (lines : List Text)
    (afterBlank : Bool) (reading : Reading) : List Text × Reading × ItemEnd :=
  if _h : reading.rest = [] then (lines, reading, .done)
  else
    let line := expandGap 0 (takeLine reading.rest).1
    let next (lines : List Text) (afterBlank : Bool) :=
      itemLines take bullet lead width bare lines afterBlank
        { reading with rest := (takeLine reading.rest).2 }
    if startsBlank (takeLine reading.rest).1 then next (['\n'] :: lines) true
    else if Text.startsWith line (List.replicate width ' ') then
      if afterBlank && bare && lines.all (·.all isBlank) then (lines, reading, .done)
      else next (line :: lines) false
    else
      let indent := min lead 3
      let bareLine := (cutLine reading.rest).1
      let ended : Option (Reading × ItemEnd) :=
        if separates indent bareLine then (take .separator reading).map (·, .broken)
        else
          match nextItem? indent bullet bareLine with
          | some mark => some ({ reading with rest := reading.afterLine }, .next mark afterBlank)
          | none =>
            match itemBreak? indent reading.rest with
            | some opening => (take opening reading).map (·, .broken)
            | none => if (itemMark? indent bareLine).isSome then some (reading, .done) else none
      match ended with
      | some (after, ending) => (lines, after, ending)
      | none => if afterBlank then (lines, reading, .done) else next (line :: lines) false
termination_by reading.rest.length
decreasing_by exact length_takeLine_lt _h

/-- The first line of a list item and the column in which its text starts. -/
def itemText (mark : ItemMark) : Text × Nat :=
  let lead := mark.indent + mark.marker.length
  let text := expandGap lead mark.text
  if text.all isBlank then ([], lead + 1)
  else
    let gap := (text.takeWhile (· = ' ')).length
    let gap := if 5 ≤ gap then 1 else gap
    (text.drop gap ++ ['\n'], lead + gap)

/-- A line of a list item without the spaces that put it there. -/
def outdent (width : Nat) (line : Text) : Text :=
  if Text.startsWith line (List.replicate width ' ') then line.drop width else line

/-- A text with the blanks behind its last line reduced to one line feed. -/
def trimEmptyEnd (s : Text) : Text :=
  let stem := Text.trimEnd isBlank s
  let tail := s.drop stem.length
  match tail.dropWhile (· ≠ '\n') with
  | _ :: _ :: _ => stem ++ tail.takeWhile (· ≠ '\n') ++ ['\n']
  | _ => s

/-- Whether the body of a list item makes the list loose. -/
def isLoose (body : List Block) : Bool :=
  body.any (fun block => match block with | .blank => true | _ => false) ||
    2 ≤ body.countP fun block => match block with | .paragraph _ => true | _ => false

/-- The items of a list from the one that has just begun, the last one first, and whether they are
    set tight. The last component tells whether another block has ended the list, which has been
    read by then. -/
def readItems (readBody : ReadBody) (take : Take) (bullet : Char) :
    Nat → ItemMark → List (List Block) → Bool → Reading → List (List Block) × Bool × Reading × Bool
  | 0, _, items, tight, reading => (items, tight, reading, false)
  | budget + 1, mark, items, tight, reading =>
    let (first, width) := itemText mark
    let (lines, after, ending) :=
      itemLines take bullet (mark.indent + mark.marker.length) width (first = []) [] false reading
    let text := first ++ mapLines (outdent width) (joinLines lines)
    let (body, targets) :=
      readBody (reading.depth + 1) (.within reading.depth) { text := trimEmptyEnd text }
        after.targets
    let after := { after with targets }
    let items := body :: items
    let tight := tight && !isLoose body
    match ending with
    | .next mark afterBlank =>
      readItems readBody take bullet budget mark items (tight && !afterBlank) after
    | .done => (items, tight, after, false)
    | .broken => (items, tight, after, true)

/-- The paragraphs of a tight list's item are set without paragraph marks. -/
def setTight (body : List Block) : List Block :=
  body.map fun block =>
    match block with
    | .paragraph lines => .plain (joinLines lines)
    | other => other

/-- A list. An empty item, or a number other than one, goes on with a paragraph before it. A list
    stands before all the blocks that have been read to end it. -/
def readList (readBody : ReadBody) (take : Take) (mark : ItemMark) (reading : Reading) : Reading :=
  let ordered := 1 < mark.marker.length
  let start := Whole.valueOf mark.marker.dropLast
  let extended :=
    if mark.text.all isBlank || (ordered && start ≠ 1) then reading.extend? else none
  extended.getD <|
    let before := reading.blocks.length
    let (items, tight, after, broken) :=
      readItems readBody take (mark.marker.getLast?.getD '-') (reading.rest.length + 1) mark [] true
        { reading with rest := reading.afterLine }
    let items := items.reverse
    let list := Block.list (if ordered then some start else none)
      (if tight then items.map setTight else items)
    let behind := if broken then after.blocks.length - before else 0
    { after with blocks := after.blocks.take behind ++ list :: after.blocks.drop behind }

/-- The block that has begun; `none` if it turns out to be none. The budget bounds how many
    containers end each other. -/
def take (readBody : ReadBody) : Nat → Take
  | 0, _, _ => none
  | budget + 1, opening, reading =>
    match opening with
    | .fence fence => readFence? fence reading
    | .indented => some (readIndented reading)
    | .heading level text => some (reading.push (.heading level text) reading.afterLine)
    | .underline level =>
      match reading.blocks with
      | .paragraph lines :: before =>
        some { reading with
          rest := reading.afterLine
          blocks := .heading level (joinLines lines) :: before }
      | _ =>
        let line := (cutLine reading.rest).1
        if separates 3 line then some (reading.push .separator reading.afterLine)
        else (itemMark? 3 line).map fun mark => readList readBody (take readBody budget) mark reading
    | .separator => some (reading.push .separator reading.afterLine)
    | .quote text => some (readQuote readBody (take readBody budget) text reading)
    | .item mark => some (readList readBody (take readBody budget) mark reading)
    | .definition label after => readDefinition? label after reading
    | .html mark after => readHtml? mark after reading
    | .blank =>
      some (reading.push .blank (takeLines (fun line => line.all isVoid) reading.rest).2)
    | .table (some table) rest => some (reading.push table rest)
    | .table none rest =>
      some (reading.passBy (reading.rest.take (reading.rest.length - rest.length)) rest)

/-- The rest of a document. Each block takes at least one character off it, so the number of its
    characters is budget enough. -/
def readBlocks (take : Take) (rules : Rules) : Nat → Reading → Reading
  | 0, reading => reading
  | budget + 1, reading =>
    if reading.rest.isEmpty then reading
    else
      readBlocks take rules budget
        (((opening? rules reading).bind fun opening => take opening reading).getD
          reading.passLine)

/-- A document within containers, of at most the given number of levels. -/
def readNested : Nat → ReadBody
  | 0, _, _, body, targets => ([.paragraph [body.text]], targets)
  | levels + 1, depth, rules, body, targets =>
    let budget := body.text.length
    let reading :=
      readBlocks (take (readNested levels) (budget + 1)) rules budget
        { rest := body.text, unmarked := body.unmarked, targets, depth }
    (reading.blocks.reverse, reading.targets)

/-- A document and the targets of its labels. -/
def read (s : Text) : List Block × Targets :=
  let text := Text.unixNewlines s
  let text := if text.getLast? = some '\n' then text else text ++ ['\n']
  readNested (text.length + 1) 0 { tables := true } { text } []

end Taskbook.Markdown
