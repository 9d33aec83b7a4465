/-
  Task lines. After an optional star a line starts with a keyword, an optional colon and a blank;
  then come tags, words of the form `key:value`, and the rest is the description.
-/
import Taskbook.Task.Basic
import Taskbook.Text.Lines

namespace Taskbook

/-- A character of a tag's value. -/
def isTagValue (c : Char) : Bool := isWord c || c = '.' || c = '-'

/-- A line end at which a line is cut. -/
def isLineCut (c : Char) : Bool := c = '\r' || c = '\n'

/-- A text without the colon at its head. -/
def dropColon : Text → Text
  | ':' :: rest => rest
  | s => s

/-- The keyword at the head of a text and what follows the blanks behind it. -/
def Keyword.read? (keyword : Keyword) (s : Text) : Option Text :=
  match Text.dropPrefix? keyword.word s with
  | none => none
  | some after =>
    match dropColon after with
    | [] => none
    | c :: rest => if isBlank c then some (rest.dropWhile isBlank) else none

/-- A line's keyword, the first that can be read, and what follows it. -/
def readKeyword? (s : Text) : Option (Keyword × Text) :=
  Keyword.all.findSome? fun keyword => (keyword.read? s).map (keyword, ·)

/-- The tag at the head of a text and what follows the blanks behind it. -/
def readTag? (s : Text) : Option ((Text × Text) × Text) :=
  match s.takeWhile isWord, s.dropWhile isWord with
  | k :: ey, ':' :: rest =>
    match rest.takeWhile isTagValue, rest.dropWhile isTagValue with
    | v :: alue, c :: after =>
      if isBlank c then some ((k :: ey, v :: alue), after.dropWhile isBlank) else none
    | _, _ => none
  | _, _ => none

theorem length_dropWhile_le (p : Char → Bool) (s : Text) : (s.dropWhile p).length ≤ s.length :=
  (List.dropWhile_suffix p).length_le

theorem length_of_readTag? {s rest : Text} {tag : Text × Text} (h : readTag? s = some (tag, rest)) :
    rest.length < s.length := by
  rw [readTag?] at h
  split at h
  · next k ey after hkey hafter =>
    have hs := congrArg List.length (List.takeWhile_append_dropWhile (p := isWord) (l := s))
    rw [hkey, hafter] at hs
    split at h
    · next v alue c tail hvalue htail =>
      have hr := length_dropWhile_le isTagValue after
      rw [htail] at hr
      split at h
      · obtain ⟨_, rfl⟩ := Prod.mk.inj (Option.some.inj h)
        have := length_dropWhile_le isBlank tail
        simp only [List.length_append, List.length_cons] at hs hr
        omega
      · cases h
    · cases h
  · cases h

/-- The tags at the head of a text and what follows them. -/
def readTags (s : Text) : Tags × Text :=
  match _h : readTag? s with
  | none => ([], s)
  | some (tag, rest) =>
    let more := readTags rest
    (tag :: more.1, more.2)
termination_by s.length
decreasing_by exact length_of_readTag? _h

/-- A text without the bullet at its head: a star and the blanks behind it. -/
def dropBullet (s : Text) : Text :=
  match s with
  | '*' :: c :: rest => if isBlank c then rest.dropWhile isBlank else s
  | _ => s

namespace Task

/-- The task on a line, if the line is a task line. Line ends at the end of the line do not count; a
    line feed within the description makes the line plain text. -/
def parse? (line : Text) : Option Task :=
  let s := Text.trimEnd isLineCut line ++ [' ']
  match readKeyword? (dropBullet (s.dropWhile isBlank)) with
  | none => none
  | some (keyword, rest) =>
    let (tags, description) := readTags rest
    if description.contains '\n' then none
    else some { keyword, tags, description := Text.trim isBlank description }

/-- The tasks of a text, line by line. -/
def parseAll (s : Text) : List Task := (Text.lines s).filterMap parse?

/-- The task as a line. -/
def print (task : Task) : Text :=
  Text.join [' '] <|
    task.keyword.word :: task.tags.map (fun tag => tag.1 ++ ':' :: tag.2) ++
      if task.description = [] then [] else [task.description]

end Task

end Taskbook
