/-
  Sections. HTML is cut before each heading tag of a level; a piece becomes a section whose heading
  carries its anchor as `id`, and behind the closing tag of the heading the next level is nested in
  the same way. Headings below the second level stay as they are.
-/
import Taskbook.Page.Anchor

namespace Taskbook.Page

/-- The deepest level that has sections. -/
def maxLevel : Int := 2

/-- Whether a character is some case of `i`, the dotless and the dotted one included. -/
def isLetterI (c : Char) : Bool :=
  c = 'i' || c = 'I' || c = Char.ofNat 0x130 || c = Char.ofNat 0x131

/-- What follows a value without quotes, which is not empty and ends at a blank. -/
def skipBareValue? (s : Text) : Option Text :=
  match s with
  | c :: rest =>
    if isBlank c || c = '>' then none else some (rest.dropWhile fun d => !isBlank d && d ≠ '>')
  | [] => none

/-- What follows the value of an attribute. A quote that is not closed starts a bare value. -/
def skipValue? (s : Text) : Option Text :=
  match s with
  | c :: rest =>
    if c = '"' || c = '\'' then
      match rest.dropWhile (· ≠ c) with
      | _ :: after => some after
      | [] => skipBareValue? s
    else skipBareValue? s
  | [] => none

/-- What follows an `id` attribute and the blanks before it. -/
def skipId? (s : Text) : Option Text :=
  match s with
  | b :: head =>
    if isBlank b then
      match head.dropWhile isBlank with
      | i :: d :: rest =>
        if isLetterI i && (d = 'd' || d = 'D') then
          match rest.dropWhile isBlank with
          | '=' :: value => skipValue? (value.dropWhile isBlank)
          | _ => none
        else none
      | _ => none
    else none
  | [] => none

theorem length_of_skipBareValue? {s rest : Text} (h : skipBareValue? s = some rest) :
    rest.length < s.length := by
  unfold skipBareValue? at h
  split at h
  · next c tail =>
    split at h
    · cases h
    · have := (List.dropWhile_suffix (fun d => !isBlank d && d ≠ '>') (l := tail)).length_le
      rw [← Option.some.inj h]
      simp only [List.length_cons]
      omega
  · cases h

theorem length_of_skipValue? {s rest : Text} (h : skipValue? s = some rest) :
    rest.length < s.length := by
  unfold skipValue? at h
  split at h
  · next c tail =>
    split at h
    · split at h
      · next q after hq =>
        have := (List.dropWhile_suffix (· ≠ c) (l := tail)).length_le
        rw [hq] at this
        rw [← Option.some.inj h]
        simp only [List.length_cons] at this ⊢
        omega
      · exact length_of_skipBareValue? h
    · exact length_of_skipBareValue? h
  · cases h

theorem length_of_skipId? {s rest : Text} (h : skipId? s = some rest) :
    rest.length < s.length := by
  unfold skipId? at h
  split at h
  · next b head =>
    split at h
    · split at h
      · next i d tail hhead =>
        split at h
        · split at h
          · next value hvalue =>
            have h1 := (List.dropWhile_suffix isBlank (l := head)).length_le
            have h2 := (List.dropWhile_suffix isBlank (l := tail)).length_le
            have h3 := (List.dropWhile_suffix isBlank (l := value)).length_le
            have h4 := length_of_skipValue? h
            rw [hhead] at h1
            rw [hvalue] at h2
            simp only [List.length_cons] at h1 h2 ⊢
            omega
          · cases h
        · cases h
      · cases h
    · cases h
  · cases h

/-- The attributes of a tag without every `id`. -/
def dropIds (s : Text) : Text :=
  match _h : skipId? s with
  | some after => dropIds after
  | none =>
    match s with
    | [] => []
    | c :: rest => c :: dropIds rest
termination_by s.length
decreasing_by
  · exact length_of_skipId? _h
  · simp

/-- One section: a piece of HTML that begins behind the name of a heading tag, with `inner` done to
    what follows the heading. -/
def wrap (level : Int) (inner : Text → Text) (fragment : Text) : Text :=
  let digit := Text.ofInt level
  let (attributes, body) :=
    match Text.cut? ">" fragment with
    | some (before, after) =>
      let close := "</h" ++ digit ++ ">"
      let after :=
        if level < maxLevel then
          match Text.cut? close after with
          | some (heading, rest) => heading ++ close ++ inner rest
          | none => after
        else after
      (before, '>' :: after)
    | none => (fragment, [])
  "<div class=\"section" ++ digit ++ "\"><h" ++ digit ++ " id=\"" ++ anchor fragment ++ "\"" ++
    dropIds attributes ++ body ++ "</div>"

/-- HTML with the headings from `level` on put into sections. -/
def nest (level : Int) (html : Text) : Text :=
  if maxLevel < level then html
  else
    match Text.splitOn ("<h" ++ Text.ofInt level) html with
    | [] => []
    | first :: pieces => first ++ pieces.flatMap (wrap level (nest (level + 1)))
termination_by (maxLevel + 1 - level).toNat
decreasing_by omega

end Taskbook.Page
