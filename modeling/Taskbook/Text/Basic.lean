/-
  Text as a list of characters, and the operations on it that do not look at character classes:
  cutting at a separator, joining and trimming.
-/

namespace Taskbook

/-- A text is the list of its characters. -/
abbrev Text := List Char

/-- String literals stand for texts. -/
instance : Coe String Text := ⟨String.toList⟩

namespace Text

/-- The decimal digits of a number. -/
def ofNat (n : Nat) : Text := (Nat.repr n).toList

/-- The decimal digits of an integer, after a minus sign if it is negative. -/
def ofInt : Int → Text
  | .ofNat n => ofNat n
  | .negSucc n => '-' :: ofNat (n + 1)

/-- What follows the head `p`, if the text starts with it. -/
def dropPrefix? : Text → Text → Option Text
  | [], s => some s
  | _ :: _, [] => none
  | a :: p, c :: s => if a = c then dropPrefix? p s else none

theorem dropPrefix?_eq_some_iff {p s rest : Text} : dropPrefix? p s = some rest ↔ s = p ++ rest := by
  induction p generalizing s with
  | nil => simp [dropPrefix?]
  | cons a p ih =>
    cases s with
    | nil => simp [dropPrefix?]
    | cons c s =>
      by_cases h : a = c
      · simp [dropPrefix?, h, ih]
      · simp [dropPrefix?, h, Ne.symm h]

/-- The parts before and after the first occurrence of `sep`. -/
def cut? (sep : Text) : Text → Option (Text × Text)
  | [] => if sep.isEmpty then some ([], []) else none
  | c :: rest =>
    match dropPrefix? sep (c :: rest) with
    | some after => some ([], after)
    | none => (cut? sep rest).map fun parts => (c :: parts.1, parts.2)

theorem eq_of_cut? {sep s before after : Text} (h : cut? sep s = some (before, after)) :
    s = before ++ sep ++ after := by
  induction s generalizing before with
  | nil =>
    cases sep with
    | nil => simp [cut?] at h; simp [h.1, h.2]
    | cons a as => simp [cut?] at h
  | cons c rest ih =>
    rw [cut?] at h
    split at h
    · next r hr =>
      obtain ⟨rfl, rfl⟩ := Prod.mk.inj (Option.some.inj h)
      simpa using dropPrefix?_eq_some_iff.mp hr
    · obtain ⟨⟨b, a⟩, hb, hp⟩ := Option.map_eq_some_iff.mp h
      obtain ⟨rfl, rfl⟩ := Prod.mk.inj hp
      simp [ih hb]

/-- The pieces of a text between the occurrences of a separator, found from left to right. An empty
    separator cuts nothing. -/
def splitOn (sep s : Text) : List Text :=
  if _hs : sep = [] then [s] else
  match _h : cut? sep s with
  | none => [s]
  | some (before, after) => before :: splitOn sep after
termination_by s.length
decreasing_by
  have hlen := congrArg List.length (eq_of_cut? _h)
  have hpos := List.length_pos_iff.mpr _hs
  simp only [List.length_append] at hlen
  omega

/-- The texts one after another with `sep` between them. -/
def join (sep : Text) (parts : List Text) : Text := sep.intercalate parts

/-- The text without its longest tail in class `p`. -/
def trimEnd (p : Char → Bool) (s : Text) : Text := (s.reverse.dropWhile p).reverse

/-- The text without its longest head and longest tail in class `p`. -/
def trim (p : Char → Bool) (s : Text) : Text := trimEnd p (s.dropWhile p)

/-- The longest head in class `p`, and what follows it. -/
def takeRun (p : Char → Bool) (s : Text) : Text × Text := (s.takeWhile p, s.dropWhile p)

/-- Whether `s` starts with `p`. -/
def startsWith (s p : Text) : Bool := p.isPrefixOf s

/-- Whether `s` ends with `p`. -/
def endsWith (s p : Text) : Bool := p.isSuffixOf s

/-- One final line feed, if there is one, is taken off. -/
def dropFinalNewline (s : Text) : Text := if s.getLast? = some '\n' then s.dropLast else s

end Text

end Taskbook
