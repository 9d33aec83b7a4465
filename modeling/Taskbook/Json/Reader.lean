/-
  JSON read from text. A text that is no JSON is refused at a place, the number of characters before
  it; one that goes beyond what a reader takes in, in levels or in the digits of a whole number, is
  refused as such where that shows. `NaN` and the infinities are taken for numbers. While reading, a
  place is the number of characters from it to the end.
-/
import Taskbook.Json.Basic
import Taskbook.Text.Class

namespace Taskbook.Json

/-- Why a text is refused. -/
inductive Failure where
  /-- The text ceases to be JSON at a place. -/
  | malformed (place : Nat)
  /-- The text goes beyond what is taken in. -/
  | excessive
  deriving DecidableEq, Repr

/-- What was read and what follows it, or why reading failed. -/
abbrev Outcome (α : Type) := Except Failure (α × Text)

/-- The most digits of a whole number. -/
def maxDigits : Nat := 4300

/-- One of the four blanks of JSON. -/
def isSpace (c : Char) : Bool := c = ' ' || c = '\t' || c = '\n' || c = '\r'

/-- What follows blanks. -/
def skipSpace (s : Text) : Text := s.dropWhile isSpace

/-- What a letter behind a backslash stands for. -/
def unescapeChar? (c : Char) : Option Char :=
  match c with
  | '"' => some '"'
  | '\\' => some '\\'
  | '/' => some '/'
  | 'b' => some '\x08'
  | 'f' => some '\x0c'
  | 'n' => some '\n'
  | 'r' => some '\r'
  | 't' => some '\t'
  | _ => none

/-- The value of four digits of base 16. -/
def hexQuad? (a b c d : Char) : Option Nat := do
  some (((← hexValue? a) * 16 + (← hexValue? b)) * 256 + (← hexValue? c) * 16 + (← hexValue? d))

/-- Whether a code unit is the first of a pair. -/
def isFirstUnit (n : Nat) : Bool := 0xd800 ≤ n && n ≤ 0xdbff

/-- Whether a code unit is the second of a pair. -/
def isSecondUnit (n : Nat) : Bool := 0xdc00 ≤ n && n ≤ 0xdfff

/-- The character of a code unit that stands alone; half of a pair has none. -/
def unitChar? (n : Nat) : Option Char :=
  if isFirstUnit n || isSecondUnit n then none else some (Char.ofNat n)

/-- The character of a pair of code units. -/
def pairChar (first second : Nat) : Char :=
  Char.ofNat (0x10000 + (first - 0xd800) * 0x400 + (second - 0xdc00))

/-- The character of the code unit `first` and what follows it: a unit written behind it may be the
    second of the pair. -/
def readFollowing (first : Nat) (s : Text) : Outcome (Option Char) :=
  match s with
  | '\\' :: 'u' :: f :: g :: h :: i :: j :: more =>
    if isFirstUnit first then
      match hexQuad? f g h i with
      | none => .error (.malformed (more.length + 6))
      | some second =>
        if isSecondUnit second then .ok (some (pairChar first second), j :: more)
        else .ok (unitChar? first, s)
    else .ok (unitChar? first, s)
  | _ => .ok (unitChar? first, s)

theorem length_of_readFollowing {first : Nat} {s after : Text} {c : Option Char}
    (h : readFollowing first s = .ok (c, after)) : after.length ≤ s.length := by
  have same {d : Option Char} (h : (.ok (d, s) : Outcome (Option Char)) = .ok (c, after)) :
      after.length ≤ s.length := by
    injection h with h
    injection h with _ h
    exact h ▸ Nat.le_refl _
  unfold readFollowing at h
  split at h
  · split at h
    · split at h
      · contradiction
      · split at h
        · injection h with h
          injection h with _ h
          subst h
          simp only [List.length_cons]
          omega
        · exact same h
    · exact same h
  · exact same h

/-- A character written as `\u` and four digits, or as two such units; the text is what follows the
    first `u`. At least one character has to follow the digits. -/
def readUnit (s : Text) : Outcome (Option Char) :=
  match s with
  | a :: b :: c :: d :: e :: rest =>
    match hexQuad? a b c d with
    | none => .error (.malformed (s.length + 1))
    | some first => readFollowing first (e :: rest)
  | _ => .error (.malformed (s.length + 1))

theorem length_of_readUnit {s after : Text} {c : Option Char} (h : readUnit s = .ok (c, after)) :
    after.length ≤ s.length := by
  unfold readUnit at h
  split at h
  · split at h
    · contradiction
    · have := length_of_readFollowing h
      simp only [List.length_cons] at this ⊢
      omega
  · contradiction

/-- A character before the rest of a string, which has no text if one of them has none. -/
def putBefore (c : Option Char) (read : Option Text × Text) : Option Text × Text :=
  (c.bind fun c => read.1.map (c :: ·), read.2)

/-- The rest of a string that was opened at the place `opened`. There is no text if half of a pair
    stands alone in it. -/
def readString (opened : Nat) (s : Text) : Outcome (Option Text) :=
  match s with
  | [] => .error (.malformed opened)
  | '"' :: rest => .ok (some [], rest)
  | ['\\'] => .error (.malformed opened)
  | '\\' :: 'u' :: rest =>
    match _h : readUnit rest with
    | .error failure => .error failure
    | .ok (c, after) => (readString opened after).map (putBefore c)
  | '\\' :: c :: rest =>
    match unescapeChar? c with
    | none => .error (.malformed s.length)
    | some c => (readString opened rest).map (putBefore (some c))
  | c :: rest =>
    if c.toNat < 0x20 then .error (.malformed s.length)
    else (readString opened rest).map (putBefore (some c))
termination_by s.length
decreasing_by
  · have := length_of_readUnit _h
    simp only [List.length_cons]
    omega
  all_goals simp only [List.length_cons]; omega

/-- The digits at the head of a text and what follows them. -/
def readDigits (s : Text) : Text × Text := Text.takeRun isAsciiDigit s

/-- The fraction at the head of a text, a point and digits, if there is one. -/
def readFraction (s : Text) : Text × Text :=
  match s with
  | '.' :: rest =>
    match readDigits rest with
    | ([], _) => ([], s)
    | (digits, after) => ('.' :: digits, after)
  | _ => ([], s)

/-- The exponent at the head of a text, if there is one. -/
def readExponent (s : Text) : Text × Text :=
  match s with
  | e :: rest =>
    if e = 'e' || e = 'E' then
      let (sign, rest) : Text × Text :=
        match rest with
        | c :: more => if c = '+' || c = '-' then ([c], more) else ([], rest)
        | [] => ([], [])
      match readDigits rest with
      | ([], _) => ([], s)
      | (digits, after) => (e :: sign ++ digits, after)
    else ([], s)
  | [] => ([], [])

/-- The numeral at the head of a text and what follows it. A leading zero stands alone. -/
def readNumeral? (s : Text) : Option (Text × Text) :=
  let (sign, rest) : Text × Text :=
    match s with
    | '-' :: more => (['-'], more)
    | _ => ([], s)
  let (whole, rest) : Text × Text :=
    match rest with
    | '0' :: more => (['0'], more)
    | _ => readDigits rest
  if whole = [] then none
  else
    let (fraction, rest) := readFraction rest
    let (exponent, rest) := readExponent rest
    some (sign ++ whole ++ fraction ++ exponent, rest)

/-- The words that are values. -/
def words : List (Text × Json) :=
  [("null", .null), ("true", .bool true), ("false", .bool false), ("NaN", .number "NaN"),
   ("Infinity", .number "Infinity"), ("-Infinity", .number "-Infinity")]

/-- The word at the head of a text as a value, and what follows it. -/
def readWord? (s : Text) : Option (Json × Text) :=
  words.findSome? fun (word, value) => (Text.dropPrefix? word s).map (value, ·)

/-- A string as a value. -/
def ofString (read : Option Text) : Json := (read.map .string).getD .unpaired

/-- A member of an object. One whose key has no text is never asked for, so only that it is there is
    kept, with the empty key. -/
def member (key : Option Text) (value : Json) : Text × Json :=
  match key with
  | some key => (key, value)
  | none => ([], .unpaired)

/-- How a value is read. -/
abbrev ReadValue := Text → Except Failure (Json × Text)

/-- The items of an array from the next one on, with at most the given number of them. -/
def readItems (self : ReadValue) : Nat → Text → Except Failure (List Json × Text)
  | 0, s => .error (.malformed s.length)
  | budget + 1, s => do
    let (item, rest) ← self s
    match skipSpace rest with
    | ']' :: after => .ok ([item], after)
    | ',' :: after =>
      let (items, after) ← readItems self budget (skipSpace after)
      .ok (item :: items, after)
    | rest => .error (.malformed rest.length)

/-- The members of an object from the next one on, with at most the given number of them. -/
def readMembers (self : ReadValue) : Nat → Text → Except Failure (List (Text × Json) × Text)
  | 0, s => .error (.malformed s.length)
  | budget + 1, s =>
    match s with
    | '"' :: rest => do
      let (key, rest) ← readString s.length rest
      match skipSpace rest with
      | ':' :: rest =>
        let (value, rest) ← self (skipSpace rest)
        match skipSpace rest with
        | '\x7d' :: after => .ok ([member key value], after)
        | ',' :: after =>
          let (members, after) ← readMembers self budget (skipSpace after)
          .ok (member key value :: members, after)
        | rest => .error (.malformed rest.length)
      | rest => .error (.malformed rest.length)
    | _ => .error (.malformed s.length)

/-- A numeral as a number. -/
def readNumber (numeral rest : Text) : Outcome Json :=
  if numeral.all (fun c => isAsciiDigit c || c = '-') && maxDigits < numeral.countP isAsciiDigit then
    .error .excessive
  else .ok (.number numeral, rest)

/-- The value at the head of a text, of at most the given number of levels. -/
def readValue : Nat → ReadValue
  | levels, '[' :: rest =>
    match levels, skipSpace rest with
    | 0, _ => .error .excessive
    | _, ']' :: after => .ok (.array [], after)
    | levels + 1, body =>
      (readItems (readValue levels) (body.length + 1) body).map fun read => (.array read.1, read.2)
  | levels, '\x7b' :: rest =>
    match levels, skipSpace rest with
    | 0, _ => .error .excessive
    | _, '\x7d' :: after => .ok (.object [], after)
    | levels + 1, body =>
      (readMembers (readValue levels) (body.length + 1) body).map fun read =>
        (.object read.1, read.2)
  | _, s@('"' :: rest) => (readString s.length rest).map fun read => (ofString read.1, read.2)
  | _, s =>
    match readWord? s with
    | some read => .ok read
    | none =>
      match readNumeral? s with
      | some (numeral, rest) => readNumber numeral rest
      | none => .error (.malformed s.length)

/-- The value of at most the given number of levels that a text stands for, or why there is none; a
    place is then the number of characters before it. -/
def read (levels : Nat) (s : Text) : Except Failure Json :=
  match readValue levels (skipSpace s) with
  | .error (.malformed left) => .error (.malformed (s.length - left))
  | .error .excessive => .error .excessive
  | .ok (value, rest) =>
    match skipSpace rest with
    | [] => .ok value
    | rest => .error (.malformed (s.length - rest.length))

end Taskbook.Json
