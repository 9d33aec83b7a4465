/-
  HTML of a fixed form with slots for texts. A text in a slot is escaped: it has no angle bracket
  and no quote in it (`not_markup_of_mem_escape`), and reading the references gives it back
  (`unescape_escape`). So the angle brackets are those of the fixed pieces (`brackets_fill`), and
  if each slot is closed off by a bracket or a quote, the texts are read back (`read?_fill`).
-/
import Taskbook.Html.CharacterReference
import Taskbook.Html.Node
import Taskbook.Proofs.Text.Cut

namespace Taskbook.Html

/-! ## Escaped texts -/

theorem unescape_cons {c : Char} (hc : c ≠ '&') (rest : Text) :
    unescape (c :: rest) = c :: unescape rest := by
  rw [unescape, if_neg hc]

theorem unescape_reference (reference value : Text) {rest : Text}
    (h : readReference? (reference ++ rest) = some (value, rest)) :
    unescape ('&' :: (reference ++ rest)) = value ++ unescape rest := by
  have hlength : rest.length ≤ (reference ++ rest).length := by
    rw [List.length_append]
    omega
  rw [unescape, if_pos rfl, h]
  dsimp only
  rw [if_pos hlength]

/-- A character in front of a text is read from what it is written as. -/
theorem unescape_escapeChar (c : Char) (rest : Text) :
    unescape (escapeChar c ++ rest) = c :: unescape rest := by
  unfold escapeChar
  split
  · exact unescape_reference "amp;" ['&'] rfl
  · exact unescape_reference "lt;" ['<'] rfl
  · exact unescape_reference "gt;" ['>'] rfl
  · exact unescape_reference "quot;" ['"'] rfl
  · exact unescape_reference "#x27;" ['\''] rfl
  · next hamp _ _ _ _ => exact unescape_cons hamp rest

theorem escape_append (s t : Text) : escape (s ++ t) = escape s ++ escape t := by
  simp [escape]

theorem escape_cons (c : Char) (s : Text) : escape (c :: s) = escapeChar c ++ escape s := rfl

/-- Escaping is undone. -/
theorem unescape_escape (s : Text) : unescape (escape s) = s := by
  induction s with
  | nil => rw [escape, List.flatMap_nil, unescape]
  | cons c s ih => rw [escape_cons, unescape_escapeChar, ih]

/-- The characters that open and close tags and values. -/
def isMarkup (c : Char) : Bool := c = '<' || c = '>' || c = '"' || c = '\''

theorem not_markup_of_mem_escapeChar {c d : Char} (h : c ∈ escapeChar d) :
    isMarkup c = false := by
  have hall : (["&amp;", "&lt;", "&gt;", "&quot;", "&#x27;"] : List String).all
      (fun reference => reference.toList.all fun c => !isMarkup c) = true := by decide
  have hreference : ∀ reference ∈ (["&amp;", "&lt;", "&gt;", "&quot;", "&#x27;"] : List String),
      ∀ c ∈ reference.toList, isMarkup c = false := by
    simpa only [List.all_eq_true, Bool.not_eq_true'] using hall
  unfold escapeChar at h
  split at h
  · exact hreference "&amp;" (by decide) c h
  · exact hreference "&lt;" (by decide) c h
  · exact hreference "&gt;" (by decide) c h
  · exact hreference "&quot;" (by decide) c h
  · exact hreference "&#x27;" (by decide) c h
  · next hlt hgt hquote happ =>
    rw [List.mem_singleton.mp h, isMarkup]
    simp only [Bool.or_eq_false_iff, decide_eq_false_iff_not]
    exact ⟨⟨⟨hlt, hgt⟩, hquote⟩, happ⟩

theorem not_markup_of_mem_escape {c : Char} {s : Text} (h : c ∈ escape s) : isMarkup c = false := by
  obtain ⟨d, -, hd⟩ := List.mem_flatMap.mp h
  exact not_markup_of_mem_escapeChar hd

theorem notMem_escape {c : Char} (hc : isMarkup c = true) (s : Text) : c ∉ escape s := by
  intro h
  rw [not_markup_of_mem_escape h] at hc
  cases hc

/-! ## Pieces -/

/-- A piece of HTML: a fixed one, or a slot for a text. -/
inductive Piece where
  | fixed (text : Text)
  | slot
  deriving DecidableEq

/-- Pieces with texts in their slots. A slot without a text stays empty. -/
def fill : List Piece → List Text → Text
  | [], _ => []
  | .fixed text :: rest, texts => text ++ fill rest texts
  | .slot :: rest, text :: texts => escape text ++ fill rest texts
  | .slot :: rest, [] => fill rest []

/-- The number of slots. -/
def slots (pieces : List Piece) : Nat := pieces.count .slot

/-- The angle brackets of a text, one after another. -/
def brackets (s : Text) : Text := s.filter fun c => c = '<' || c = '>'

/-- The texts in the slots. A slot goes up to the first text that is the next fixed piece, and the
    references in it are read. -/
def read? : List Piece → Text → Option (List Text)
  | [], s => if s = [] then some [] else none
  | .fixed text :: rest, s => (Text.dropPrefix? text s).bind (read? rest)
  | .slot :: .fixed text :: rest, s =>
    (Text.cut? text s).bind fun parts => (read? rest parts.2).map (unescape parts.1 :: ·)
  | .slot :: _, _ => none

/-- Behind each slot a fixed piece stands with an angle bracket or a quote in it. -/
def Sealed : List Piece → Prop
  | [] => True
  | .fixed _ :: rest => Sealed rest
  | .slot :: .fixed text :: rest => ('<' ∈ text ∨ '"' ∈ text) ∧ Sealed rest
  | .slot :: _ => False

variable {pieces more : List Piece} {texts others : List Text}

theorem not_sealed_slot (h : ∀ text rest, pieces = .fixed text :: rest → False) :
    ¬ Sealed (.slot :: pieces) := by
  cases pieces with
  | nil => exact id
  | cons piece rest =>
    cases piece with
    | fixed text => exact (h text rest rfl).elim
    | slot => exact id

@[simp] theorem slots_nil : slots [] = 0 := rfl

@[simp] theorem slots_fixed (text : Text) (pieces : List Piece) :
    slots (.fixed text :: pieces) = slots pieces := by
  simp [slots]

@[simp] theorem slots_slot (pieces : List Piece) : slots (.slot :: pieces) = slots pieces + 1 := by
  simp [slots]

@[simp] theorem slots_append (pieces more : List Piece) :
    slots (pieces ++ more) = slots pieces + slots more :=
  List.count_append

theorem fill_append (h : texts.length = slots pieces) (more : List Piece) (others : List Text) :
    fill (pieces ++ more) (texts ++ others) = fill pieces texts ++ fill more others := by
  induction pieces generalizing texts with
  | nil =>
    obtain rfl : texts = [] := List.length_eq_zero_iff.mp h
    rfl
  | cons piece pieces ih =>
    cases piece with
    | fixed text =>
      have hrest : texts.length = slots pieces := by simpa using h
      simp only [List.cons_append, fill, ih hrest, List.append_assoc]
    | slot =>
      cases texts with
      | nil => simp at h
      | cons text texts =>
        have hrest : texts.length = slots pieces := by simpa using h
        simp only [List.cons_append, fill, ih hrest, List.append_assoc]

theorem sealed_append (h : Sealed pieces) (hmore : Sealed more) : Sealed (pieces ++ more) := by
  induction pieces using Sealed.induct with
  | case1 => exact hmore
  | case2 text rest ih => exact ih h
  | case3 text rest ih => exact ⟨h.1, ih h.2⟩
  | case4 rest hnot => exact absurd h (not_sealed_slot hnot)

/-- What a slot is sealed by is sealed itself. -/
theorem sealed_tail (h : Sealed (.slot :: pieces)) : Sealed pieces := by
  cases pieces with
  | nil => exact absurd h id
  | cons piece rest =>
    cases piece with
    | fixed text => exact h.2
    | slot => exact absurd h id

theorem brackets_append (s t : Text) : brackets (s ++ t) = brackets s ++ brackets t :=
  List.filter_append s t

theorem brackets_escape (s : Text) : brackets (escape s) = [] := by
  refine List.filter_eq_nil_iff.mpr fun c hc => ?_
  have hmarkup := not_markup_of_mem_escape hc
  simp only [isMarkup, Bool.or_eq_false_iff] at hmarkup
  simp [hmarkup.1.1.1, hmarkup.1.1.2]

/-- The angle brackets are those of the fixed pieces. -/
theorem brackets_fill (pieces : List Piece) (texts : List Text) :
    brackets (fill pieces texts) = brackets (fill pieces []) := by
  induction pieces generalizing texts with
  | nil => rfl
  | cons piece pieces ih =>
    cases piece with
    | fixed text =>
      rw [fill, fill, brackets_append, brackets_append, ih]
    | slot =>
      cases texts with
      | nil => rfl
      | cons text texts =>
        rw [fill, fill, brackets_append, brackets_escape, ih, List.nil_append]

/-- The texts in sealed slots are read back. -/
theorem read?_fill (hsealed : Sealed pieces) (hlength : texts.length = slots pieces) :
    read? pieces (fill pieces texts) = some texts := by
  induction pieces using Sealed.induct generalizing texts with
  | case1 =>
    obtain rfl : texts = [] := List.length_eq_zero_iff.mp hlength
    rfl
  | case2 text rest ih =>
    have hrest : texts.length = slots rest := by simpa using hlength
    have hdrop : Text.dropPrefix? text (text ++ fill rest texts) = some (fill rest texts) :=
      Text.dropPrefix?_eq_some_iff.mpr rfl
    rw [fill, read?, hdrop]
    exact ih hsealed hrest
  | case3 text rest ih =>
    obtain ⟨hmark, hsealed⟩ := hsealed
    cases texts with
    | nil => simp at hlength
    | cons content texts =>
      have hrest : texts.length = slots rest := by simpa using hlength
      have hcut : Text.cut? text (escape content ++ (text ++ fill rest texts)) =
          some (escape content, fill rest texts) := by
        rcases hmark with hmark | hmark
        · exact Text.cut?_of_notMem hmark (notMem_escape rfl content) _
        · exact Text.cut?_of_notMem hmark (notMem_escape rfl content) _
      rw [fill, fill, read?, hcut, Option.bind_some, ih hsealed hrest, Option.map_some,
        unescape_escape]
  | case4 rest hnot => exact absurd hsealed (not_sealed_slot hnot)

end Taskbook.Html
