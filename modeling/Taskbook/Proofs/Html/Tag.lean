/-
  HTML cut at its tags. Writing and reading are inverse: markup is read back from the text it is
  written as (`Markup.read_write`), and a text in which every opening angle bracket opens a tag is
  what its markup is written as (`Markup.write_read`).
-/
import Taskbook.Proofs.Text.Trim

namespace Taskbook.Html

/-- A tag, by what stands between its angle brackets, with the text up to the next tag. -/
structure Tag where
  inside : Text
  after : Text
  deriving DecidableEq

/-- A tag as it is written. -/
def Tag.write (tag : Tag) : Text := '<' :: tag.inside ++ '>' :: tag.after

/-- Tags one after another. -/
def writeTags (tags : List Tag) : Text := tags.flatMap Tag.write

/-- HTML: the text in front of the first tag, and the tags. -/
structure Markup where
  front : Text
  tags : List Tag
  deriving DecidableEq

namespace Markup

def write (markup : Markup) : Text := markup.front ++ writeTags markup.tags

/-- The HTML of a text. An opening angle bracket opens a tag, which goes up to the next closing
    one. -/
def read : Text → Markup
  | [] => ⟨[], []⟩
  | c :: rest =>
    let markup := read rest
    if c = '<' then
      { front := []
        tags :=
          { inside := markup.front.takeWhile (· ≠ '>')
            after := (markup.front.dropWhile (· ≠ '>')).drop 1 } :: markup.tags }
    else { markup with front := c :: markup.front }

end Markup

/-- The angle brackets of a tag are the two around it. -/
structure Tag.WellFormed (tag : Tag) : Prop where
  noOpening : '<' ∉ tag.inside
  noClosing : '>' ∉ tag.inside
  after : '<' ∉ tag.after

structure Markup.WellFormed (markup : Markup) : Prop where
  front : '<' ∉ markup.front
  tags : ∀ tag ∈ markup.tags, tag.WellFormed

instance (tag : Tag) : Decidable tag.WellFormed :=
  decidable_of_iff ('<' ∉ tag.inside ∧ '>' ∉ tag.inside ∧ '<' ∉ tag.after)
    ⟨fun h => ⟨h.1, h.2.1, h.2.2⟩, fun h => ⟨h.noOpening, h.noClosing, h.after⟩⟩

instance (markup : Markup) : Decidable markup.WellFormed :=
  decidable_of_iff ('<' ∉ markup.front ∧ ∀ tag ∈ markup.tags, tag.WellFormed)
    ⟨fun h => ⟨h.1, h.2⟩, fun h => ⟨h.front, h.tags⟩⟩

/-- Every opening angle bracket opens a tag, with no other angle bracket up to its end. -/
def ClosesTags (html : Text) : Prop :=
  ∀ before rest, html = before ++ '<' :: rest →
    ∃ inside after, rest = inside ++ '>' :: after ∧ '<' ∉ inside ∧ '>' ∉ inside

theorem ClosesTags.tail {c : Char} {s : Text} (h : ClosesTags (c :: s)) : ClosesTags s :=
  fun before rest heq => h (c :: before) rest (by rw [heq]; rfl)

/-! ## Writing -/

@[simp] theorem writeTags_nil : writeTags [] = [] := rfl

theorem writeTags_cons (tag : Tag) (tags : List Tag) :
    writeTags (tag :: tags) = tag.write ++ writeTags tags := rfl

theorem writeTags_append (tags more : List Tag) :
    writeTags (tags ++ more) = writeTags tags ++ writeTags more := by
  simp [writeTags]

theorem writeTags_flatMap {α : Type} (items : List α) (f : α → List Tag) :
    writeTags (items.flatMap f) = items.flatMap fun item => writeTags (f item) := by
  simp [writeTags, List.flatMap_assoc]

theorem Tag.write_append (tag : Tag) (rest : Text) :
    tag.write ++ rest = '<' :: (tag.inside ++ '>' :: (tag.after ++ rest)) := by
  simp [write]

/-! ## Reading -/

namespace Markup

variable {markup : Markup} {html s : Text}

theorem read_cons_of_ne {c : Char} (hc : c ≠ '<') (rest : Text) :
    read (c :: rest) = { read rest with front := c :: (read rest).front } := by
  rw [read]
  simp only [hc, if_false]

theorem read_append (hs : '<' ∉ s) (rest : Text) :
    read (s ++ rest) = { read rest with front := s ++ (read rest).front } := by
  induction s with
  | nil => rfl
  | cons c s ih =>
    simp only [List.mem_cons, not_or] at hs
    rw [List.cons_append, read_cons_of_ne (Ne.symm hs.1), ih hs.2]
    rfl

/-- An opening angle bracket, what is inside the tag, and a closing one are read as a tag. -/
theorem read_tag {inside : Text} (hopening : '<' ∉ inside) (hclosing : '>' ∉ inside)
    (rest : Text) :
    read ('<' :: (inside ++ '>' :: rest)) =
      { front := [], tags := ⟨inside, (read rest).front⟩ :: (read rest).tags } := by
  have hinside : ∀ c ∈ inside, decide (c ≠ '>') = true := by
    intro c hc
    simpa using fun h : c = '>' => hclosing (h ▸ hc)
  have hend : Text.StartsOutside (fun c => decide (c ≠ '>')) ('>' :: (read rest).front) :=
    Text.startsOutside_cons.mpr (by decide)
  have hgt : read ('>' :: rest) = { read rest with front := '>' :: (read rest).front } :=
    read_cons_of_ne (by decide) rest
  rw [read, read_append hopening, hgt]
  dsimp only
  rw [if_pos rfl, Text.takeWhile_append hinside hend, Text.dropWhile_append hinside hend]
  rfl

theorem wellFormed_read (html : Text) : (read html).WellFormed := by
  induction html with
  | nil => exact ⟨List.not_mem_nil, nofun⟩
  | cons c rest ih =>
    by_cases hc : c = '<'
    · subst hc
      rw [read]
      refine ⟨List.not_mem_nil, List.forall_mem_cons.mpr ⟨⟨fun h => ?_, fun h => ?_, fun h => ?_⟩,
        ih.tags⟩⟩
      · exact ih.front (List.takeWhile_subset _ h)
      · simpa using List.mem_takeWhile_imp h
      · exact ih.front (List.dropWhile_subset _ (List.mem_of_mem_drop h))
    · rw [read_cons_of_ne hc]
      exact ⟨by simpa [Ne.symm hc] using ih.front, ih.tags⟩

theorem read_writeTags {tags : List Tag} (h : ∀ tag ∈ tags, tag.WellFormed) :
    read (writeTags tags) = ⟨[], tags⟩ := by
  induction tags with
  | nil => rfl
  | cons tag tags ih =>
    obtain ⟨htag, htags⟩ := List.forall_mem_cons.mp h
    rw [writeTags_cons, Tag.write_append, read_tag htag.noOpening htag.noClosing,
      read_append htag.after, ih htags, List.append_nil]

theorem read_write (h : markup.WellFormed) : read markup.write = markup := by
  rw [write, read_append h.front, read_writeTags h.tags, List.append_nil]

theorem write_read (h : ClosesTags html) : (read html).write = html := by
  induction html with
  | nil => rfl
  | cons c rest ih =>
    have hrest := ih h.tail
    by_cases hc : c = '<'
    · subst hc
      obtain ⟨inside, after, rfl, hopening, hclosing⟩ := h [] rest rfl
      have hgt : '>' :: after = ['>'] ++ after := rfl
      rw [hgt, ← List.append_assoc, read_append (by simp [hopening])] at hrest
      rw [read_tag hopening hclosing]
      simpa [write, writeTags_cons, Tag.write] using hrest
    · rw [read_cons_of_ne hc]
      simpa [write] using hrest

end Markup

/-! ## Texts in which every tag is closed -/

theorem closesTags_append {s t : Text} (hs : '<' ∉ s) (ht : ClosesTags t) :
    ClosesTags (s ++ t) := by
  induction s with
  | nil => exact ht
  | cons c s ih =>
    simp only [List.mem_cons, not_or] at hs
    intro before rest heq
    cases before with
    | nil => exact absurd (List.cons.inj heq).1.symm hs.1
    | cons b before => exact ih hs.2 before rest (List.cons.inj heq).2

theorem closesTags_writeTags {tags : List Tag} (h : ∀ tag ∈ tags, tag.WellFormed) :
    ClosesTags (writeTags tags) := by
  induction tags with
  | nil =>
    intro before rest heq
    simp at heq
  | cons tag tags ih =>
    obtain ⟨htag, htags⟩ := List.forall_mem_cons.mp h
    have hrest : ClosesTags (tag.inside ++ '>' :: tag.after ++ writeTags tags) :=
      closesTags_append (by simp [htag.noOpening, htag.after]) (ih htags)
    intro before rest heq
    cases before with
    | nil =>
      obtain ⟨-, rfl⟩ := List.cons.inj heq
      have hwrite : tag.inside ++ '>' :: tag.after ++ writeTags tags =
          tag.inside ++ '>' :: (tag.after ++ writeTags tags) := by simp
      exact ⟨tag.inside, tag.after ++ writeTags tags, hwrite, htag.noOpening, htag.noClosing⟩
    | cons b before => exact hrest before rest (List.cons.inj heq).2

theorem Markup.WellFormed.closesTags {markup : Markup} (h : markup.WellFormed) :
    ClosesTags markup.write :=
  closesTags_append h.front (closesTags_writeTags h.tags)

end Taskbook.Html
