/-
  Attributes of a heading tag. What stands behind the name of a heading is read as attributes with
  blanks in front of them (`Attributes`). `dropIds` leaves out those of them that are an `id`, and
  keeps all others as they are (`dropIds_text`); an `id` that is put in front is left out again
  (`dropIds_idText`). The case of the name does not count, and the dotless and the dotted `i` are
  taken for cases of `i` (`Attribute.isId`).
-/
import Taskbook.Page.Section
import Taskbook.Proofs.Text.Trim

namespace Taskbook.Page

/-- An attribute, with the blanks in front of it. -/
structure Attribute where
  gap : Text
  name : Text
  value : Text
  deriving DecidableEq

namespace Attribute

/-- The attribute as it is written, with quotes around the value. -/
def text (item : Attribute) : Text :=
  item.gap ++ item.name ++ '=' :: '"' :: item.value ++ ['"']

/-- Whether the attribute is taken for an `id`. -/
def isId (item : Attribute) : Bool :=
  match item.name with
  | [i, d] => isLetterI i && (d = 'd' || d = 'D')
  | _ => false

/-- Blanks are in front of the attribute and nowhere else, no quote is in the value, and the name
    ends at the equals sign. -/
structure Plain (item : Attribute) : Prop where
  gap : IsGap item.gap
  name_ne_nil : item.name ≠ []
  name : ∀ c ∈ item.name, isBlank c = false ∧ c ≠ '='
  value : ∀ c ∈ item.value, isBlank c = false ∧ c ≠ '"' ∧ c ≠ '\''

theorem plain_iff {item : Attribute} : item.Plain ↔
    IsGap item.gap ∧ item.name ≠ [] ∧ item.name.all (fun c => !isBlank c && c ≠ '=') = true ∧
      item.value.all (fun c => !isBlank c && c ≠ '"' && c ≠ '\'') = true := by
  have hname : item.name.all (fun c => !isBlank c && c ≠ '=') = true ↔
      ∀ c ∈ item.name, isBlank c = false ∧ c ≠ '=' := by simp
  have hvalue : item.value.all (fun c => !isBlank c && c ≠ '"' && c ≠ '\'') = true ↔
      ∀ c ∈ item.value, isBlank c = false ∧ c ≠ '"' ∧ c ≠ '\'' := by simp [and_assoc]
  rw [hname, hvalue]
  exact ⟨fun h => ⟨h.gap, h.name_ne_nil, h.name, h.value⟩, fun h => ⟨h.1, h.2.1, h.2.2.1, h.2.2.2⟩⟩

instance (item : Attribute) : Decidable item.Plain := decidable_of_iff _ plain_iff.symm

end Attribute

/-- What stands behind the digit of a heading's tag. -/
structure Attributes where
  /-- What is left of the tag's name. -/
  label : Text := []
  attributes : List Attribute
  /-- The blanks at the end. -/
  tail : Text := []
  deriving DecidableEq

namespace Attributes

def text (form : Attributes) : Text :=
  form.label ++ form.attributes.flatMap Attribute.text ++ form.tail

structure Plain (form : Attributes) : Prop where
  label : ∀ c ∈ form.label, isBlank c = false
  attributes : ∀ item ∈ form.attributes, item.Plain
  tail : ∀ c ∈ form.tail, isBlank c = true

theorem plain_iff {form : Attributes} : form.Plain ↔
    form.label.all (!isBlank ·) = true ∧ (∀ item ∈ form.attributes, item.Plain) ∧
      form.tail.all isBlank = true := by
  have hlabel : form.label.all (!isBlank ·) = true ↔ ∀ c ∈ form.label, isBlank c = false := by simp
  rw [hlabel, List.all_eq_true]
  exact ⟨fun h => ⟨h.label, h.attributes, h.tail⟩, fun h => ⟨h.1, h.2.1, h.2.2⟩⟩

instance (form : Attributes) : Decidable form.Plain := decidable_of_iff _ plain_iff.symm

/-- The attributes that are no `id`. -/
def withoutIds (form : Attributes) : Attributes :=
  { form with attributes := form.attributes.filter (!·.isId) }

theorem Plain.withoutIds {form : Attributes} (h : form.Plain) : form.withoutIds.Plain :=
  ⟨h.label, fun item hmem => h.attributes item (List.mem_of_mem_filter hmem), h.tail⟩

/-- No attribute is an `id`. -/
def NoId (form : Attributes) : Prop := ∀ item ∈ form.attributes, item.isId = false

theorem noId_withoutIds (form : Attributes) : form.withoutIds.NoId := by
  intro item hitem
  simpa using (List.mem_filter.mp hitem).2

theorem NoId.withoutIds_eq {form : Attributes} (h : form.NoId) : form.withoutIds = form := by
  have hfilter : form.attributes.filter (!·.isId) = form.attributes :=
    List.filter_eq_self.mpr fun item hitem => by simp [h item hitem]
  unfold Attributes.withoutIds
  rw [hfilter]

end Attributes

/-! ## One step of reading -/

theorem dropIds_of_some {s after : Text} (h : skipId? s = some after) :
    dropIds s = dropIds after := by
  rw [dropIds]
  split
  · next found hfound =>
    rw [h] at hfound
    rw [Option.some.inj hfound]
  · next hnone =>
    rw [h] at hnone
    cases hnone

theorem dropIds_cons_of_none {c : Char} {s : Text} (h : skipId? (c :: s) = none) :
    dropIds (c :: s) = c :: dropIds s := by
  rw [dropIds]
  split
  · next found hfound =>
    rw [h] at hfound
    cases hfound
  · rfl

theorem dropIds_nil : dropIds [] = [] := by
  rw [dropIds]
  rfl

/-- An `id` has a blank in front. -/
theorem dropIds_append_of_not_blank {s : Text} (hs : ∀ c ∈ s, isBlank c = false) (rest : Text) :
    dropIds (s ++ rest) = s ++ dropIds rest := by
  induction s with
  | nil => rfl
  | cons c s ih =>
    obtain ⟨hc, hs⟩ := List.forall_mem_cons.mp hs
    have hnone : skipId? (c :: (s ++ rest)) = none := by simp [skipId?, hc]
    rw [List.cons_append, dropIds_cons_of_none hnone, ih hs, List.cons_append]

theorem dropIds_of_blank {s : Text} (hs : ∀ c ∈ s, isBlank c = true) : dropIds s = s := by
  induction s with
  | nil => exact dropIds_nil
  | cons c s ih =>
    obtain ⟨hc, hs⟩ := List.forall_mem_cons.mp hs
    have hdrop : s.dropWhile isBlank = [] := List.dropWhile_eq_nil_iff.mpr hs
    have hnone : skipId? (c :: s) = none := by simp [skipId?, hc, hdrop]
    rw [dropIds_cons_of_none hnone, ih hs]

/-! ## Nothing is added -/

theorem suffix_of_skipBareValue? {s rest : Text} (h : skipBareValue? s = some rest) :
    rest <:+ s := by
  unfold skipBareValue? at h
  split at h
  · split at h
    · cases h
    · rw [← Option.some.inj h]
      exact (List.dropWhile_suffix _).trans (List.suffix_cons _ _)
  · cases h

theorem suffix_of_skipValue? {s rest : Text} (h : skipValue? s = some rest) : rest <:+ s := by
  unfold skipValue? at h
  split at h
  · next c tail =>
    split at h
    · split at h
      · next hquote =>
        have hsuffix := List.dropWhile_suffix (· ≠ c) (l := tail)
        rw [hquote] at hsuffix
        rw [← Option.some.inj h]
        exact ((List.suffix_cons _ _).trans hsuffix).trans (List.suffix_cons _ _)
      · exact suffix_of_skipBareValue? h
    · exact suffix_of_skipBareValue? h
  · cases h

theorem suffix_of_skipId? {s rest : Text} (h : skipId? s = some rest) : rest <:+ s := by
  unfold skipId? at h
  split at h
  · next b head =>
    split at h
    · split at h
      · next i d tail hname =>
        split at h
        · split at h
          · next value hequals =>
            have hhead := List.dropWhile_suffix isBlank (l := head)
            have htail := List.dropWhile_suffix isBlank (l := tail)
            rw [hname] at hhead
            rw [hequals] at htail
            have hvalue : rest <:+ value :=
              (suffix_of_skipValue? h).trans (List.dropWhile_suffix isBlank)
            have hbehind : rest <:+ tail := (hvalue.trans (List.suffix_cons _ _)).trans htail
            have hinside : rest <:+ head :=
              ((hbehind.trans (List.suffix_cons _ _)).trans (List.suffix_cons _ _)).trans hhead
            exact hinside.trans (List.suffix_cons _ _)
          · cases h
        · cases h
      · cases h
    · cases h
  · cases h

theorem dropIds_subset (s : Text) : dropIds s ⊆ s := by
  induction s using dropIds.induct with
  | case1 s after hsome ih =>
    rw [dropIds_of_some hsome]
    exact List.Subset.trans ih (suffix_of_skipId? hsome).subset
  | case2 =>
    rw [dropIds_nil]
    exact List.Subset.refl []
  | case3 c rest hnone ih =>
    rw [dropIds_cons_of_none hnone]
    exact List.cons_subset_cons c ih

/-! ## Attributes -/

theorem skipValue?_quoted {value : Text} (h : '"' ∉ value) (rest : Text) :
    skipValue? ('"' :: (value ++ '"' :: rest)) = some rest := by
  have hvalue : ∀ c ∈ value, decide (c ≠ '"') = true := by
    intro c hc
    simpa using fun heq : c = '"' => h (heq ▸ hc)
  have hend : Text.StartsOutside (fun c => decide (c ≠ '"')) ('"' :: rest) :=
    Text.startsOutside_cons.mpr (by decide)
  have hdrop : (value ++ '"' :: rest).dropWhile (· ≠ '"') = '"' :: rest :=
    Text.dropWhile_append hvalue hend
  simp only [skipValue?, decide_true, Bool.true_or, if_true, hdrop]

namespace Attribute

/-- The attribute from its name on, and more text. -/
def body (item : Attribute) (rest : Text) : Text :=
  item.name ++ '=' :: '"' :: (item.value ++ '"' :: rest)

variable {item : Attribute}

theorem text_append (item : Attribute) (rest : Text) :
    item.text ++ rest = item.gap ++ item.body rest := by
  simp [text, body]

namespace Plain

theorem quote_notMem_value (h : item.Plain) : '"' ∉ item.value :=
  fun hmem => (h.value '"' hmem).2.1 rfl

theorem startsOutside_body (h : item.Plain) (rest : Text) :
    Text.StartsOutside isBlank (item.body rest) :=
  (Text.startsOutside_of_forall fun c hc => (h.name c hc).1).append h.name_ne_nil

/-- From a blank in front of it on, an attribute is read as an `id` or not at all. -/
theorem skipId?_eq (h : item.Plain) {b : Char} {gap : Text} (hb : isBlank b = true)
    (hgap : ∀ c ∈ gap, isBlank c = true) (rest : Text) :
    skipId? (b :: (gap ++ item.body rest)) = if item.isId then some rest else none := by
  have hdrop : (gap ++ item.body rest).dropWhile isBlank = item.body rest :=
    Text.dropWhile_append hgap (h.startsOutside_body rest)
  have hequals : isBlank '=' = false := by decide
  have hquote : isBlank '"' = false := by decide
  have hvalue := skipValue?_quoted h.quote_notMem_value rest
  unfold skipId?
  dsimp only
  rw [if_pos hb, hdrop]
  obtain ⟨_, name, value⟩ := item
  unfold body isId
  match name, h.name_ne_nil, h.name with
  | [i], _, _ => simp
  | [i, d], _, _ =>
    simp only [List.cons_append, List.nil_append, List.dropWhile_cons, hequals, hquote,
      Bool.false_eq_true, if_false]
    rw [hvalue]
  | i :: d :: e :: more, _, hname =>
    obtain ⟨heblank, he⟩ := hname e (by simp)
    simp [heblank, he]

theorem dropIds_gap (h : item.Plain) (hid : item.isId = false) {gap : Text}
    (hgap : ∀ c ∈ gap, isBlank c = true) (rest : Text) :
    dropIds (gap ++ item.body rest) = gap ++ dropIds (item.body rest) := by
  induction gap with
  | nil => rfl
  | cons b gap ih =>
    obtain ⟨hb, hgap⟩ := List.forall_mem_cons.mp hgap
    have hnone := h.skipId?_eq hb hgap rest
    rw [hid] at hnone
    rw [List.cons_append, dropIds_cons_of_none hnone, ih hgap, List.cons_append]

theorem dropIds_body (h : item.Plain) (rest : Text) :
    dropIds (item.body rest) = item.body (dropIds rest) := by
  have hsplit : ∀ more : Text, item.body more =
      (item.name ++ '=' :: '"' :: (item.value ++ ['"'])) ++ more := by
    intro more
    simp [body]
  rw [hsplit, hsplit]
  refine dropIds_append_of_not_blank (fun c hc => ?_) rest
  simp only [List.mem_append, List.mem_cons, List.not_mem_nil, or_false] at hc
  rcases hc with hc | rfl | rfl | hc | rfl
  · exact (h.name c hc).1
  · decide
  · decide
  · exact (h.value c hc).1
  · decide

theorem dropIds_text_append (h : item.Plain) (rest : Text) :
    dropIds (item.text ++ rest) =
      if item.isId then dropIds rest else item.text ++ dropIds rest := by
  rw [text_append, text_append]
  by_cases hid : item.isId = true
  · obtain ⟨b, gap, hgap, hb, hblank⟩ := h.gap.exists_cons
    have hsome := h.skipId?_eq hb hblank rest
    rw [if_pos hid] at hsome ⊢
    rw [hgap, List.cons_append, dropIds_of_some hsome]
  · rw [if_neg hid, h.dropIds_gap (Bool.eq_false_iff.mpr hid) h.gap.blank, h.dropIds_body]

end Plain

end Attribute

/-- Of plain attributes those that are an `id` are left out, and all else stays as it is. -/
theorem dropIds_text {form : Attributes} (h : form.Plain) :
    dropIds form.text = form.withoutIds.text := by
  obtain ⟨label, attributes, tail⟩ := form
  obtain ⟨hlabel, hattributes, htail⟩ := h
  dsimp only at hlabel hattributes htail
  unfold Attributes.withoutIds Attributes.text
  dsimp only
  rw [List.append_assoc, dropIds_append_of_not_blank hlabel, List.append_assoc]
  congr 1
  induction attributes with
  | nil => exact dropIds_of_blank htail
  | cons item more ih =>
    obtain ⟨hattribute, hmore⟩ := List.forall_mem_cons.mp hattributes
    rw [List.flatMap_cons, List.append_assoc, hattribute.dropIds_text_append, ih hmore]
    by_cases hid : item.isId = true
    · simp [hid]
    · simp [hid]

theorem dropIds_of_noId {form : Attributes} (h : form.Plain) (hnot : form.NoId) :
    dropIds form.text = form.text := by
  rw [dropIds_text h, hnot.withoutIds_eq]

/-! ## The `id` of a section -/

/-- The `id` that a heading gets. -/
def idText (slug : Text) : Text := " id=\"" ++ slug ++ "\""

/-- An `id` with a value in quotes is left out, whatever follows it. -/
theorem dropIds_idText {slug : Text} (h : '"' ∉ slug) (rest : Text) :
    dropIds (idText slug ++ rest) = dropIds rest := by
  have hskip : skipId? (idText slug ++ rest) = some rest := by
    have hvalue := skipValue?_quoted h rest
    have htext : idText slug ++ rest =
        ' ' :: 'i' :: 'd' :: '=' :: '"' :: (slug ++ '"' :: rest) := by
      unfold idText
      rw [List.append_assoc, List.append_assoc]
      rfl
    have hi : isBlank 'i' = false := by decide
    have hequals : isBlank '=' = false := by decide
    have hquote : isBlank '"' = false := by decide
    have hspace : isBlank ' ' = true := by decide
    rw [htext]
    simp only [skipId?, hspace, List.dropWhile_cons, hi, hequals, hquote, Bool.false_eq_true,
      if_false, if_true, hvalue]
    rfl
  exact dropIds_of_some hskip

end Taskbook.Page
