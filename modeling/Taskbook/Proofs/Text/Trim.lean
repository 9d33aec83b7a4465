/-
  Runs of a class at the ends of a text. A text that neither starts nor ends in a class is what
  trimming leaves alone (`trim_eq_self_iff`), and what was cut off at the end is a run of the
  class (`exists_trimEnd`). The class of blanks gets a notion of its own (`IsGap`), for what stands
  between words.
-/
import Mathlib.Data.List.DropRight
import Taskbook.Text.Class

namespace Taskbook

namespace Text

variable {p q : Char → Bool} {s body rest : Text}

/-- The text is empty or starts with a character outside `p`. -/
def StartsOutside (p : Char → Bool) (s : Text) : Prop := ∀ c, s.head? = some c → p c = false

/-- The text is empty or ends with a character outside `p`. -/
def EndsOutside (p : Char → Bool) (s : Text) : Prop := ∀ c, s.getLast? = some c → p c = false

theorem startsOutside_nil : StartsOutside p [] := nofun

theorem startsOutside_cons {c : Char} : StartsOutside p (c :: s) ↔ p c = false := by
  simp [StartsOutside]

theorem endsOutside_concat {c : Char} : EndsOutside p (s ++ [c]) ↔ p c = false := by
  simp [EndsOutside]

theorem startsOutside_of_forall (h : ∀ c ∈ s, p c = false) : StartsOutside p s :=
  fun c hc => h c (List.mem_of_head? hc)

theorem endsOutside_of_forall (h : ∀ c ∈ s, p c = false) : EndsOutside p s :=
  fun c hc => h c (List.mem_of_getLast? hc)

theorem EndsOutside.mono (h : EndsOutside q s) (hpq : ∀ c, p c = true → q c = true) :
    EndsOutside p s := by
  intro c hc
  have hq := h c hc
  exact Bool.eq_false_iff.mpr fun hp => by simp [hpq c hp] at hq

/-- A text that does not end in `p` does not when more such text is in front of it. -/
theorem EndsOutside.append (h : EndsOutside p rest) (hne : rest ≠ []) :
    EndsOutside p (body ++ rest) := by
  obtain ⟨init, c, rfl⟩ := (List.eq_nil_or_concat' rest).resolve_left hne
  rw [← List.append_assoc, endsOutside_concat]
  exact endsOutside_concat.mp h

/-- A text that does not start in `p` does not when more text is behind it. -/
theorem StartsOutside.append (h : StartsOutside p body) (hne : body ≠ []) :
    StartsOutside p (body ++ rest) := by
  obtain ⟨c, tail, rfl⟩ := List.exists_cons_of_ne_nil hne
  exact startsOutside_cons.mpr (startsOutside_cons.mp h)

theorem StartsOutside.front (h : StartsOutside p s) (hbody : body <+: s) :
    StartsOutside p body := by
  obtain ⟨more, rfl⟩ := hbody
  intro c hc
  exact h c (by simp [hc])

/-! ## Runs at the start -/

theorem startsOutside_dropWhile (p : Char → Bool) (s : Text) :
    StartsOutside p (s.dropWhile p) := by
  intro c hc
  have := List.head?_dropWhile_not p s
  rwa [hc] at this

theorem dropWhile_eq_self (h : StartsOutside p s) : s.dropWhile p = s := by
  cases s with
  | nil => rfl
  | cons c s => exact List.dropWhile_cons_of_neg (by simp [startsOutside_cons.mp h])

theorem takeWhile_eq_nil (h : StartsOutside p s) : s.takeWhile p = [] := by
  cases s with
  | nil => rfl
  | cons c s => exact List.takeWhile_cons_of_neg (by simp [startsOutside_cons.mp h])

/-- A rest outside of a class adds nothing to the longest head in it. -/
theorem takeWhile_append_of_startsOutside (hrest : StartsOutside p rest) (s : Text) :
    (s ++ rest).takeWhile p = s.takeWhile p := by
  rw [List.takeWhile_append, takeWhile_eq_nil hrest, List.append_nil]
  split
  · next hall => exact ((List.takeWhile_prefix p).eq_of_length hall).symm
  · rfl

/-- The longest head in a class, of a text put together from one and a rest outside. -/
theorem takeWhile_append (hbody : ∀ c ∈ body, p c = true) (hrest : StartsOutside p rest) :
    (body ++ rest).takeWhile p = body := by
  rw [List.takeWhile_append_of_pos hbody, takeWhile_eq_nil hrest, List.append_nil]

theorem dropWhile_append (hbody : ∀ c ∈ body, p c = true) (hrest : StartsOutside p rest) :
    (body ++ rest).dropWhile p = rest := by
  rw [List.dropWhile_append_of_pos hbody, dropWhile_eq_self hrest]

/-! ## Runs at the end -/

theorem trimEnd_eq_rdropWhile (p : Char → Bool) (s : Text) : trimEnd p s = s.rdropWhile p := rfl

theorem exists_trimEnd (p : Char → Bool) (s : Text) :
    ∃ gap, s = trimEnd p s ++ gap ∧ ∀ c ∈ gap, p c = true :=
  ⟨s.rtakeWhile p, List.rdropWhile_append_rtakeWhile.symm, fun _ => List.mem_rtakeWhile_imp⟩

theorem endsOutside_trimEnd (p : Char → Bool) (s : Text) : EndsOutside p (trimEnd p s) := by
  intro c hc
  have hne : trimEnd p s ≠ [] := by rintro h; simp [h] at hc
  obtain rfl : (trimEnd p s).getLast hne = c :=
    Option.some.inj ((List.getLast?_eq_some_getLast hne).symm.trans hc)
  exact Bool.eq_false_iff.mpr (List.rdropWhile_last_not p s hne)

theorem trimEnd_eq_self (h : EndsOutside p s) : trimEnd p s = s := by
  rw [trimEnd_eq_rdropWhile, List.rdropWhile_eq_self_iff]
  intro hne
  simp [h _ (List.getLast?_eq_some_getLast hne)]

theorem trimEnd_concat {c : Char} (hc : p c = true) : trimEnd p (s ++ [c]) = trimEnd p s :=
  List.rdropWhile_concat_pos p s c hc

/-- A character in front of a text stays, unless it and all behind it go. -/
theorem trimEnd_cons (p : Char → Bool) (c : Char) (s : Text) :
    trimEnd p (c :: s) = if trimEnd p s = [] ∧ p c = true then [] else c :: trimEnd p s := by
  unfold trimEnd
  rw [List.reverse_cons, List.dropWhile_append]
  cases hdrop : s.reverse.dropWhile p with
  | nil => by_cases hc : p c = true <;> simp [hc]
  | cons d rest => simp

theorem trim_subset (p : Char → Bool) (s : Text) : trim p s ⊆ s := fun _ hc =>
  List.dropWhile_subset p ((List.rdropWhile_prefix p (s.dropWhile p)).subset hc)

theorem trim_eq_self_iff : trim p s = s ↔ StartsOutside p s ∧ EndsOutside p s := by
  constructor
  · intro h
    have hlen : s.length ≤ (s.dropWhile p).length := by
      conv_lhs => rw [← h]
      exact (List.rdropWhile_prefix p (s.dropWhile p)).length_le
    have hdrop : s.dropWhile p = s := (List.dropWhile_suffix p).eq_of_length_le hlen
    refine ⟨hdrop ▸ startsOutside_dropWhile p s, ?_⟩
    rw [← h]
    exact endsOutside_trimEnd p _
  · rintro ⟨hs, he⟩
    rw [trim, dropWhile_eq_self hs, trimEnd_eq_self he]

theorem trim_trim (p : Char → Bool) (s : Text) : trim p (trim p s) = trim p s :=
  trim_eq_self_iff.mpr
    ⟨(startsOutside_dropWhile p s).front (List.rdropWhile_prefix p _), endsOutside_trimEnd p _⟩

end Text

/-! ## Blanks between words -/

/-- Blanks, at least one. -/
structure IsGap (s : Text) : Prop where
  ne_nil : s ≠ []
  blank : ∀ c ∈ s, isBlank c = true

instance (s : Text) : Decidable (IsGap s) :=
  decidable_of_iff (s ≠ [] ∧ s.all isBlank = true)
    ⟨fun h => ⟨h.1, List.all_eq_true.mp h.2⟩, fun h => ⟨h.ne_nil, List.all_eq_true.mpr h.blank⟩⟩

theorem isGap_cons {c : Char} {s : Text} (hc : isBlank c = true)
    (hs : ∀ d ∈ s, isBlank d = true) : IsGap (c :: s) :=
  ⟨List.cons_ne_nil c s, List.forall_mem_cons.mpr ⟨hc, hs⟩⟩

/-- The blanks at the front of a text, if the first character is one. -/
theorem IsGap.exists_of_cons {c : Char} {s : Text} (hc : isBlank c = true) :
    ∃ gap, IsGap gap ∧ c :: s = gap ++ s.dropWhile isBlank := by
  refine ⟨c :: s.takeWhile isBlank, isGap_cons hc fun d hd => List.mem_takeWhile_imp hd, ?_⟩
  rw [List.cons_append, List.takeWhile_append_dropWhile]

theorem IsGap.exists_cons {gap : Text} (h : IsGap gap) :
    ∃ c tail, gap = c :: tail ∧ isBlank c = true ∧ ∀ d ∈ tail, isBlank d = true := by
  obtain ⟨c, tail, rfl⟩ := List.exists_cons_of_ne_nil h.ne_nil
  obtain ⟨hc, htail⟩ := List.forall_mem_cons.mp h.blank
  exact ⟨c, tail, rfl, hc, htail⟩

end Taskbook
