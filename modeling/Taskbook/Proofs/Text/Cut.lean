/-
  Texts cut at a separator. The first character of the separator decides where it can be found:
  nothing is cut in front of it (`cut?_append`), and if it comes up only once in the separator, a
  separator behind a text without one is the first (`cut?_first_of_none`). So pieces without the
  separator are found again (`splitOn_pieces`). Lists are cut in front of each item of a class
  (`cutBefore`).
-/
import Mathlib.Data.List.Basic
import Taskbook.Proofs.Text.Trim

namespace Taskbook

namespace Text

variable {sep s t rest before after : Text}

/-! ## Heads -/

theorem dropPrefix?_eq_none_iff {p : Text} :
    dropPrefix? p s = none ↔ ∀ rest, s ≠ p ++ rest := by
  rw [Option.eq_none_iff_forall_ne_some]
  simp only [ne_eq, dropPrefix?_eq_some_iff]

theorem startsWith_eq_false {p : Text} (h : dropPrefix? p s = none) : startsWith s p = false := by
  rw [Bool.eq_false_iff]
  intro hstart
  obtain ⟨rest, rfl⟩ := List.isPrefixOf_iff_prefix.mp hstart
  exact dropPrefix?_eq_none_iff.mp h rest rfl

/-- A head that does not hold the character `c` ends before it. -/
theorem dropPrefix?_append_cons {p : Text} {c : Char} (hp : c ∉ p) (rest : Text) :
    dropPrefix? p (s ++ c :: rest) =
      if startsWith s p = true then some (s.drop p.length ++ c :: rest) else none := by
  induction p generalizing s with
  | nil => simp [dropPrefix?, startsWith]
  | cons a p ih =>
    simp only [List.mem_cons, not_or] at hp
    cases s with
    | nil => simp [dropPrefix?, startsWith, Ne.symm hp.1]
    | cons b s =>
      by_cases hab : a = b
      · subst hab
        simpa [dropPrefix?, startsWith] using ih hp.2
      · simp [dropPrefix?, startsWith, hab]

/-- What stands in front of the first `c` of a text is one text. -/
theorem front_unique {c : Char} {a b : Text} (hs : c ∉ s) (ht : c ∉ t)
    (h : s ++ c :: a = t ++ c :: b) : s = t := by
  have hfront : ∀ {u : Text}, c ∉ u → ∀ more : Text,
      (u ++ c :: more).takeWhile (fun d => decide (d ≠ c)) = u := by
    intro u hu more
    refine takeWhile_append (fun d hd => ?_) (startsOutside_cons.mpr (by simp))
    simpa using fun heq : d = c => hu (heq ▸ hd)
  have htake := congrArg (List.takeWhile fun d => decide (d ≠ c)) h
  rwa [hfront hs, hfront ht] at htake

/-- A head that ends in the character `c` ends where that stands first. -/
theorem dropPrefix?_concat {p : Text} {c : Char} (hp : c ∉ p) (hs : c ∉ s) (rest : Text) :
    dropPrefix? (p ++ [c]) (s ++ c :: rest) = if s = p then some rest else none := by
  by_cases heq : s = p
  · rw [if_pos heq, dropPrefix?_eq_some_iff, heq]
    simp
  · rw [if_neg heq, dropPrefix?_eq_none_iff]
    intro after hafter
    rw [List.append_assoc, List.singleton_append] at hafter
    exact heq (front_unique hs hp hafter)

/-! ## The first separator -/

theorem cut?_eq_none {c : Char} {more : Text} (h : c ∉ s) : cut? (c :: more) s = none := by
  rw [Option.eq_none_iff_forall_ne_some]
  rintro ⟨before, after⟩ hcut
  refine h ?_
  rw [eq_of_cut? hcut]
  exact List.mem_append_left _ (List.mem_append_right _ List.mem_cons_self)

/-- Exactly the texts without the separator are not cut. -/
theorem cut?_eq_none_iff (hne : sep ≠ []) : cut? sep s = none ↔ ¬ sep <:+: s := by
  induction s with
  | nil =>
    obtain ⟨c, more, rfl⟩ := List.exists_cons_of_ne_nil hne
    simp [cut?]
  | cons c s ih =>
    rw [List.infix_cons_iff, not_or, ← ih, cut?]
    cases hdrop : dropPrefix? sep (c :: s) with
    | some after =>
      have hstart : sep <+: c :: s := ⟨after, (dropPrefix?_eq_some_iff.mp hdrop).symm⟩
      simp [hstart]
    | none =>
      have hstart : ¬ sep <+: c :: s := by
        rintro ⟨after, hafter⟩
        exact dropPrefix?_eq_none_iff.mp hdrop after hafter.symm
      simp [hstart]

/-- What was cut, with more text in front. -/
def inFront (s : Text) (parts : Text × Text) : Text × Text := (s ++ parts.1, parts.2)

theorem inFront_inFront (s t : Text) (found : Option (Text × Text)) :
    (found.map (inFront t)).map (inFront s) = found.map (inFront (s ++ t)) := by
  cases found <;> simp [inFront]

theorem cut?_cons_of_none {c : Char} (h : dropPrefix? sep (c :: s) = none) :
    cut? sep (c :: s) = (cut? sep s).map (inFront [c]) := by
  rw [cut?, h]
  rfl

theorem cut?_of_prefix (h : sep ≠ []) : cut? sep (sep ++ rest) = some ([], rest) := by
  obtain ⟨c, more, rfl⟩ := List.exists_cons_of_ne_nil h
  have hdrop : dropPrefix? (c :: more) (c :: (more ++ rest)) = some rest :=
    dropPrefix?_eq_some_iff.mpr rfl
  rw [List.cons_append, cut?, hdrop]

/-- In front of the first character of the separator nothing is cut. -/
theorem cut?_append {c : Char} {more : Text} (hs : c ∉ s) (t : Text) :
    cut? (c :: more) (s ++ t) = (cut? (c :: more) t).map (inFront s) := by
  induction s with
  | nil =>
    rw [List.nil_append]
    cases cut? (c :: more) t <;> rfl
  | cons d s ih =>
    simp only [List.mem_cons, not_or] at hs
    have hnone : dropPrefix? (c :: more) (d :: (s ++ t)) = none := by
      simp [dropPrefix?, hs.1]
    rw [List.cons_append, cut?_cons_of_none hnone, ih hs.2, inFront_inFront]
    rfl

/-- A separator whose first character comes up once in it is not found across the end of a text
    without it. -/
theorem cut?_append_of_none {c : Char} {more : Text} (hmore : c ∉ more)
    (h : cut? (c :: more) s = none) (rest : Text) :
    cut? (c :: more) (s ++ c :: rest) = (cut? (c :: more) (c :: rest)).map (inFront s) := by
  induction s with
  | nil =>
    rw [List.nil_append]
    cases cut? (c :: more) (c :: rest) <;> rfl
  | cons d s ih =>
    cases hdrop : dropPrefix? (c :: more) (d :: s) with
    | some after =>
      rw [cut?, hdrop] at h
      cases h
    | none =>
      rw [cut?_cons_of_none hdrop] at h
      have hnone : dropPrefix? (c :: more) (d :: (s ++ c :: rest)) = none := by
        by_cases hd : c = d
        · subst hd
          rw [dropPrefix?, if_pos rfl] at hdrop ⊢
          rw [dropPrefix?_append_cons hmore, startsWith_eq_false hdrop]
          rfl
        · rw [dropPrefix?, if_neg hd]
      rw [List.cons_append, cut?_cons_of_none hnone, ih (Option.map_eq_none_iff.mp h),
        inFront_inFront]
      rfl

theorem cut?_first_of_none {c : Char} {more : Text} (hmore : c ∉ more)
    (h : cut? (c :: more) s = none) (rest : Text) :
    cut? (c :: more) (s ++ (c :: more ++ rest)) = some (s, rest) := by
  have hcut : cut? (c :: more) (c :: more ++ rest) = some ([], rest) :=
    cut?_of_prefix (List.cons_ne_nil c more)
  rw [List.cons_append] at hcut ⊢
  rw [cut?_append_of_none hmore h, hcut]
  simp [inFront]

theorem cut?_first {c : Char} (hs : c ∉ s) (rest : Text) :
    cut? [c] (s ++ c :: rest) = some (s, rest) :=
  cut?_first_of_none List.not_mem_nil (cut?_eq_none hs) rest

/-- The first separator stays the first when text is put behind. -/
theorem cut?_append_of_some (hne : sep ≠ []) (h : cut? sep s = some (before, after)) (rest : Text) :
    cut? sep (s ++ rest) = some (before, after ++ rest) := by
  induction s generalizing before with
  | nil =>
    obtain ⟨c, more, rfl⟩ := List.exists_cons_of_ne_nil hne
    simp [cut?] at h
  | cons c s ih =>
    cases hdrop : dropPrefix? sep (c :: s) with
    | some tail =>
      rw [cut?, hdrop] at h
      obtain ⟨rfl, rfl⟩ := Prod.mk.inj (Option.some.inj h)
      have hwhole : dropPrefix? sep (c :: (s ++ rest)) = some (tail ++ rest) := by
        rw [dropPrefix?_eq_some_iff] at hdrop ⊢
        rw [← List.cons_append, hdrop, List.append_assoc]
      rw [List.cons_append, cut?, hwhole]
    | none =>
      rw [cut?_cons_of_none hdrop] at h
      obtain ⟨⟨front, tail⟩, hcut, hparts⟩ := Option.map_eq_some_iff.mp h
      obtain ⟨rfl, rfl⟩ := Prod.mk.inj hparts
      have hnone : dropPrefix? sep (c :: (s ++ rest)) = none := by
        rw [dropPrefix?_eq_none_iff]
        intro more hmore
        -- the separator fits in front of `rest`, as there is one further on
        have hfits : sep.length ≤ (c :: s).length := by
          rw [eq_of_cut? hcut]
          simp only [List.length_cons, List.length_append]
          omega
        have hprefix : sep <+: c :: s :=
          List.prefix_of_prefix_length_le ⟨more, hmore.symm⟩ (List.prefix_append (c :: s) rest)
            hfits
        obtain ⟨tail, htail⟩ := hprefix
        exact dropPrefix?_eq_none_iff.mp hdrop tail htail.symm
      rw [List.cons_append, cut?_cons_of_none hnone, ih hcut]
      rfl

/-- A separator is not found across a character that it does not hold. -/
theorem cut?_append_cons_of_none {d : Char} (hd : d ∉ sep) (h : cut? sep s = none) (rest : Text) :
    cut? sep (s ++ d :: rest) = (cut? sep rest).map (inFront (s ++ [d])) := by
  induction s with
  | nil =>
    have hnone : dropPrefix? sep (d :: rest) = none := by
      cases sep with
      | nil => simp [cut?] at h
      | cons c more =>
        have hcd : c ≠ d := fun heq => hd (heq ▸ List.mem_cons_self)
        rw [dropPrefix?, if_neg hcd]
    exact cut?_cons_of_none hnone
  | cons c s ih =>
    cases hdrop : dropPrefix? sep (c :: s) with
    | some after =>
      rw [cut?, hdrop] at h
      cases h
    | none =>
      rw [cut?_cons_of_none hdrop] at h
      have hnone : dropPrefix? sep (c :: (s ++ d :: rest)) = none := by
        rw [← List.cons_append, dropPrefix?_append_cons hd, startsWith_eq_false hdrop]
        rfl
      rw [List.cons_append, cut?_cons_of_none hnone, ih (Option.map_eq_none_iff.mp h),
        inFront_inFront]
      rfl

/-- Behind a text without some character of the separator, the separator is the first one. -/
theorem cut?_of_notMem {c : Char} (hc : c ∈ sep) (hs : c ∉ s) (rest : Text) :
    cut? sep (s ++ (sep ++ rest)) = some (s, rest) := by
  obtain ⟨front, back, rfl, hfront⟩ := List.eq_append_cons_of_mem hc
  induction s with
  | nil =>
    rw [List.nil_append]
    exact cut?_of_prefix (by simp)
  | cons d s ih =>
    simp only [List.mem_cons, not_or] at hs
    have hnone : dropPrefix? (front ++ c :: back)
        (d :: (s ++ (front ++ c :: back ++ rest))) = none := by
      rw [dropPrefix?_eq_none_iff]
      intro after hafter
      have hleft : d :: (s ++ (front ++ c :: back ++ rest)) =
          d :: (s ++ front) ++ c :: (back ++ rest) := by simp
      have hright : front ++ c :: back ++ after = front ++ c :: (back ++ after) := by simp
      rw [hleft, hright] at hafter
      have hsame : d :: (s ++ front) = front :=
        front_unique (by simp [hs.1, hs.2, hfront]) hfront hafter
      have hlength := congrArg List.length hsame
      simp only [List.length_cons, List.length_append] at hlength
      omega
    rw [List.cons_append, cut?_cons_of_none hnone, ih hs.2]
    rfl

/-! ## All separators -/

theorem splitOn_of_none (h : cut? sep s = none) : splitOn sep s = [s] := by
  rw [splitOn]
  split
  · rfl
  · split
    · rfl
    · next hsome =>
      rw [h] at hsome
      cases hsome

theorem splitOn_of_some (hne : sep ≠ []) (h : cut? sep s = some (before, after)) :
    splitOn sep s = before :: splitOn sep after := by
  rw [splitOn, dif_neg hne]
  split
  · next hnone =>
    rw [h] at hnone
    cases hnone
  · next hsome =>
    rw [h] at hsome
    obtain ⟨rfl, rfl⟩ := Prod.mk.inj (Option.some.inj hsome)
    rfl

theorem splitOn_ne_nil (sep s : Text) : splitOn sep s ≠ [] := by
  rw [splitOn]
  split
  · exact List.cons_ne_nil s []
  · split
    · exact List.cons_ne_nil s []
    · exact List.cons_ne_nil _ _

/-- A text in front of which nothing is cut belongs to the first piece. -/
theorem splitOn_append (hne : sep ≠ []) (h : cut? sep (s ++ t) = (cut? sep t).map (inFront s)) :
    ∃ first pieces, splitOn sep t = first :: pieces ∧
      splitOn sep (s ++ t) = (s ++ first) :: pieces := by
  cases ht : cut? sep t with
  | none =>
    rw [ht] at h
    exact ⟨t, [], splitOn_of_none ht, splitOn_of_none h⟩
  | some parts =>
    rw [ht] at h
    exact ⟨parts.1, splitOn sep parts.2, splitOn_of_some hne ht, splitOn_of_some hne h⟩

/-- A text is cut at each separator that is put into it. -/
theorem splitOn_append_sep {c : Char} {more : Text} (hmore : c ∉ more) (s rest : Text) :
    splitOn (c :: more) (s ++ (c :: more ++ rest)) =
      splitOn (c :: more) s ++ splitOn (c :: more) rest := by
  have hne : c :: more ≠ [] := List.cons_ne_nil c more
  induction hlength : s.length using Nat.strong_induction_on generalizing s with
  | _ n ih =>
    cases hcut : cut? (c :: more) s with
    | none =>
      rw [splitOn_of_some hne (cut?_first_of_none hmore hcut rest), splitOn_of_none hcut,
        List.singleton_append]
    | some parts =>
      obtain ⟨before, after⟩ := parts
      have hshort : after.length < n := by
        rw [← hlength, eq_of_cut? hcut]
        simp only [List.length_append, List.length_cons]
        omega
      rw [splitOn_of_some hne (cut?_append_of_some hne hcut _), splitOn_of_some hne hcut,
        ih _ hshort after rfl, List.cons_append]

/-- Pieces without the separator are what a text is cut into that has it in front of each. -/
theorem splitOn_pieces {c : Char} {more front : Text} {pieces : List Text} (hmore : c ∉ more)
    (hfront : cut? (c :: more) front = none)
    (hpieces : ∀ piece ∈ pieces, cut? (c :: more) piece = none) :
    splitOn (c :: more) (front ++ pieces.flatMap (c :: more ++ ·)) = front :: pieces := by
  induction pieces generalizing front with
  | nil => simpa using splitOn_of_none hfront
  | cons piece pieces ih =>
    obtain ⟨hpiece, hpieces⟩ := List.forall_mem_cons.mp hpieces
    have hcut := cut?_first_of_none hmore hfront (piece ++ pieces.flatMap (c :: more ++ ·))
    rw [List.flatMap_cons, List.append_assoc, splitOn_of_some (List.cons_ne_nil c more) hcut,
      ih hpiece hpieces]

end Text

/-! ## Lists cut in front of a class -/

section

variable {α : Type} (p : α → Bool)

/-- What stands before the first item of class `p`, and each such item with what follows it up to
    the next. -/
def cutBefore : List α → List α × List (α × List α)
  | [] => ([], [])
  | a :: rest =>
    let (first, groups) := cutBefore rest
    if p a then ([], (a, first) :: groups) else (a :: first, groups)

variable {p}

theorem cutBefore_cons_of_pos {a : α} (h : p a = true) (rest : List α) :
    cutBefore p (a :: rest) = ([], (a, (cutBefore p rest).1) :: (cutBefore p rest).2) := by
  simp only [cutBefore, h, if_true]

theorem cutBefore_cons_of_neg {a : α} (h : p a = false) (rest : List α) :
    cutBefore p (a :: rest) = (a :: (cutBefore p rest).1, (cutBefore p rest).2) := by
  simp only [cutBefore, h, Bool.false_eq_true, if_false]

theorem cutBefore_join (l : List α) :
    (cutBefore p l).1 ++ (cutBefore p l).2.flatMap (fun group => group.1 :: group.2) = l := by
  induction l with
  | nil => rfl
  | cons a rest ih =>
    cases h : p a with
    | true => simpa [cutBefore_cons_of_pos h] using ih
    | false => simpa [cutBefore_cons_of_neg h] using ih

theorem mem_of_mem_cutBefore {l : List α} {a : α} (h : a ∈ (cutBefore p l).1) : a ∈ l := by
  rw [← cutBefore_join (p := p) l]
  exact List.mem_append_left _ h

theorem mem_of_mem_group {l : List α} {group : α × List α} (h : group ∈ (cutBefore p l).2) :
    ∀ a ∈ group.1 :: group.2, a ∈ l := by
  intro a ha
  rw [← cutBefore_join (p := p) l]
  exact List.mem_append_right _ (List.mem_flatMap.mpr ⟨group, h, ha⟩)

theorem eq_false_of_mem_cutBefore {l : List α} {a : α} (h : a ∈ (cutBefore p l).1) :
    p a = false := by
  induction l with
  | nil => cases h
  | cons b rest ih =>
    cases hb : p b with
    | true => simp [cutBefore_cons_of_pos hb] at h
    | false =>
      rw [cutBefore_cons_of_neg hb] at h
      rcases List.mem_cons.mp h with rfl | h
      · exact hb
      · exact ih h

theorem of_mem_groups {l : List α} {group : α × List α} (h : group ∈ (cutBefore p l).2) :
    p group.1 = true ∧ ∀ a ∈ group.2, p a = false := by
  induction l with
  | nil => cases h
  | cons b rest ih =>
    cases hb : p b with
    | true =>
      rw [cutBefore_cons_of_pos hb] at h
      rcases List.mem_cons.mp h with rfl | h
      · exact ⟨hb, fun a ha => eq_false_of_mem_cutBefore ha⟩
      · exact ih h
    | false =>
      rw [cutBefore_cons_of_neg hb] at h
      exact ih h

end

end Taskbook
