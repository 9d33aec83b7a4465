/-
  The order of texts is the library's order of lists (`le_iff`), so it is linear. A stable sort by a
  total and transitive order goes together with leaving items out: what is left of the sorted list
  is what is left of the list, sorted (`filter_mergeSort`).
-/
import Taskbook.Text.Case

namespace Taskbook.Text

section

variable {s t : Text}

theorem le_iff : le s t = true ↔ ¬ t < s := by
  induction s generalizing t with
  | nil => simp [le]
  | cons a s ih =>
    cases t with
    | nil => simp [le]
    | cons b t =>
      rw [List.cons_lt_cons_iff, le]
      by_cases hab : a = b
      · simp [hab, ih]
      · have hne : a.toNat ≠ b.toNat := fun h => hab (Char.toNat_inj.mp h)
        rw [if_neg hab, decide_eq_true_eq, Char.lt_def, UInt32.lt_iff_toNat_lt]
        simp only [Ne.symm hab, false_and, or_false]
        change a.toNat < b.toNat ↔ ¬ b.toNat < a.toNat
        omega

theorem le_total (s t : Text) : (le s t || le t s) = true := by
  simpa only [Bool.or_eq_true, le_iff, List.not_lt] using List.le_total s t

theorem le_trans (s t u : Text) (hst : le s t = true) (htu : le t u = true) : le s u = true := by
  rw [le_iff, List.not_lt] at hst htu ⊢
  exact List.le_trans hst htu

theorem le_antisymm (hst : le s t = true) (hts : le t s = true) : s = t := by
  rw [le_iff, List.not_lt] at hst hts
  exact List.le_antisymm hst hts

end

/-! ## Stable sorts -/

section

variable {α : Type} {le : α → α → Bool}

/-- Two lists that are cut where a class ends are cut at the same place. -/
theorem append_inj_of_class {q : α → Bool} {before after before' after' : List α}
    (h : before ++ after = before' ++ after') (hbefore : ∀ a ∈ before, q a = true)
    (hafter : ∀ a ∈ after, q a = false) (hbefore' : ∀ a ∈ before', q a = true)
    (hafter' : ∀ a ∈ after', q a = false) : before = before' ∧ after = after' := by
  have hfilter := congrArg (List.filter q) h
  rw [List.filter_append, List.filter_append, List.filter_eq_self.mpr hbefore,
    List.filter_eq_self.mpr hbefore', List.filter_eq_nil_iff.mpr (by simpa using hafter),
    List.filter_eq_nil_iff.mpr (by simpa using hafter'), List.append_nil, List.append_nil] at hfilter
  subst hfilter
  exact ⟨rfl, List.append_cancel_left h⟩

theorem filter_mergeSort (trans : ∀ a b c, le a b = true → le b c = true → le a c = true)
    (total : ∀ a b, (le a b || le b a) = true) (p : α → Bool) (items : List α) :
    (items.mergeSort le).filter p = (items.filter p).mergeSort le := by
  induction items with
  | nil => simp
  | cons a rest ih =>
    obtain ⟨before, after, hall, hrest, hbefore⟩ := List.mergeSort_cons trans total a rest
    rw [hrest, List.filter_append] at ih
    cases hp : p a with
    | false =>
      rw [hall, List.filter_append, List.filter_cons_of_neg (by simp [hp]), ih,
        List.filter_cons_of_neg (by simp [hp])]
    | true =>
      -- Without the items that are left out, the same place is behind those that come before `a`.
      obtain ⟨before', after', hall', hrest', hbefore'⟩ :=
        List.mergeSort_cons trans total a (rest.filter p)
      have hsorted := List.pairwise_mergeSort trans total (a :: rest)
      have hsorted' := List.pairwise_mergeSort trans total (a :: rest.filter p)
      rw [hall] at hsorted
      rw [hall'] at hsorted'
      have hafter : ∀ b ∈ after, le a b = true :=
        (List.pairwise_cons.mp (List.pairwise_append.mp hsorted).2.1).1
      have hafter' : ∀ b ∈ after', le a b = true :=
        (List.pairwise_cons.mp (List.pairwise_append.mp hsorted').2.1).1
      obtain ⟨hsame, hsame'⟩ := append_inj_of_class (q := fun b => !le a b) (ih.trans hrest')
        (fun b hb => hbefore b (List.mem_filter.mp hb).1)
        (fun b hb => by simp [hafter b (List.mem_filter.mp hb).1])
        hbefore' (fun b hb => by simp [hafter' b hb])
      rw [hall, List.filter_append, List.filter_cons_of_pos hp, hsame, hsame',
        List.filter_cons_of_pos hp, hall']

end

end Taskbook.Text
