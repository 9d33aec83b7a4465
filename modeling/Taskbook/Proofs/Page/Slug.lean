/-
  What an anchor looks like.

  An anchor is to be a slug: groups of small letters and digits of ASCII with single hyphens between
  them. The groups are those of the first run in lower case (`tidied_of_any`), and the hyphen behind
  the last of them is cut off. The one in front of the first is not, as a run starts with a letter.
  But that may be a letter of any script, and only two letters outside ASCII have one of ASCII in
  lower case (`head?_lower`); in front of the groups of a run that starts with any other there is
  still the hyphen for it. This is the one way in which an anchor is not a slug
  (`anchor_is_slug_iff`).
-/
import Taskbook.Proofs.Page.Anchor
import Taskbook.Proofs.Text.Case
import Taskbook.Proofs.Text.Lines

namespace Taskbook.Page

open Text

variable {c : Char} {s group : Text}

/-! ## Slugs -/

/-- Small letters and digits of ASCII, at least one. -/
structure IsGroup (group : Text) : Prop where
  ne_nil : group ≠ []
  anchorChars : ∀ c ∈ group, isAnchorChar c = true

/-- Groups with single hyphens between them. -/
inductive IsSlug : Text → Prop
  | group {group : Text} : IsGroup group → IsSlug group
  | more {group rest : Text} : IsGroup group → IsSlug rest → IsSlug (group ++ '-' :: rest)

theorem isSlug_join {groups : List Text} (hne : groups ≠ [])
    (hgroups : ∀ group ∈ groups, IsGroup group) : IsSlug (join ['-'] groups) := by
  induction groups with
  | nil => exact absurd rfl hne
  | cons group groups ih =>
    obtain ⟨hgroup, hrest⟩ := List.forall_mem_cons.mp hgroups
    cases groups with
    | nil =>
      rw [join_singleton]
      exact .group hgroup
    | cons next groups =>
      rw [join_cons_cons, List.append_assoc]
      exact .more hgroup (ih (List.cons_ne_nil _ _) hrest)

theorem noHyphen_of_isAnchorChar (h : isAnchorChar c = true) : decide (c = '-') = false := by
  rw [decide_eq_false_iff_not]
  rintro rfl
  exact absurd h (by decide)

theorem IsGroup.noHyphen (h : IsGroup group) : ∀ c ∈ group, decide (c = '-') = false :=
  fun c hc => noHyphen_of_isAnchorChar (h.anchorChars c hc)

theorem IsSlug.ne_nil (h : IsSlug s) : s ≠ [] := by
  cases h with
  | group hgroup => exact hgroup.ne_nil
  | more hgroup _ => exact List.append_ne_nil_of_left_ne_nil hgroup.ne_nil _

theorem IsSlug.startsOutside (h : IsSlug s) : StartsOutside (fun c => decide (c = '-')) s := by
  cases h with
  | group hgroup => exact startsOutside_of_forall hgroup.noHyphen
  | more hgroup _ => exact (startsOutside_of_forall hgroup.noHyphen).append hgroup.ne_nil

theorem IsSlug.endsOutside (h : IsSlug s) : EndsOutside (fun c => decide (c = '-')) s := by
  induction h with
  | group hgroup => exact endsOutside_of_forall hgroup.noHyphen
  | more _ hrest ih =>
    rw [List.append_cons]
    exact ih.append hrest.ne_nil

/-- A hyphen in front of a text that starts with something else is a single one. -/
theorem single_hyphen_cons (hstart : StartsOutside (fun c => decide (c = '-')) s)
    (hs : ¬ ['-', '-'] <:+: s) : ¬ ['-', '-'] <:+: '-' :: s := by
  rw [List.infix_cons_iff, not_or]
  refine ⟨fun hfront => ?_, hs⟩
  obtain ⟨rest, rfl⟩ := (List.cons_prefix_cons.mp hfront).2
  exact absurd (startsOutside_cons.mp hstart) (by decide)

theorem single_hyphen_append (hgroup : ∀ c ∈ group, decide (c = '-') = false)
    (hs : ¬ ['-', '-'] <:+: s) : ¬ ['-', '-'] <:+: group ++ s := by
  induction group with
  | nil => exact hs
  | cons c group ih =>
    obtain ⟨hc, hrest⟩ := List.forall_mem_cons.mp hgroup
    rw [List.cons_append, List.infix_cons_iff, not_or]
    refine ⟨fun hfront => ?_, ih hrest⟩
    exact of_decide_eq_false hc (List.cons_prefix_cons.mp hfront).1.symm

theorem IsSlug.single_hyphens (h : IsSlug s) : ¬ ['-', '-'] <:+: s := by
  induction h with
  | @group group hgroup =>
    rw [← List.append_nil group]
    exact single_hyphen_append hgroup.noHyphen (by decide)
  | more hgroup hrest ih =>
    exact single_hyphen_append hgroup.noHyphen (single_hyphen_cons hrest.startsOutside ih)

/-! ## Groups of a text -/

/-- The longest groups in a text, from left to right. -/
def groupsOf (s : Text) : List Text := (s.splitOnP fun c => !isAnchorChar c).filter (· ≠ [])

theorem groupsOf_cons_of_not (hc : isAnchorChar c = false) (s : Text) :
    groupsOf (c :: s) = groupsOf s := by
  unfold groupsOf
  rw [List.splitOnP_cons_eq_if_modifyHead, if_pos (by simp [hc]),
    List.filter_cons_of_neg (by simp)]

theorem splitOnP_cons_of_isAnchorChar (hc : isAnchorChar c = true) (s : Text) :
    ((c :: s).splitOnP fun d => !isAnchorChar d) =
      (s.splitOnP fun d => !isAnchorChar d).modifyHead (c :: ·) := by
  rw [List.splitOnP_cons_eq_if_modifyHead, if_neg (by simp [hc])]

/-- A character in front of a text belongs to the group that the text opens with or, if the text
    does not open with one, is a group by itself. -/
theorem groupsOf_cons_cases (hc : isAnchorChar c = true) (s : Text) :
    (s.head?.any isAnchorChar = true ∧
      ∃ first groups, groupsOf s = first :: groups ∧ groupsOf (c :: s) = (c :: first) :: groups) ∨
    (s.head?.any isAnchorChar = false ∧ groupsOf (c :: s) = [c] :: groupsOf s) := by
  cases s with
  | nil =>
    refine Or.inr ⟨rfl, ?_⟩
    unfold groupsOf
    rw [splitOnP_cons_of_isAnchorChar hc]
    rfl
  | cons d rest =>
    rw [List.head?_cons, Option.any_some]
    cases hd : isAnchorChar d with
    | true =>
      obtain ⟨piece, pieces, hpieces⟩ :=
        List.exists_cons_of_ne_nil (List.splitOnP_ne_nil (fun e => !isAnchorChar e) rest)
      refine Or.inl ⟨rfl, d :: piece, pieces.filter (· ≠ []), ?_, ?_⟩
      · unfold groupsOf
        rw [splitOnP_cons_of_isAnchorChar hd, hpieces]
        rfl
      · unfold groupsOf
        rw [splitOnP_cons_of_isAnchorChar hc, splitOnP_cons_of_isAnchorChar hd, hpieces]
        rfl
    | false =>
      refine Or.inr ⟨rfl, ?_⟩
      rw [groupsOf_cons_of_not hd]
      unfold groupsOf
      rw [splitOnP_cons_of_isAnchorChar hc, List.splitOnP_cons_eq_if_modifyHead,
        if_pos (by simp [hd])]
      rfl

theorem isGroup_of_mem_groupsOf (h : group ∈ groupsOf s) : IsGroup group := by
  induction s generalizing group with
  | nil => cases h
  | cons c s ih =>
    cases hc : isAnchorChar c with
    | true =>
      rcases groupsOf_cons_cases hc s with ⟨-, first, groups, hs, hcons⟩ | ⟨-, hcons⟩
      · rw [hs] at ih
        rw [hcons] at h
        rcases List.mem_cons.mp h with rfl | h
        · have hfirst : IsGroup first := ih List.mem_cons_self
          exact ⟨List.cons_ne_nil _ _, List.forall_mem_cons.mpr ⟨hc, hfirst.anchorChars⟩⟩
        · exact ih (List.mem_cons_of_mem _ h)
      · rw [hcons] at h
        rcases List.mem_cons.mp h with rfl | h
        · exact ⟨List.cons_ne_nil _ _, List.forall_mem_singleton.mpr hc⟩
        · exact ih h
    | false =>
      rw [groupsOf_cons_of_not hc] at h
      exact ih h

theorem groupsOf_eq_nil_iff (s : Text) : groupsOf s = [] ↔ s.any isAnchorChar = false := by
  induction s with
  | nil => exact ⟨fun _ => rfl, fun _ => rfl⟩
  | cons c s ih =>
    cases hc : isAnchorChar c with
    | true =>
      have hne : groupsOf (c :: s) ≠ [] := by
        rcases groupsOf_cons_cases hc s with ⟨-, first, groups, -, hcons⟩ | ⟨-, hcons⟩
        · exact hcons ▸ List.cons_ne_nil _ _
        · exact hcons ▸ List.cons_ne_nil _ _
      simp [hne, hc]
    | false => rw [groupsOf_cons_of_not hc, List.any_cons, hc, Bool.false_or, ih]

theorem groupsOf_ne_nil (h : s.any isAnchorChar = true) : groupsOf s ≠ [] := by
  rw [Ne, groupsOf_eq_nil_iff, h]
  exact Bool.noConfusion

theorem isSlug_groupsOf (h : groupsOf s ≠ []) : IsSlug (join ['-'] (groupsOf s)) :=
  isSlug_join h fun _ => isGroup_of_mem_groupsOf

/-! ## Hyphens put in and cut off -/

/-- A text with a hyphen in front, unless it is empty. -/
def hyphened (s : Text) : Text := if s = [] then [] else '-' :: s

/-- What is left of the hyphened text without a hyphen at its end. -/
def tidied (gap : Bool) (s : Text) : Text := trimEnd (fun c => decide (c = '-')) (hyphenate gap s)

theorem tidied_cons (hc : isAnchorChar c = true) (gap : Bool) (s : Text) :
    tidied gap (c :: s) = c :: tidied false s := by
  unfold tidied
  rw [hyphenate, if_pos hc, trimEnd_cons, if_neg (by simp [noHyphen_of_isAnchorChar hc])]

theorem tidied_cons_of_not (hc : isAnchorChar c = false) (gap : Bool) (s : Text) :
    tidied gap (c :: s) = if gap = true then tidied true s else hyphened (tidied true s) := by
  unfold tidied hyphened
  rw [hyphenate, if_neg (by simp [hc])]
  split
  · rfl
  · rw [trimEnd_cons]
    simp

/-- Whether a run of other characters has begun matters at the front only. -/
theorem tidied_false (s : Text) :
    tidied false s =
      if s.head?.any isAnchorChar = true then tidied true s else hyphened (tidied true s) := by
  cases s with
  | nil => rfl
  | cons c s =>
    rw [List.head?_cons, Option.any_some]
    cases hc : isAnchorChar c with
    | true => rw [if_pos rfl, tidied_cons hc, tidied_cons hc]
    | false =>
      rw [if_neg Bool.false_ne_true, tidied_cons_of_not hc, tidied_cons_of_not hc,
        if_neg Bool.false_ne_true, if_pos rfl]

theorem join_cons_head (c : Char) (first : Text) (groups : List Text) :
    join ['-'] ((c :: first) :: groups) = c :: join ['-'] (first :: groups) := by
  cases groups with
  | nil => rw [join_singleton, join_singleton]
  | cons next groups =>
    rw [join_cons_cons, join_cons_cons]
    rfl

theorem hyphened_join_groupsOf (s : Text) :
    hyphened (join ['-'] (groupsOf s)) =
      if groupsOf s = [] then [] else '-' :: join ['-'] (groupsOf s) := by
  unfold hyphened
  split
  · next hjoin =>
    by_cases hgroups : groupsOf s = []
    · rw [if_pos hgroups]
    · exact absurd hjoin (isSlug_groupsOf hgroups).ne_nil
  · next hjoin =>
    have hgroups : groupsOf s ≠ [] := fun h => hjoin (h ▸ rfl)
    rw [if_neg hgroups]

/-- Behind other characters each group but the first has a hyphen in front of it. -/
theorem tidied_true (s : Text) : tidied true s = join ['-'] (groupsOf s) := by
  induction s with
  | nil => rfl
  | cons c s ih =>
    cases hc : isAnchorChar c with
    | true =>
      rw [tidied_cons hc, tidied_false, ih]
      rcases groupsOf_cons_cases hc s with ⟨hhead, first, groups, hs, hcons⟩ | ⟨hhead, hcons⟩
      · rw [if_pos hhead, hs, hcons, join_cons_head]
      · -- the group ends here, and the hyphen behind it stays if there is another group
        rw [if_neg (by simp [hhead]), hcons, hyphened_join_groupsOf]
        cases groupsOf s with
        | nil => rfl
        | cons next groups =>
          rw [join_cons_cons]
          rfl
    | false => rw [tidied_cons_of_not hc, if_pos rfl, groupsOf_cons_of_not hc, ih]

theorem tidied_of_none (h : s.any isAnchorChar = false) : tidied false s = [] := by
  rw [tidied_false, tidied_true, (groupsOf_eq_nil_iff s).mpr h]
  exact ite_self _

/-- The groups of a text joined, with a hyphen in front if the text does not open with one. -/
theorem tidied_of_any (h : s.any isAnchorChar = true) :
    tidied false s =
      (if s.head?.any isAnchorChar = true then [] else ['-']) ++ join ['-'] (groupsOf s) := by
  rw [tidied_false, tidied_true, hyphened_join_groupsOf, if_neg (groupsOf_ne_nil h)]
  split <;> rfl

/-! ## The letter that a run starts with -/

/-- A character outside ASCII, but for the dotted capital I and the Kelvin sign, the lower case of
    which starts with the letters i and k of ASCII. -/
def isForeign (c : Char) : Bool :=
  decide (0x80 ≤ c.toNat) && c.toNat ≠ 0x130 && c.toNat ≠ 0x212a

theorem exists_lead {run : Text} (h : leadRun? s = some run) :
    ∃ c rest, run = c :: rest ∧ isLead c = true := by
  induction s with
  | nil => cases h
  | cons c s ih =>
    rw [leadRun?] at h
    split at h
    · split at h
      · split at h
        · next hlead => exact ⟨_, _, (Option.some.inj h).symm, hlead⟩
        · exact ih h
      · cases h
    · exact ih h

theorem toNat_of_isAnchorChar (h : isAnchorChar c = true) : 0x30 ≤ c.toNat ∧ c.toNat ≤ 0x7a := by
  have h0 : '0'.val.toNat = 0x30 := rfl
  have h9 : '9'.val.toNat = 0x39 := rfl
  have ha : 'a'.val.toNat = 0x61 := rfl
  have hz : 'z'.val.toNat = 0x7a := rfl
  simp only [isAnchorChar, isSmall, isAsciiDigit, Bool.or_eq_true, Bool.and_eq_true,
    decide_eq_true_eq, Char.le_def, UInt32.le_iff_toNat_le, h0, h9, ha, hz] at h
  change 0x30 ≤ c.val.toNat ∧ c.val.toNat ≤ 0x7a
  omega

theorem isAnchorChar_ofNat {n : Nat} (h : 0x80 ≤ n) : isAnchorChar (Char.ofNat n) = false := by
  have hcode : (Char.ofNat n).toNat = n ∨ (Char.ofNat n).toNat = 0 := by
    unfold Char.ofNat
    by_cases hvalid : n.isValidChar
    · rw [dif_pos hvalid]
      exact Or.inl rfl
    · rw [dif_neg hvalid]
      exact Or.inr rfl
  rw [← Bool.not_eq_true]
  intro hchar
  have := toNat_of_isAnchorChar hchar
  omega

theorem isAsciiLetter_of_isLead (hc : isLead c = true) (h : c.toNat < 0x80) :
    isAsciiLetter c = true := by
  have hhigh : decide (0x80 ≤ c.toNat) = false := decide_eq_false (by omega)
  simp only [isLead, isWord, isAlnum, isAsciiAlnum, isDigit, hhigh, Bool.false_and, Bool.or_false,
    Bool.and_eq_true, Bool.or_eq_true, Bool.not_eq_true', decide_eq_true_eq] at hc
  obtain ⟨⟨(hletter | hdigit) | hline, hnoDigit⟩, hnoLine⟩ := hc
  · exact hletter
  · rw [hdigit] at hnoDigit
    cases hnoDigit
  · exact absurd hline hnoLine

theorem isAnchorChar_smallChar (hc : isAsciiLetter c = true) :
    isAnchorChar (smallChar c) = true := by
  cases hcapital : isCapital c with
  | true =>
    obtain ⟨n, hn, rfl⟩ := exists_of_isCapital hcapital
    have hall : ∀ m < 26, isAnchorChar (smallChar (Char.ofNat (0x41 + m))) = true := by decide
    exact hall n hn
  | false =>
    have hsmall : isSmall c = true := by simpa [isAsciiLetter, hcapital] using hc
    unfold smallChar isAnchorChar
    rw [if_neg (by simp [hcapital]), hsmall, Bool.true_or]

/-- The lower case of a run opens with a group unless the run starts with a foreign letter. -/
theorem head?_lower (hc : isLead c = true) (rest : Text) :
    (lower (c :: rest)).head?.any isAnchorChar = !isForeign c := by
  unfold lower lowerAfter
  by_cases hsigma : c.toNat = 0x3a3
  · have hforeign : isForeign c = true := by simp [isForeign, hsigma]
    rw [if_pos hsigma, hforeign]
    exact isAnchorChar_ofNat (by split <;> decide)
  rw [if_neg hsigma]
  by_cases hascii : c.toNat < 0x80
  · have hforeign : isForeign c = false := by simp [isForeign, Nat.not_le_of_lt hascii]
    have hlower : lowerChar c = [smallChar c] := if_pos hascii
    rw [hlower, hforeign]
    exact isAnchorChar_smallChar (isAsciiLetter_of_isLead hc hascii)
  by_cases hdotted : c.toNat = 0x130
  · have hforeign : isForeign c = false := by simp [isForeign, hdotted]
    have hlower : lowerChar c = ['i', Char.ofNat 0x307] := by
      unfold lowerChar
      rw [if_neg hascii, if_pos hdotted]
    rw [hlower, hforeign]
    rfl
  by_cases hkelvin : c.toNat = 0x212a
  · have hforeign : isForeign c = false := by simp [isForeign, hkelvin]
    have hlower : lowerChar c = ['k'] := by
      rw [← Char.ofNat_toNat c, hkelvin]
      decide +kernel
    rw [hlower, hforeign]
    rfl
  have hforeign : isForeign c = true := by
    simp [isForeign, hdotted, hkelvin, Nat.le_of_not_lt hascii]
  obtain ⟨n, hn, hlower⟩ := lowerChar_of_not_ascii (Nat.le_of_not_lt hascii) hdotted hkelvin
  rw [hlower, hforeign]
  exact isAnchorChar_ofNat hn

/-! ## Anchors -/

/-- The groups of small letters and digits in the lower case of the first run; if there are none,
    or no run, the word that stands for them. -/
def anchorGroups (fragment : Text) : List Text :=
  match leadRun? fragment with
  | none => ["section"]
  | some run => if run.lower.any isAnchorChar = true then groupsOf run.lower else ["section"]

/-- The first run starts with a foreign letter, and there is something in it for an anchor. -/
def losesLead (fragment : Text) : Bool :=
  (leadRun? fragment).any fun run => run.head?.any isForeign && run.lower.any isAnchorChar

theorem slugOf_some (run : Text) :
    slugOf (some run) =
      match tidied false run.lower with
      | [] => "section"
      | slug => slug := rfl

/-- The anchor of a run is its groups with single hyphens between them, if there are any, behind a
    hyphen if the run starts with a foreign letter. -/
theorem slugOf_of_any (hc : isLead c = true) {rest : Text}
    (h : (lower (c :: rest)).any isAnchorChar = true) :
    slugOf (some (c :: rest)) =
      (if isForeign c = true then ['-'] else []) ++ join ['-'] (groupsOf (lower (c :: rest))) := by
  -- a slug is not empty, so the word that stands for it is not taken
  obtain ⟨d, slug, hcons⟩ :=
    List.exists_cons_of_ne_nil (isSlug_groupsOf (groupsOf_ne_nil h)).ne_nil
  rw [slugOf_some, tidied_of_any h, head?_lower hc, hcons]
  cases isForeign c <;> rfl

theorem slugOf_of_none {run : Text} (h : run.lower.any isAnchorChar = false) :
    slugOf (some run) = "section" := by
  rw [slugOf_some, tidied_of_none h]

/-- An anchor is its groups with single hyphens between them, behind a hyphen where the letter that
    the run starts with is lost. -/
theorem anchor_eq (fragment : Text) :
    anchor fragment =
      (if losesLead fragment = true then ['-'] else []) ++ join ['-'] (anchorGroups fragment) := by
  rw [anchor_eq_slugOf]
  cases hrun : leadRun? fragment with
  | none =>
    have hlost : losesLead fragment = false := by simp only [losesLead, hrun, Option.any_none]
    have hgroups : anchorGroups fragment = [("section" : Text)] := by
      simp only [anchorGroups, hrun]
    rw [hlost, hgroups]
    rfl
  | some run =>
    obtain ⟨c, rest, rfl, hlead⟩ := exists_lead hrun
    have hlost : losesLead fragment = (isForeign c && (lower (c :: rest)).any isAnchorChar) := by
      simp only [losesLead, hrun, Option.any_some, List.head?_cons]
    have hgroups : anchorGroups fragment =
        if (lower (c :: rest)).any isAnchorChar = true then groupsOf (lower (c :: rest))
        else [("section" : Text)] := by
      simp only [anchorGroups, hrun]
    cases hany : (lower (c :: rest)).any isAnchorChar with
    | true =>
      rw [slugOf_of_any hlead hany, hlost, hgroups, hany, Bool.and_true, if_pos rfl]
    | false =>
      rw [slugOf_of_none hany, hlost, hgroups, hany, Bool.and_false]
      rfl

theorem isGroup_of_mem_anchorGroups {fragment : Text} (h : group ∈ anchorGroups fragment) :
    IsGroup group := by
  have hsection : IsGroup "section" := ⟨by decide, List.all_eq_true.mp (by decide)⟩
  unfold anchorGroups at h
  split at h
  · exact List.mem_singleton.mp h ▸ hsection
  · split at h
    · exact isGroup_of_mem_groupsOf h
    · exact List.mem_singleton.mp h ▸ hsection

theorem anchorGroups_ne_nil (fragment : Text) : anchorGroups fragment ≠ [] := by
  unfold anchorGroups
  split
  · exact List.cons_ne_nil _ _
  · split
    · next h => exact groupsOf_ne_nil h
    · exact List.cons_ne_nil _ _

/-- An anchor is made of groups with single hyphens between them: those of the first run in lower
    case, or the word that stands for them. It is not empty, holds nothing but small letters, digits
    and hyphens, has no two hyphens next to each other and none at its end. At its start there is
    one, so that it is no slug, exactly if the letter that the run starts with is lost. -/
theorem anchor_is_slug_iff (fragment : Text) :
    anchor fragment =
        (if losesLead fragment = true then ['-'] else []) ++ join ['-'] (anchorGroups fragment) ∧
      (anchorGroups fragment ≠ [] ∧ ∀ group ∈ anchorGroups fragment, IsGroup group) ∧
      (anchor fragment ≠ [] ∧ (∀ c ∈ anchor fragment, isAnchorChar c = true ∨ c = '-') ∧
        EndsOutside (fun c => decide (c = '-')) (anchor fragment) ∧
        ¬ ['-', '-'] <:+: anchor fragment) ∧
      (IsSlug (anchor fragment) ↔ losesLead fragment = false) := by
  have hgroups : ∀ group ∈ anchorGroups fragment, IsGroup group :=
    fun _ => isGroup_of_mem_anchorGroups
  have hslug : IsSlug (join ['-'] (anchorGroups fragment)) :=
    isSlug_join (anchorGroups_ne_nil fragment) hgroups
  have hanchor := anchor_eq fragment
  refine ⟨hanchor, ⟨anchorGroups_ne_nil fragment, hgroups⟩,
    ⟨?filled, fun _ hc => mem_slugOf hc, ?ends, ?single⟩, ?slug⟩
  case filled =>
    rw [hanchor]
    exact List.append_ne_nil_of_right_ne_nil _ hslug.ne_nil
  case ends =>
    rw [hanchor]
    exact hslug.endsOutside.append hslug.ne_nil
  case single =>
    rw [hanchor]
    split
    · exact single_hyphen_cons hslug.startsOutside hslug.single_hyphens
    · exact hslug.single_hyphens
  case slug =>
    rw [hanchor]
    cases losesLead fragment with
    | true =>
      refine iff_of_false (fun h => ?_) Bool.noConfusion
      exact absurd (startsOutside_cons.mp h.startsOutside) (by decide)
    | false => exact iff_of_true hslug rfl

example : anchorGroups ">C++ & Python: notes!</h2>" = [("c" : Text), "python", "notes"] := by
  decide +kernel

/-- In front of a heading that starts with an accented letter the hyphen for it stays. -/
theorem accented_letter_leaves_hyphen :
    anchor ">École</h1>" = "-cole" ∧ ¬ IsSlug (anchor ">École</h1>") := by
  have hanchor : anchor ">École</h1>" = "-cole" := by decide +kernel
  refine ⟨hanchor, fun h => ?_⟩
  rw [hanchor] at h
  exact absurd (startsOutside_cons.mp h.startsOutside) (by decide)

end Taskbook.Page
