/-
  What passes the checks at the API: an object in the body (`exists_object_of_checkBody`), the
  content in it (`get?_of_checkSave`) and the name of the path as it is (`eq_of_checkName`). No name
  that passes here or at the forms has a slash, so each is the end of a path.
-/
import Taskbook.Site.Check

namespace Taskbook

namespace PageName

theorem slash_not_mem_of_wellFormed {name : Text} (h : wellFormed name = true) :
    name ≠ [] ∧ '/' ∉ name := by
  unfold wellFormed at h
  rw [Bool.and_eq_true, decide_eq_true_eq, List.all_eq_true] at h
  refine ⟨h.1, fun hslash => ?_⟩
  exact absurd (h.2 '/' hslash) (by decide +kernel)

theorem slash_not_mem_of_accepted {name : Text} (h : accepted name = true) :
    name ≠ [] ∧ '/' ∉ name := by
  unfold accepted at h
  rw [Bool.and_eq_true, decide_eq_true_eq, List.all_eq_true] at h
  obtain ⟨hne, hall⟩ := h
  unfold Text.dropFinalNewline at hne hall
  constructor
  · rintro rfl
    exact hne rfl
  · intro hslash
    have hstem : '/' ∈ if name.getLast? = some '\n' then name.dropLast else name := by
      split
      · next hlast =>
        obtain ⟨body, rfl⟩ := List.getLast?_eq_some_iff.mp hlast
        rw [List.dropLast_concat]
        exact (List.mem_append.mp hslash).resolve_right (by decide)
      · exact hslash
    exact absurd (hall '/' hstem) (by decide +kernel)

end PageName

namespace Site

open Http

theorem eq_ok_of_toOption {ε α : Type} {outcome : Except ε α} {a : α}
    (h : outcome.toOption = some a) : outcome = .ok a := by
  cases outcome with
  | error cause => cases h
  | ok found => exact congrArg Except.ok (Option.some.inj h)

theorem eq_ok_of_both {α β : Type} {before : Checked α} {found : Checked β} {a : α} {b : β}
    (h : both before found = .ok (a, b)) : before = .ok a ∧ found = .ok b := by
  unfold both at h
  split at h <;> simp_all

theorem problemOf_ne_ok {α : Type} {value : Json} {place : List Text} {fault : Fault} {a : α} :
    problemOf value place fault ≠ .ok a := by
  unfold problemOf problem
  split <;> exact fun h => nomatch h

theorem checkBody_of_object {α β : Type} {request : Request} {before : Checked α}
    {check : Json → Checked β} {members : List (Text × Json)}
    (h : request.json? = .ok (some (.object members))) :
    checkBody request before check = both before (check (.object members)) := by
  unfold checkBody
  rw [h]

/-- What passes has an object in its body. -/
theorem exists_object_of_checkBody {α β : Type} {request : Request} {before : Checked α}
    {check : Json → Checked β} {a : α} {b : β} (h : checkBody request before check = .ok (a, b)) :
    ∃ members, request.json? = .ok (some (.object members)) ∧ before = .ok a ∧
      check (.object members) = .ok b := by
  unfold checkBody at h
  split at h
  · cases h
  · cases h
  · cases (eq_ok_of_both h).2
  · next members hjson => exact ⟨members, hjson, eq_ok_of_both h⟩
  · exact absurd (eq_ok_of_both h).2 problemOf_ne_ok

theorem eq_ok_of_checkBody {α β : Type} {request : Request} {before : Checked α}
    {check : Json → Checked β} {a : α} {b : β} (h : checkBody request before check = .ok (a, b)) :
    before = .ok a :=
  have ⟨_, _, hbefore, _⟩ := exists_object_of_checkBody h
  hbefore

theorem eq_of_checkLength {place : List Text} {limit : Nat} {s s' : Text}
    (h : checkLength place limit s = .ok s') : s' = s := by
  unfold checkLength at h
  split at h
  · cases h
  · exact (Except.ok.inj h).symm

/-- The content that is saved is a member of the body. -/
theorem get?_of_checkSave {body : Json} {content : Text} (h : checkSave body = .ok content) :
    body.get? "content" = some (.string content) := by
  unfold checkSave checkMember at h
  split at h
  · exact absurd h problemOf_ne_ok
  · next s hmember =>
    obtain rfl := eq_of_checkLength h
    exact hmember
  · exact absurd h problemOf_ne_ok

/-- The content that passes is the text of its field in the form. -/
theorem exists_form_of_checkForm {read : Except FormFault Form} {content : Text}
    (h : checkForm read = .ok content) : ∃ form, read = .ok form ∧ form.text "body" = content := by
  unfold checkForm at h
  split at h
  · cases h
  · cases h
  · next form =>
    split at h
    · cases h
    · exact ⟨form, rfl, Except.ok.inj h⟩

theorem checkName_eq_ok_iff {place : List Text} {name name' : Text} :
    checkName place name = .ok name' ↔
      name' = name ∧ PageName.wellFormed name = true ∧ name.length ≤ PageName.maxLength := by
  have hempty : PageName.wellFormed [] = false := by decide
  unfold checkName problem
  split
  · next hlong => simp [Nat.not_le_of_lt hlong]
  · next hshort =>
    split
    · next hnil => simp [hnil, hempty]
    · split
      · next hwell => simp [hwell, Nat.le_of_not_lt hshort, eq_comm]
      · next hill => simp [hill]

theorem eq_of_checkName {place : List Text} {name name' : Text}
    (h : checkName place name = .ok name') : name' = name ∧ PageName.wellFormed name = true :=
  have ⟨heq, hwell, _⟩ := checkName_eq_ok_iff.mp h
  ⟨heq, hwell⟩

end Site

end Taskbook
