/-
  What saving and removing a page changes: the page of that name and no other (`agreesBut_save`,
  `agreesBut_of_remove?`). Both stay within the session; what was committed is as it was. A page
  that was saved is there, with the content that was given (`find?_save`, `content_save`).
-/
import Taskbook.Store.Basic

namespace Taskbook.Store

/-- The pages but for that of a name are the same, and nothing was committed. -/
structure AgreesBut (store : Store) (name : Text) (later : Store) : Prop where
  committed : later.committed = store.committed
  others : later.entries.filter (·.name ≠ name) = store.entries.filter (·.name ≠ name)

/-- What a session sees is what was committed. -/
def Settled (store : Store) : Prop := store.entries = store.committed

theorem settled_commit (store : Store) : store.commit.Settled := rfl

theorem settled_rollback (store : Store) : store.rollback.Settled := rfl

variable (store : Store) (now : Nat) (name content : Text)

theorem agreesBut_self : store.AgreesBut name store := ⟨rfl, rfl⟩

theorem agreesBut_create : store.AgreesBut name (store.create now name content).1 where
  committed := rfl
  others := by simp [create, List.filter_append]

theorem agreesBut_replace (entry : Entry) :
    store.AgreesBut entry.name (store.replace now entry content).1 where
  committed := rfl
  others := by
    unfold replace
    dsimp only
    induction store.entries with
    | nil => rfl
    | cons other rest ih => by_cases hname : other.name = entry.name <;> simpa [hname] using ih

theorem name_of_find? {store : Store} {name : Text} {entry : Entry}
    (h : store.find? name = some entry) : entry.name = name := by
  simpa using List.find?_some h

theorem agreesBut_save : store.AgreesBut name (store.save now name content).1 := by
  unfold save
  cases hfind : store.find? name with
  | none => exact store.agreesBut_create now name content
  | some entry =>
    dsimp only
    split
    · exact store.agreesBut_self name
    · rw [← name_of_find? hfind]
      exact store.agreesBut_replace now content entry

theorem agreesBut_of_remove? {store later : Store} {name : Text}
    (h : store.remove? name = some later) : store.AgreesBut name later := by
  obtain ⟨entry, -, rfl⟩ := Option.map_eq_some_iff.mp h
  exact ⟨rfl, by simp [List.filter_filter]⟩

/-! ## The page that was saved -/

theorem find?_replace {store : Store} {entry : Entry} (hfind : store.find? entry.name = some entry) :
    (store.replace now entry content).1.find? entry.name =
      some (store.replace now entry content).2 := by
  unfold find? at hfind ⊢
  unfold replace
  dsimp only
  have hname : ((fun other : Entry => decide (other.name = entry.name)) ∘
      fun other => if other.name = entry.name then
        { entry with content, updated := now } else other) =
      fun other => decide (other.name = entry.name) := by
    funext other
    by_cases h : other.name = entry.name <;> simp [h]
  rw [List.find?_map, hname, hfind, Option.map_some, if_pos rfl]

theorem find?_save :
    (store.save now name content).1.find? name = some (store.save now name content).2 := by
  unfold save
  cases hfind : store.find? name with
  | none =>
    unfold find? at hfind ⊢
    simp [create, List.find?_append, hfind]
  | some entry =>
    obtain rfl := name_of_find? hfind
    dsimp only
    split
    · exact hfind
    · exact find?_replace now content hfind

theorem content_save : (store.save now name content).2.content = content := by
  unfold save
  split
  · rfl
  · split
    · assumption
    · rfl

end Taskbook.Store
