/-
  The expansion of collecting lines comes to an end.

  An outcome does not depend on the limit: a greater one gives the same (`expandWithin_of_le`).
  That a limit above the number of origins not yet met is enough is `returns_expandWithin`. The
  limit counts the calls that stand in each other, so `resolution_comes_to_an_end` bounds how deep
  they nest.
-/
import Taskbook.Proofs.Include.Run

namespace Taskbook

/-! ## The limit does not change the outcome -/

theorem Expansion.andThen_of_agree {first last : Expansion}
    {next next' : Option (List Text) → Option Expansion}
    (hnext : ∀ visited after, next visited = some after → next' visited = some after)
    (h : first.andThen next = some last) : first.andThen next' = some last := by
  unfold andThen at h ⊢
  split at h
  · exact h
  · obtain ⟨after, hafter, rfl⟩ := Option.map_eq_some_iff.mp h
    rw [hnext _ _ hafter]
    rfl

section

variable {call call' : Task → Option (List Text) → Option Expansion}
  {visited : Option (List Text)} {found : Expansion}

theorem expandTasks_of_agree
    (hcall : ∀ task visited found, call task visited = some found →
      call' task visited = some found)
    {tasks : List Task} (h : expandTasks call tasks visited = some found) :
    expandTasks call' tasks visited = some found := by
  induction tasks generalizing visited found with
  | nil => exact h
  | cons task rest ih =>
    unfold expandTasks at h ⊢
    split at h
    · next hexp =>
      obtain ⟨first, hfirst, hlast⟩ := Option.bind_eq_some_iff.mp h
      rw [if_pos hexp, hcall _ _ _ hfirst]
      exact Expansion.andThen_of_agree (fun _ _ => ih) hlast
    · next hkept =>
      obtain ⟨after, hafter, rfl⟩ := Option.map_eq_some_iff.mp h
      rw [if_neg hkept, ih hafter]
      rfl

theorem sourceExpand_of_agree
    (hcall : ∀ task visited found, call task visited = some found →
      call' task visited = some found)
    {source : Source} (h : source.expand call visited = some found) :
    source.expand call' visited = some found := by
  unfold Source.expand at h ⊢
  split at h
  · next hmet => rwa [if_pos hmet]
  · next hnew =>
    rw [if_neg hnew]
    exact expandTasks_of_agree hcall h

theorem expandSources_of_agree
    (hcall : ∀ task visited found, call task visited = some found →
      call' task visited = some found)
    {sources : List Source} (h : expandSources call sources visited = some found) :
    expandSources call' sources visited = some found := by
  induction sources generalizing visited found with
  | nil => exact h
  | cons source rest ih =>
    unfold expandSources at h ⊢
    obtain ⟨first, hfirst, hlast⟩ := Option.bind_eq_some_iff.mp h
    rw [sourceExpand_of_agree hcall hfirst]
    exact Expansion.andThen_of_agree (fun _ _ => ih) hlast

end

namespace World

variable {world : World} {visited : Option (List Text)} {task : Task}

theorem expandWithin_succ {limit : Nat} {found : Expansion}
    (h : world.expandWithin limit task visited = some found) :
    world.expandWithin (limit + 1) task visited = some found := by
  induction limit generalizing task visited found with
  | zero => cases h
  | succ limit ih =>
    rw [expandWithin] at h ⊢
    cases hfind : world.find task with
    | error cause => simpa only [hfind] using h
    | invalidAddress fault => simpa only [hfind] using h
    | sources sources =>
      simp only [hfind] at h ⊢
      obtain ⟨after, hafter, rfl⟩ := Option.map_eq_some_iff.mp h
      rw [expandSources_of_agree (fun _ _ _ => ih) hafter]
      rfl

theorem expandWithin_of_le {limit limit' : Nat} {found : Expansion} (hle : limit ≤ limit')
    (h : world.expandWithin limit task visited = some found) :
    world.expandWithin limit' task visited = some found := by
  induction hle with
  | refl => exact h
  | step _ ih => exact expandWithin_succ ih

theorem resolveWithin_of_le {limit limit' : Nat} {result : Resolution} (hle : limit ≤ limit')
    (h : world.resolveWithin limit task visited = some result) :
    world.resolveWithin limit' task visited = some result := by
  obtain ⟨found, hfound, rfl⟩ := Option.map_eq_some_iff.mp h
  rw [resolveWithin, expandWithin_of_le hle hfound]
  rfl

/-- A limit that is enough gives the task list, and so does every greater one. -/
theorem exists_resolveWithin {P : Task → Prop} {names : List Text} (hb : world.Bounded P names)
    (ht : P task) (visited : Option (List Text)) :
    ∃ result, ∀ limit, unvisited names visited + 1 ≤ limit →
      world.resolveWithin limit task visited = some result := by
  obtain ⟨found, hfound, _⟩ :=
    returns_expandWithin hb ht (Nat.lt_succ_self (unvisited names visited))
  exact ⟨_, fun limit hle => resolveWithin_of_le hle (congrArg _ hfound)⟩

end World

/-- Where finitely many addresses answer, every collecting line has its task list: calls nest at
    most one deeper than there are pages and answering addresses not yet visited, and where visited
    origins are not kept there is no call but the first. -/
theorem resolution_comes_to_an_end (world : World) (urls : List Text)
    (hurls : ∀ url content, world.reply url = .body content → url ∈ urls) (task : Task) :
    (∀ met, ∃ result, ∀ limit, unvisited (world.origins urls) (some met) + 1 ≤ limit →
      world.resolveWithin limit task (some met) = some result) ∧
    ∃ result, ∀ limit, 1 ≤ limit → world.resolveWithin limit task none = some result := by
  have hb := World.bounded_of_answering hurls
  refine ⟨fun met => ?_, ?_⟩
  · exact World.exists_resolveWithin hb trivial (some met)
  · exact World.exists_resolveWithin hb trivial none

theorem resolution_comes_to_an_end_circle :
    (∀ url content, circle.reply url = .body content → url ∈ ([] : List Text)) ∧
      unvisited (circle.origins []) (some ["/A"]) = 1 ∧
      ∃ result, ∀ limit, 2 ≤ limit →
        circle.resolveWithin limit { keyword := .collect, tags := [("wiki", "all")] }
          (some ["/A"]) = some result := by
  have hurls : ∀ url content, circle.reply url = .body content → url ∈ ([] : List Text) := nofun
  refine ⟨hurls, by decide, ?_⟩
  exact (resolution_comes_to_an_end circle [] hurls _).1 ["/A"]

end Taskbook
