/-
  Tasks stay well formed on their way into a task list. The tags that a collecting line hands down
  are among its own (`Task.handed_subset`), those that the name of a page implies can stand on a
  line (`wellFormed_impliedTags`), and so whatever is pending along a run stays well formed
  (`invariant_wellFormed`).
-/
import Taskbook.Proofs.Include.Pending
import Taskbook.Proofs.Task.RoundTrip
import Taskbook.Proofs.Task.Tags

namespace Taskbook

/-! ## Tags handed down and implied -/

theorem Tags.WellFormed.inherit {tags handed : Tags} (h : tags.WellFormed)
    (hh : handed.WellFormed) : (tags.inherit handed).WellFormed :=
  fun tag htag => (mem_inherit htag).elim (h tag) (hh tag)

theorem Task.handed_subset (task : Task) : task.handed ⊆ task.tags := by
  intro tag htag
  obtain ⟨key, -, hkey⟩ := List.mem_filterMap.mp htag
  obtain ⟨value, hvalue, rfl⟩ := Option.map_eq_some_iff.mp hkey
  exact Tags.mem_of_get? (Option.filter_eq_some_iff.mp hvalue).1

theorem word_of_mem_handedKeys : ∀ key ∈ handedKeys, key ≠ [] ∧ key.all isWord = true := by decide

theorem isWord_of_isCapital {c : Char} (h : isCapital c = true) : isWord c = true := by
  simp [isWord, isAlnum, isAsciiAlnum, isAsciiLetter, h]

theorem PageName.word_of_tagValue? {rest value : Text} (h : tagValue? rest = some value) :
    value ≠ [] ∧ ∀ c ∈ value, isWord c = true := by
  unfold tagValue? at h
  split at h
  · next c tail =>
    split at h
    · next hword =>
      obtain rfl := Option.some.inj h
      obtain ⟨hc, htail⟩ := Bool.and_eq_true_iff.mp hword
      refine ⟨List.cons_ne_nil _ _, fun d hd => ?_⟩
      rcases List.mem_cons.mp hd with rfl | hd
      · exact isWord_of_isCapital hc
      · exact List.all_eq_true.mp htail d hd
    · cases h
  · cases h

theorem PageName.wellFormed_impliedTags (name : Text) : (impliedTags name).WellFormed := by
  have hform : ∀ {key rest value : Text}, key ∈ handedKeys → tagValue? rest = some value →
      Tags.WellFormed [(key, value)] := by
    intro key rest value hkey hvalue tag htag
    obtain rfl := List.mem_singleton.mp htag
    obtain ⟨hne, hword⟩ := word_of_tagValue? hvalue
    obtain ⟨hkey_ne, hkey_word⟩ := word_of_mem_handedKeys key hkey
    exact ⟨hkey_ne, List.all_eq_true.mp hkey_word, hne,
      fun c hc => isTagValue_of_isWord (hword c hc)⟩
  unfold impliedTags
  dsimp only
  split
  · next value hvalue =>
    obtain ⟨rest, -, hrest⟩ := Option.bind_eq_some_iff.mp hvalue
    exact hform (by decide) hrest
  · split
    · next value hvalue =>
      obtain ⟨rest, -, hrest⟩ := Option.bind_eq_some_iff.mp hvalue
      exact hform (by decide) hrest
    · nofun

/-! ## What is pending -/

/-- The tags that an origin gives its tasks can stand on a line. -/
structure Origin.WellFormed (origin : Origin) : Prop where
  tags : origin.tags.WellFormed
  implied : origin.implied.WellFormed

/-- The item leads to well-formed tasks only. -/
def Item.WellFormed : Item → Prop
  | .line task => task.WellFormed
  | .call task => task.tags.WellFormed
  | .source found => found.origin.WellFormed

theorem Origin.WellFormed.claim {origin : Origin} {task : Task} (h : origin.WellFormed)
    (ht : task.WellFormed) : (origin.claim task).WellFormed := by
  have htags := ht.tags.inherit h.tags
  unfold Origin.claim
  cases task.collects with
  | true => exact ⟨htags, ht.trimmed, ht.oneLine, ht.untagged⟩
  | false => exact ⟨htags.inherit h.implied, ht.trimmed, ht.oneLine, ht.untagged⟩

theorem Source.wellFormed_of_mem_tasks {source : Source} (h : source.origin.WellFormed)
    {task : Task} (htask : task ∈ source.tasks) : task.WellFormed := by
  obtain ⟨own, hown, rfl⟩ := List.mem_map.mp htask
  obtain ⟨line, -, hline⟩ := List.mem_filterMap.mp hown
  exact h.claim (wellFormed_of_parse? hline)

namespace World

variable {world : World}

theorem wellFormed_of_find {task : Task} (h : task.tags.WellFormed) {found : List Source}
    {source : Source} (hfind : world.find task = .sources found) (hs : source ∈ found) :
    source.origin.WellFormed := by
  have hhanded : task.handed.WellFormed := fun tag htag => h tag (task.handed_subset htag)
  obtain ⟨name, _, _, rfl⟩ | ⟨_, _, _, _, rfl⟩ := source_of_find hfind hs
  · exact ⟨hhanded, PageName.wellFormed_impliedTags name⟩
  · exact ⟨hhanded, nofun⟩

theorem invariant_wellFormed (world : World) : world.Invariant Item.WellFormed where
  expand _ hline := Task.WellFormed.tags hline
  found hcall hfind hsource := wellFormed_of_find hcall hfind hsource
  enter hsource htask := Source.wellFormed_of_mem_tasks hsource htask

theorem Runs.wellFormed {visited : Option (List Text)} {items : List Item} {found : Expansion}
    (h : world.Runs visited items found) (hitems : ∀ item ∈ items, item.WellFormed) :
    ∀ task ∈ found.tasks, task.WellFormed :=
  h.tasks_of_invariant world.invariant_wellFormed hitems

end World

/-- Printing and reading are inverse: a well-formed task is read back from its line, and only
    well-formed tasks are read from a line or get into the task list of one. -/
theorem tasks_are_read_back :
    (∀ task : Task, task.WellFormed →
      Task.parse? task.print = some { task with origin := none }) ∧
    (∀ line task, Task.parse? line = some task → task.WellFormed) ∧
    ∀ (world : World) (limit : Nat) (line : Text) (head : Task) (visited : Option (List Text))
      (result : Resolution), Task.parse? line = some head →
      world.resolveWithin limit head visited = some result →
      ∀ task ∈ result.listing.tasks, task.WellFormed := by
  refine ⟨fun _ => parse?_print, fun _ _ => wellFormed_of_parse?, ?_⟩
  intro world limit line head visited result hhead hresult
  refine (World.runs_of_resolveWithin hresult).wellFormed fun item hitem => ?_
  obtain rfl := List.mem_singleton.mp hitem
  exact (wellFormed_of_parse? hhead).tags

theorem tasks_are_read_back_circle :
    ∃ task head : Task, ∃ result : Resolution,
      Task.parse? "* TODO: due:2024-02.03  see a:b, then c " = some task ∧ task.WellFormed ∧
      Task.parse? task.print = some { task with origin := none } ∧
      Task.parse? "INCLUDE wiki:A context:Home" = some head ∧
      circle.resolveWithin 3 head (some []) = some result ∧ result.listing.tasks.length = 3 ∧
      ∀ task ∈ result.listing.tasks, task.WellFormed := by
  have hline : ∃ task, Task.parse? "* TODO: due:2024-02.03  see a:b, then c " = some task :=
    Option.isSome_iff_exists.mp (by decide +kernel)
  have hhead : Task.parse? "INCLUDE wiki:A context:Home" =
      some { keyword := .collect, tags := [("wiki", "A"), ("context", "Home")] } := by
    decide +kernel
  have hlength : (circle.resolveWithin 3
      { keyword := .collect, tags := [("wiki", "A"), ("context", "Home")] } (some [])).map
        (·.listing.tasks.length) = some 3 := by
    decide +kernel
  obtain ⟨hprint, hread, hresolve⟩ := tasks_are_read_back
  obtain ⟨task, htask⟩ := hline
  obtain ⟨result, hresult, hthree⟩ := Option.map_eq_some_iff.mp hlength
  exact ⟨task, _, result, htask, hread _ task htask, hprint task (hread _ task htask), hhead,
    hresult, hthree, hresolve circle 3 _ _ (some []) result hhead hresult⟩

end Taskbook
