/-
  Origins and the texts behind them. A name of an origin stands for one text
  (`World.textOf?`), and every source a task points at has the text of its origin
  (`textOf?_of_find`). A line keeps its keyword, its description and its own tags when a source
  claims it.
-/
import Mathlib.Data.List.Forall2
import Taskbook.Include.Source
import Taskbook.Proofs.Task.Tags

namespace Taskbook

/-- Whether the task comes from the origin with a given name. -/
def Task.comesFrom (task : Task) (name : Text) : Bool := task.origin.any (·.name = name)

/-- The text of the origin with a given name. -/
def World.textOf? (world : World) : Text → Option Text
  | '/' :: name => world.notebook.find? name
  | url =>
    match world.reply url with
    | .body content => some content
    | _ => none

/-- `task` is the line `own` with more tags behind its own. -/
structure Extends (own task : Task) : Prop where
  keyword : task.keyword = own.keyword
  description : task.description = own.description
  tags : own.tags <+: task.tags

/-! ## Texts of origins -/

theorem Notebook.find?_of_mem_pages {book : Notebook} {name content : Text}
    (h : (name, content) ∈ book.pages) : book.find? name = some content := by
  obtain ⟨before, after, hpages⟩ := List.append_of_mem h
  have hdistinct := book.distinct
  rw [hpages, List.map_append, List.nodup_append] at hdistinct
  refine List.lookup_eq_some_iff.mpr ⟨before, after, hpages, fun page hpage => ?_⟩
  have hne := hdistinct.2.2 page.1 (List.mem_map_of_mem hpage) name (by simp)
  simpa [bne_iff_ne] using hne.symm

theorem Task.startsWith_of_address? {task : Task} {url : Text} (h : task.address? = some url) :
    Text.startsWith url "http" = true := by
  unfold address? at h
  split at h
  · next hc =>
    obtain rfl := Option.some.inj h
    exact (Bool.and_eq_true_iff.mp hc).2
  · cases h

theorem World.textOf?_of_find {world : World} {task : Task} {found : List Source}
    {source : Source} (h : world.find task = .sources found) (hs : source ∈ found) :
    world.textOf? source.origin.name = some source.text := by
  obtain ⟨name, content, hpage, rfl⟩ | ⟨url, content, hurl, hreply, rfl⟩ := source_of_find h hs
  · exact Notebook.find?_of_mem_pages hpage
  · -- An address starts with a letter, so it is not read as the name of a page.
    have hhttp := Task.startsWith_of_address? hurl
    change world.textOf? url = some content
    unfold textOf?
    split
    · exact absurd hhttp Bool.false_ne_true
    · rw [hreply]

/-! ## Claimed lines -/

theorem Origin.claim_extends (origin : Origin) (task : Task) :
    Extends task (origin.claim task) := by
  unfold claim
  cases task.collects with
  | true => exact ⟨rfl, rfl, Tags.prefix_inherit _ _⟩
  | false => exact ⟨rfl, rfl, (Tags.prefix_inherit _ _).trans (Tags.prefix_inherit _ _)⟩

theorem Origin.claim_collects (origin : Origin) (task : Task) :
    (origin.claim task).collects = task.collects := by
  unfold Task.collects
  rw [(origin.claim_extends task).keyword]

theorem Origin.claim_origin (origin : Origin) (task : Task) :
    (origin.claim task).origin = some origin := rfl

theorem Source.origin_of_mem_tasks {source : Source} {task : Task} (h : task ∈ source.tasks) :
    task.origin = some source.origin := by
  obtain ⟨own, _, rfl⟩ := List.mem_map.mp h
  exact source.origin.claim_origin own

theorem Source.comesFrom_of_mem_tasks {source : Source} {task : Task} (h : task ∈ source.tasks)
    (name : Text) : task.comesFrom name = decide (source.origin.name = name) := by
  simp [Task.comesFrom, origin_of_mem_tasks h]

theorem Source.filter_tasks (source : Source) :
    source.tasks.filter (!·.collects) =
      ((Task.parseAll source.text).filter (!·.collects)).map source.origin.claim := by
  unfold tasks
  rw [List.filter_map]
  congr 2
  funext task
  simp only [Function.comp_apply, Origin.claim_collects]

/-- The tasks of a source are the lines of its text, extended. -/
theorem Source.forall₂_extends_tasks (source : Source) :
    List.Forall₂ Extends (Task.parseAll source.text) source.tasks := by
  rw [tasks, List.forall₂_map_right_iff, List.forall₂_same]
  exact fun task _ => source.origin.claim_extends task

/-- The tasks of a source that do not collect are those lines of its text, extended. -/
theorem Source.forall₂_extends (source : Source) :
    List.Forall₂ Extends ((Task.parseAll source.text).filter (!·.collects))
      (source.tasks.filter (!·.collects)) := by
  rw [source.filter_tasks, List.forall₂_map_right_iff, List.forall₂_same]
  exact fun task _ => source.origin.claim_extends task

end Taskbook
