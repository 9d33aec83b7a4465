/-
  Tags that the name of a page implies.

  The name of a page is put together from a tag (`target?_of_handed`), and taken apart again to find
  the tag (`impliedTags_keyWord`). Both go the same way for values of word characters. A hyphen may
  stand in a name and in a tag on a line as well, but not in a value that is taken from a name: such
  a page is found by its tag, and its name implies nothing (`impliedTags_of_target`). The tasks of a
  page get what its name implies behind their own tags and behind what is handed down
  (`Origin.claim_bears`), along every run (`invariant_bears`).
-/
import Taskbook.Proofs.Include.Inheritance
import Taskbook.Proofs.Include.Literal
import Taskbook.Proofs.Include.WellFormed
import Taskbook.Proofs.PageName.Check

namespace Taskbook

/-! ## Names that imply a tag -/

/-- The word in front of a tag's value in the name of a page. -/
def keyWord (key : Text) : Text := if key = "context" then "Context" else "Project"

theorem target?_of_handed {task : Task} {key value : Text} (hkey : key ∈ handedKeys)
    (hne : value ≠ []) (htags : task.tags = [(key, value)]) :
    task.target? = some (keyWord key ++ value) := by
  have hfilled (other : Text) :
      task.tags.filled? other = if key = other then some value else none := by
    rw [Tags.filled?, htags, Tags.get?_cons]
    split
    · exact Option.filter_some_pos (by simpa using hne)
    · rfl
  rw [Task.target?, hfilled, hfilled, hfilled]
  simp only [handedKeys, List.mem_cons, List.not_mem_nil, or_false] at hkey
  rcases hkey with rfl | rfl <;> rfl

namespace PageName

variable {name key value : Text}

theorem tagValue?_eq_some_iff {rest : Text} :
    tagValue? rest = some value ↔
      rest = value ∧ value.head?.any isCapital = true ∧ ∀ c ∈ value, isWord c = true := by
  cases rest with
  | nil =>
    refine iff_of_false nofun ?_
    rintro ⟨rfl, hhead, -⟩
    cases hhead
  | cons c tail =>
    have hall (hc : isCapital c = true) :
        tail.all isWord = true ↔ ∀ d ∈ c :: tail, isWord d = true := by
      rw [List.all_eq_true, List.forall_mem_cons, and_iff_right (isWord_of_isCapital hc)]
    rw [tagValue?, Option.ite_none_right_eq_some, Bool.and_eq_true, Option.some_inj]
    constructor
    · rintro ⟨⟨hc, htail⟩, rfl⟩
      exact ⟨rfl, hc, (hall hc).mp htail⟩
    · rintro ⟨rfl, hc, hword⟩
      exact ⟨⟨hc, (hall hc).mpr hword⟩, rfl⟩

/-- The words in front of the values differ, so a name implies what stands behind its own. -/
theorem impliedTags_keyWord {rest : Text} (hkey : key ∈ handedKeys)
    (hlast : Text.dropFinalNewline (keyWord key ++ rest) = keyWord key ++ rest) :
    impliedTags (keyWord key ++ rest) = ((tagValue? rest).map (key, ·)).toList := by
  unfold impliedTags
  simp only [hlast]
  simp only [handedKeys, List.mem_cons, List.not_mem_nil, or_false] at hkey
  rcases hkey with rfl | rfl
  · have hproject : Text.dropPrefix? "Project" (keyWord "project" ++ rest) = some rest :=
      Text.dropPrefix?_eq_some_iff.mpr rfl
    have hcontext : Text.dropPrefix? "Context" (keyWord "project" ++ rest) = none := rfl
    rw [hproject, Option.bind_some, hcontext, Option.bind_none]
    cases tagValue? rest <;> rfl
  · have hproject : Text.dropPrefix? "Project" (keyWord "context" ++ rest) = none := rfl
    have hcontext : Text.dropPrefix? "Context" (keyWord "context" ++ rest) = some rest :=
      Text.dropPrefix?_eq_some_iff.mpr rfl
    rw [hproject, Option.bind_none, hcontext, Option.bind_some]
    cases tagValue? rest <;> rfl

theorem eq_of_mem_impliedTags (h : (key, value) ∈ impliedTags name) :
    Text.dropFinalNewline name = keyWord key ++ value ∧ tagValue? value = some value := by
  have hfound {front : Text} (hvalue :
      (Text.dropPrefix? front (Text.dropFinalNewline name)).bind tagValue? = some value) :
      Text.dropFinalNewline name = front ++ value ∧ tagValue? value = some value := by
    obtain ⟨rest, hrest, hread⟩ := Option.bind_eq_some_iff.mp hvalue
    obtain ⟨rfl, -⟩ := tagValue?_eq_some_iff.mp hread
    exact ⟨Text.dropPrefix?_eq_some_iff.mp hrest, hread⟩
  unfold impliedTags at h
  dsimp only at h
  split at h
  · next hvalue =>
    obtain ⟨rfl, rfl⟩ := Prod.mk.inj (List.mem_singleton.mp h)
    exact hfound hvalue
  · split at h
    · next hvalue =>
      obtain ⟨rfl, rfl⟩ := Prod.mk.inj (List.mem_singleton.mp h)
      exact hfound hvalue
    · cases h

theorem hyphen_notMem_of_tagValue? {rest : Text} (h : tagValue? rest = some value) :
    '-' ∉ value := by
  intro hhyphen
  obtain ⟨-, -, hword⟩ := tagValue?_eq_some_iff.mp h
  exact absurd (hword '-' hhyphen) (by decide)

/-- What the name of the page that a tag leads to implies. -/
theorem impliedTags_of_target (hkey : key ∈ handedKeys) (hvalue : Wordlike value)
    (hcapital : value.head?.any isCapital = true) (hname : Wordlike (keyWord key ++ value)) :
    impliedTags (keyWord key ++ value) = if '-' ∈ value then [] else [(key, value)] := by
  rw [impliedTags_keyWord hkey hname.dropFinalNewline]
  split
  · next hhyphen =>
    have hnone : tagValue? value = none := by
      refine Option.eq_none_iff_forall_ne_some.mpr fun other hread => ?_
      obtain ⟨rfl, -⟩ := tagValue?_eq_some_iff.mp hread
      exact hyphen_notMem_of_tagValue? hread hhyphen
    rw [hnone]
    rfl
  · next hno =>
    have hword : ∀ c ∈ value, isWord c = true := by
      intro c hc
      refine (hvalue.2 c hc).resolve_right ?_
      rintro rfl
      exact hno hc
    rw [tagValue?_eq_some_iff.mpr ⟨rfl, hcapital, hword⟩]
    rfl

theorem impliedTags_eq_iff (hname : Wordlike name) (hkey : key ∈ handedKeys)
    (hvalue : Wordlike value) (hcapital : value.head?.any isCapital = true) :
    impliedTags name = [(key, value)] ↔ keyWord key ++ value = name ∧ '-' ∉ value := by
  constructor
  · intro h
    obtain ⟨hstem, hread⟩ := eq_of_mem_impliedTags (h ▸ List.mem_singleton_self (key, value))
    rw [hname.dropFinalNewline] at hstem
    exact ⟨hstem.symm, hyphen_notMem_of_tagValue? hread⟩
  · rintro ⟨rfl, hno⟩
    rw [impliedTags_of_target hkey hvalue hcapital hname, if_neg hno]

end PageName

/-! ## Tasks of a page -/

/-- The task is the line with more tags behind its own; if the line does not collect and has no tag,
    the tags are the given ones. -/
structure Bears (tags : Tags) (own task : Task) : Prop where
  line : Extends own task
  bare : own.collects = false → own.tags = [] → task.tags = tags

theorem Task.adds_handed (task : Task) : Tags.Adds [] task.handed where
  nodup := (Tags.map_fst_filterMap_sublist handedKeys _).nodup (by decide)
  new _ _ := rfl

theorem Origin.claim_bears {origin : Origin} {caller : Task} (htags : origin.tags = caller.handed)
    (own : Task) : Bears (caller.handed.inherit origin.implied) own (origin.claim own) where
  line := origin.claim_extends own
  bare hkept hbare := by
    rw [origin.claim_tags, hbare, htags, Tags.inherit_of_adds caller.adds_handed, hkept,
      if_neg Bool.false_ne_true, List.nil_append]

/-- The task points at the page of that name, alone or among others. -/
def World.Calls (world : World) (caller : Task) (name : Text) : Prop :=
  ∃ sources source, world.find caller = .sources sources ∧ source ∈ sources ∧
    source.origin.name = pageOrigin name

/-- What is pending of the page are its lines, with what a caller of the page hands down and what
    the name implies. -/
def Item.Bears (world : World) (name content : Text) : Item → Prop
  | .line task => task.comesFrom (pageOrigin name) = true →
      ∃ own ∈ Task.parseAll content, ∃ caller, world.Calls caller name ∧
        Taskbook.Bears (caller.handed.inherit (PageName.impliedTags name)) own task
  | .call _ => True
  | .source found => found.origin.name = pageOrigin name →
      found.text = content ∧ found.origin.implied = PageName.impliedTags name ∧
        ∃ caller, world.Calls caller name ∧ found.origin.tags = caller.handed

namespace World

variable {world : World} {name content : Text} {result : Resolution}

theorem invariant_bears (h : world.notebook.find? name = some content) :
    world.Invariant (Item.Bears world name content) where
  expand _ _ := trivial
  found {task found source} _ hfind hsource := by
    intro hname
    have htext := textOf?_of_find hfind hsource
    obtain ⟨htags, himplied⟩ := implied_of_find hfind hsource
    rw [hname] at htext himplied
    have htext' : source.text = content := Option.some.inj (htext.symm.trans h)
    exact ⟨htext', himplied, task, ⟨found, source, hfind, hsource, hname⟩, htags⟩
  enter {source task} hsource htask := by
    intro hcomes
    rw [Source.comesFrom_of_mem_tasks htask, decide_eq_true_eq] at hcomes
    obtain ⟨htext, himplied, caller, hcalls, htags⟩ := hsource hcomes
    obtain ⟨own, hown, rfl⟩ := List.mem_map.mp htask
    exact ⟨own, htext ▸ hown, caller, hcalls, himplied ▸ Origin.claim_bears htags own⟩

theorem bears_of_resolveWithin (h : world.notebook.find? name = some content) {limit : Nat}
    {task : Task} {visited : Option (List Text)}
    (hresult : world.resolveWithin limit task visited = some result) :
    ∀ task ∈ result.listing.tasks, task.comesFrom (pageOrigin name) = true →
      ∃ own ∈ Task.parseAll content, ∃ caller, world.Calls caller name ∧
        Bears (caller.handed.inherit (PageName.impliedTags name)) own task :=
  (runs_of_resolveWithin hresult).tasks_of_invariant (invariant_bears h)
    (List.forall_mem_singleton.mpr trivial)

/-- With collecting lines as they are, all pages list the lines of each page once. -/
theorem forall₂_bears_of_allPages (h : world.notebook.find? name = some content) (caller : Task) :
    List.Forall₂ (Bears (caller.handed.inherit (PageName.impliedTags name)))
      (Task.parseAll content)
      (((world.allPages caller.handed).flatMap Source.tasks).filter
        (·.comesFrom (pageOrigin name))) := by
  rw [filter_allPages _ h]
  change List.Forall₂ _ _ ((Task.parseAll content).map (world.originOf caller.handed name).claim)
  rw [List.forall₂_map_right_iff, List.forall₂_same]
  intro own _
  have htags : (world.originOf caller.handed name).tags = caller.handed := rfl
  exact Origin.claim_bears htags own

end World

theorem parse?_all : Task.parse? "INCLUDE wiki:all" =
    some { keyword := .collect, tags := [("wiki", "all")] } := by
  have hall : PageName.Wordlike "all" := by decide
  have hline : ("INCLUDE wiki:all" : Text) =
      Keyword.collect.word ++ ' ' :: tagText ("wiki", "all") := rfl
  rw [hline, parse?_one_tag .collect (hall.tagForm (by decide))]

/-- A project or a context leads to a page exactly if the name of the page implies that tag, as long
    as the value has no hyphen in it; to a value with a hyphen there may be a page as well, but its
    name implies nothing. A task that asks for all pages lists the lines of the page with that tag,
    or with none if there is a hyphen. Where collecting lines are left as they are, a line that
    does not collect and has no tag of its own gets just that; where they are expanded, it gets
    what the caller of the page hands down as well, and in front. -/
theorem implied_tag_leads_back (name key value : Text) (hname : PageName.Wordlike name)
    (hkey : key ∈ handedKeys) (hvalue : PageName.Wordlike value)
    (hcapital : value.head?.any isCapital = true) :
    ∃ line all, Task.parse? ("INCLUDE " ++ tagText (key, value)) = some line ∧
      Task.parse? "INCLUDE wiki:all" = some all ∧
      (PageName.impliedTags name = [(key, value)] ↔
        line.target? = some name ∧ '-' ∉ value) ∧
      (line.target? = some name → '-' ∈ value → PageName.impliedTags name = []) ∧
      ∀ (world : World) (content : Text), line.target? = some name →
        world.notebook.find? name = some content →
        (∃ result, (∀ limit, 1 ≤ limit → world.resolveWithin limit all none = some result) ∧
          List.Forall₂ (Bears (if '-' ∈ value then [] else [(key, value)]))
            (Task.parseAll content)
            (result.listing.tasks.filter (·.comesFrom (pageOrigin name)))) ∧
        ∀ limit visited result, world.resolveWithin limit all visited = some result →
          ∀ task ∈ result.listing.tasks, task.comesFrom (pageOrigin name) = true →
            ∃ own ∈ Task.parseAll content, ∃ caller, world.Calls caller name ∧
              Bears (caller.handed.inherit (if '-' ∈ value then [] else [(key, value)])) own
                task := by
  have hform : TagForm (key, value) := hvalue.tagForm (word_of_mem_handedKeys key hkey)
  have htarget : ({ keyword := .collect, tags := [(key, value)] } : Task).target? =
      some (keyWord key ++ value) := target?_of_handed hkey hvalue.1 rfl
  refine ⟨{ keyword := .collect, tags := [(key, value)] },
    { keyword := .collect, tags := [("wiki", "all")] }, parse?_one_tag .collect hform, parse?_all,
    ?_⟩
  rw [htarget, Option.some_inj]
  refine ⟨PageName.impliedTags_eq_iff hname hkey hvalue hcapital, ?_, ?_⟩
  · rintro rfl hhyphen
    rw [PageName.impliedTags_of_target hkey hvalue hcapital hname, if_pos hhyphen]
  · rintro world content rfl hcontent
    have himplied := PageName.impliedTags_of_target hkey hvalue hcapital hname
    rw [← himplied]
    have hinherit : Tags.inherit [] (PageName.impliedTags (keyWord key ++ value)) =
        PageName.impliedTags (keyWord key ++ value) := by
      rw [himplied]
      split <;> rfl
    have hlines := World.forall₂_bears_of_allPages hcontent
      { keyword := .collect, tags := [("wiki", "all")] }
    refine ⟨⟨_, fun limit => World.resolveWithin_none (World.find_of_wantsAll rfl world), ?_⟩,
      fun limit visited result => World.bears_of_resolveWithin hcontent⟩
    rw [← hinherit]
    exact hlines

theorem implied_tag_leads_back_gadgets :
    PageName.Wordlike "ProjectGadgets" ∧ ("project" : Text) ∈ handedKeys ∧
      PageName.Wordlike "Gadgets" ∧ ("Gadgets" : Text).head?.any isCapital = true ∧
      PageName.impliedTags "ProjectGadgets" = ([("project", "Gadgets")] : Tags) ∧
      ∃ result, implying.resolveWithin 1 { keyword := .collect, tags := [("wiki", "all")] } none =
          some result ∧
        List.Forall₂ (Bears [("project", "Gadgets")])
          [{ keyword := .todo, description := "buy" },
            { keyword := .todo, tags := [("project", "Other")], description := "return" }]
          (result.listing.tasks.filter (·.comesFrom (pageOrigin "ProjectGadgets"))) := by
  have hname : PageName.Wordlike "ProjectGadgets" := by decide
  have hkey : ("project" : Text) ∈ handedKeys := by decide
  have hvalue : PageName.Wordlike "Gadgets" := by decide
  have hcapital : ("Gadgets" : Text).head?.any isCapital = true := by decide
  have hno : '-' ∉ ("Gadgets" : Text) := by decide
  have hline : Task.parse? ("INCLUDE " ++ tagText ("project", "Gadgets")) =
      some { keyword := .collect, tags := [("project", "Gadgets")] } :=
    parse?_one_tag .collect (hvalue.tagForm (by decide))
  have htarget : ({ keyword := .collect, tags := [("project", "Gadgets")] } : Task).target? =
      some "ProjectGadgets" := by decide
  have hcontent : Task.parseAll "TODO buy\nTODO project:Other return" =
      [{ keyword := .todo, description := "buy" },
        { keyword := .todo, tags := [("project", "Other")], description := "return" }] := by
    decide +kernel
  obtain ⟨line, all, hline', hall', hiff, -, hlists⟩ :=
    implied_tag_leads_back "ProjectGadgets" "project" "Gadgets" hname hkey hvalue hcapital
  obtain rfl := Option.some.inj (hline.symm.trans hline')
  obtain rfl := Option.some.inj (parse?_all.symm.trans hall')
  obtain ⟨⟨result, hresult, hlines⟩, -⟩ := hlists implying _ htarget rfl
  rw [if_neg hno, hcontent] at hlines
  exact ⟨hname, hkey, hvalue, hcapital, hiff.mpr ⟨htarget, hno⟩, result,
    hresult 1 (Nat.le_refl 1), hlines⟩

/-- A page whose name has a hyphen in it. -/
def hyphenated : World where
  notebook := { pages := [("ProjectA-b", "TODO polish")], distinct := by decide }
  reply _ := .failure

theorem hyphenated_name_implies_nothing :
    PageName.Wordlike "ProjectA-b" ∧ PageName.Wordlike "A-b" ∧
      ("A-b" : Text).head?.any isCapital = true ∧
      (Task.parse? "INCLUDE project:A-b").bind Task.target? = some "ProjectA-b" ∧
      PageName.impliedTags "ProjectA-b" ≠ ([("project", "A-b")] : Tags) ∧
      (hyphenated.resolveWithin 1 { keyword := .collect, tags := [("wiki", "all")] } none).map
        (fun result => result.listing.tasks.map fun task => (task.description, task.tags)) =
          some ([("polish", [])] : List (Text × Tags)) := by
  have hlisting : hyphenated.notebook.listing =
      ([("ProjectA-b", "TODO polish")] : List (Text × Text)) := List.mergeSort_singleton _
  have hwants : ({ keyword := .collect, tags := [("wiki", "all")] } : Task).wantsAll = true := by
    decide
  have hall := World.resolveWithin_none (World.find_of_wantsAll hwants hyphenated) (Nat.le_refl 1)
  refine ⟨by decide, by decide, by decide, by decide +kernel, by decide +kernel, ?_⟩
  rw [hall, World.allPages, hlisting]
  decide +kernel

end Taskbook
