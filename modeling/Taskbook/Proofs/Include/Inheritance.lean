/-
  Where the tags of a collected task come from.

  A `Place` is a line as it is written, with the collecting lines that led to its text. `World.Walks`
  follows an expansion without handing on any tag: lines stay as they are written, and what a
  collecting line points at is read off the line and the way to it (`Task.under`). Every run is such
  a walk (`Runs.walks`), and each task that it collects is the line at one of the places of the
  walk, with tags behind its own that the place determines (`Inherits`): a key has its value from
  the nearest line that has it, from the line itself outwards, and after those from the name of the
  page that the line is written on.
-/
import Taskbook.Proofs.Include.Find
import Taskbook.Proofs.Include.Link
import Taskbook.Proofs.Include.WellFormed

namespace Taskbook

/-! ## Lines and the ways to them -/

/-- A line of a text. -/
structure Place where
  /-- The line as it is written. -/
  line : Task
  /-- The name of the text's origin. -/
  origin : Text
  /-- The collecting lines that led to the text, as they are written, from the innermost to the one
  that was resolved. -/
  way : List Task

/-- The value that the first of some lines to have a key gives it. -/
def nearest? (lines : List Task) (key : Text) : Option Text := lines.findSome? (·.tags.get? key)

/-- The tags that the name of an origin implies: those of the page's name. A remote text has none. -/
def impliedBy : Text → Tags
  | '/' :: name => PageName.impliedTags name
  | _ => []

/-- The value of a key at a place: by the nearest line that has it, else, for a line that does not
    collect, by the name of the page. -/
def Place.value? (place : Place) (key : Text) : Option Text :=
  (nearest? (place.line :: place.way) key).or
    (if place.line.collects then none else (impliedBy place.origin).get? key)

/-- The tags that come down a way. -/
def carried (way : List Task) : Tags :=
  handedKeys.filterMap fun key => (nearest? way key).map (key, ·)

/-- A collecting line with the tags that come down the way to it. -/
def Task.under (line : Task) (way : List Task) : Task := line.inherit (carried way)

/-- The task is the line at the place, with at most one tag for each key that is handed down behind
    its own tags. -/
structure Inherits (world : World) (place : Place) (task : Task) : Prop where
  written : ∃ text, world.textOf? place.origin = some text ∧ place.line ∈ Task.parseAll text
  origin : task.origin.map (·.name) = some place.origin
  keyword : task.keyword = place.line.keyword
  description : task.description = place.line.description
  tags : ∃ more, task.tags = place.line.tags ++ more ∧ (more.map Prod.fst).Nodup ∧
    ∀ tag ∈ more, tag.1 ∈ handedKeys
  value : ∀ key ∈ handedKeys, task.tags.get? key = place.value? key

/-! ## Expansions without inheritance -/

/-- What is still to be worked through, with the collecting lines that led to it. -/
inductive Pending where
  | line (place : Place)
  | call (line : Task) (way : List Task)
  | source (source : Source) (way : List Task)

/-- `world.Walks visited pending places`: from a list of visited origins, or without one, the lines
    that are kept on working through what is pending are those at the places. -/
inductive World.Walks (world : World) : Option (List Text) → List Pending → List Place → Prop where
  | done (visited : Option (List Text)) : Walks world visited [] []
  | keep {visited : Option (List Text)} {place : Place} {rest : List Pending} {places : List Place}
      (hkept : place.line.collects = true → visited = none)
      (hafter : Walks world visited rest places) :
      Walks world visited (.line place :: rest) (place :: places)
  | expand {met : List Text} {place : Place} {rest : List Pending} {places : List Place}
      (hc : place.line.collects = true)
      (hafter : Walks world (some met) (.call place.line place.way :: rest) places) :
      Walks world (some met) (.line place :: rest) places
  | found {visited : Option (List Text)} {line : Task} {way : List Task} {sources : List Source}
      {rest : List Pending} {places : List Place}
      (hfind : world.find (line.under way) = .sources sources)
      (hafter : Walks world visited (sources.map (.source · (line :: way)) ++ rest) places) :
      Walks world visited (.call line way :: rest) places
  | missed {visited : Option (List Text)} {line : Task} {way : List Task} {cause : IncludeError}
      {rest : List Pending} {places : List Place}
      (hfind : world.find (line.under way) = .error cause)
      (hafter : Walks world visited rest places) :
      Walks world visited (.call line way :: rest) places
  | stopped {visited : Option (List Text)} {line : Task} {way : List Task}
      {fault : Http.AddressFault} {rest : List Pending}
      (hfind : world.find (line.under way) = .invalidAddress fault) :
      Walks world visited (.call line way :: rest) []
  | skip {met : List Text} {source : Source} {way : List Task} {rest : List Pending}
      {places : List Place} (hmet : source.origin.name ∈ met)
      (hafter : Walks world (some met) rest places) :
      Walks world (some met) (.source source way :: rest) places
  | enter {visited : Option (List Text)} {source : Source} {way : List Task} {rest : List Pending}
      {places : List Place} (hnew : ∀ met, visited = some met → source.origin.name ∉ met)
      (hafter : Walks world (visited.map (· ++ [source.origin.name]))
        ((Task.parseAll source.text).map
          (fun line => .line { line, origin := source.origin.name, way }) ++ rest) places) :
      Walks world visited (.source source way :: rest) places

/-! ## Tags along a way -/

/-- Every line has tags that can stand on a line. -/
def WellTagged (lines : List Task) : Prop := ∀ line ∈ lines, line.tags.WellFormed

theorem nearest?_cons (line : Task) (way : List Task) (key : Text) :
    nearest? (line :: way) key = (line.tags.get? key).or (nearest? way key) := by
  unfold nearest?
  rw [List.findSome?_cons]
  cases line.tags.get? key <;> rfl

theorem WellTagged.form_of_nearest? {lines : List Task} (h : WellTagged lines) {key value : Text}
    (hvalue : nearest? lines key = some value) : TagForm (key, value) := by
  obtain ⟨line, hline, hget⟩ := List.exists_of_findSome?_eq_some hvalue
  exact h line hline _ (Tags.mem_of_get? hget)

theorem get?_carried {key : Text} (hkey : key ∈ handedKeys) (way : List Task) :
    (carried way).get? key = nearest? way key := by
  unfold carried
  rw [Tags.get?_filterMap, if_pos hkey]

theorem key_mem_of_mem_carried {way : List Task} {tag : Text × Text} (h : tag ∈ carried way) :
    tag.1 ∈ handedKeys := by
  obtain ⟨key, hkey, htag⟩ := List.mem_filterMap.mp h
  obtain ⟨value, -, rfl⟩ := Option.map_eq_some_iff.mp htag
  exact hkey

/-- A collecting line hands down what comes down its way and from itself. -/
theorem WellTagged.handed_under {line : Task} {way : List Task} (h : WellTagged (line :: way)) :
    (line.under way).handed = carried (line :: way) := by
  unfold Task.handed carried
  refine List.filterMap_congr fun key hkey => ?_
  have hvalue : (line.under way).tags.get? key = nearest? (line :: way) key := by
    unfold Task.under Task.inherit
    rw [Tags.get?_inherit, get?_carried hkey, nearest?_cons]
  have hfilled : (line.under way).tags.filled? key = nearest? (line :: way) key := by
    unfold Tags.filled?
    rw [hvalue]
    cases hnearest : nearest? (line :: way) key with
    | none => rfl
    | some value =>
      have hne : value ≠ [] := (h.form_of_nearest? hnearest).value_ne_nil
      simp [hne]
  rw [hfilled]

/-! ## Implied tags -/

theorem PageName.key_mem_of_mem_impliedTags {name : Text} {tag : Text × Text}
    (h : tag ∈ impliedTags name) : tag.1 ∈ handedKeys := by
  unfold impliedTags at h
  dsimp only at h
  split at h
  · obtain rfl := List.mem_singleton.mp h
    exact List.mem_cons_self
  · split at h
    · obtain rfl := List.mem_singleton.mp h
      exact List.mem_cons_of_mem _ List.mem_cons_self
    · cases h

theorem key_mem_of_mem_impliedBy {origin : Text} {tag : Text × Text} (h : tag ∈ impliedBy origin) :
    tag.1 ∈ handedKeys := by
  unfold impliedBy at h
  split at h
  · exact PageName.key_mem_of_mem_impliedTags h
  · cases h

theorem World.implied_of_find {world : World} {task : Task} {found : List Source} {source : Source}
    (h : world.find task = .sources found) (hs : source ∈ found) :
    source.origin.tags = task.handed ∧ source.origin.implied = impliedBy source.origin.name := by
  obtain ⟨name, content, -, rfl⟩ | ⟨url, content, hurl, -, rfl⟩ := source_of_find h hs
  · exact ⟨rfl, rfl⟩
  · refine ⟨rfl, ?_⟩
    have hhttp := Task.startsWith_of_address? hurl
    change [] = impliedBy url
    unfold impliedBy
    split
    · exact absurd hhttp Bool.false_ne_true
    · rfl

/-! ## Runs are walks -/

/-- The task is the line at the place as an origin claims it, with the tags of the way. -/
structure Place.Claimed (world : World) (place : Place) (task : Task) : Prop where
  wellTagged : WellTagged (place.line :: place.way)
  written : ∃ text, world.textOf? place.origin = some text ∧ place.line ∈ Task.parseAll text
  claimed : ∃ origin : Origin, origin.name = place.origin ∧ origin.tags = carried place.way ∧
    origin.implied = impliedBy place.origin ∧ task = origin.claim place.line

theorem Origin.claim_tags (origin : Origin) (task : Task) :
    (origin.claim task).tags = (task.tags.inherit origin.tags).inherit
      (if task.collects then [] else origin.implied) := by
  unfold claim
  cases task.collects <;> rfl

theorem Place.Claimed.inherits {world : World} {place : Place} {task : Task}
    (h : place.Claimed world task) : Inherits world place task := by
  obtain ⟨-, hwritten, origin, hname, htags, himplied, rfl⟩ := h
  have hextends := origin.claim_extends place.line
  refine ⟨hwritten, congrArg some hname, hextends.keyword, hextends.description, ?_, ?_⟩
  · rw [origin.claim_tags]
    obtain ⟨handed, hhanded, hfrom, hadds⟩ := Tags.exists_adds_inherit place.line.tags origin.tags
    rw [hhanded]
    obtain ⟨implied, himply, hfrom', hadds'⟩ := Tags.exists_adds_inherit
      (place.line.tags ++ handed) (if place.line.collects then [] else origin.implied)
    rw [himply]
    refine ⟨handed ++ implied, List.append_assoc _ _ _, (hadds.append hadds').nodup, ?_⟩
    intro tag htag
    rcases List.mem_append.mp htag with htag | htag
    · exact key_mem_of_mem_carried (htags ▸ hfrom htag)
    · have hin := hfrom' htag
      split at hin
      · cases hin
      · exact key_mem_of_mem_impliedBy (himplied ▸ hin)
  · intro key hkey
    rw [origin.claim_tags, Tags.get?_inherit, Tags.get?_inherit, htags, get?_carried hkey,
      ← nearest?_cons, himplied]
    unfold Place.value?
    cases place.line.collects <;> rfl

/-- A pending part leads to the same tasks as the item. -/
inductive Pending.Marks (world : World) : Pending → Item → Prop where
  | line {place : Place} {task : Task} (h : place.Claimed world task) :
      Marks world (.line place) (.line task)
  | call {line task : Task} {way : List Task} (hwell : WellTagged (line :: way))
      (htags : task.tags = (line.under way).tags)
      (hdescription : task.description = line.description) :
      Marks world (.call line way) (.call task)
  | source {source : Source} {way : List Task} (hwell : WellTagged way)
      (htext : world.textOf? source.origin.name = some source.text)
      (htags : source.origin.tags = carried way)
      (himplied : source.origin.implied = impliedBy source.origin.name) :
      Marks world (.source source way) (.source source)

theorem Inherits.collects {world : World} {place : Place} {task : Task}
    (h : Inherits world place task) : task.collects = place.line.collects := by
  unfold Task.collects
  rw [h.keyword]

/-- A collecting line at a place asks for what the line with the tags of its way asks for. -/
theorem Place.Claimed.marks_call {world : World} {place : Place} {task : Task}
    (h : place.Claimed world task) (hc : task.collects = true) :
    Pending.Marks world (.call place.line place.way) (.call task) := by
  have hinherits := h.inherits
  have hc' : place.line.collects = true := hinherits.collects ▸ hc
  obtain ⟨hwell, -, origin, -, htags, -, rfl⟩ := h
  refine .call hwell ?_ hinherits.description
  rw [origin.claim_tags, hc', htags]
  rfl

theorem marks_sources {world : World} {line : Task} {way : List Task} {sources : List Source}
    (hwell : WellTagged (line :: way)) (hfind : world.find (line.under way) = .sources sources) :
    List.Forall₂ (Pending.Marks world) (sources.map (.source · (line :: way)))
      (sources.map .source) := by
  rw [List.forall₂_map_left_iff, List.forall₂_map_right_iff, List.forall₂_same]
  intro source hsource
  obtain ⟨htags, himplied⟩ := World.implied_of_find hfind hsource
  exact .source hwell (World.textOf?_of_find hfind hsource) (htags.trans hwell.handed_under) himplied

theorem marks_lines {world : World} {source : Source} {way : List Task} (hwell : WellTagged way)
    (htext : world.textOf? source.origin.name = some source.text)
    (htags : source.origin.tags = carried way)
    (himplied : source.origin.implied = impliedBy source.origin.name) :
    List.Forall₂ (Pending.Marks world)
      ((Task.parseAll source.text).map
        fun line => .line { line, origin := source.origin.name, way })
      (source.tasks.map .line) := by
  unfold Source.tasks
  rw [List.forall₂_map_left_iff, List.forall₂_map_right_iff, List.forall₂_map_right_iff,
    List.forall₂_same]
  intro line hline
  have hform := (Notebook.wellFormed_of_mem_parseAll hline).tags
  exact .line ⟨List.forall_mem_cons.mpr ⟨hform, hwell⟩, ⟨_, htext, hline⟩,
    source.origin, rfl, htags, himplied, rfl⟩

/-- Every run is a walk, and what it collects are the lines at the places of the walk. -/
theorem World.Runs.walks {world : World} {visited : Option (List Text)} {items : List Item}
    {found : Expansion} (h : world.Runs visited items found) {pending : List Pending}
    (hpending : List.Forall₂ (Pending.Marks world) pending items) :
    ∃ places, world.Walks visited pending places ∧
      List.Forall₂ (Inherits world) places found.tasks := by
  induction h generalizing pending with
  | done visited =>
    cases hpending
    exact ⟨[], .done visited, .nil⟩
  | keep hkept _ ih =>
    obtain _ | ⟨⟨hclaimed⟩, hrest⟩ := hpending
    obtain ⟨places, hwalks, hplaces⟩ := ih hrest
    have hinherits := hclaimed.inherits
    exact ⟨_, .keep (fun hc => hkept (hinherits.collects.trans hc)) hwalks,
      .cons hinherits hplaces⟩
  | expand hc _ ih =>
    obtain _ | ⟨⟨hclaimed⟩, hrest⟩ := hpending
    obtain ⟨places, hwalks, hplaces⟩ := ih (.cons (hclaimed.marks_call hc) hrest)
    exact ⟨places, .expand (hclaimed.inherits.collects ▸ hc) hwalks, hplaces⟩
  | found hfind _ ih =>
    obtain _ | ⟨_ | ⟨hwell, htags, hdescription⟩, hrest⟩ := hpending
    rw [find_congr htags hdescription] at hfind
    obtain ⟨places, hwalks, hplaces⟩ := ih (List.rel_append (marks_sources hwell hfind) hrest)
    exact ⟨places, .found hfind hwalks, hplaces⟩
  | missed hfind _ ih =>
    obtain _ | ⟨_ | ⟨hwell, htags, hdescription⟩, hrest⟩ := hpending
    rw [find_congr htags hdescription] at hfind
    obtain ⟨places, hwalks, hplaces⟩ := ih hrest
    exact ⟨places, .missed hfind hwalks, hplaces⟩
  | stopped hfind =>
    obtain _ | ⟨_ | ⟨hwell, htags, hdescription⟩, hrest⟩ := hpending
    rw [find_congr htags hdescription] at hfind
    exact ⟨[], .stopped hfind, .nil⟩
  | skip hmet _ ih =>
    obtain _ | ⟨_ | _ | ⟨hwell, htext, htags, himplied⟩, hrest⟩ := hpending
    obtain ⟨places, hwalks, hplaces⟩ := ih hrest
    exact ⟨places, .skip hmet hwalks, hplaces⟩
  | enter hnew _ ih =>
    obtain _ | ⟨_ | _ | ⟨hwell, htext, htags, himplied⟩, hrest⟩ := hpending
    obtain ⟨places, hwalks, hplaces⟩ :=
      ih (List.rel_append (marks_lines hwell htext htags himplied) hrest)
    exact ⟨places, .enter hnew hwalks, hplaces⟩

/-- The tasks of a task list are the lines at the places of a walk, and each has its own tags in
    front, unchanged, and behind them at most one for each key that is handed down. The value of
    such a key is that of the nearest line that has it, from the line of the task itself out to the
    line that was resolved, and after those, unless the task collects, the one that the name of the
    page implies on which the line is written. -/
theorem tags_come_from_the_nearest_line (world : World) (limit : Nat) (text : Text) (head : Task)
    (visited : Option (List Text)) (result : Resolution) (hhead : Task.parse? text = some head)
    (h : world.resolveWithin limit head visited = some result) :
    ∃ places, world.Walks visited [.call head []] places ∧
      List.Forall₂ (Inherits world) places result.listing.tasks := by
  refine (World.runs_of_resolveWithin h).walks (.cons (.call ?_ rfl rfl) .nil)
  exact List.forall_mem_singleton.mpr (wellFormed_of_parse? hhead).tags

/-- Two pages whose names imply tags, of which the first includes the second. -/
def implying : World where
  notebook :=
    { pages := [("ContextShop", "TODO pay\nINCLUDE project:Gadgets"),
        ("ProjectGadgets", "TODO buy\nTODO project:Other return")]
      distinct := by decide }
  reply _ := .failure

theorem tags_come_from_the_nearest_line_implying :
    ∃ head result, Task.parse? "INCLUDE wiki:ContextShop" = some head ∧
      implying.resolveWithin 3 head (some ["/Home"]) = some result ∧
      result.listing.tasks.map (·.tags) =
        ([[("context", "Shop")], [("project", "Gadgets")], [("project", "Other")]] : List Tags) ∧
      ∃ places, implying.Walks (some ["/Home"]) [.call head []] places ∧
        List.Forall₂ (Inherits implying) places result.listing.tasks := by
  have hhead : Task.parse? "INCLUDE wiki:ContextShop" =
      some { keyword := .collect, tags := [("wiki", "ContextShop")] } := by
    decide +kernel
  have htags : (implying.resolveWithin 3
      { keyword := .collect, tags := [("wiki", "ContextShop")] } (some ["/Home"])).map
        (fun result => result.listing.tasks.map (·.tags)) =
      some ([[("context", "Shop")], [("project", "Gadgets")], [("project", "Other")]] :
        List Tags) := by
    decide +kernel
  obtain ⟨result, hresult, hseen⟩ := Option.map_eq_some_iff.mp htags
  exact ⟨_, result, hhead, hresult, hseen,
    tags_come_from_the_nearest_line implying 3 _ _ (some ["/Home"]) result hhead hresult⟩

end Taskbook
