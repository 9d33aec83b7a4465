/-
  Calls that fail.

  A call fails if it asks for an address that cannot be reached or for a page that is not there
  (`World.Misses`), which the task alone decides, whatever was met before. It leaves its error and
  nothing else, and a collecting line of a source whose call fails does not even leave that. So the
  line can be taken out of the text of the source: where one text of a world is another one
  (`World.withText`), the tasks point at the same sources but for that text (`find_withText`), and
  a run goes on as before if the lines that are not there any more are collecting lines whose calls
  fail (`World.Sheds`, `Runs.shed`, by induction on the run). What such a line points at depends on
  the tags that are handed down to its source; no other source of its origin is entered.
-/
import Taskbook.Proofs.Include.Enough
import Taskbook.Proofs.Include.Moment
import Taskbook.Proofs.Include.Put

namespace Taskbook

/-- The task asks for an address that cannot be reached, or for a page that is not there. -/
inductive World.Misses (world : World) (task : Task) : Prop where
  | address (hall : task.wantsAll = false)
      (hhttp : Text.startsWith task.description "http" = true)
      (hreply : world.reply task.description = .failure)
  | page {name : Text} (hall : task.wantsAll = false)
      (hhttp : Text.startsWith task.description "http" = false)
      (htarget : task.target? = some name) (hnone : world.notebook.find? name = none)

/-- The source with another text, if it is of the origin. -/
def Source.retext (origin text : Text) (source : Source) : Source :=
  if source.origin.name = origin then { source with text } else source

/-- What a task points at, with another text of an origin. -/
def Finding.retext (origin text : Text) : Finding → Finding
  | .sources found => .sources (found.map (·.retext origin text))
  | other => other

/-- The world with a text behind an address. -/
def World.withReply (world : World) (url text : Text) : World :=
  { world with reply := fun other => if other = url then .body text else world.reply other }

/-- The world with another text of an origin. -/
def World.withText (world : World) (origin text : Text) : World :=
  match origin with
  | '/' :: name => world.withPage name text
  | url => world.withReply url text

/-- What was found is the same but for the addresses that were requested. -/
structure Expansion.Alike (found found' : Expansion) : Prop where
  tasks : found'.tasks = found.tasks
  visited : found'.visited = found.visited
  stopped : found'.stopped = found.stopped

/-- The second items are the first ones with another text of an origin, some collecting lines left
    out whose calls fail. -/
inductive World.Sheds (world : World) (origin text : Text) : List Item → List Item → Prop where
  | nil : Sheds world origin text [] []
  | line {task : Task} {items items' : List Item} (h : Sheds world origin text items items') :
      Sheds world origin text (.line task :: items) (.line task :: items')
  | call {task : Task} {items items' : List Item} (h : Sheds world origin text items items') :
      Sheds world origin text (.call task :: items) (.call task :: items')
  | source {source : Source} {items items' : List Item} (h : Sheds world origin text items items') :
      Sheds world origin text (.source source :: items)
        (.source (source.retext origin text) :: items')
  | missedLine {task : Task} {cause : IncludeError} {items items' : List Item}
      (hc : task.collects = true) (hfind : world.find task = .error cause)
      (h : Sheds world origin text items items') :
      Sheds world origin text (.line task :: items) items'
  | missedCall {task : Task} {cause : IncludeError} {items items' : List Item}
      (hfind : world.find task = .error cause) (h : Sheds world origin text items items') :
      Sheds world origin text (.call task :: items) items'

/-! ## Calls that fail -/

theorem Task.address?_of_startsWith {task : Task} (hall : task.wantsAll = false)
    (hhttp : Text.startsWith task.description "http" = true) :
    task.address? = some task.description := by
  unfold address?
  rw [hall, hhttp]
  rfl

theorem Task.address?_of_not_startsWith {task : Task}
    (hhttp : Text.startsWith task.description "http" = false) : task.address? = none := by
  unfold address?
  rw [hhttp, Bool.and_false]
  rfl

namespace World

variable {world : World} {task : Task} {origin text old : Text}

/-- Whether a call fails does not depend on what was met. -/
theorem misses_iff : world.Misses task ↔ ∃ cause, world.find task = .error cause := by
  constructor
  · rintro (⟨hall, hhttp, hreply⟩ | ⟨hall, hhttp, htarget, hnone⟩)
    · refine ⟨.unreachable task.description, ?_⟩
      rw [find_of_address? (Task.address?_of_startsWith hall hhttp)]
      exact remote_of_failure hreply
    · have haddress := Task.address?_of_not_startsWith hhttp
      rw [find_of_target? (Bool.eq_false_iff.mp hall) haddress htarget, page_of_none hnone]
      exact ⟨_, rfl⟩
  · rintro ⟨cause, hfind⟩
    cases hall : task.wantsAll with
    | true =>
      rw [find_of_wantsAll hall] at hfind
      cases hfind
    | false =>
      cases hhttp : Text.startsWith task.description "http" with
      | true =>
        rw [find_of_address? (Task.address?_of_startsWith hall hhttp)] at hfind
        unfold remote at hfind
        split at hfind
        · next hreply => exact .address hall hhttp hreply
        · cases hfind
        · cases hfind
      | false =>
        have haddress := Task.address?_of_not_startsWith hhttp
        cases htarget : task.target? with
        | none =>
          rw [find_of_target?_eq_none (Bool.eq_false_iff.mp hall) haddress htarget] at hfind
          cases hfind
        | some name =>
          rw [find_of_target? (Bool.eq_false_iff.mp hall) haddress htarget] at hfind
          unfold page at hfind
          split at hfind
          · next hnone => exact .page hall hhttp htarget hnone
          · cases hfind

theorem error?_ne_none_iff : (world.find task).error? ≠ none ↔ world.Misses task := by
  rw [misses_iff]
  cases world.find task with
  | sources | invalidAddress => exact iff_of_false (fun h => h rfl) nofun
  | error cause => exact iff_of_true nofun ⟨cause, rfl⟩

/-- A call that fails leaves its error and nothing else. -/
theorem resolveWithin_of_misses (h : world.Misses task) (visited : Option (List Text)) :
    ∃ message, ∀ limit, world.resolveWithin (limit + 1) task visited =
      some { listing := { head := task, tasks := [], error := some message }, visited
             requested := task.address?.toList, stopped := none } := by
  obtain ⟨cause, hfind⟩ := misses_iff.mp h
  refine ⟨cause.message, fun limit => ?_⟩
  rw [resolveWithin, expandWithin]
  simp only [hfind]
  rfl

theorem error_ne_none_iff {limit : Nat} {visited : Option (List Text)} {result : Resolution}
    (h : world.resolveWithin limit task visited = some result) :
    result.listing.error ≠ none ↔ world.Misses task := by
  obtain ⟨found, -, rfl⟩ := Option.map_eq_some_iff.mp h
  rw [← error?_ne_none_iff, ne_eq, ne_eq, Option.map_eq_none_iff]

/-- Behind a call that fails nothing is met. -/
theorem Misses.not_comes_line (h : world.Misses task) {visited now : Option (List Text)}
    {own : Task}
    {rest : List Item} : ¬ world.Comes ⟨visited, [.call task]⟩ ⟨now, .line own :: rest⟩ := by
  intro hcomes
  obtain ⟨cause, hfind⟩ := misses_iff.mp h
  obtain heq | ⟨next, hnext, hcomes⟩ := Relation.ReflTransGen.cases_head hcomes
  · cases heq
  · obtain rfl := hnext.unique (.missed hfind)
    obtain heq | ⟨_, hnext', -⟩ := Relation.ReflTransGen.cases_head hcomes
    · cases heq
    · cases hnext'

/-! ## Another text of an origin -/

theorem retext_of_ne {source : Source} (h : source.origin.name ≠ origin) :
    source.retext origin text = source := if_neg h

theorem origin_retext (source : Source) : (source.retext origin text).origin = source.origin := by
  unfold Source.retext
  split <;> rfl

theorem map_retext_of_ne {sources : List Source}
    (h : ∀ source ∈ sources, source.origin.name ≠ origin) :
    sources.map (·.retext origin text) = sources :=
  (List.map_congr_left fun source hsource => retext_of_ne (h source hsource)).trans (List.map_id _)

theorem error?_retext (finding : Finding) :
    (finding.retext origin text).error? = finding.error? := by
  cases finding <;> rfl

theorem retext_remote_of_ne {url : Text} (h : url ≠ origin) (handed : Tags) :
    (world.remote handed url).retext origin text = world.remote handed url := by
  unfold remote
  cases world.reply url with
  | failure | invalidAddress => rfl
  | body content =>
    exact congrArg Finding.sources (map_retext_of_ne (List.forall_mem_singleton.mpr h))

theorem retext_page_of_ne {name : Text} (h : pageOrigin name ≠ origin) (handed : Tags) :
    (world.page handed name).retext origin text = world.page handed name := by
  unfold page
  cases world.notebook.find? name with
  | none => rfl
  | some content =>
    exact congrArg Finding.sources (map_retext_of_ne (List.forall_mem_singleton.mpr h))

theorem allPages_withPage {name : Text} (hname : name ∈ world.notebook.names) (handed : Tags) :
    (world.withPage name text).allPages handed =
      (world.allPages handed).map (·.retext (pageOrigin name) text) := by
  change (world.notebook.put name text).listing.map _ = _
  unfold allPages
  rw [Notebook.listing_put_of_mem hname, List.map_map, List.map_map]
  refine List.map_congr_left fun page _ => ?_
  by_cases hpage : page.1 = name
  · simp [hpage, Source.retext, pageSource, originOf, withPage, holding]
  · have hne : pageOrigin page.1 ≠ pageOrigin name := fun h => hpage (List.cons.inj h).2
    simp [hpage, Source.retext, pageSource, originOf, withPage, holding, hne]

theorem page_withPage {name : Text} (hold : world.notebook.find? name = some old) (handed : Tags)
    (other : Text) : (world.withPage name text).page handed other =
      (world.page handed other).retext (pageOrigin name) text := by
  have hfind : (world.withPage name text).notebook.find? other =
      if other = name then some text else world.notebook.find? other :=
    Notebook.find?_put world.notebook name text other
  by_cases hother : other = name
  · subst hother
    rw [if_pos rfl] at hfind
    have hsource : (world.pageSource handed other old).retext (pageOrigin other) text =
        world.pageSource handed other text := if_pos rfl
    rw [page_of_some hfind, page_of_some hold, Finding.retext, List.map_singleton, hsource]
    rfl
  · have hne : pageOrigin other ≠ pageOrigin name := fun h => hother (List.cons.inj h).2
    rw [if_neg hother] at hfind
    rw [retext_page_of_ne hne]
    unfold page
    rw [hfind]
    rfl

/-- With a page in the place of another, a task points at the same with that text. -/
theorem find_withPage {name : Text} (hold : world.notebook.find? name = some old) (task : Task) :
    (world.withPage name text).find task =
      (world.find task).retext (pageOrigin name) text := by
  have hname : name ∈ world.notebook.names := by
    refine Decidable.byContradiction fun hnot => ?_
    rw [Notebook.find?_eq_none_iff.mpr hnot] at hold
    cases hold
  rcases find_cases task with hall | ⟨url, haddress, hremote⟩ | ⟨other, hpage⟩ | hnothing
  · rw [hall, hall, allPages_withPage hname]
    rfl
  · have hne : url ≠ pageOrigin name := by
      rintro rfl
      cases Task.startsWith_of_address? haddress
    rw [hremote, hremote, retext_remote_of_ne hne]
    rfl
  · rw [hpage, hpage, page_withPage hold]
  · rw [hnothing, hnothing]
    rfl

theorem remote_withReply {url : Text} (hold : world.reply url = .body old) (handed : Tags)
    (other : Text) : (world.withReply url text).remote handed other =
      (world.remote handed other).retext url text := by
  have hreply : (world.withReply url text).reply other =
      if other = url then .body text else world.reply other := rfl
  by_cases hother : other = url
  · subst hother
    have hsource : (remoteSource handed other old).retext other text =
        remoteSource handed other text := if_pos rfl
    unfold remote
    rw [hreply, if_pos rfl, hold]
    dsimp only [Finding.retext]
    rw [List.map_singleton, hsource]
  · rw [retext_remote_of_ne hother]
    unfold remote
    rw [hreply, if_neg hother]

/-- With another text behind an address that answers, a task points at the same with that text. -/
theorem find_withReply {url : Text} (hurl : ∀ name, pageOrigin name ≠ url)
    (hold : world.reply url = .body old) (task : Task) :
    (world.withReply url text).find task = (world.find task).retext url text := by
  rcases find_cases task with hall | ⟨other, -, hremote⟩ | ⟨name, hpage⟩ | hnothing
  · rw [hall, hall]
    refine congrArg Finding.sources (map_retext_of_ne fun source hsource => ?_).symm
    obtain ⟨page, -, rfl⟩ := List.mem_map.mp hsource
    exact hurl page.1
  · rw [hremote, hremote, remote_withReply hold]
  · rw [hpage, hpage, retext_page_of_ne (hurl name)]
    rfl
  · rw [hnothing, hnothing]
    rfl

theorem find_withText (hold : world.textOf? origin = some old) (task : Task) :
    (world.withText origin text).find task = (world.find task).retext origin text := by
  unfold textOf? at hold
  split at hold
  · exact find_withPage hold task
  · next hnot =>
    have hurl : ∀ name, pageOrigin name ≠ origin := fun name h => hnot name h.symm
    have hsame : world.withText origin text = world.withReply origin text := by
      unfold withText
      split
      · next name => exact absurd rfl (hurl name)
      · rfl
    rw [hsame]
    split at hold
    · next hreply => exact find_withReply hurl hreply task
    · cases hold

/-! ## Lines that are left out -/

variable {items items' more more' : List Item} {visited : Option (List Text)} {found : Expansion}

theorem Sheds.append (h : world.Sheds origin text items items')
    (hmore : world.Sheds origin text more more') :
    world.Sheds origin text (items ++ more) (items' ++ more') := by
  induction h with
  | nil => exact hmore
  | line _ ih => exact .line ih
  | call _ ih => exact .call ih
  | source _ ih => exact .source ih
  | missedLine hc hfind _ ih => exact .missedLine hc hfind ih
  | missedCall hfind _ ih => exact .missedCall hfind ih

theorem Sheds.lines (tasks : List Task) :
    world.Sheds origin text (tasks.map .line) (tasks.map .line) := by
  induction tasks with
  | nil => exact .nil
  | cons task rest ih => exact .line ih

theorem Sheds.sources (sources : List Source) : world.Sheds origin text (sources.map .source)
    ((sources.map (·.retext origin text)).map .source) := by
  induction sources with
  | nil => exact .nil
  | cons source rest ih => exact .source ih

/-- A source of the origin that is entered from the moment on loses no other lines. -/
def ShedsBehind (world : World) (origin text : Text) (moment : Moment) : Prop :=
  ∀ now source rest, world.Comes moment ⟨some now, .source source :: rest⟩ →
    source.origin.name ∉ now → source.origin.name = origin →
    world.Sheds origin text (source.tasks.map .line) ((source.retext origin text).tasks.map .line)

theorem ShedsBehind.next {moment later : Moment} (h : world.ShedsBehind origin text moment)
    (hnext : world.Next moment later) : world.ShedsBehind origin text later :=
  fun now source rest hcomes => h now source rest (hcomes.head hnext)

/-- A run goes on as before with another text of an origin and without some collecting lines whose
    calls fail. -/
theorem Runs.shed (h : world.Runs visited items found) {met : List Text} (hv : visited = some met)
    (hold : world.textOf? origin = some old)
    (hbehind : world.ShedsBehind origin text ⟨visited, items⟩)
    (hsheds : world.Sheds origin text items items') :
    ∃ found', (world.withText origin text).Runs visited items' found' ∧ found.Alike found' := by
  have hfinds : ∀ task, (world.withText origin text).find task =
      (world.find task).retext origin text := fun task => find_withText hold task
  induction h generalizing met items' with
  | done visited =>
    cases hsheds
    exact ⟨_, .done visited, rfl, rfl, rfl⟩
  | keep hkept _ ih =>
    subst hv
    cases hsheds with
    | line hrest =>
      obtain ⟨found', hruns, htasks, hvisited, hstopped⟩ :=
        ih rfl (hbehind.next (.keep hkept)) hrest
      exact ⟨_, .keep hkept hruns, congrArg (_ :: ·) htasks, hvisited, hstopped⟩
    | missedLine hc => cases hkept hc
  | expand hc _ ih =>
    have hnext := hbehind.next (.expand hc)
    cases hsheds with
    | line hrest =>
      obtain ⟨found', hruns, halike⟩ := ih rfl hnext (.call hrest)
      exact ⟨found', .expand hc hruns, halike⟩
    | missedLine _ hfind hrest => exact ih rfl hnext (.missedCall hfind hrest)
  | found hfind _ ih =>
    cases hsheds with
    | call hrest =>
      obtain ⟨found', hruns, htasks, hvisited, hstopped⟩ :=
        ih hv (hbehind.next (.found hfind)) ((Sheds.sources _).append hrest)
      refine ⟨_, .found ?_ hruns, htasks, hvisited, hstopped⟩
      rw [hfinds, hfind]
      rfl
    | missedCall hfind' => cases hfind.symm.trans hfind'
  | missed hfind _ ih =>
    have hnext := hbehind.next (.missed hfind)
    cases hsheds with
    | call hrest =>
      obtain ⟨found', hruns, htasks, hvisited, hstopped⟩ := ih hv hnext hrest
      have hfind' := (hfinds _).trans (congrArg (Finding.retext origin text) hfind)
      exact ⟨_, .missed hfind' hruns, htasks, hvisited, hstopped⟩
    | missedCall _ hrest =>
      obtain ⟨found', hruns, htasks, hvisited, hstopped⟩ := ih hv hnext hrest
      exact ⟨found', hruns, htasks, hvisited, hstopped⟩
  | stopped hfind =>
    cases hsheds with
    | call =>
      refine ⟨_, .stopped ?_, rfl, rfl, rfl⟩
      rw [hfinds, hfind]
      rfl
    | missedCall hfind' => cases hfind.symm.trans hfind'
  | @skip met source rest after hmet _ ih =>
    cases hsheds with
    | source hrest =>
      obtain ⟨found', hruns, halike⟩ := ih rfl (hbehind.next (.skip hmet)) hrest
      refine ⟨found', .skip ?_ hruns, halike⟩
      rwa [origin_retext]
  | @enter visited source rest after hnew _ ih =>
    subst hv
    cases hsheds with
    | source hrest =>
      have hlines : world.Sheds origin text (source.tasks.map .line)
          ((source.retext origin text).tasks.map .line) := by
        by_cases hname : source.origin.name = origin
        · exact hbehind met source rest .refl (hnew met rfl) hname
        · rw [retext_of_ne hname]
          exact Sheds.lines _
      obtain ⟨found', hruns, halike⟩ :=
        ih rfl (hbehind.next (.enter hnew)) (hlines.append hrest)
      refine ⟨found', .enter ?_ ?_, halike⟩
      · rwa [origin_retext]
      · rwa [origin_retext]

/-! ## Cutting a line -/

/-- A source without a line whose call fails. -/
theorem Sheds.cut {source : Source} {before after : List Text} {line : Text} {own : Task}
    (hlines : Text.lines source.text = before ++ line :: after)
    (hown : Task.parse? line = some own) (hc : own.collects = true)
    (hmisses : world.Misses (source.origin.claim own)) (htext : Text.lines text = before ++ after) :
    world.Sheds source.origin.name text (source.tasks.map .line)
      ((source.retext source.origin.name text).tasks.map .line) := by
  obtain ⟨cause, hfind⟩ := misses_iff.mp hmisses
  have htasks : source.tasks = (before.filterMap Task.parse?).map source.origin.claim ++
      source.origin.claim own :: (after.filterMap Task.parse?).map source.origin.claim := by
    unfold Source.tasks Task.parseAll
    rw [hlines, List.filterMap_append, List.filterMap_cons_some hown, List.map_append,
      List.map_cons]
  have hcut : (source.retext source.origin.name text).tasks =
      (before.filterMap Task.parse?).map source.origin.claim ++
        (after.filterMap Task.parse?).map source.origin.claim := by
    unfold Source.tasks Task.parseAll Source.retext
    rw [if_pos rfl]
    dsimp only
    rw [htext, List.filterMap_append, List.map_append]
  rw [htasks, hcut, List.map_append, List.map_append, List.map_cons]
  refine (Sheds.lines _).append (.missedLine ?_ hfind (Sheds.lines _))
  rw [Origin.claim_collects]
  exact hc

/-- A source that is pending has the text of its origin. -/
theorem invariant_textOf? : world.Invariant fun
    | .source source => world.textOf? source.origin.name = some source.text
    | _ => True where
  expand _ _ := trivial
  found _ hfind hsource := textOf?_of_find hfind hsource
  enter _ _ := trivial

theorem textOf?_of_comes {visited : Option (List Text)} {now : Option (List Text)} {source : Source}
    {rest : List Item} (h : world.Comes ⟨visited, [.call task]⟩ ⟨now, .source source :: rest⟩) :
    world.textOf? source.origin.name = some source.text :=
  h.of_invariant invariant_textOf? (List.forall_mem_singleton.mpr trivial) _ List.mem_cons_self

/-- A run is the task list within a limit, and so within every greater one. -/
theorem Runs.exists_resolveWithin (h : world.Runs visited [.call task] found) :
    ∃ limit, ∀ limit', limit ≤ limit' → world.resolveWithin limit' task visited =
      some { listing :=
               { head := task, tasks := found.tasks
                 error := (world.find task).error?.map IncludeError.message }
             visited := found.visited, requested := found.requested, stopped := found.stopped } := by
  obtain ⟨limit, hlimit⟩ := runs_call_iff.mp h
  refine ⟨limit, fun limit' hle => ?_⟩
  rw [resolveWithin, expandWithin_of_le hle hlimit]
  rfl

/-- Without a collecting line whose call fails, in a source that is entered, the task list and the
    origins met are the same. -/
theorem resolveWithin_cut {limit : Nat} {met now : List Text} {result : Resolution}
    {source : Source} {rest : List Item} {before after : List Text} {line : Text} {own : Task}
    (h : world.resolveWithin limit task (some met) = some result)
    (hcomes : world.Comes ⟨some met, [.call task]⟩ ⟨some now, .source source :: rest⟩)
    (hnew : source.origin.name ∉ now) (hlines : Text.lines source.text = before ++ line :: after)
    (hown : Task.parse? line = some own) (hc : own.collects = true)
    (hmisses : world.Misses (source.origin.claim own)) (htext : Text.lines text = before ++ after) :
    ∃ enough result', (∀ limit', enough ≤ limit' →
        (world.withText source.origin.name text).resolveWithin limit' task (some met) =
          some result') ∧
      result'.listing = result.listing ∧ result'.visited = result.visited ∧
      result'.stopped = result.stopped := by
  have hold := textOf?_of_comes hcomes
  have hbehind : world.ShedsBehind source.origin.name text ⟨some met, [.call task]⟩ := by
    intro now' source' rest' hcomes' hnew' hname
    obtain rfl := source_of_entered_twice hcomes hnew hcomes' hnew' hname
    exact Sheds.cut hlines hown hc hmisses htext
  obtain ⟨found, hfound, rfl⟩ := Option.map_eq_some_iff.mp h
  obtain ⟨found', hruns, htasks, hvisited, hstopped⟩ :=
    (runs_of_expandWithin hfound).shed rfl hold hbehind (.call .nil)
  obtain ⟨enough, henough⟩ := hruns.exists_resolveWithin
  refine ⟨enough, _, henough, ?_, hvisited, hstopped⟩
  rw [htasks, find_withText hold, error?_retext]

end World

/-- A collecting line whose call fails, which is one that does not ask for all pages and asks for an
    address that cannot be reached or else names a page that is not there, has a list with an error
    and without tasks, and the origins met are those that were met before. No other list has an
    error, and where a line of a source is met the list has none, whatever the call of that line
    comes to. Where origins are kept, a collecting line whose call fails can be cut out of the text
    of a source that is entered: the list and the origins met are the same as with it. -/
theorem failed_calls_are_contained (world : World) (task : Task) (visited : Option (List Text)) :
    (world.Misses task → ∃ message, ∀ limit, world.resolveWithin (limit + 1) task visited =
      some { listing := { head := task, tasks := [], error := some message }, visited
             requested := task.address?.toList, stopped := none }) ∧
    ∀ limit result, world.resolveWithin limit task visited = some result →
      (result.listing.error ≠ none ↔ world.Misses task) ∧
      (∀ now own rest, world.Comes ⟨visited, [.call task]⟩ ⟨now, .line own :: rest⟩ →
        result.listing.error = none) ∧
      ∀ met now source rest, visited = some met →
        world.Comes ⟨visited, [.call task]⟩ ⟨some now, .source source :: rest⟩ →
        source.origin.name ∉ now → ∀ before line after own text,
        Text.lines source.text = before ++ line :: after → Task.parse? line = some own →
        own.collects = true → world.Misses (source.origin.claim own) →
        Text.lines text = before ++ after →
        ∃ enough result', (∀ limit', enough ≤ limit' →
            (world.withText source.origin.name text).resolveWithin limit' task visited =
              some result') ∧
          result'.listing = result.listing ∧ result'.visited = result.visited := by
  refine ⟨fun hmisses => World.resolveWithin_of_misses hmisses visited,
    fun limit result h => ⟨World.error_ne_none_iff h, fun now own rest hcomes => ?_, ?_⟩⟩
  · refine Decidable.byContradiction fun herror => ?_
    exact ((World.error_ne_none_iff h).mp herror).not_comes_line hcomes
  · rintro met now source rest rfl hcomes hnew before line after own text hlines hown hc hmisses
      htext
    obtain ⟨enough, result', henough, hlisting, hvisited, -⟩ :=
      World.resolveWithin_cut h hcomes hnew hlines hown hc hmisses htext
    exact ⟨enough, result', henough, hlisting, hvisited⟩

/-- Two pages, of which the first also includes a page that is not there. -/
def dangling : World where
  notebook :=
    { pages := [("A", "TODO a\nINCLUDE wiki:Gone\nINCLUDE wiki:B"), ("B", "DONE b")]
      distinct := by decide }
  reply _ := .failure

/-- The page that is not there leaves its error where it is the one that is asked for; within the
    list of the first page the line that asks for it can be cut out. -/
theorem failed_calls_are_contained_dangling :
    (∃ message, ∀ limit,
      dangling.resolveWithin (limit + 1) { keyword := .collect, tags := [("wiki", "Gone")] } none =
        some { listing :=
                 { head := { keyword := .collect, tags := [("wiki", "Gone")] }, tasks := []
                   error := some message }
               visited := none, requested := [], stopped := none }) ∧
    ∃ result, dangling.resolveWithin 3 { keyword := .collect, tags := [("wiki", "A")] }
        (some ["/Home"]) = some result ∧
      result.listing.error = none ∧ result.listing.tasks.length = 2 ∧
      result.visited = some (["/Home", "/A", "/B"] : List Text) ∧
      ∃ enough result', (∀ limit', enough ≤ limit' →
          (dangling.withText "/A" "TODO a\nINCLUDE wiki:B").resolveWithin limit'
            { keyword := .collect, tags := [("wiki", "A")] } (some ["/Home"]) = some result') ∧
        result'.listing = result.listing ∧ result'.visited = result.visited := by
  have hgone : ∀ {task : Task}, task.wantsAll = false →
      Text.startsWith task.description "http" = false → task.target? = some ("Gone" : Text) →
      dangling.Misses task := fun hall hhttp htarget => .page hall hhttp htarget (by decide)
  have hseen : (dangling.resolveWithin 3 { keyword := .collect, tags := [("wiki", "A")] }
      (some ["/Home"])).map
        (fun result => (result.listing.error, result.listing.tasks.length, result.visited)) =
      some (none, 2, some (["/Home", "/A", "/B"] : List Text)) := by
    decide +kernel
  obtain ⟨result, hresult, hseen⟩ := Option.map_eq_some_iff.mp hseen
  obtain ⟨herror, htasks, hvisited⟩ : result.listing.error = none ∧
      result.listing.tasks.length = 2 ∧
      result.visited = some (["/Home", "/A", "/B"] : List Text) := by
    simpa only [Prod.mk.injEq] using hseen
  have hfind : dangling.find { keyword := .collect, tags := [("wiki", "A")] } =
      .sources [dangling.pageSource [] "A" "TODO a\nINCLUDE wiki:Gone\nINCLUDE wiki:B"] := by
    decide +kernel
  have hentered : dangling.Comes
      ⟨some ["/Home"], [.call { keyword := .collect, tags := [("wiki", "A")] }]⟩
      ⟨some ["/Home"], [.source (dangling.pageSource [] "A"
        "TODO a\nINCLUDE wiki:Gone\nINCLUDE wiki:B")]⟩ :=
    .single (.found hfind)
  obtain ⟨-, hcontained⟩ := failed_calls_are_contained dangling
    { keyword := .collect, tags := [("wiki", "A")] } (some ["/Home"])
  obtain ⟨-, -, hcut⟩ := hcontained 3 result hresult
  refine ⟨(failed_calls_are_contained dangling _ none).1 (hgone rfl rfl rfl), result, hresult,
    herror, htasks, hvisited, ?_⟩
  exact hcut _ _ _ _ rfl hentered (by decide) ["TODO a"] "INCLUDE wiki:Gone" ["INCLUDE wiki:B"]
    { keyword := .collect, tags := [("wiki", "Gone")] } "TODO a\nINCLUDE wiki:B"
    (by decide +kernel) (by decide +kernel) rfl (hgone (by decide) (by decide) (by decide))
    (by decide +kernel)

end Taskbook
