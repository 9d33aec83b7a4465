/-
  What a collecting line points at. `World.find` names the sources of a task: all pages, one remote
  text or one page. The tasks of a source carry its origin and the tags it hands down. A world may
  hold any replies; in a scope only finitely many addresses answer.
-/
import Taskbook.Task.Line
import Taskbook.PageName.Tags
import Taskbook.Include.Notebook
import Taskbook.Include.Web

namespace Taskbook

/-- What collecting lines lead to: the pages, the replies of all addresses and the base of all
    links. -/
structure World where
  notebook : Notebook
  reply : Text → Reply
  base : Text := []

/-- A world in which finitely many addresses answer. -/
structure Scope where
  notebook : Notebook
  web : Web
  base : Text := []

/-- The world of a scope. -/
def Scope.world (scope : Scope) : World where
  notebook := scope.notebook
  reply := scope.web.reply
  base := scope.base

/-- The name a page has as an origin. -/
def pageOrigin (name : Text) : Text := '/' :: name

/-- The names of the pages as origins, and the given addresses. -/
def World.origins (world : World) (urls : List Text) : List Text :=
  world.notebook.names.map pageOrigin ++ urls

/-- A text with its origin. -/
structure Source where
  origin : Origin
  text : Text
  deriving DecidableEq, Repr

/-- A task of a text with the given origin. -/
def Origin.claim (origin : Origin) (task : Task) : Task :=
  let tagged := task.inherit origin.tags
  { (if task.collects then tagged else tagged.inherit origin.implied) with origin := some origin }

/-- The tasks of a source, in line order. -/
def Source.tasks (source : Source) : List Task :=
  (Task.parseAll source.text).map source.origin.claim

/-- The keys whose tags a collecting line hands down. -/
def handedKeys : List Text := ["project", "context"]

/-- The tags that a collecting line hands down. -/
def Task.handed (task : Task) : Tags :=
  handedKeys.filterMap fun key => (task.tags.filled? key).map (key, ·)

/-- Whether the task asks for all pages. -/
def Task.wantsAll (task : Task) : Bool := task.tags.get? "wiki" = some "all"

/-- The address that the task asks for. -/
def Task.address? (task : Task) : Option Text :=
  if !task.wantsAll && Text.startsWith task.description "http" then some task.description else none

/-- Why a collecting line found nothing. -/
inductive IncludeError where
  | unreachable (url : Text)
  | noPage (name : Text)
  deriving DecidableEq, Repr

/-- The wording of the error. -/
def IncludeError.message : IncludeError → Text
  | .unreachable url => "could not fetch " ++ url
  | .noPage name => "page not found: " ++ name

/-- What a task points at. -/
inductive Finding where
  | sources (found : List Source)
  | error (cause : IncludeError)
  | invalidAddress (fault : Http.AddressFault)
  deriving DecidableEq, Repr

/-- Why nothing was found, if that was so. -/
def Finding.error? : Finding → Option IncludeError
  | .error cause => some cause
  | _ => none

namespace World

/-- The origin of a page whose tasks get the given tags. -/
def originOf (world : World) (handed : Tags) (name : Text) : Origin where
  name := pageOrigin name
  viewUrl := world.base ++ '/' :: name
  editUrl := some (world.base ++ "/e/" ++ name)
  tags := handed
  implied := PageName.impliedTags name

/-- A page as a source. -/
def pageSource (world : World) (handed : Tags) (name content : Text) : Source where
  origin := world.originOf handed name
  text := content

/-- All pages as sources, in the order of the listing. -/
def allPages (world : World) (handed : Tags) : List Source :=
  world.notebook.listing.map fun page => world.pageSource handed page.1 page.2

/-- A remote text as a source. -/
def remoteSource (handed : Tags) (url content : Text) : Source where
  origin := { name := url, viewUrl := url, tags := handed }
  text := content

/-- What an address points at. -/
def remote (world : World) (handed : Tags) (url : Text) : Finding :=
  match world.reply url with
  | .failure => .error (.unreachable url)
  | .invalidAddress fault => .invalidAddress fault
  | .body content => .sources [remoteSource handed url content]

/-- What the name of a page points at. -/
def page (world : World) (handed : Tags) (name : Text) : Finding :=
  match world.notebook.find? name with
  | none => .error (.noPage name)
  | some content => .sources [world.pageSource handed name content]

/-- What a task points at: all pages, the address in its description, or the page it names. -/
def find (world : World) (task : Task) : Finding :=
  if task.wantsAll then .sources (world.allPages task.handed)
  else
    match task.address? with
    | some url => world.remote task.handed url
    | none =>
      match task.target? with
      | none => .sources []
      | some name => world.page task.handed name

/-- A source that a task points at is a page or what the address in its description replied. -/
theorem source_of_find {world : World} {task : Task} {found : List Source} {source : Source}
    (h : world.find task = .sources found) (hs : source ∈ found) :
    (∃ name content, (name, content) ∈ world.notebook.pages ∧
      source = world.pageSource task.handed name content) ∨
    ∃ url content, task.address? = some url ∧ world.reply url = .body content ∧
      source = remoteSource task.handed url content := by
  unfold find at h
  split at h
  · obtain rfl := Finding.sources.inj h
    obtain ⟨page, hpage, rfl⟩ := List.mem_map.mp hs
    exact Or.inl ⟨page.1, page.2, Notebook.mem_listing.mp hpage, rfl⟩
  · split at h
    · next url hurl =>
      unfold remote at h
      split at h
      · cases h
      · cases h
      · next content hreply =>
        obtain rfl := Finding.sources.inj h
        exact Or.inr ⟨url, content, hurl, hreply, List.mem_singleton.mp hs⟩
    · split at h
      · obtain rfl := Finding.sources.inj h
        cases hs
      · next name _ =>
        unfold page at h
        split at h
        · cases h
        · next content hpage =>
          obtain rfl := Finding.sources.inj h
          exact Or.inl ⟨name, content, Notebook.mem_pages_of_find? hpage, List.mem_singleton.mp hs⟩

/-- The origin of a source that a task points at is that of a page or an address that answers. -/
theorem origin_mem_of_find {world : World} {urls : List Text}
    (hurls : ∀ url content, world.reply url = .body content → url ∈ urls) {task : Task}
    {found : List Source} {source : Source} (h : world.find task = .sources found)
    (hs : source ∈ found) : source.origin.name ∈ world.origins urls := by
  obtain ⟨name, content, hpage, rfl⟩ | ⟨url, content, _, hreply, rfl⟩ := source_of_find h hs
  · exact List.mem_append_left _ (List.mem_map_of_mem (List.mem_map_of_mem (f := Prod.fst) hpage))
  · exact List.mem_append_right _ (hurls url content hreply)

end World

end Taskbook
