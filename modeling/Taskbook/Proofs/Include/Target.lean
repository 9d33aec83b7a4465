/-
  Which page a collecting line within a source asks for.

  `World.Leads` says which collecting lines lead to a source, the nearest one first, and by
  induction on them the source hands down the nearest values that they have (`Leads.tags`). A line
  takes over a value that is handed down only where it has none of that key, so the page that it
  names by itself is the one it asks for (`page_of_nested_line`), with one exception: a context
  stands in front of a project, so a line that names its page by a project alone asks for the page
  of a context that comes down to it.
-/
import Taskbook.Proofs.Include.Inheritance
import Taskbook.Proofs.Include.Moment

namespace Taskbook

/-- The value that the first of some lines to have one gives a key; empty values do not count. -/
def nearestFilled? (lines : List Task) (key : Text) : Option Text :=
  lines.findSome? (·.tags.filled? key)

/-- The tags that come down a way, empty ones aside. -/
def handedDown (way : List Task) : Tags :=
  handedKeys.filterMap fun key => (nearestFilled? way key).map (key, ·)

/-- The collecting lines that lead to a source, as they are written, from the one that points at it
    to the one that was resolved. -/
inductive World.Leads (world : World) (head : Task) : List Task → Source → Prop where
  | first {found : List Source} {source : Source} (hfind : world.find head = .sources found)
      (hsource : source ∈ found) : Leads world head [head] source
  | next {way : List Task} {source : Source} {own : Task} {found : List Source} {nested : Source}
      (h : Leads world head way source) (hown : own ∈ Task.parseAll source.text)
      (hc : own.collects = true) (hfind : world.find (source.origin.claim own) = .sources found)
      (hnested : nested ∈ found) : Leads world head (own :: way) nested

/-- The line has neither a page nor a context, so only a project can name its page. -/
def Task.ByProject (own : Task) : Prop :=
  own.tags.filled? "wiki" = none ∧ own.tags.filled? "context" = none

/-! ## Values that come down -/

theorem nearestFilled?_cons (line : Task) (way : List Task) (key : Text) :
    nearestFilled? (line :: way) key = (line.tags.filled? key).or (nearestFilled? way key) := by
  unfold nearestFilled?
  rw [List.findSome?_cons]
  cases line.tags.filled? key <;> rfl

theorem filter_nearestFilled? (way : List Task) (key : Text) :
    (nearestFilled? way key).filter (· ≠ []) = nearestFilled? way key := by
  cases hvalue : nearestFilled? way key with
  | none => rfl
  | some value =>
    obtain ⟨line, -, hline⟩ := List.exists_of_findSome?_eq_some hvalue
    exact Option.filter_some_pos (Option.filter_eq_some_iff.mp hline).2

theorem Task.handed_eq (task : Task) : task.handed = handedDown [task] := by
  refine List.filterMap_congr fun key _ => ?_
  rw [nearestFilled?_cons]
  exact congrArg (Option.map _) Option.or_none.symm

theorem get?_handedDown {key : Text} (hkey : key ∈ handedKeys) (way : List Task) :
    (handedDown way).get? key = nearestFilled? way key := by
  unfold handedDown
  rw [Tags.get?_filterMap, if_pos hkey]

/-- A line of a text has no empty tag. -/
theorem filled?_of_mem_parseAll {text : Text} {own : Task} (hown : own ∈ Task.parseAll text)
    (key : Text) : own.tags.filled? key = own.tags.get? key := by
  unfold Tags.filled?
  cases hvalue : own.tags.get? key with
  | none => rfl
  | some value =>
    have hform := (Notebook.wellFormed_of_mem_parseAll hown).tags _ (Tags.mem_of_get? hvalue)
    exact Option.filter_some_pos (decide_eq_true hform.value_ne_nil)

/-- The values of a line that an origin claims, where the origin has the tags of a way. -/
theorem get?_claim_way {origin : Origin} {way : List Task} {own : Task}
    (htags : origin.tags = handedDown way) (hc : own.collects = true) (key : Text) :
    (origin.claim own).tags.get? key =
      (own.tags.get? key).or (if key ∈ handedKeys then nearestFilled? way key else none) := by
  rw [origin.claim_tags, if_pos hc, htags, ← Tags.get?_filterMap, ← handedDown,
    ← Tags.get?_inherit]
  rfl

theorem filled?_claim_way {origin : Origin} {way : List Task} {text : Text} {own : Task}
    (htags : origin.tags = handedDown way) (hown : own ∈ Task.parseAll text)
    (hc : own.collects = true) {key : Text} (hkey : key ∈ handedKeys) :
    (origin.claim own).tags.filled? key = nearestFilled? (own :: way) key := by
  have hget := get?_claim_way htags hc key
  rw [if_pos hkey, ← filled?_of_mem_parseAll hown, ← nearestFilled?_cons] at hget
  unfold Tags.filled?
  rw [hget, filter_nearestFilled?]

/-- A source hands down the nearest values of the lines that lead to it. -/
theorem World.Leads.tags {world : World} {head : Task} {way : List Task} {source : Source}
    (h : world.Leads head way source) : source.origin.tags = handedDown way := by
  induction h with
  | first hfind hsource =>
    rw [(implied_of_find hfind hsource).1]
    exact Task.handed_eq head
  | next _ hown hc hfind hnested ih =>
    rw [(implied_of_find hfind hnested).1]
    refine List.filterMap_congr fun key hkey => ?_
    rw [filled?_claim_way ih hown hc hkey]

/-! ## The page that is asked for -/

namespace World

variable {world : World} {head own : Task} {way : List Task} {source : Source}

/-- Pages are not handed down. -/
theorem Leads.get?_wiki (h : world.Leads head way source) (hc : own.collects = true) :
    (source.origin.claim own).tags.get? "wiki" = own.tags.get? "wiki" := by
  rw [get?_claim_way h.tags hc, if_neg (by decide), Option.or_none]

theorem Leads.target? (h : world.Leads head way source) (hown : own ∈ Task.parseAll source.text)
    (hc : own.collects = true) :
    (source.origin.claim own).target? =
      (own.tags.filled? "wiki" <|>
        (nearestFilled? (own :: way) "context").map (("Context" : Text) ++ ·) <|>
        (nearestFilled? (own :: way) "project").map (("Project" : Text) ++ ·)) := by
  have hwiki : (source.origin.claim own).tags.filled? "wiki" = own.tags.filled? "wiki" :=
    congrArg (Option.filter _) (h.get?_wiki hc)
  unfold Task.target?
  rw [hwiki, filled?_claim_way h.tags hown hc (by decide),
    filled?_claim_way h.tags hown hc (by decide)]

/-- A line that names a page by itself asks for it, unless it does so by its project alone and a
    context comes down to it. -/
theorem Leads.target?_of_own (h : world.Leads head way source)
    (hown : own ∈ Task.parseAll source.text) (hc : own.collects = true) {name : Text}
    (hname : own.target? = some name)
    (hcontext : own.ByProject → nearestFilled? way "context" = none) :
    (source.origin.claim own).target? = some name := by
  rw [h.target? hown hc, nearestFilled?_cons, nearestFilled?_cons]
  unfold Task.target? at hname
  cases hwiki : own.tags.filled? "wiki" with
  | some page =>
    rw [hwiki] at hname
    exact hname
  | none =>
    rw [hwiki] at hname
    cases hown' : own.tags.filled? "context" with
    | some context =>
      rw [hown'] at hname
      exact hname
    | none =>
      rw [hown'] at hname
      obtain ⟨project, hproject, hpage⟩ := Option.map_eq_some_iff.mp hname
      rw [hcontext ⟨hwiki, hown'⟩, hproject, ← hpage]
      rfl

/-- A context that comes down to a line with a project alone names the page. -/
theorem Leads.target?_of_byProject (h : world.Leads head way source)
    (hown : own ∈ Task.parseAll source.text) (hc : own.collects = true) (hproject : own.ByProject)
    {context : Text} (hcontext : nearestFilled? way "context" = some context) :
    (source.origin.claim own).target? = some (("Context" : Text) ++ context) := by
  obtain ⟨hwiki, hown'⟩ := hproject
  rw [h.target? hown hc, nearestFilled?_cons, hwiki, hown', hcontext]
  rfl

/-- A collecting line with a target, and without an address, asks for the page of that name. -/
theorem find_claim_of_target? {origin : Origin} {name : Text}
    (hwiki : (origin.claim own).tags.get? "wiki" = own.tags.get? "wiki")
    (hall : own.wantsAll = false) (hhttp : Text.startsWith own.description "http" = false)
    (hname : (origin.claim own).target? = some name) :
    world.find (origin.claim own) = world.page (origin.claim own).handed name := by
  have hclaimed : ¬ (origin.claim own).wantsAll = true := by
    unfold Task.wantsAll at hall ⊢
    rw [hwiki, hall]
    exact Bool.false_ne_true
  have haddress : (origin.claim own).address? = none := by
    unfold Task.address?
    rw [(origin.claim_extends own).description, hhttp, Bool.and_false]
    rfl
  exact find_of_target? hclaimed haddress hname world

/-- Some collecting lines lead to whatever source is pending. -/
theorem invariant_leads : world.Invariant fun
    | .line task => ∃ way source own, world.Leads head way source ∧
        own ∈ Task.parseAll source.text ∧ task = source.origin.claim own
    | .call task => task = head ∨ ∃ way source own, world.Leads head way source ∧
        own ∈ Task.parseAll source.text ∧ own.collects = true ∧ task = source.origin.claim own
    | .source source => ∃ way, world.Leads head way source where
  expand hc hline := by
    obtain ⟨way, source, own, hleads, hown, rfl⟩ := hline
    rw [Origin.claim_collects] at hc
    exact .inr ⟨way, source, own, hleads, hown, hc, rfl⟩
  found hcall hfind hsource := by
    obtain rfl | ⟨way, source, own, hleads, hown, hc, rfl⟩ := hcall
    · exact ⟨_, .first hfind hsource⟩
    · exact ⟨_, .next hleads hown hc hfind hsource⟩
  enter hsource htask := by
    obtain ⟨way, hleads⟩ := hsource
    obtain ⟨own, hown, rfl⟩ := List.mem_map.mp htask
    exact ⟨way, _, own, hleads, hown, rfl⟩

theorem exists_leads_of_comes {visited now : Option (List Text)} {rest : List Item}
    (h : world.Comes ⟨visited, [.call head]⟩ ⟨now, .source source :: rest⟩) :
    ∃ way, world.Leads head way source :=
  h.of_invariant invariant_leads (List.forall_mem_singleton.mpr (.inl rfl)) _ List.mem_cons_self

end World

/-- Some collecting lines lead to each source that an expansion comes to. Each collecting line of
    the source that by its own tags names a page, and asks neither for all pages nor for an
    address, asks for that page, whatever project and context come down from those lines; but a
    line with neither a page nor a context of its own asks for the page of the context that comes
    down to it, if one does. -/
theorem page_of_nested_line (world : World) (head : Task) (met now : List Text) (source : Source)
    (rest : List Item)
    (h : world.Comes ⟨some met, [.call head]⟩ ⟨some now, .source source :: rest⟩) :
    ∃ way, world.Leads head way source ∧ ∀ own ∈ Task.parseAll source.text, own.collects = true →
      own.wantsAll = false → Text.startsWith own.description "http" = false →
      ∀ name, own.target? = some name →
        ((own.ByProject → nearestFilled? way "context" = none) →
          world.find (source.origin.claim own) =
            world.page (source.origin.claim own).handed name) ∧
        (own.ByProject → ∀ context, nearestFilled? way "context" = some context →
          world.find (source.origin.claim own) =
            world.page (source.origin.claim own).handed (("Context" : Text) ++ context)) := by
  obtain ⟨way, hleads⟩ := World.exists_leads_of_comes h
  refine ⟨way, hleads, fun own hown hc hall hhttp name hname => ⟨fun hcontext => ?_, ?_⟩⟩
  · exact World.find_claim_of_target? (hleads.get?_wiki hc) hall hhttp
      (hleads.target?_of_own hown hc hname hcontext)
  · intro hproject context hcontext
    exact World.find_claim_of_target? (hleads.get?_wiki hc) hall hhttp
      (hleads.target?_of_byProject hown hc hproject hcontext)

/-- A page that includes one page by its name and another by a project. -/
def carrying : World where
  notebook :=
    { pages := [("A", "INCLUDE wiki:B\nINCLUDE project:X"), ("B", "TODO b"),
        ("ProjectX", "TODO x"), ("ContextHome", "TODO home")]
      distinct := by decide }
  reply _ := .failure

/-- The line that leads to the page, with a context that comes down from it. -/
def carryingHead : Task :=
  { keyword := .collect, tags := [("wiki", "A"), ("context", "Home")] }

/-- The page as a source. -/
def carryingSource : Source :=
  carrying.pageSource [("context", "Home")] "A" "INCLUDE wiki:B\nINCLUDE project:X"

theorem parseAll_carryingSource : Task.parseAll carryingSource.text =
    [{ keyword := .collect, tags := [("wiki", "B")] },
      { keyword := .collect, tags := [("project", "X")] }] := by
  decide +kernel

theorem comes_carryingSource :
    carrying.Comes ⟨some [], [.call carryingHead]⟩ ⟨some [], [.source carryingSource]⟩ := by
  have hfind : carrying.find carryingHead = .sources [carryingSource] := by decide +kernel
  exact .single (.found hfind)

theorem page_of_nested_line_carrying :
    carrying.Comes ⟨some [], [.call carryingHead]⟩ ⟨some [], [.source carryingSource]⟩ ∧
    carrying.find (carryingSource.origin.claim { keyword := .collect, tags := [("wiki", "B")] }) =
      carrying.page [("context", "Home")] "B" ∧
    carrying.find (carryingSource.origin.claim
        { keyword := .collect, tags := [("project", "X")] }) =
      carrying.page [("project", "X"), ("context", "Home")] "ContextHome" := by
  obtain ⟨way, hleads, hlines⟩ :=
    page_of_nested_line carrying carryingHead [] [] carryingSource [] comes_carryingSource
  have hcontext : nearestFilled? way "context" = some ("Home" : Text) := by
    rw [← get?_handedDown (by decide) way, ← hleads.tags]
    rfl
  rw [parseAll_carryingSource] at hlines
  refine ⟨comes_carryingSource, ?_, ?_⟩
  · exact (hlines _ List.mem_cons_self rfl (by decide) (by decide) "B" (by decide)).1
      fun hproject => absurd hproject.1 (by decide)
  · exact (hlines _ (List.mem_cons_of_mem _ List.mem_cons_self) rfl (by decide) (by decide)
      "ProjectX" (by decide)).2 ⟨by decide, by decide⟩ "Home" hcontext

/-- A line that names its page by a project does not ask for it where a context comes down. -/
theorem project_gives_way_to_context :
    carrying.Comes ⟨some [], [.call carryingHead]⟩ ⟨some [], [.source carryingSource]⟩ ∧
    (∃ own ∈ Task.parseAll carryingSource.text, own.collects = true ∧ own.wantsAll = false ∧
      Text.startsWith own.description "http" = false ∧ own.target? = some ("ProjectX" : Text) ∧
      carrying.find (carryingSource.origin.claim own) ≠
        carrying.page (carryingSource.origin.claim own).handed "ProjectX") ∧
    (carrying.resolveWithin 3 carryingHead (some [])).map (·.visited) =
      some (some (["/A", "/B", "/ContextHome"] : List Text)) := by
  refine ⟨comes_carryingSource, ⟨{ keyword := .collect, tags := [("project", "X")] }, ?_, ?_⟩,
    by decide +kernel⟩
  · rw [parseAll_carryingSource]
    exact List.mem_cons_of_mem _ List.mem_cons_self
  · decide +kernel

end Taskbook
