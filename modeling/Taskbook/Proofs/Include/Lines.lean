/-
  A task list stays one block.

  No line end is in the tags or the description of a task line, and none is in the address that a
  task comes from, if the names of the pages and the base of all links are free of them; a remote
  text has the description of a line for its address. This goes along every run
  (`World.invariant_oneLine`), so each part of a list is written on one line (`oneLine_lines`), and
  each of them starts with a tag. The markdown reader takes lines like these up to the next empty
  one, which is the one put behind the list: `task_list_is_one_block`. A page that is nothing but
  such a list is the list (`Listing.render_html`).
-/
import Mathlib.Data.Option.Basic
import Taskbook.Proofs.Html.Lines
import Taskbook.Proofs.Include.Block
import Taskbook.Proofs.Include.Find
import Taskbook.Proofs.Include.Origin
import Taskbook.Proofs.Include.WellFormed
import Taskbook.Proofs.Markdown.RawHtml

namespace Taskbook

open Html

/-! ## Texts on one line -/

theorem oneLine_of_isTagValue {s : Text} (h : ∀ c ∈ s, isTagValue c = true) : Text.OneLine s := by
  intro c hc
  refine Bool.eq_false_iff.mpr fun hend => ?_
  have hno := isTagValue_eq_false_of_isBlank (isBlank_of_isLineEnd hend)
  rw [h c hc] at hno
  cases hno

theorem TagForm.oneLine {tag : Text × Text} (h : TagForm tag) :
    Text.OneLine tag.1 ∧ Text.OneLine tag.2 :=
  ⟨oneLine_of_isTagValue fun c hc => isTagValue_of_isWord (h.key_word c hc),
    oneLine_of_isTagValue h.value_char⟩

theorem Text.oneLine_ofNat (n : Nat) : OneLine (ofNat n) := by
  have hcodes : ∀ code ∈ lineEndCodes, ¬ (48 ≤ code ∧ code ≤ 57) := by decide
  intro c hc
  have hdigit : c.isDigit = true := Nat.isDigit_of_mem_toDigits (by decide) (by decide)
    (Nat.toList_repr ▸ hc : c ∈ Nat.toDigits 10 n)
  refine Bool.eq_false_iff.mpr fun hend => hcodes c.toNat (List.contains_iff_mem.mp hend) ?_
  exact Char.isDigit_iff_toNat.mp hdigit

/-- The description of a task line has no line end in it. -/
theorem Task.oneLine_description {line : Text} {task : Task} (hline : Text.OneLine line)
    (h : Task.parse? line = some task) : Text.OneLine task.description := by
  obtain ⟨keyword, rest, hkeyword, -, rfl⟩ := Task.parse?_eq_some_iff.mp h
  have hblank : Text.OneLine [' '] := by decide
  intro c hc
  have hleft := (readTags_suffix_line hkeyword).subset (Text.trim_subset _ _ hc)
  rcases List.mem_append.mp hleft with hleft | hleft
  · obtain ⟨cut, hcut, -⟩ := Text.exists_trimEnd isLineCut line
    exact hline c (hcut ▸ List.mem_append_left _ hleft)
  · exact hblank c hleft

/-! ## Parts of a list -/

namespace Task

variable {task : Task}

theorem allOneLine_inlineNodes (htags : task.tags.WellFormed)
    (hdescription : Text.OneLine task.description) : Node.AllOneLine task.inlineNodes := by
  have hword : Text.OneLine task.keyword.word := by
    cases task.keyword <;> decide
  have hspace : Text.OneLine [' '] := by decide
  have hspan : Text.OneLine "span" ∧ Text.OneLine "class" ∧ Text.OneLine "task-attr" := by decide
  have htag : ∀ tag ∈ task.tags, (tagNode tag).OneLine := by
    intro tag hmem
    obtain ⟨hkey, hvalue⟩ := (htags tag hmem).oneLine
    have hcolon : Text.OneLine [':'] := by decide
    exact ⟨hspan.1, List.forall_mem_singleton.mpr hspan.2,
      hkey.append (hcolon.append hvalue), trivial⟩
  have hbody : Node.AllOneLine task.bodyNodes := by
    unfold bodyNodes
    refine allOneLine_append.mpr ⟨⟨⟨by decide, nofun, hword, trivial⟩, ?_⟩, ?_⟩
    · refine allOneLine_iff.mpr fun node hnode => ?_
      obtain ⟨tag, hmem, hnode⟩ := List.mem_flatMap.mp hnode
      simp only [List.mem_cons, List.not_mem_nil, or_false] at hnode
      rcases hnode with rfl | rfl
      · exact hspace
      · exact htag tag hmem
    · split
      · trivial
      · exact ⟨hspace.append hdescription, trivial⟩
  unfold inlineNodes
  split
  · exact ⟨⟨by decide, nofun, hbody⟩, trivial⟩
  · exact hbody

theorem allOneLine_linkNodes (hurl : ∀ url, task.originUrl? = some url → Text.OneLine url) :
    Node.AllOneLine task.linkNodes := by
  have hspace : Text.OneLine [' '] := by decide
  have hedit : Text.OneLine "edit" := by decide
  have hclass : Text.OneLine "class" ∧ Text.OneLine "task-origin" := by decide
  have hhref : Text.OneLine "href" := by decide
  unfold linkNodes
  split
  · trivial
  · next url horigin =>
    split
    · trivial
    · have hvalues : ∀ pair ∈ [(("class" : Text), ("task-origin" : Text)), ("href", url)],
          Text.OneLine pair.1 ∧ Text.OneLine pair.2 :=
        List.forall_mem_cons.mpr
          ⟨hclass, List.forall_mem_singleton.mpr ⟨hhref, hurl url horigin⟩⟩
      exact ⟨hspace, ⟨by decide, hvalues, hedit, trivial⟩, trivial⟩

theorem oneLine_html (htags : task.tags.WellFormed) (hdescription : Text.OneLine task.description)
    (hurl : ∀ url, task.originUrl? = some url → Text.OneLine url) : Text.OneLine task.html := by
  have hname : Text.OneLine "class" := by decide
  have hclass : Text.OneLine ("task task-" ++ task.keyword.className) := by
    cases task.keyword <;> decide
  exact oneLine_render _ ⟨by decide, List.forall_mem_singleton.mpr ⟨hname, hclass⟩,
    allOneLine_append.mpr
      ⟨allOneLine_inlineNodes htags hdescription, allOneLine_linkNodes hurl⟩⟩

end Task

namespace Listing

variable {listing : Listing}

/-- The parts of a list before the last. -/
def frontLines (listing : Listing) : List Text :=
  openTag "div" [("class", "tasklist")] :: listing.headNode.render :: listing.tasks.map Task.html

/-- The parts of a list, each of which is a line of its HTML. -/
def lines (listing : Listing) : List Text := listing.frontLines ++ [closeTag "div"]

theorem html_eq_lines (listing : Listing) :
    listing.html = listing.frontLines.flatMap (· ++ ['\n']) ++ closeTag "div" := by
  have hnewline : escape ['\n'] = ['\n'] := rfl
  unfold html node frontLines
  rw [Node.render, Node.renderAll, List.flatMap_cons, renderAll_append, renderAll_blocks,
    Node.renderAll, Node.renderAll, Node.renderAll, Node.render, hnewline]
  simp only [List.flatMap_cons, List.flatMap_map, List.append_assoc, List.append_nil]

theorem oneLine_headNode (htags : listing.head.tags.WellFormed)
    (hdescription : Text.OneLine listing.head.description)
    (herror : ∀ cause, listing.error = some cause → Text.OneLine cause) :
    listing.headNode.OneLine := by
  have hspace : Text.OneLine [' '] := by decide
  have hstatus : listing.statusNode.OneLine := by
    unfold statusNode
    split
    · next c reason hreason =>
      exact ⟨by decide, by decide, herror _ hreason, trivial⟩
    · have hopening : Text.OneLine ['('] := by decide
      have hclosing : Text.OneLine [')'] := by decide
      exact ⟨by decide, by decide,
        (hopening.append (Text.oneLine_ofNat listing.tasks.length)).append hclosing, trivial⟩
  exact ⟨by decide, by decide, allOneLine_append.mpr
    ⟨Task.allOneLine_inlineNodes htags hdescription, hspace, hstatus, trivial⟩⟩

theorem oneLine_lines (hhead : listing.headNode.OneLine)
    (htasks : ∀ task ∈ listing.tasks, Text.OneLine task.html) :
    ∀ part ∈ listing.lines, Text.OneLine part := by
  have hopening : Text.OneLine (openTag "div" [("class", "tasklist")]) := by decide
  have hclosing : Text.OneLine (closeTag "div") := by decide
  refine List.forall_mem_append.mpr ⟨?_, List.forall_mem_singleton.mpr hclosing⟩
  refine List.forall_mem_cons.mpr ⟨hopening, List.forall_mem_cons.mpr ⟨oneLine_render _ hhead, ?_⟩⟩
  exact List.forall_mem_map.mpr htasks

theorem length_lines (listing : Listing) : listing.lines.length = 3 + listing.tasks.length := by
  unfold lines frontLines
  simp only [List.length_append, List.length_cons, List.length_map, List.length_nil]
  omega

/-- Each part of a list starts with a tag. -/
theorem head?_lines (listing : Listing) : ∀ part ∈ listing.lines, part.head? = some '<' := by
  refine List.forall_mem_append.mpr ⟨?_, List.forall_mem_singleton.mpr rfl⟩
  refine List.forall_mem_cons.mpr ⟨rfl, List.forall_mem_cons.mpr ⟨head?_render_element _ _ _, ?_⟩⟩
  exact List.forall_mem_map.mpr fun task _ => head?_render_element _ _ _

theorem lines_html (h : ∀ part ∈ listing.lines, Text.OneLine part) :
    Text.lines listing.html = listing.lines := by
  obtain ⟨hfront, hlast⟩ := List.forall_mem_append.mp h
  rw [html_eq_lines, Text.lines_flatMap hfront,
    Text.lines_of_oneLine (List.forall_mem_singleton.mp hlast)]
  rfl

theorem html_append_newline (listing : Listing) :
    listing.html ++ ['\n'] = listing.lines.flatMap (· ++ ['\n']) := by
  rw [html_eq_lines, lines, List.flatMap_append, List.flatMap_singleton, List.append_assoc]

open Markdown in
/-- The markdown reader reads a list of such lines as one block, if an empty line follows or
    nothing. -/
theorem read_html (h : ∀ part ∈ listing.lines, Text.OneLine part) {reading : Reading} {tail : Text}
    (hrest : reading.rest = listing.html ++ '\n' :: tail)
    (htail : tail = [] ∨ tail.head? = some '\n') (rules : Rules) (readBody : ReadBody)
    (budget : Nat) :
    ∃ opening, opening? rules reading = some opening ∧
      take readBody (budget + 1) opening reading =
        some (reading.push (.html (listing.html ++ ['\n'])) tail) := by
  have hparts : ∀ part ∈ listing.lines, '\n' ∉ part ∧ part.all isVoid = false := by
    intro part hpart
    obtain ⟨rest, rfl⟩ := List.head?_eq_some_iff.mp (listing.head?_lines part hpart)
    exact ⟨fun hmem => absurd (h _ hpart _ hmem) (by decide), rfl⟩
  have hlines : reading.rest = listing.lines.flatMap (· ++ ['\n']) ++ tail := by
    rw [← html_append_newline, List.append_assoc, hrest]
    rfl
  obtain ⟨after, hafter⟩ : ∃ after, reading.rest = '<' :: 'd' :: 'i' :: 'v' :: ' ' :: after :=
    ⟨_, hlines⟩
  have hname : readElementName? ('d' :: 'i' :: 'v' :: ' ' :: after) =
      some (("div" : Text), ' ' :: after) := rfl
  obtain ⟨read, hread, hopening⟩ := opening?_tag hafter (by decide) rules
  obtain rfl := Option.some.inj (hname.symm.trans hread)
  refine ⟨_, hopening, ?_⟩
  rw [take_blockTag blockElements_div verbatimElements_div,
    readHtmlUntilBlank_lines hlines hparts htail, html_append_newline]

/-- A page of nothing but a list of such lines is the list, as it stands. -/
theorem render_html (h : ∀ part ∈ listing.lines, Text.OneLine part) :
    Markdown.render (listing.html ++ ['\n']) = listing.html ++ "\n\n" := by
  have hreturn : '\r' ∉ listing.html ++ ['\n'] := by
    rw [html_append_newline, List.mem_flatMap]
    rintro ⟨part, hpart, hmem⟩
    rcases List.mem_append.mp hmem with hmem | hmem
    · exact absurd (h part hpart _ hmem) (by decide)
    · exact absurd hmem (by decide)
  have hblock := Markdown.render_block hreturn List.getLast?_concat fun reading readBody hrest =>
    read_html h hrest (Or.inl rfl) { tables := true } readBody (listing.html ++ ['\n']).length
  rw [hblock, List.append_assoc]
  rfl

end Listing

/-! ## Along a run -/

/-- An item brings no line end into the description of a task or into the address it comes from. -/
def Item.OneLine : Item → Prop
  | .line task =>
    Text.OneLine task.description ∧ ∀ url, task.originUrl? = some url → Text.OneLine url
  | .call task => Text.OneLine task.description
  | .source found => Text.OneLine found.origin.url

theorem Task.eq_description_of_address? {task : Task} {url : Text} (h : task.address? = some url) :
    url = task.description := by
  unfold address? at h
  split at h
  · exact (Option.some.inj h).symm
  · cases h

theorem Task.oneLine_target? {task : Task} (h : task.tags.WellFormed) {name : Text}
    (htarget : task.target? = some name) : Text.OneLine name := by
  have hvalue : ∀ {key value : Text}, task.tags.filled? key = some value → Text.OneLine value :=
    fun hfilled => (h _ (Tags.mem_of_get? (Option.filter_eq_some_iff.mp hfilled).1)).oneLine.2
  have hhead : Text.OneLine "Context" ∧ Text.OneLine "Project" := by decide
  unfold target? at htarget
  rcases (Option.orElse_eq_some _ _ _).mp htarget with hwiki | ⟨-, htarget⟩
  · exact hvalue hwiki
  rcases (Option.orElse_eq_some _ _ _).mp htarget with hcontext | ⟨-, hproject⟩
  · obtain ⟨value, hfilled, rfl⟩ := Option.map_eq_some_iff.mp hcontext
    exact hhead.1.append (hvalue hfilled)
  · obtain ⟨value, hfilled, rfl⟩ := Option.map_eq_some_iff.mp hproject
    exact hhead.2.append (hvalue hfilled)

namespace World

variable {world : World}

theorem oneLine_url_originOf {handed : Tags} {name : Text} (hbase : Text.OneLine world.base)
    (hname : Text.OneLine name) : Text.OneLine (world.originOf handed name).url := by
  have hedit : Text.OneLine "/e/" := by decide
  have hview : Text.OneLine ('/' :: name) := List.forall_mem_cons.mpr ⟨by decide, hname⟩
  unfold originOf Origin.url
  dsimp only
  split
  · exact hbase.append hview
  · exact (hbase.append hedit).append hname

theorem invariant_oneLine (hnames : ∀ name ∈ world.notebook.names, Text.OneLine name)
    (hbase : Text.OneLine world.base) : world.Invariant Item.OneLine where
  expand _ hline := hline.1
  found {task found source} hcall hfind hsource := by
    obtain ⟨name, content, hpage, rfl⟩ | ⟨url, content, hurl, -, rfl⟩ :=
      source_of_find hfind hsource
    · exact oneLine_url_originOf hbase (hnames name (List.mem_map_of_mem (f := Prod.fst) hpage))
    · obtain rfl := Task.eq_description_of_address? hurl
      exact hcall
  enter {source task} hsource htask := by
    obtain ⟨own, hown, rfl⟩ := List.mem_map.mp htask
    obtain ⟨line, hline, hparse⟩ := List.mem_filterMap.mp hown
    refine ⟨?_, fun url hurl => ?_⟩
    · rw [(source.origin.claim_extends own).description]
      exact Task.oneLine_description (Text.oneLine_of_mem_lines hline) hparse
    · obtain rfl := Option.some.inj hurl
      exact hsource

/-- An error tells the address that was asked for or the page that was looked for. -/
theorem error?_find {task : Task} {cause : IncludeError}
    (h : (world.find task).error? = some cause) :
    (∃ url, task.address? = some url ∧ cause = .unreachable url) ∨
      ∃ name, task.target? = some name ∧ cause = .noPage name := by
  by_cases hall : task.wantsAll = true
  · rw [find_of_wantsAll hall] at h
    cases h
  cases haddress : task.address? with
  | some url =>
    rw [find_of_address? haddress] at h
    unfold remote at h
    split at h
    · exact Or.inl ⟨url, rfl, (Option.some.inj h).symm⟩
    · cases h
    · cases h
  | none =>
    cases htarget : task.target? with
    | none =>
      rw [find_of_target?_eq_none hall haddress htarget] at h
      cases h
    | some name =>
      rw [find_of_target? hall haddress htarget] at h
      unfold page at h
      split at h
      · exact Or.inr ⟨name, rfl, (Option.some.inj h).symm⟩
      · cases h

theorem oneLine_message {task : Task} (htags : task.tags.WellFormed)
    (hdescription : Text.OneLine task.description) {cause : IncludeError}
    (h : (world.find task).error? = some cause) : Text.OneLine cause.message := by
  rcases error?_find h with ⟨url, haddress, rfl⟩ | ⟨name, htarget, rfl⟩
  · have hunreachable : Text.OneLine "could not fetch " := by decide
    obtain rfl := Task.eq_description_of_address? haddress
    exact hunreachable.append hdescription
  · have hmissing : Text.OneLine "page not found: " := by decide
    exact hmissing.append (Task.oneLine_target? htags htarget)

/-- What a line comes to is a list of parts on one line each. -/
theorem oneLine_lines_of_resolveWithin
    (hnames : ∀ name ∈ world.notebook.names, Text.OneLine name) (hbase : Text.OneLine world.base)
    {line : Text} (hline : Text.OneLine line) {head : Task} (hhead : Task.parse? line = some head)
    {limit : Nat} {visited : Option (List Text)} {result : Resolution}
    (hresult : world.resolveWithin limit head visited = some result) :
    ∀ part ∈ result.listing.lines, Text.OneLine part := by
  have hrun := runs_of_resolveWithin hresult
  have hform : head.WellFormed := wellFormed_of_parse? hhead
  have hdescription : Text.OneLine head.description := Task.oneLine_description hline hhead
  have htags : ∀ task ∈ result.listing.tasks, task.WellFormed :=
    hrun.wellFormed (List.forall_mem_singleton.mpr hform.tags)
  have htexts : ∀ task ∈ result.listing.tasks, (Item.line task).OneLine :=
    hrun.tasks_of_invariant (invariant_oneLine hnames hbase)
      (List.forall_mem_singleton.mpr hdescription)
  have hlisted : result.listing.headNode.OneLine := by
    obtain ⟨found, -, rfl⟩ := Option.map_eq_some_iff.mp hresult
    refine Listing.oneLine_headNode hform.tags hdescription fun message hmessage => ?_
    obtain ⟨cause, hcause, rfl⟩ := Option.map_eq_some_iff.mp hmessage
    exact oneLine_message hform.tags hdescription hcause
  exact Listing.oneLine_lines hlisted fun task htask =>
    Task.oneLine_html (htags task htask).tags (htexts task htask).1 (htexts task htask).2

end World

/-- Where no line end is in the names of the pages and in the base of all links, the task list of
    a line that has none either is written on one line for its opening, one for its head, one for
    each task and one for its end. Each of them starts with a tag, and none is blank. So whatever
    follows the empty line that is put behind the list, the markdown reader takes the list for one
    block of HTML. -/
theorem task_list_is_one_block (world : World)
    (hnames : ∀ name ∈ world.notebook.names, Text.OneLine name) (hbase : Text.OneLine world.base)
    (line : Text) (hline : Text.OneLine line) (head : Task) (hhead : Task.parse? line = some head)
    (limit : Nat) (visited : Option (List Text)) (result : Resolution)
    (hresult : world.resolveWithin limit head visited = some result) :
    (Text.lines result.listing.html).length = 3 + result.listing.tasks.length ∧
    (∀ part ∈ Text.lines result.listing.html,
      part.head? = some '<' ∧ part.all isBlank = false) ∧
    ∀ (others : List Text) (reading : Markdown.Reading),
      reading.rest = Text.join ['\n'] ((result.listing.html ++ ['\n']) :: others) →
      ∀ rules readBody budget, ∃ opening, Markdown.opening? rules reading = some opening ∧
        Markdown.take readBody (budget + 1) opening reading =
          some (reading.push (.html (result.listing.html ++ ['\n']))
            (if others = [] then [] else '\n' :: Text.join ['\n'] others)) := by
  have hlines := World.oneLine_lines_of_resolveWithin hnames hbase hline hhead hresult
  rw [Listing.lines_html hlines]
  refine ⟨result.listing.length_lines, fun part hpart => ?_, fun others reading hrest => ?_⟩
  · have hfirst := result.listing.head?_lines part hpart
    obtain ⟨rest, rfl⟩ := List.head?_eq_some_iff.mp hfirst
    exact ⟨rfl, rfl⟩
  · -- The empty line is the one that joining puts behind the list, if anything follows.
    cases others with
    | nil =>
      rw [Text.join_singleton] at hrest
      exact Listing.read_html hlines hrest (Or.inl rfl)
    | cons other others =>
      rw [Text.join_cons_cons, List.append_assoc, List.append_assoc] at hrest
      exact Listing.read_html hlines hrest (Or.inr rfl)

theorem task_list_is_one_block_circle :
    (∀ name ∈ circle.notebook.names, Text.OneLine name) ∧ Text.OneLine circle.base ∧
      Text.OneLine "INCLUDE wiki:A context:Home" ∧
      ∃ head result, Task.parse? "INCLUDE wiki:A context:Home" = some head ∧
        circle.resolveWithin 3 head (some []) = some result ∧
        (Text.lines result.listing.html).length = 6 := by
  have hnames : ∀ name ∈ circle.notebook.names, Text.OneLine name := by decide
  have hbase : Text.OneLine circle.base := by decide
  have hline : Text.OneLine "INCLUDE wiki:A context:Home" := by decide
  have hhead : Task.parse? "INCLUDE wiki:A context:Home" =
      some { keyword := .collect, tags := [("wiki", "A"), ("context", "Home")] } := by
    decide +kernel
  have hlength : (circle.resolveWithin 3
      { keyword := .collect, tags := [("wiki", "A"), ("context", "Home")] } (some [])).map
        (·.listing.tasks.length) = some 3 := by
    decide +kernel
  obtain ⟨result, hresult, hthree⟩ := Option.map_eq_some_iff.mp hlength
  refine ⟨hnames, hbase, hline, _, result, hhead, hresult, ?_⟩
  rw [(task_list_is_one_block circle hnames hbase _ hline _ hhead 3 _ result hresult).1, hthree]

end Taskbook
