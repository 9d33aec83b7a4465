/-
  An import merges files into the store as a map.

  A file that is no page, because it is a directory, cannot be decoded or has no proper name, leaves
  the store as it is, and any other is merged into it: a page that is there already keeps its
  content or takes the new one, as the options say (`store_next`). So an import merges the pages
  that the files become, one after another (`store_foldl`), and of several files of one name the
  first or the last one counts (`contentOf?_foldl_mergePage`). Each file is counted once
  (`total_foldl`), and one is counted as created exactly where it brings a new name
  (`creates_foldl`).
-/
import Mathlib.Data.Finset.Card
import Taskbook.Proofs.Import.Run

namespace Taskbook

namespace Store

/-- The names of the pages in a store. -/
def names (store : Store) : Finset Text := (store.entries.map Entry.name).toFinset

theorem mem_names {store : Store} {name : Text} :
    name ∈ store.names ↔ (store.find? name).isSome = true := by
  unfold names
  rw [List.mem_toFinset, ← not_iff_not, ← find?_eq_none_iff, Option.not_isSome_iff_eq_none]

theorem names_save (store : Store) (now : Nat) (name content : Text) :
    (store.save now name content).1.names = insert name store.names := by
  unfold save
  cases hfind : store.find? name with
  | none =>
    ext other
    simp [names, create]
  | some entry =>
    have hmem : name ∈ store.names := mem_names.mpr (by rw [hfind]; rfl)
    rw [Finset.insert_eq_of_mem hmem]
    dsimp only
    split
    · rfl
    · exact congrArg List.toFinset (store.names_replace now entry content)

end Store

namespace Import

variable {options : Options} {now : Nat} {store : Store} {files : List Candidate}
  {candidate : Candidate} {name content : Text}

/-! ## Pages -/

/-- The page that a file becomes, if its name is accepted and its bytes can be decoded; each line of
    the page is ended by a line feed. A directory becomes none. -/
def Candidate.page? (extension : Text) (candidate : Candidate) : Option (Text × Text) :=
  let name := pageName extension candidate.fileName
  match candidate.tree with
  | .directory _ => none
  | .file bytes =>
    if PageName.accepted name then
      (Text.decode bytes).toOption.map fun text => (name, Text.unixNewlines text)
    else none

theorem page?_eq (extension : Text) (candidate : Candidate) : candidate.page? extension =
    if PageName.accepted (pageName extension candidate.fileName) then
      candidate.content.toOption.map (pageName extension candidate.fileName, ·)
    else none := by
  unfold Candidate.page? Candidate.content
  dsimp only
  cases candidate.tree with
  | directory entries => exact (ite_self none).symm
  | file bytes =>
    dsimp only
    cases Text.decode bytes <;> rfl

/-- The store with a page merged into it. One that is there is left alone or overwritten. -/
def mergePage (overwrite : Bool) (now : Nat) (store : Store) (page : Text × Text) : Store :=
  if (store.find? page.1).isSome && !overwrite then store
  else (store.save now page.1 page.2).1

/-- The contents that some pages give a name, in their order. -/
def contentsOf (pages : List (Text × Text)) (name : Text) : List Text :=
  (pages.filter (·.1 = name)).map Prod.snd

/-- What contents that come one after another make of the one that was there: the last of all counts
    where pages are overwritten, else the first of all. -/
def mergedContent (overwrite : Bool) (before : Option Text) (contents : List Text) : Option Text :=
  if overwrite then contents.getLast?.or before else before.or contents.head?

/-- A file that is a page is merged into the store, and any other changes nothing. -/
theorem store_next (hreal : options.dryRun = false) (progress : Progress) (candidate : Candidate) :
    (progress.next options now candidate).store =
      ((candidate.page? options.extension).map
        (mergePage options.overwrite now progress.store)).getD progress.store := by
  rw [page?_eq]
  unfold Progress.next
  dsimp only
  split
  · unfold Progress.take mergePage
    dsimp only
    split
    · next hskipped =>
      cases candidate.content with
      | error reason => rfl
      | ok content => exact (if_pos hskipped).symm
    · next htaken =>
      rw [hreal, if_neg Bool.false_ne_true]
      unfold Progress.write
      cases candidate.content with
      | error reason => rfl
      | ok content => exact (if_neg htaken).symm
  · rfl

theorem store_foldl (hreal : options.dryRun = false) (progress : Progress)
    (files : List Candidate) :
    (files.foldl (Progress.next options now) progress).store =
      (files.filterMap (Candidate.page? options.extension)).foldl
        (mergePage options.overwrite now) progress.store := by
  induction files generalizing progress with
  | nil => rfl
  | cons candidate rest ih =>
    rw [List.foldl_cons, ih, store_next hreal]
    cases hpage : candidate.page? options.extension with
    | none => rw [List.filterMap_cons_none hpage, Option.map_none, Option.getD_none]
    | some page =>
      rw [List.filterMap_cons_some hpage, Option.map_some, Option.getD_some, List.foldl_cons]

/-! ## Contents -/

theorem contentOf?_mergePage (overwrite : Bool) (now : Nat) (store : Store) (page : Text × Text)
    (name : Text) :
    (mergePage overwrite now store page).contentOf? name =
      mergedContent overwrite (store.contentOf? name) (contentsOf [page] name) := by
  by_cases hname : page.1 = name
  · subst hname
    have hcontents : contentsOf [page] page.1 = [page.2] := by simp [contentsOf]
    have hfound : (store.contentOf? page.1).isSome = (store.find? page.1).isSome := by
      unfold Store.contentOf?
      exact Option.isSome_map
    rw [hcontents]
    unfold mergePage mergedContent
    cases overwrite with
    | true =>
      rw [Bool.not_true, Bool.and_false, if_neg Bool.false_ne_true, Store.contentOf?_save,
        if_pos rfl]
      rfl
    | false =>
      rw [← hfound, Bool.not_false, Bool.and_true]
      cases hbefore : store.contentOf? page.1 with
      | some content => exact hbefore
      | none => exact (Store.contentOf?_save store now page.1 page.2 page.1).trans (if_pos rfl)
  · have hcontents : contentsOf [page] name = [] := by simp [contentsOf, hname]
    have hsame : mergedContent overwrite (store.contentOf? name) [] = store.contentOf? name := by
      cases overwrite <;> simp [mergedContent]
    rw [hcontents, hsame]
    unfold mergePage
    split
    · rfl
    · rw [Store.contentOf?_save, if_neg (Ne.symm hname)]

theorem mergedContent_append (overwrite : Bool) (before : Option Text) (contents more : List Text) :
    mergedContent overwrite before (contents ++ more) =
      mergedContent overwrite (mergedContent overwrite before contents) more := by
  unfold mergedContent
  cases overwrite with
  | true => simp [List.getLast?_append, Option.or_assoc]
  | false => simp [List.head?_append, Option.or_assoc]

theorem contentOf?_foldl_mergePage (overwrite : Bool) (now : Nat) (store : Store)
    (pages : List (Text × Text)) (name : Text) :
    (pages.foldl (mergePage overwrite now) store).contentOf? name =
      mergedContent overwrite (store.contentOf? name) (contentsOf pages name) := by
  induction pages generalizing store with
  | nil => cases overwrite <;> simp [mergedContent, contentsOf]
  | cons page rest ih =>
    have hcontents : contentsOf (page :: rest) name =
        contentsOf [page] name ++ contentsOf rest name := by
      unfold contentsOf
      rw [← List.singleton_append, List.filter_append, List.map_append]
    rw [List.foldl_cons, ih, contentOf?_mergePage, hcontents, mergedContent_append]

/-! ## Counts -/

/-- The number of files counted. -/
def Counts.total (counts : Counts) : Nat :=
  counts.created + counts.updated + counts.skipped + counts.errors

theorem total_next (options : Options) (now : Nat) (progress : Progress) (candidate : Candidate) :
    (progress.next options now candidate).counts.total = progress.counts.total + 1 := by
  have hadd (existing : Bool) :
      (progress.counts.addPage existing).total = progress.counts.total + 1 := by
    unfold Counts.addPage Counts.total
    split <;> dsimp only <;> omega
  have herror : progress.counts.addError.total = progress.counts.total + 1 := by
    unfold Counts.addError Counts.total
    dsimp only
    omega
  unfold Progress.next
  dsimp only
  split
  · unfold Progress.take
    dsimp only
    split
    · unfold Counts.total
      dsimp only
      omega
    · split
      · exact hadd _
      · unfold Progress.write
        split
        · exact hadd _
        · exact herror
  · exact herror

/-- Each file is counted once. -/
theorem total_foldl (options : Options) (now : Nat) (progress : Progress)
    (files : List Candidate) :
    (files.foldl (Progress.next options now) progress).counts.total =
      progress.counts.total + files.length := by
  induction files generalizing progress with
  | nil => rfl
  | cons candidate rest ih =>
    rw [List.foldl_cons, ih, total_next, List.length_cons]
    omega

/-- The names in a store only grow, by as many as there are files counted as created. -/
structure Creates (progress later : Progress) : Prop where
  names : progress.store.names ⊆ later.store.names
  created : progress.counts.created + later.store.names.card =
    later.counts.created + progress.store.names.card

theorem Creates.of_same {progress later : Progress} (hstore : later.store = progress.store)
    (hcreated : later.counts.created = progress.counts.created) : Creates progress later where
  names := by rw [hstore]
  created := by rw [hstore, hcreated]

theorem Creates.trans {progress later last : Progress} (h : Creates progress later)
    (h' : Creates later last) : Creates progress last where
  names := h.names.trans h'.names
  created := by
    have := h.created
    have := h'.created
    omega

/-- A page that is saved is counted as created exactly if its name is new. -/
theorem creates_save (now : Nat) (name content : Text) {progress later : Progress}
    (hstore : later.store = (progress.store.save now name content).1)
    (hcounts : later.counts = progress.counts.addPage (progress.store.find? name).isSome) :
    Creates progress later := by
  refine ⟨?_, ?_⟩
  · rw [hstore, Store.names_save]
    exact Finset.subset_insert _ _
  · rw [hstore, hcounts, Store.names_save]
    unfold Counts.addPage
    split
    · next hexists => rw [Finset.insert_eq_of_mem (Store.mem_names.mpr hexists)]
    · next hnew =>
      rw [Finset.card_insert_of_notMem (mt Store.mem_names.mp hnew)]
      dsimp only
      omega

theorem creates_next (hreal : options.dryRun = false) (progress : Progress)
    (candidate : Candidate) : Creates progress (progress.next options now candidate) := by
  unfold Progress.next
  dsimp only
  split
  · unfold Progress.take
    dsimp only
    split
    · exact .of_same rfl rfl
    · rw [hreal, if_neg Bool.false_ne_true]
      unfold Progress.write
      split
      · exact creates_save now _ _ rfl rfl
      · exact .of_same rfl rfl
  · exact .of_same rfl rfl

theorem creates_foldl (hreal : options.dryRun = false) (progress : Progress)
    (files : List Candidate) :
    Creates progress (files.foldl (Progress.next options now) progress) := by
  induction files generalizing progress with
  | nil => exact .of_same rfl rfl
  | cons candidate rest ih => exact (creates_next hreal progress candidate).trans (ih _)

/-- The pages that the files below a place become. -/
def pagesBelow (ground : Ground) (place : List Text) (tree : FileTree) (extension : Text) :
    List (Text × Text) :=
  (filesBelow ground place tree extension).filterMap (Candidate.page? extension)

/-- A run that is no dry run, with an extension that stands for itself, merges the files below its
    directory into the store as a map: of the files of one name that can be read, in the order of
    the listing, the last one counts with `overwrite`; without, the page that was there stays, and
    else the first one counts. Files that are no pages change nothing and stop nothing. Each file is
    counted once, and those counted as created are as many as the new names. -/
theorem files_are_merged (ground : Ground) (options : Options) (now : Nat) (table : Option Store)
    (hreal : options.dryRun = false) (hplain : PlainExtension options.extension)
    (place : List Text) (hplace : ground.place? options.directory = some place) (tree : FileTree)
    (htree : ground.whole.find? place = some tree) (hdirectory : tree.isDirectory = true) :
    ∃ lines counts later,
      runOptions ground options now table =
        { output := lines ++ Counts.summary counts, ending := .exit 0, table := some later } ∧
      later.Settled ∧
      (∀ name, later.contentOf? name =
        mergedContent options.overwrite ((table.getD {}).contentOf? name)
          (contentsOf (pagesBelow ground place tree options.extension) name)) ∧
      (importFiles options now table
        ((filesBelow ground place tree options.extension).filter fun candidate =>
          (candidate.page? options.extension).isSome)).table = some later ∧
      counts.created + counts.updated + counts.skipped + counts.errors =
        (filesBelow ground place tree options.extension).length ∧
      counts.created = (later.names \ (table.getD {}).names).card := by
  obtain ⟨last, hlast⟩ : ∃ last, last = (filesBelow ground place tree options.extension).foldl
      (Progress.next options now) { store := table.getD {} } := ⟨_, rfl⟩
  have hpages : last.store = (pagesBelow ground place tree options.extension).foldl
      (mergePage options.overwrite now) (table.getD {}) := by
    rw [hlast, store_foldl hreal]
    rfl
  have hcreates : Creates { store := table.getD {} } last := by
    rw [hlast]
    exact creates_foldl hreal _ _
  refine ⟨last.output, last.counts, last.store.commit, ?_, Store.settled_commit _, fun name => ?_,
    ?_, ?_, ?_⟩
  · have hfiles := candidatesIn?_eq hplain htree hdirectory
    rw [runOptions_of_files hplace htree hdirectory hfiles, importFiles_of_real hreal, hlast]
    rfl
  · change last.store.contentOf? name = _
    rw [hpages, contentOf?_foldl_mergePage]
  · rw [importFiles_of_real hreal, hpages]
    dsimp only
    rw [store_foldl hreal, Notebook.filterMap_filter_isSome]
    rfl
  · rw [hlast]
    exact (total_foldl options now _ _).trans (Nat.zero_add _)
  · have hnames : last.store.commit.names = last.store.names := rfl
    have hcreated : 0 + last.store.names.card =
        last.counts.created + (table.getD {}).names.card := hcreates.created
    rw [hnames, Finset.card_sdiff_of_subset hcreates.names]
    dsimp only
    omega

/-- A file for a page that is there, one without a proper name, one that cannot be decoded, a
    directory and two files of one name. -/
def mixedGround : Ground where
  shown := "/wiki"
  name := "wiki"
  tree := .directory
    [("Home.md", .file [0x62]), ("no name.md", .file []), ("Odd.md", .file [0xff]),
      ("Top.md", .directory []), ("Week.md", .file [0x61, 0x0d, 0x0a]),
      ("zero", .directory [("Week.md", .file [0x63])])]

/-- The page that is there. -/
def homeStore : Store := (Store.save {} 1 "Home" "h").1.commit

theorem files_are_merged_mixed :
    PlainExtension ".md" ∧ mixedGround.place? "/wiki" = some [("wiki" : Text)] ∧
      mixedGround.whole.find? [("wiki" : Text)] = some mixedGround.tree ∧
      mixedGround.tree.isDirectory = true ∧
      ∃ lines counts later,
        runOptions mixedGround { directory := "/wiki", extension := ".md" } 2 (some homeStore) =
          { output := lines ++ Counts.summary counts, ending := .exit 0, table := some later } ∧
        later.contentOf? "Week" = some ("a\n" : Text) ∧
        later.contentOf? "Home" = some ("h" : Text) ∧ later.contentOf? "Odd" = none ∧
        later.contentOf? "Top" = none ∧
        counts.created + counts.updated + counts.skipped + counts.errors = 6 := by
  have hplain : PlainExtension ".md" := by decide
  have hplace : mixedGround.place? "/wiki" = some [("wiki" : Text)] := by decide +kernel
  obtain ⟨lines, counts, later, hrun, -, hcontent, -, htotal, -⟩ :=
    files_are_merged mixedGround { directory := "/wiki", extension := ".md" } 2 (some homeStore) rfl
      hplain ["wiki"] hplace mixedGround.tree rfl rfl
  -- The files are found in the order of their names.
  have hfiles : ∃ files, filesBelow mixedGround ["wiki"] mixedGround.tree ".md" = files ∧
      files.length = 6 ∧ files.filterMap (Candidate.page? ".md") =
        [(("Home" : Text), ("b" : Text)), ("Week", "a\n"), ("Week", "c")] :=
    ⟨_, List.mergeSort_of_pairwise (by decide +kernel), by decide +kernel, by decide +kernel⟩
  obtain ⟨files, hbelow, hlength, hpages⟩ := hfiles
  have hmerged (name : Text) : later.contentOf? name =
      mergedContent false (homeStore.contentOf? name)
        (contentsOf [(("Home" : Text), ("b" : Text)), ("Week", "a\n"), ("Week", "c")] name) := by
    rw [hcontent, pagesBelow, hbelow, hpages]
    rfl
  refine ⟨hplain, hplace, rfl, rfl, lines, counts, later, hrun, ?_, ?_, ?_, ?_, ?_⟩
  · exact (hmerged "Week").trans (by decide +kernel)
  · exact (hmerged "Home").trans (by decide +kernel)
  · exact (hmerged "Odd").trans (by decide +kernel)
  · exact (hmerged "Top").trans (by decide +kernel)
  · rw [htotal, hbelow, hlength]

end Import

end Taskbook
