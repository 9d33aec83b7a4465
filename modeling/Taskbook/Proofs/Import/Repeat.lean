/-
  An import that is run again.

  The names in the store after an import are those before and those of the pages that the files
  become (`names_foldl`). So a second run finds a page for each of these, creates none, and ends
  with the same contents, since what several contents make of one that was there is the same once
  more (`mergedContent_twice`).

  Errors are another matter. With `overwrite` each file that is no page is one, whatever the store
  holds (`errors_foldl_overwrite`). Without, a file is only read if there is no page of its name. A
  file that cannot be read is an error of the first run as long as it comes before the first that
  brings the page, and is passed over by the second (`errors_foldl_keep`).
-/
import Mathlib.Algebra.BigOperators.Group.Finset.Basic
import Taskbook.Proofs.Import.Merge

namespace Taskbook.Import

variable {options : Options} {now : Nat} {files : List Candidate} {candidate : Candidate}

/-! ## Names -/

theorem names_mergePage (overwrite : Bool) (now : Nat) (store : Store) (page : Text × Text) :
    (mergePage overwrite now store page).names = insert page.1 store.names := by
  unfold mergePage
  split
  · next hthere =>
    have hmem : page.1 ∈ store.names := Store.mem_names.mpr (Bool.and_eq_true_iff.mp hthere).1
    rw [Finset.insert_eq_of_mem hmem]
  · exact Store.names_save store now page.1 page.2

theorem names_foldl_mergePage (overwrite : Bool) (now : Nat) (store : Store)
    (pages : List (Text × Text)) :
    (pages.foldl (mergePage overwrite now) store).names =
      store.names ∪ (pages.map Prod.fst).toFinset := by
  induction pages generalizing store with
  | nil => simp
  | cons page rest ih =>
    rw [List.foldl_cons, ih, names_mergePage, List.map_cons, List.toFinset_cons,
      Finset.insert_union, Finset.union_insert]

/-- The names of the pages that files become. -/
def namesOf (extension : Text) (files : List Candidate) : Finset Text :=
  ((files.filterMap (Candidate.page? extension)).map Prod.fst).toFinset

theorem names_foldl (hreal : options.dryRun = false) (progress : Progress)
    (files : List Candidate) :
    (files.foldl (Progress.next options now) progress).store.names =
      progress.store.names ∪ namesOf options.extension files := by
  rw [store_foldl hreal, names_foldl_mergePage]
  rfl

/-- A run leaves a page of each name that its files bring. -/
theorem namesOf_subset_foldl (hreal : options.dryRun = false) (progress : Progress)
    (files : List Candidate) : namesOf options.extension files ⊆
      (files.foldl (Progress.next options now) progress).store.names := by
  rw [names_foldl hreal]
  exact Finset.subset_union_right

theorem namesOf_cons (extension : Text) (candidate : Candidate) (files : List Candidate) :
    namesOf extension (candidate :: files) =
      namesOf extension [candidate] ∪ namesOf extension files := by
  unfold namesOf
  rw [← List.singleton_append, List.filterMap_append, List.map_append, List.toFinset_append]

theorem namesOf_of_none {extension : Text} (h : candidate.page? extension = none) :
    namesOf extension [candidate] = ∅ := by
  unfold namesOf
  rw [List.filterMap_cons_none h]
  rfl

/-- A file that is a page has the name of the page, which is accepted. -/
theorem of_page?_eq_some {extension : Text} {page : Text × Text}
    (h : candidate.page? extension = some page) :
    page.1 = pageName extension candidate.fileName ∧ PageName.accepted page.1 = true := by
  rw [page?_eq] at h
  split at h
  · next haccepted =>
    obtain ⟨content, -, rfl⟩ := Option.map_eq_some_iff.mp h
    exact ⟨rfl, haccepted⟩
  · cases h

theorem namesOf_of_some {extension : Text} {page : Text × Text}
    (h : candidate.page? extension = some page) :
    namesOf extension [candidate] = {pageName extension candidate.fileName} := by
  unfold namesOf
  rw [List.filterMap_cons_some h, ← (of_page?_eq_some h).1]
  rfl

theorem accepted_of_mem_namesOf {extension name : Text} (h : name ∈ namesOf extension files) :
    PageName.accepted name = true := by
  unfold namesOf at h
  rw [List.mem_toFinset] at h
  obtain ⟨page, hpage, rfl⟩ := List.mem_map.mp h
  obtain ⟨candidate, -, hcandidate⟩ := List.mem_filterMap.mp hpage
  exact (of_page?_eq_some hcandidate).2

/-! ## The same files once more -/

/-- Contents that were merged make no difference when they are merged again. -/
theorem mergedContent_twice (overwrite : Bool) (before : Option Text) (contents : List Text) :
    mergedContent overwrite (mergedContent overwrite before contents) contents =
      mergedContent overwrite before contents := by
  unfold mergedContent
  cases overwrite with
  | true => cases contents.getLast? <;> rfl
  | false => cases before <;> cases contents.head? <;> rfl

/-- Files that are merged into what they were merged into leave the contents as they are. -/
theorem contentOf?_foldl_twice (hreal : options.dryRun = false) (now again : Nat) (store : Store)
    (files : List Candidate) {first second : Progress}
    (hfirst : first = files.foldl (Progress.next options now) { store })
    (hsecond : second = files.foldl (Progress.next options again) { store := first.store.commit })
    (name : Text) : second.store.contentOf? name = first.store.contentOf? name := by
  have hfirstContent : first.store.contentOf? name = mergedContent options.overwrite
      (store.contentOf? name)
      (contentsOf (files.filterMap (Candidate.page? options.extension)) name) := by
    rw [hfirst, store_foldl hreal, contentOf?_foldl_mergePage]
  have hcommit : first.store.commit.contentOf? name = first.store.contentOf? name := rfl
  rw [hsecond, store_foldl hreal, contentOf?_foldl_mergePage, hcommit, hfirstContent,
    mergedContent_twice]

/-- Where pages are not overwritten, those whose names are there change nothing. -/
theorem foldl_mergePage_of_subset (now : Nat) {store : Store} {pages : List (Text × Text)}
    (h : (pages.map Prod.fst).toFinset ⊆ store.names) :
    pages.foldl (mergePage false now) store = store := by
  induction pages with
  | nil => rfl
  | cons page rest ih =>
    rw [List.map_cons, List.toFinset_cons, Finset.insert_subset_iff] at h
    have hsame : mergePage false now store page = store :=
      if_pos (by rw [Store.mem_names.mp h.1]; rfl)
    rw [List.foldl_cons, hsame, ih h.2]

/-! ## Counts -/

/-- Whether a file is counted as an error: its name is not accepted, or it is read and is no page.
    Without `overwrite` it is not read if there is a page of its name. -/
def fails (options : Options) (names : Finset Text) (candidate : Candidate) : Bool :=
  let name := pageName options.extension candidate.fileName
  !PageName.accepted name ||
    (candidate.page? options.extension).isNone && (options.overwrite || decide (name ∉ names))

theorem errors_next (hreal : options.dryRun = false) (progress : Progress)
    (candidate : Candidate) : (progress.next options now candidate).counts.errors =
      progress.counts.errors + if fails options progress.store.names candidate then 1 else 0 := by
  have hadd (existing : Bool) :
      (progress.counts.addPage existing).errors = progress.counts.errors := by
    unfold Counts.addPage
    split <;> rfl
  unfold Progress.next fails
  dsimp only
  rw [page?_eq]
  split
  · next haccepted =>
    rw [haccepted, Option.isNone_map, Bool.not_true, Bool.false_or]
    unfold Progress.take
    dsimp only
    split
    · next hskipped =>
      obtain ⟨hthere, hkeep⟩ := Bool.and_eq_true_iff.mp hskipped
      have hmem := Store.mem_names.mpr hthere
      have hpassed : (options.overwrite || decide
          (pageName options.extension candidate.fileName ∉ progress.store.names)) = false := by
        simpa [hmem] using hkeep
      rw [hpassed, Bool.and_false, if_neg Bool.false_ne_true]
      rfl
    · next htaken =>
      have hread : (options.overwrite || decide
          (pageName options.extension candidate.fileName ∉ progress.store.names)) = true := by
        simp only [Bool.or_eq_true, decide_eq_true_eq, Store.mem_names]
        simpa [or_comm, imp_iff_not_or] using htaken
      rw [hread, Bool.and_true, hreal, if_neg Bool.false_ne_true]
      unfold Progress.write
      cases candidate.content with
      | error reason => rfl
      | ok content => exact hadd _
  · next hrefused =>
    rw [if_pos (by simp [hrefused])]
    rfl

/-- Without `overwrite` no page is counted as updated. -/
theorem updated_next (hkeep : options.overwrite = false) (progress : Progress)
    (candidate : Candidate) :
    (progress.next options now candidate).counts.updated = progress.counts.updated := by
  unfold Progress.next
  dsimp only
  split
  · unfold Progress.take
    dsimp only
    rw [hkeep, Bool.not_false, Bool.and_true]
    split
    · rfl
    · next hnew =>
      have hadd : (progress.counts.addPage
          (progress.store.find? (pageName options.extension candidate.fileName)).isSome).updated =
            progress.counts.updated := by
        unfold Counts.addPage
        rw [if_neg hnew]
      split
      · exact hadd
      · unfold Progress.write
        split
        · exact hadd
        · rfl
  · rfl

theorem updated_foldl (hkeep : options.overwrite = false) (progress : Progress)
    (files : List Candidate) :
    (files.foldl (Progress.next options now) progress).counts.updated =
      progress.counts.updated := by
  induction files generalizing progress with
  | nil => rfl
  | cons candidate rest ih => rw [List.foldl_cons, ih, updated_next hkeep]

/-! ## Errors -/

/-- With `overwrite` each file that is no page is an error. -/
theorem errors_foldl_overwrite (hreal : options.dryRun = false) (hover : options.overwrite = true)
    (progress : Progress) (files : List Candidate) :
    (files.foldl (Progress.next options now) progress).counts.errors = progress.counts.errors +
      files.countP fun candidate => (candidate.page? options.extension).isNone := by
  have hfails : ∀ (names : Finset Text) (candidate : Candidate),
      fails options names candidate = (candidate.page? options.extension).isNone := by
    intro names candidate
    unfold fails
    dsimp only
    rw [hover, Bool.true_or, Bool.and_true, page?_eq]
    split
    · next haccepted =>
      rw [haccepted]
      rfl
    · next hrefused =>
      rw [Bool.not_eq_true] at hrefused
      rw [hrefused]
      rfl
  induction files generalizing progress with
  | nil => rfl
  | cons candidate rest ih =>
    rw [List.foldl_cons, ih, errors_next hreal, hfails, List.countP_cons]
    omega

/-- The files of a name in front of the first that is a page. -/
def unreadBefore (extension name : Text) (files : List Candidate) : List Candidate :=
  (files.filter fun candidate => pageName extension candidate.fileName = name).takeWhile
    fun candidate => (candidate.page? extension).isNone

theorem unreadBefore_cons_of_ne {extension name : Text}
    (h : pageName extension candidate.fileName ≠ name) (files : List Candidate) :
    unreadBefore extension name (candidate :: files) = unreadBefore extension name files := by
  unfold unreadBefore
  rw [List.filter_cons_of_neg (by simpa using h)]

theorem unreadBefore_cons_of_eq {extension name : Text}
    (h : pageName extension candidate.fileName = name) (files : List Candidate) :
    unreadBefore extension name (candidate :: files) =
      if (candidate.page? extension).isNone then
        candidate :: unreadBefore extension name files
      else [] := by
  unfold unreadBefore
  rw [List.filter_cons_of_pos (by simpa using h), List.takeWhile_cons]

theorem sum_unreadBefore_of_notMem {extension : Text} {names : Finset Text}
    (h : pageName extension candidate.fileName ∉ names) (files : List Candidate) :
    ∑ name ∈ names, (unreadBefore extension name (candidate :: files)).length =
      ∑ name ∈ names, (unreadBefore extension name files).length := by
  refine Finset.sum_congr rfl fun name hname => congrArg List.length ?_
  exact unreadBefore_cons_of_ne (fun heq => h (heq ▸ hname)) files

theorem sum_unreadBefore_of_mem {extension : Text} {names : Finset Text}
    (h : pageName extension candidate.fileName ∈ names) (files : List Candidate) :
    ∑ name ∈ names, (unreadBefore extension name (candidate :: files)).length =
      if (candidate.page? extension).isNone then
        1 + ∑ name ∈ names, (unreadBefore extension name files).length
      else
        ∑ name ∈ names.erase (pageName extension candidate.fileName),
          (unreadBefore extension name files).length := by
  rw [← Finset.add_sum_erase _ _ h, sum_unreadBefore_of_notMem (Finset.notMem_erase _ _),
    unreadBefore_cons_of_eq rfl]
  split
  · rw [← Finset.add_sum_erase names _ h, List.length_cons]
    omega
  · exact Nat.zero_add _

/-- Without `overwrite` a file whose name is accepted is an error exactly if it is no page and its
    name is new. -/
theorem fails_iff_of_keep (hkeep : options.overwrite = false) (names : Finset Text)
    (candidate : Candidate) : fails options names candidate = true ↔
      PageName.accepted (pageName options.extension candidate.fileName) = true →
        (candidate.page? options.extension).isNone = true ∧
          pageName options.extension candidate.fileName ∉ names := by
  unfold fails
  dsimp only
  rw [hkeep, Bool.false_or]
  cases PageName.accepted (pageName options.extension candidate.fileName) <;> simp

/-- A file that is an error with the names so far, but not with all names in the end, is one of
    those in front of the page. -/
theorem fails_add_sum (hkeep : options.overwrite = false) {names all : Finset Text}
    (hnames : names ∪ namesOf options.extension [candidate] ⊆ all)
    (hnew : ∀ name ∈ all \ names, PageName.accepted name = true) (rest : List Candidate) :
    (if fails options names candidate then 1 else 0) +
        ∑ name ∈ all \ (names ∪ namesOf options.extension [candidate]),
          (unreadBefore options.extension name rest).length =
      (if fails options all candidate then 1 else 0) +
        ∑ name ∈ all \ names, (unreadBefore options.extension name (candidate :: rest)).length := by
  simp only [fails_iff_of_keep hkeep]
  by_cases hlater : pageName options.extension candidate.fileName ∈ all \ names
  · obtain ⟨hall, hnot⟩ := Finset.mem_sdiff.mp hlater
    have haccepted := hnew _ hlater
    rw [sum_unreadBefore_of_mem hlater]
    cases hpage : candidate.page? options.extension with
    | none =>
      rw [namesOf_of_none hpage, Finset.union_empty]
      simp [haccepted, hall, hnot]
    | some page =>
      rw [namesOf_of_some hpage, Finset.union_comm, ← Finset.insert_eq, Finset.sdiff_insert]
      simp [haccepted]
  · -- The name is there already, or no file brings it.
    have hknown : pageName options.extension candidate.fileName ∈ all ↔
        pageName options.extension candidate.fileName ∈ names :=
      ⟨fun hall => by_contra fun hnot => hlater (Finset.mem_sdiff.mpr ⟨hall, hnot⟩),
        fun hmem => hnames (Finset.mem_union_left _ hmem)⟩
    have hsame : names ∪ namesOf options.extension [candidate] = names := by
      cases hpage : candidate.page? options.extension with
      | none => rw [namesOf_of_none hpage, Finset.union_empty]
      | some page =>
        rw [namesOf_of_some hpage] at hnames ⊢
        rw [Finset.union_eq_left, Finset.singleton_subset_iff]
        exact hknown.mp (hnames (Finset.mem_union_right _ (Finset.mem_singleton_self _)))
    rw [hsame, sum_unreadBefore_of_notMem hlater]
    simp only [hknown]

/-- Without `overwrite` the errors are the files that would still be errors with the names that
    are there in the end, and those that are read in vain before a file of their name brings the
    page. -/
theorem errors_foldl_keep (hreal : options.dryRun = false) (hkeep : options.overwrite = false)
    (files : List Candidate) {progress : Progress} {all : Finset Text}
    (hall : all = progress.store.names ∪ namesOf options.extension files) :
    (files.foldl (Progress.next options now) progress).counts.errors =
      progress.counts.errors + (files.countP (fails options all) +
        ∑ name ∈ all \ progress.store.names,
          (unreadBefore options.extension name files).length) := by
  induction files generalizing progress with
  | nil =>
    have hnone : all \ progress.store.names = ∅ := by
      rw [hall, Finset.sdiff_eq_empty_iff_subset]
      simp [namesOf]
    rw [hnone]
    rfl
  | cons candidate rest ih =>
    have hstep : (progress.next options now candidate).store.names =
        progress.store.names ∪ namesOf options.extension [candidate] :=
      names_foldl hreal progress [candidate]
    rw [namesOf_cons, ← Finset.union_assoc, ← hstep] at hall
    have hnames : progress.store.names ∪ namesOf options.extension [candidate] ⊆ all := by
      rw [hall, ← hstep]
      exact Finset.subset_union_left
    have hnew : ∀ name ∈ all \ progress.store.names, PageName.accepted name = true := by
      intro name hname
      obtain ⟨hmem, hnot⟩ := Finset.mem_sdiff.mp hname
      rw [hall, hstep, Finset.union_assoc, ← namesOf_cons] at hmem
      exact accepted_of_mem_namesOf ((Finset.mem_union.mp hmem).resolve_left hnot)
    have hsum := fails_add_sum hkeep hnames hnew rest
    rw [List.foldl_cons, ih hall, errors_next hreal, hstep, List.countP_cons]
    omega

/-- Without `overwrite` the errors of a run are those of one that starts from what it came to, and
    the files that it reads in vain before a file of their name brings the page. -/
theorem errors_foldl_twice (hreal : options.dryRun = false) (hkeep : options.overwrite = false)
    (now again : Nat) (store : Store) (files : List Candidate) {first second : Progress}
    (hfirst : first = files.foldl (Progress.next options now) { store })
    (hsecond : second = files.foldl (Progress.next options again) { store := first.store.commit }) :
    first.counts.errors = second.counts.errors + ∑ name ∈ first.store.names \ store.names,
      (unreadBefore options.extension name files).length := by
  have hnames : first.store.names = store.names ∪ namesOf options.extension files := by
    rw [hfirst, names_foldl hreal]
  have hagain : first.store.names = first.store.commit.names ∪ namesOf options.extension files := by
    refine (Finset.union_eq_left.mpr ?_).symm
    rw [hfirst]
    exact namesOf_subset_foldl hreal _ files
  have hfirstErrors : first.counts.errors = 0 + (files.countP (fails options first.store.names) +
      ∑ name ∈ first.store.names \ store.names,
        (unreadBefore options.extension name files).length) :=
    (congrArg (·.counts.errors) hfirst).trans (errors_foldl_keep hreal hkeep files hnames)
  have hsecondErrors : second.counts.errors =
      0 + (files.countP (fails options first.store.names) +
        ∑ name ∈ first.store.names \ first.store.names,
          (unreadBefore options.extension name files).length) := by
    rw [hsecond]
    exact errors_foldl_keep hreal hkeep files hagain
  rw [Finset.sdiff_self, Finset.sum_empty] at hsecondErrors
  omega

/-! ## Two runs -/

theorem table_importFiles_of_dry (hdry : options.dryRun = true) (now : Nat) (table : Option Store)
    (files : List Candidate) : (importFiles options now table files).table = table := by
  unfold importFiles importInto tryWithoutTable
  cases table with
  | some store =>
    dsimp only
    rw [hdry]
    rfl
  | none =>
    dsimp only
    rw [hdry, if_pos rfl]
    split <;> rfl

/-- A dry run leaves the table of pages as it is, also where there is none. -/
theorem table_runOptions_of_dry (ground : Ground) (hdry : options.dryRun = true) (now : Nat)
    (table : Option Store) : (runOptions ground options now table).table = table := by
  unfold runOptions
  dsimp only
  split
  · rfl
  · split
    · split
      · exact table_importFiles_of_dry hdry now table _
      · rfl
    · rfl

variable {ground : Ground} {place : List Text} {tree : FileTree}

/-- What a run that is no dry run comes to. -/
theorem runOptions_of_real (hreal : options.dryRun = false)
    (hplain : PlainExtension options.extension)
    (hplace : ground.place? options.directory = some place)
    (htree : ground.whole.find? place = some tree) (hdirectory : tree.isDirectory = true)
    (now : Nat) (table : Option Store) :
    runOptions ground options now table =
      let last := (filesBelow ground place tree options.extension).foldl
        (Progress.next options now) { store := table.getD {} }
      { output := last.output ++ last.counts.summary
        ending := .exit 0
        table := some last.store.commit } := by
  have hfiles := candidatesIn?_eq hplain htree hdirectory
  rw [runOptions_of_files hplace htree hdirectory hfiles, importFiles_of_real hreal]
  rfl

/-- A run that is no dry run, with an extension that stands for itself, is followed by one with the
    same files and options, at any time. The second creates no page and leaves the contents as they
    are. With `overwrite` it has the same errors. Without, it updates no page, and its errors are
    those of the first but for the files that the first read in vain before another file of their
    name brought the page, which are now passed over. A dry run leaves the table as it is. -/
theorem second_run_keeps_pages (ground : Ground) (options : Options) (now again : Nat)
    (table : Option Store) (hreal : options.dryRun = false)
    (hplain : PlainExtension options.extension) (place : List Text)
    (hplace : ground.place? options.directory = some place) (tree : FileTree)
    (htree : ground.whole.find? place = some tree) (hdirectory : tree.isDirectory = true) :
    (∃ lines counts later, ∃ lines' counts' last,
      runOptions ground options now table =
        { output := lines ++ Counts.summary counts, ending := .exit 0, table := some later } ∧
      runOptions ground options again (some later) =
        { output := lines' ++ Counts.summary counts', ending := .exit 0, table := some last } ∧
      (∀ name, last.contentOf? name = later.contentOf? name) ∧
      counts'.created = 0 ∧
      (options.overwrite = false → counts'.updated = 0 ∧ last = later) ∧
      (options.overwrite = true → counts'.errors = counts.errors) ∧
      (options.overwrite = false → counts.errors = counts'.errors +
        ∑ name ∈ later.names \ (table.getD {}).names, (unreadBefore options.extension name
          (filesBelow ground place tree options.extension)).length)) ∧
    ∀ (ground : Ground) (options : Options) (now : Nat) (table : Option Store),
      options.dryRun = true → (runOptions ground options now table).table = table := by
  refine ⟨?_, fun ground options now table hdry => table_runOptions_of_dry ground hdry now table⟩
  obtain ⟨files, hfiles⟩ : ∃ files, files = filesBelow ground place tree options.extension :=
    ⟨_, rfl⟩
  obtain ⟨first, hfirst⟩ : ∃ first, first =
      files.foldl (Progress.next options now) { store := table.getD {} } := ⟨_, rfl⟩
  obtain ⟨second, hsecond⟩ : ∃ second, second =
      files.foldl (Progress.next options again) { store := first.store.commit } := ⟨_, rfl⟩
  have hbrought : namesOf options.extension files ⊆ first.store.names := by
    rw [hfirst]
    exact namesOf_subset_foldl hreal _ files
  have hagain : second.store.names = first.store.names := by
    rw [hsecond, names_foldl hreal]
    exact Finset.union_eq_left.mpr hbrought
  have hcreates : Creates { store := first.store.commit } second := by
    rw [hsecond]
    exact creates_foldl hreal _ _
  refine ⟨first.output, first.counts, first.store.commit, second.output, second.counts,
    second.store.commit, ?first, ?second, fun name => ?contents, ?created,
    fun hkeep => ⟨?updated, ?same⟩, fun hover => ?overwrite, fun hkeep => ?keep⟩
  case first => rw [runOptions_of_real hreal hplain hplace htree hdirectory, ← hfiles, ← hfirst]
  case second =>
    rw [runOptions_of_real hreal hplain hplace htree hdirectory, ← hfiles, Option.getD_some,
      ← hsecond]
  case contents => exact contentOf?_foldl_twice hreal now again _ files hfirst hsecond name
  case created =>
    have hcreated : 0 + second.store.names.card =
        second.counts.created + first.store.names.card := hcreates.created
    rw [hagain] at hcreated
    omega
  case updated =>
    rw [hsecond, updated_foldl hkeep]
  case same =>
    have hstore : second.store = first.store.commit := by
      rw [hsecond, store_foldl hreal, hkeep]
      exact foldl_mergePage_of_subset again hbrought
    rw [hstore]
    rfl
  case overwrite =>
    rw [hsecond, hfirst, errors_foldl_overwrite hreal hover, errors_foldl_overwrite hreal hover]
  case keep =>
    rw [← hfiles]
    exact errors_foldl_twice hreal hkeep now again _ files hfirst hsecond

/-- A file that cannot be read, in front of another of its name, and one that cannot be read at
    all. -/
def lateGround : Ground where
  shown := "/wiki"
  name := "wiki"
  tree := .directory
    [("Odd.md", .file [0xff]), ("Week.md", .file [0xff]),
      ("zero", .directory [("Week.md", .file [0x62])])]

/-- The options of a plain run. -/
def plainRun : Options := { directory := "/wiki", extension := ".md" }

theorem place?_lateGround : lateGround.place? plainRun.directory = some [("wiki" : Text)] := by
  decide +kernel

theorem second_run_keeps_pages_late :
    PlainExtension ".md" ∧ lateGround.place? plainRun.directory = some [("wiki" : Text)] ∧
      lateGround.whole.find? [("wiki" : Text)] = some lateGround.tree ∧
      lateGround.tree.isDirectory = true ∧
      ∃ lines counts later, ∃ lines' counts' last,
        runOptions lateGround plainRun 1 none =
          { output := lines ++ Counts.summary counts, ending := .exit 0, table := some later } ∧
        runOptions lateGround plainRun 2 (some later) =
          { output := lines' ++ Counts.summary counts', ending := .exit 0, table := some last } ∧
        counts'.created = 0 ∧ counts'.updated = 0 ∧ last = later := by
  have hplain : PlainExtension ".md" := by decide
  obtain ⟨⟨lines, counts, later, lines', counts', last, hfirst, hsecond, -, hcreated, hkeep, -⟩,
    -⟩ := second_run_keeps_pages lateGround plainRun 1 2 none rfl hplain ["wiki"] place?_lateGround
      lateGround.tree rfl rfl
  obtain ⟨hupdated, hsame⟩ := hkeep rfl
  exact ⟨hplain, place?_lateGround, rfl, rfl, lines, counts, later, lines', counts', last, hfirst,
    hsecond, hcreated, hupdated, hsame⟩

/-- The first file of the name is an error of the first run, since there is no page yet, and is
    passed over by the second. -/
theorem unread_file_is_passed_over :
    ∃ lines later, ∃ lines' last,
      runOptions lateGround plainRun 1 none =
        { output := lines ++ Counts.summary { created := 1, errors := 2 }, ending := .exit 0
          table := some later } ∧
      runOptions lateGround plainRun 2 (some later) =
        { output := lines' ++ Counts.summary { skipped := 2, errors := 1 }, ending := .exit 0
          table := some last } := by
  have hplain : PlainExtension plainRun.extension := by decide
  have hdirectory : lateGround.tree.isDirectory = true := rfl
  have htree : lateGround.whole.find? [("wiki" : Text)] = some lateGround.tree := rfl
  -- The files are found in the order of their names.
  obtain ⟨files, hfiles, hruns⟩ : ∃ files,
      filesBelow lateGround ["wiki"] lateGround.tree plainRun.extension = files ∧
        (let first := files.foldl (Progress.next plainRun 1) { store := {} }
         let second := files.foldl (Progress.next plainRun 2) { store := first.store.commit }
         first.counts = { created := 1, errors := 2 } ∧
           second.counts = { skipped := 2, errors := 1 }) :=
    ⟨_, List.mergeSort_of_pairwise (by decide +kernel), by decide +kernel⟩
  obtain ⟨hfirst, hsecond⟩ := hruns
  have hrun := runOptions_of_real rfl hplain place?_lateGround htree hdirectory
  rw [hfiles] at hrun
  have hfirstRun := hrun 1 none
  have hsecondRun :=
    hrun 2 (some (files.foldl (Progress.next plainRun 1) { store := {} }).store.commit)
  dsimp only [Option.getD_none, Option.getD_some] at hfirstRun hsecondRun
  rw [hfirst] at hfirstRun
  rw [hsecond] at hsecondRun
  exact ⟨_, _, _, _, hfirstRun, hsecondRun⟩

end Taskbook.Import
