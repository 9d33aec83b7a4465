/-
  What a dry run foretells.

  A run tells a story: each file is refused for its name, passed over because its page is there, or
  said to be created or updated (`Verdict`). Where all files that are read can be read, the story
  depends only on the names of the pages, and so does what is printed (`output_foldl`,
  `counts_foldl`). A dry run holds each file against the names that are there from the start
  (`planned`); any other run also against those that the files before it brought (`carried`). So
  both count a new page once for each file and once for each name, and the stories are the same
  exactly if no two files bring the same new name (`foretells_iff`).

  A dry run does not make the table of pages. Without one it breaks off at the first file whose name
  is accepted, which the other run takes (`dry_run_foretells_iff`).
-/
import Taskbook.Proofs.Import.Repeat

namespace Taskbook.Import

variable {options : Options} {now : Nat} {names : Finset Text} {extension : Text}
  {overwrite : Bool} {candidate : Candidate} {files : List Candidate}

/-! ## Stories -/

/-- What becomes of a file that can be read. -/
inductive Verdict where
  | refused
  | passedOver
  | created
  | updated
  deriving DecidableEq

/-- What becomes of a file where the pages of some names are there. -/
def verdict (extension : Text) (overwrite : Bool) (names : Finset Text) (candidate : Candidate) :
    Verdict :=
  let name := pageName extension candidate.fileName
  if PageName.accepted name then
    if name ∈ names then if overwrite then .updated else .passedOver else .created
  else .refused

/-- What is said of a file. -/
def note (extension : Text) (candidate : Candidate) : Verdict → Text
  | .refused => "  [!] Skipping '" ++ candidate.path ++ "': not a valid page name" ++ ['\n']
  | .passedOver => []
  | .created => "  create " ++ pageName extension candidate.fileName ++ ['\n']
  | .updated => "  update " ++ pageName extension candidate.fileName ++ ['\n']

/-- The counts with one more file. -/
def Counts.add (counts : Counts) : Verdict → Counts
  | .refused => counts.addError
  | .passedOver => { counts with skipped := counts.skipped + 1 }
  | .created => counts.addPage false
  | .updated => counts.addPage true

/-- The files in the order in which they are taken, each with what becomes of it. -/
abbrev Story := List (Candidate × Verdict)

namespace Story

/-- What is said of the files. -/
def notes (extension : Text) (story : Story) : Text :=
  story.flatMap fun told => note extension told.1 told.2

/-- The counts with those of the files. -/
def countsFrom (start : Counts) (story : Story) : Counts :=
  story.foldl (fun counts told => counts.add told.2) start

/-- The counts at the end. -/
def counts (story : Story) : Counts := story.countsFrom {}

/-- The lines that say which pages are created and updated. -/
def changes (extension : Text) (story : Story) : List Text :=
  (story.filter fun told => told.2 = .created || told.2 = .updated).map fun told =>
    note extension told.1 told.2

/-- All that is printed. -/
def text (extension : Text) (story : Story) : Text := story.notes extension ++ story.counts.summary

end Story

/-- The story of files that are all held against the same names. -/
def planned (extension : Text) (overwrite : Bool) (names : Finset Text) (files : List Candidate) :
    Story :=
  files.map fun candidate => (candidate, verdict extension overwrite names candidate)

/-- The name that a file brings, if it is accepted. -/
def brought (extension : Text) (candidate : Candidate) : Finset Text :=
  let name := pageName extension candidate.fileName
  if PageName.accepted name then {name} else ∅

/-- The story of files each of which is also held against the names that those before it brought. -/
def carried (extension : Text) (overwrite : Bool) (names : Finset Text) :
    List Candidate → Story
  | [] => []
  | candidate :: rest =>
    (candidate, verdict extension overwrite names candidate) ::
      carried extension overwrite (names ∪ brought extension candidate) rest

/-! ## What a run prints -/

/-- A file can be read if its name is accepted. -/
def Readable (extension : Text) (candidate : Candidate) : Prop :=
  PageName.accepted (pageName extension candidate.fileName) = true →
    ∃ content, candidate.content = .ok content

/-- A page is told and counted, unless it is there and stays. -/
theorem take_told (now : Nat) {progress : Progress} {name : Text}
    (htaken : ¬ ((progress.store.find? name).isSome && !options.overwrite) = true)
    (hread : options.dryRun = false → ∃ content, candidate.content = .ok content) :
    (progress.take options now candidate name).output = progress.output ++
        ("  " ++ (if (progress.store.find? name).isSome then ("update" : Text) else "create") ++
          " " ++ name) ++ ['\n'] ∧
      (progress.take options now candidate name).counts =
        progress.counts.addPage (progress.store.find? name).isSome := by
  unfold Progress.take
  dsimp only
  rw [if_neg htaken]
  split
  · exact ⟨rfl, rfl⟩
  · next hreal =>
    obtain ⟨content, hcontent⟩ := hread (Bool.eq_false_iff.mpr hreal)
    unfold Progress.write
    rw [hcontent]
    exact ⟨rfl, rfl⟩

/-- One file is told and counted as its verdict says, in a dry run and, if it can be read, in any
    other. -/
theorem next_told (now : Nat) (progress : Progress)
    (hread : options.dryRun = false → Readable options.extension candidate) :
    (progress.next options now candidate).output = progress.output ++
        note options.extension candidate
          (verdict options.extension options.overwrite progress.store.names candidate) ∧
      (progress.next options now candidate).counts = progress.counts.add
        (verdict options.extension options.overwrite progress.store.names candidate) := by
  unfold Progress.next verdict
  dsimp only
  by_cases haccepted : PageName.accepted (pageName options.extension candidate.fileName) = true
  · have hcontent := fun hreal => hread hreal haccepted
    rw [if_pos haccepted, if_pos haccepted]
    by_cases hthere : pageName options.extension candidate.fileName ∈ progress.store.names
    · have hsome := Store.mem_names.mp hthere
      rw [if_pos hthere]
      cases hover : options.overwrite with
      | false =>
        have hkept : progress.take options now candidate
            (pageName options.extension candidate.fileName) =
              { progress with counts := progress.counts.add .passedOver } :=
          if_pos (by rw [hsome, hover]; rfl)
        rw [hkept]
        exact ⟨(List.append_nil _).symm, rfl⟩
      | true =>
        obtain ⟨hsaid, hcounted⟩ := take_told now (by rw [hover]; simp) hcontent
        rw [hsaid, hcounted, hsome, List.append_assoc]
        exact ⟨rfl, rfl⟩
    · have hnone : (progress.store.find?
          (pageName options.extension candidate.fileName)).isSome = false :=
        Bool.eq_false_iff.mpr (mt Store.mem_names.mpr hthere)
      obtain ⟨hsaid, hcounted⟩ := take_told now (by rw [hnone]; simp) hcontent
      rw [if_neg hthere, hsaid, hcounted, hnone, List.append_assoc]
      exact ⟨rfl, rfl⟩
  · rw [if_neg haccepted, if_neg haccepted]
    exact ⟨List.append_assoc _ _ _, rfl⟩

theorem store_next_of_dry (hdry : options.dryRun = true) (progress : Progress)
    (candidate : Candidate) : (progress.next options now candidate).store = progress.store := by
  unfold Progress.next
  dsimp only
  split
  · unfold Progress.take
    dsimp only
    rw [if_pos hdry]
    split <;> rfl
  · rfl

theorem names_next (hreal : options.dryRun = false) (progress : Progress)
    (hread : Readable options.extension candidate) :
    (progress.next options now candidate).store.names =
      progress.store.names ∪ brought options.extension candidate := by
  have hstep : (progress.next options now candidate).store.names =
      progress.store.names ∪ namesOf options.extension [candidate] :=
    names_foldl hreal progress [candidate]
  rw [hstep]
  unfold brought
  dsimp only
  split
  · next haccepted =>
    obtain ⟨content, hcontent⟩ := hread haccepted
    have hpage : candidate.page? options.extension =
        some (pageName options.extension candidate.fileName, content) := by
      rw [page?_eq, if_pos haccepted, hcontent]
      rfl
    rw [namesOf_of_some hpage]
  · next hrefused =>
    have hpage : candidate.page? options.extension = none := by rw [page?_eq, if_neg hrefused]
    rw [namesOf_of_none hpage]

/-- What a dry run says of files and how it counts them. -/
theorem foldl_planned (hdry : options.dryRun = true) (now : Nat) (progress : Progress)
    (files : List Candidate) :
    (files.foldl (Progress.next options now) progress).output = progress.output ++
        (planned options.extension options.overwrite progress.store.names files).notes
          options.extension ∧
      (files.foldl (Progress.next options now) progress).counts =
        (planned options.extension options.overwrite progress.store.names files).countsFrom
          progress.counts := by
  induction files generalizing progress with
  | nil => exact ⟨(List.append_nil _).symm, rfl⟩
  | cons candidate rest ih =>
    have hread : options.dryRun = false → Readable options.extension candidate := by
      intro hreal
      rw [hdry] at hreal
      cases hreal
    obtain ⟨hsaid, hcounted⟩ := next_told now progress hread
    have hnext := ih (progress.next options now candidate)
    rw [store_next_of_dry hdry, hsaid, hcounted, List.append_assoc] at hnext
    exact hnext

/-- What any other run says of files that can be read and how it counts them. -/
theorem foldl_carried (hreal : options.dryRun = false) (now : Nat) (progress : Progress)
    {files : List Candidate} (hread : ∀ candidate ∈ files, Readable options.extension candidate) :
    (files.foldl (Progress.next options now) progress).output = progress.output ++
        (carried options.extension options.overwrite progress.store.names files).notes
          options.extension ∧
      (files.foldl (Progress.next options now) progress).counts =
        (carried options.extension options.overwrite progress.store.names files).countsFrom
          progress.counts := by
  induction files generalizing progress with
  | nil => exact ⟨(List.append_nil _).symm, rfl⟩
  | cons candidate rest ih =>
    obtain ⟨hfirst, hrest⟩ := List.forall_mem_cons.mp hread
    obtain ⟨hsaid, hcounted⟩ := next_told now progress fun _ => hfirst
    have hnext := ih (progress.next options now candidate) hrest
    rw [names_next hreal progress hfirst, hsaid, hcounted, List.append_assoc] at hnext
    exact hnext

/-! ## New names -/

theorem verdict_eq_created_iff : verdict extension overwrite names candidate = .created ↔
    PageName.accepted (pageName extension candidate.fileName) = true ∧
      pageName extension candidate.fileName ∉ names := by
  unfold verdict
  dsimp only
  split
  · next haccepted =>
    split
    · next hthere => cases overwrite <;> simp [hthere]
    · next hnew => simp [haccepted, hnew]
  · next hrefused => simp [hrefused]

/-- The new names that files bring, once for each file. -/
def newNames (extension : Text) (names : Finset Text) (files : List Candidate) : List Text :=
  (files.map fun candidate => pageName extension candidate.fileName).filter fun name =>
    PageName.accepted name && decide (name ∉ names)

theorem mem_newNames {name : Text} : name ∈ newNames extension names files ↔
    (∃ candidate ∈ files, pageName extension candidate.fileName = name) ∧
      PageName.accepted name = true ∧ name ∉ names := by
  unfold newNames
  rw [List.mem_filter, List.mem_map, Bool.and_eq_true, decide_eq_true_eq]

theorem newNames_cons_of_created (h : verdict extension overwrite names candidate = .created)
    (rest : List Candidate) : newNames extension names (candidate :: rest) =
      pageName extension candidate.fileName :: newNames extension names rest := by
  obtain ⟨haccepted, hnew⟩ := verdict_eq_created_iff.mp h
  unfold newNames
  rw [List.map_cons, List.filter_cons_of_pos (by simp [haccepted, hnew])]

theorem newNames_cons_of_not_created (h : verdict extension overwrite names candidate ≠ .created)
    (rest : List Candidate) :
    newNames extension names (candidate :: rest) = newNames extension names rest := by
  rw [Ne, verdict_eq_created_iff] at h
  unfold newNames
  rw [List.map_cons, List.filter_cons_of_neg (by simpa using h)]

/-- A file that brings no new name leaves the names as they are. -/
theorem union_brought_of_not_created
    (h : verdict extension overwrite names candidate ≠ .created) :
    names ∪ brought extension candidate = names := by
  rw [Ne, verdict_eq_created_iff, not_and, not_not] at h
  unfold brought
  dsimp only
  split
  · next haccepted => exact Finset.union_eq_left.mpr (Finset.singleton_subset_iff.mpr (h haccepted))
  · exact Finset.union_empty names

theorem brought_of_created (h : verdict extension overwrite names candidate = .created) :
    brought extension candidate = {pageName extension candidate.fileName} :=
  if_pos (verdict_eq_created_iff.mp h).1

theorem toFinset_newNames_union (added : Finset Text) :
    (newNames extension (names ∪ added) files).toFinset =
      (newNames extension names files).toFinset \ added := by
  ext name
  simp only [List.mem_toFinset, mem_newNames, Finset.mem_sdiff, Finset.mem_union]
  tauto

/-! ## The same story -/

theorem created_add (counts : Counts) (verdict : Verdict) :
    (counts.add verdict).created = counts.created + if verdict = .created then 1 else 0 := by
  cases verdict <;> rfl

theorem errors_add (counts : Counts) (verdict : Verdict) :
    (counts.add verdict).errors = counts.errors + if verdict = .refused then 1 else 0 := by
  cases verdict <;> rfl

namespace Story

theorem countsFrom_cons (start : Counts) (told : Candidate × Verdict) (story : Story) :
    countsFrom start (told :: story) = countsFrom (start.add told.2) story := rfl

end Story

/-- A dry run counts as created each file that brings a new name. -/
theorem created_planned (start : Counts) (files : List Candidate) :
    ((planned extension overwrite names files).countsFrom start).created =
      start.created + (newNames extension names files).length := by
  induction files generalizing start with
  | nil => rfl
  | cons candidate rest ih =>
    unfold planned at ih ⊢
    rw [List.map_cons, Story.countsFrom_cons, ih, created_add]
    by_cases hcreated : verdict extension overwrite names candidate = .created
    · rw [if_pos hcreated, newNames_cons_of_created hcreated, List.length_cons]
      omega
    · rw [if_neg hcreated, newNames_cons_of_not_created hcreated, Nat.add_zero]

/-- Any other run counts each new name once. -/
theorem created_carried (start : Counts) (files : List Candidate) :
    ((carried extension overwrite names files).countsFrom start).created =
      start.created + (newNames extension names files).toFinset.card := by
  induction files generalizing start names with
  | nil => rfl
  | cons candidate rest ih =>
    unfold carried
    rw [Story.countsFrom_cons, ih, created_add]
    by_cases hcreated : verdict extension overwrite names candidate = .created
    · have hcard := Finset.card_erase_add_one (Finset.mem_insert_self
        (pageName extension candidate.fileName) (newNames extension names rest).toFinset)
      rw [Finset.erase_insert_eq_erase] at hcard
      rw [if_pos hcreated, newNames_cons_of_created hcreated, brought_of_created hcreated,
        toFinset_newNames_union, List.toFinset_cons, Finset.sdiff_singleton_eq_erase]
      omega
    · rw [if_neg hcreated, newNames_cons_of_not_created hcreated,
        union_brought_of_not_created hcreated, Nat.add_zero]

theorem verdict_union_of_ne {name : Text} (h : pageName extension candidate.fileName ≠ name) :
    verdict extension overwrite (names ∪ {name}) candidate =
      verdict extension overwrite names candidate := by
  unfold verdict
  simp only [Finset.mem_union, Finset.mem_singleton, h, or_false]

/-- Where each new name is brought once, it makes no difference what was brought before. -/
theorem carried_eq_planned (h : (newNames extension names files).Nodup) :
    carried extension overwrite names files = planned extension overwrite names files := by
  induction files generalizing names with
  | nil => rfl
  | cons candidate rest ih =>
    unfold carried planned
    rw [List.map_cons, List.cons.injEq]
    refine ⟨rfl, ?_⟩
    by_cases hcreated : verdict extension overwrite names candidate = .created
    · rw [newNames_cons_of_created hcreated, List.nodup_cons] at h
      obtain ⟨hnot, hrest⟩ := h
      have hfresh := verdict_eq_created_iff.mp hcreated
      have hother : ∀ other ∈ rest,
          pageName extension other.fileName ≠ pageName extension candidate.fileName := by
        intro other hmem heq
        exact hnot (mem_newNames.mpr ⟨⟨other, hmem, heq⟩, hfresh⟩)
      have hsame : newNames extension
          (names ∪ {pageName extension candidate.fileName}) rest =
            newNames extension names rest := by
        unfold newNames
        refine List.filter_congr fun name hname => ?_
        obtain ⟨other, hmem, rfl⟩ := List.mem_map.mp hname
        simp only [Finset.mem_union, Finset.mem_singleton, hother other hmem, or_false]
      rw [brought_of_created hcreated, ih (hsame ▸ hrest)]
      exact List.map_congr_left fun other hmem =>
        congrArg (other, ·) (verdict_union_of_ne (hother other hmem))
    · rw [newNames_cons_of_not_created hcreated] at h
      rw [union_brought_of_not_created hcreated, ih h]
      rfl

/-- A dry run foretells the changes and the counts of the other exactly if no two files bring the
    same new name. -/
theorem foretells_iff (extension : Text) (overwrite : Bool) (names : Finset Text)
    (files : List Candidate) :
    ((planned extension overwrite names files).changes extension =
          (carried extension overwrite names files).changes extension ∧
        (planned extension overwrite names files).counts =
          (carried extension overwrite names files).counts) ↔
      (newNames extension names files).Nodup := by
  constructor
  · rintro ⟨-, hcounts⟩
    have hcreated := congrArg Counts.created hcounts
    unfold Story.counts at hcreated
    rw [created_planned, created_carried] at hcreated
    have hcard : (newNames extension names files).toFinset.card =
        (newNames extension names files).length := by omega
    exact Multiset.coe_nodup.mp (Multiset.toFinset_card_eq_card_iff_nodup.mp hcard)
  · intro hnodup
    rw [carried_eq_planned hnodup]
    exact ⟨rfl, rfl⟩

theorem verdict_eq_refused_iff : verdict extension overwrite names candidate = .refused ↔
    ¬ PageName.accepted (pageName extension candidate.fileName) = true := by
  unfold verdict
  dsimp only
  split
  · next haccepted =>
    split
    · cases overwrite <;> simp [haccepted]
    · simp [haccepted]
  · next hrefused => simp [hrefused]

/-- Errors are the files whose names are not accepted, whatever the files before them brought. -/
theorem errors_carried (start : Counts) (files : List Candidate) :
    ((carried extension overwrite names files).countsFrom start).errors =
      start.errors + files.countP fun candidate =>
        !PageName.accepted (pageName extension candidate.fileName) := by
  induction files generalizing start names with
  | nil => rfl
  | cons candidate rest ih =>
    unfold carried
    rw [Story.countsFrom_cons, ih, errors_add, List.countP_cons]
    simp only [verdict_eq_refused_iff, Bool.not_eq_true, Bool.not_eq_eq_eq_not, Bool.not_true]
    omega

theorem errors_planned (start : Counts) (files : List Candidate) :
    ((planned extension overwrite names files).countsFrom start).errors =
      start.errors + files.countP fun candidate =>
        !PageName.accepted (pageName extension candidate.fileName) := by
  induction files generalizing start with
  | nil => rfl
  | cons candidate rest ih =>
    unfold planned at ih ⊢
    rw [List.map_cons, Story.countsFrom_cons, ih, errors_add, List.countP_cons]
    simp only [verdict_eq_refused_iff, Bool.not_eq_true, Bool.not_eq_eq_eq_not, Bool.not_true]
    omega

/-! ## Two runs -/

/-- A run prints all of a story and ends by itself. -/
structure Outcome.Tells (outcome : Outcome) (extension : Text) (story : Story) : Prop where
  output : outcome.output = story.text extension
  ending : outcome.ending = .exit 0

/-- A dry run refuses as any other. -/
theorem foldl_refuse (now : Nat) (progress : Progress)
    (h : ∀ candidate ∈ files, ¬ candidate.accepted options = true) :
    files.foldl Progress.refuse progress = files.foldl (Progress.next options now) progress := by
  refine List.foldl_ext _ _ _ fun progress candidate hmem => ?_
  exact (if_neg (h candidate hmem)).symm

/-- A dry run without a table breaks off at the first file whose name is accepted. -/
theorem importFiles_of_dry_none (hdry : options.dryRun = true) (now : Nat)
    (files : List Candidate) :
    importFiles options now none files =
      let refused := planned options.extension options.overwrite ∅
        (files.takeWhile fun candidate => !candidate.accepted options)
      if ∃ candidate ∈ files, candidate.accepted options = true then
        { output := refused.notes options.extension, table := none, stopped := some .noTable }
      else { output := refused.text options.extension, table := none } := by
  have hrefused : ∀ candidate ∈ files.takeWhile (fun candidate => !candidate.accepted options),
      ¬ candidate.accepted options = true := by
    intro candidate hmem
    simpa using List.mem_takeWhile_imp hmem
  have hfold := foldl_planned hdry now { store := {} }
    (files.takeWhile fun candidate => !candidate.accepted options)
  rw [← foldl_refuse now _ hrefused] at hfold
  have hbreaks : (files.takeWhile fun candidate => !candidate.accepted options).length <
      files.length ↔ ∃ candidate ∈ files, candidate.accepted options = true := by
    have hsublist := List.takeWhile_sublist (fun candidate => !candidate.accepted options)
      (l := files)
    have hall : (∀ candidate ∈ files, (!candidate.accepted options) = true) ↔
        ¬ ∃ candidate ∈ files, candidate.accepted options = true := by simp
    rw [← not_iff_not, ← hall, ← List.takeWhile_eq_self_iff]
    constructor
    · intro hnot
      exact hsublist.eq_of_length_le (by omega)
    · intro heq
      rw [heq]
      omega
  unfold importFiles tryWithoutTable
  dsimp only
  rw [if_pos hdry, hfold.1, hfold.2]
  simp only [hbreaks]
  rfl

theorem importFiles_of_dry_some (hdry : options.dryRun = true) (now : Nat) (store : Store)
    (files : List Candidate) :
    importFiles options now (some store) files =
      { output := (planned options.extension options.overwrite store.names files).text
          options.extension
        table := some store } := by
  have hfold := foldl_planned hdry now { store } files
  unfold importFiles importInto
  dsimp only
  rw [if_pos hdry, hfold.1, hfold.2]
  rfl

section

variable {ground : Ground} {place : List Text} {tree : FileTree} {table : Option Store}

/-- A run that is no dry run tells what the files carry on from each other. -/
theorem tells_carried (options : Options) (hreal : options.dryRun = false)
    (hplain : PlainExtension options.extension)
    (hplace : ground.place? options.directory = some place)
    (htree : ground.whole.find? place = some tree) (hdirectory : tree.isDirectory = true)
    (hread : ∀ candidate ∈ filesBelow ground place tree options.extension,
      Readable options.extension candidate) (now : Nat) :
    (runOptions ground options now table).Tells options.extension
      (carried options.extension options.overwrite (table.getD {}).names
        (filesBelow ground place tree options.extension)) := by
  obtain ⟨hsaid, hcounted⟩ := foldl_carried hreal now { store := table.getD {} } hread
  rw [runOptions_of_real hreal hplain hplace htree hdirectory]
  dsimp only
  rw [hsaid, hcounted]
  exact ⟨rfl, rfl⟩

/-- A dry run tells what it planned, if there is a table or nothing to look for in it. -/
theorem tells_planned (options : Options) (hdry : options.dryRun = true)
    (hplace : ground.place? options.directory = some place)
    (htree : ground.whole.find? place = some tree) (hdirectory : tree.isDirectory = true)
    (hfiles : candidatesIn? ground place options.extension = some files) (now : Nat)
    (h : table = none → ∀ candidate ∈ files, ¬ candidate.accepted options = true) :
    (runOptions ground options now table).Tells options.extension
      (planned options.extension options.overwrite (table.getD {}).names files) := by
  rw [runOptions_of_files hplace htree hdirectory hfiles]
  cases table with
  | some store =>
    rw [importFiles_of_dry_some hdry]
    exact ⟨rfl, rfl⟩
  | none =>
    have hall : files.takeWhile (fun candidate => !candidate.accepted options) = files :=
      List.takeWhile_eq_self_iff.mpr (by simpa using h rfl)
    have hnone : ¬ ∃ candidate ∈ files, candidate.accepted options = true := by simpa using h rfl
    rw [importFiles_of_dry_none hdry]
    dsimp only
    rw [if_neg hnone, hall]
    exact ⟨rfl, rfl⟩

/-- Without a table a dry run breaks off at the first file whose name is accepted. -/
theorem breaks_off (options : Options) (hdry : options.dryRun = true)
    (hplace : ground.place? options.directory = some place)
    (htree : ground.whole.find? place = some tree) (hdirectory : tree.isDirectory = true)
    (hfiles : candidatesIn? ground place options.extension = some files) (now : Nat)
    (h : ∃ candidate ∈ files, candidate.accepted options = true) :
    (runOptions ground options now none).ending = .stopped .noTable ∧
      (runOptions ground options now none).output =
        (planned options.extension options.overwrite ∅
          (files.takeWhile fun candidate => !candidate.accepted options)).notes
            options.extension := by
  rw [runOptions_of_files hplace htree hdirectory hfiles, importFiles_of_dry_none hdry]
  dsimp only
  rw [if_pos h]
  exact ⟨rfl, rfl⟩

end

/-- A dry run, with an extension that stands for itself and files that can be read, is held against
    the run without `--dry-run` from the same table. It prints the same changes and the same counts
    exactly if there is a table, or no file whose name is accepted, and no two files bring the same
    new name. Without a table it breaks off at the first file whose name is accepted and prints no
    counts; a new name that several files bring it counts as created for each of them, where the
    other run counts it once. -/
theorem dry_run_foretells_iff (ground : Ground) (options : Options) (now : Nat)
    (table : Option Store) (hplain : PlainExtension options.extension) (place : List Text)
    (hplace : ground.place? options.directory = some place) (tree : FileTree)
    (htree : ground.whole.find? place = some tree) (hdirectory : tree.isDirectory = true)
    (hread : ∀ candidate ∈ filesBelow ground place tree options.extension,
      Readable options.extension candidate) :
    let files := filesBelow ground place tree options.extension
    let names := (table.getD {}).names
    let forecast := planned options.extension options.overwrite names files
    let actual := carried options.extension options.overwrite names files
    let dry := runOptions ground { options with dryRun := true } now table
    let real := runOptions ground { options with dryRun := false } now table
    real.Tells options.extension actual ∧
    ((dry.Tells options.extension forecast ∧
        forecast.changes options.extension = actual.changes options.extension ∧
        forecast.counts = actual.counts) ↔
      (table = none → ∀ candidate ∈ files, ¬ candidate.accepted options = true) ∧
        (newNames options.extension names files).Nodup) ∧
    ((table = none → ∀ candidate ∈ files, ¬ candidate.accepted options = true) →
      dry.Tells options.extension forecast) ∧
    (table = none → (∃ candidate ∈ files, candidate.accepted options = true) →
      dry.ending = .stopped .noTable ∧
      dry.output = (planned options.extension options.overwrite ∅
        (files.takeWhile fun candidate => !candidate.accepted options)).notes options.extension) ∧
    forecast.counts.created = (newNames options.extension names files).length ∧
    actual.counts.created = (newNames options.extension names files).toFinset.card ∧
    forecast.counts.errors = actual.counts.errors := by
  intro files names forecast actual dry real
  have hfiles : candidatesIn? ground place options.extension = some files :=
    candidatesIn?_eq hplain htree hdirectory
  have hforetold : (table = none → ∀ candidate ∈ files, ¬ candidate.accepted options = true) →
      dry.Tells options.extension forecast :=
    fun h => tells_planned { options with dryRun := true } rfl hplace htree hdirectory
      hfiles now h
  have hbreaks : table = none → (∃ candidate ∈ files, candidate.accepted options = true) →
      dry.ending = .stopped .noTable ∧ dry.output = (planned options.extension options.overwrite ∅
        (files.takeWhile fun candidate => !candidate.accepted options)).notes
          options.extension := by
    rintro rfl h
    exact breaks_off { options with dryRun := true } rfl hplace htree hdirectory
      hfiles now h
  refine ⟨?real, ⟨?same, ?foretells⟩, hforetold, hbreaks, ?created, ?carried, ?errors⟩
  case real =>
    exact tells_carried { options with dryRun := false } rfl hplain hplace htree
      hdirectory hread now
  case same =>
    rintro ⟨htells, hsame⟩
    refine ⟨fun hnone candidate hmem haccepted => ?_, (foretells_iff _ _ _ _).mp hsame⟩
    have hstopped := (hbreaks hnone ⟨candidate, hmem, haccepted⟩).1
    rw [htells.ending] at hstopped
    cases hstopped
  case foretells =>
    rintro ⟨hlooked, hnodup⟩
    exact ⟨hforetold hlooked, (foretells_iff _ _ _ _).mpr hnodup⟩
  case created => exact (created_planned _ _).trans (Nat.zero_add _)
  case carried => exact (created_carried _ _).trans (Nat.zero_add _)
  case errors => exact (errors_planned _ _).trans (errors_carried _ _).symm

/-- A file for a page that is there, one without a proper name and one for a new page. -/
def tidyGround : Ground where
  shown := "/wiki"
  name := "wiki"
  tree := .directory
    [("Home.md", .file [0x62]), ("no name.md", .file []), ("Week.md", .file [0x61])]

/-- The options of a run that overwrites pages. -/
def overwriting : Options := { directory := "/wiki", extension := ".md", overwrite := true }

theorem dry_run_foretells_iff_tidy :
    PlainExtension overwriting.extension ∧
      tidyGround.place? overwriting.directory = some [("wiki" : Text)] ∧
      tidyGround.whole.find? [("wiki" : Text)] = some tidyGround.tree ∧
      tidyGround.tree.isDirectory = true ∧
      (∀ candidate ∈ filesBelow tidyGround ["wiki"] tidyGround.tree overwriting.extension,
        Readable overwriting.extension candidate) ∧
      ∃ forecast actual : Story,
        (runOptions tidyGround { overwriting with dryRun := true } 2 (some homeStore)).Tells
          overwriting.extension forecast ∧
        (runOptions tidyGround { overwriting with dryRun := false } 2 (some homeStore)).Tells
          overwriting.extension actual ∧
        forecast.changes overwriting.extension = actual.changes overwriting.extension ∧
        forecast.counts = actual.counts ∧
        actual.counts = { created := 1, updated := 1, errors := 1 } := by
  have hplain : PlainExtension overwriting.extension := by decide
  have hplace : tidyGround.place? overwriting.directory = some [("wiki" : Text)] := by
    decide +kernel
  -- The files are found in the order of their names.
  obtain ⟨files, hfiles, hcontents, hnew, hcounts⟩ : ∃ files,
      filesBelow tidyGround ["wiki"] tidyGround.tree overwriting.extension = files ∧
        (∀ candidate ∈ files, candidate.content.toOption.isSome = true) ∧
        newNames overwriting.extension homeStore.names files = [("Week" : Text)] ∧
        (carried overwriting.extension overwriting.overwrite homeStore.names files).counts =
          { created := 1, updated := 1, errors := 1 } :=
    ⟨_, List.mergeSort_of_pairwise (by decide +kernel), by decide +kernel, by decide +kernel,
      by decide +kernel⟩
  have hread : ∀ candidate ∈ files, Readable overwriting.extension candidate := by
    intro candidate hmem _
    have hsome := hcontents candidate hmem
    cases hcontent : candidate.content with
    | ok content => exact ⟨content, rfl⟩
    | error reason =>
      rw [hcontent] at hsome
      cases hsome
  rw [← hfiles] at hread
  obtain ⟨hactual, hsame, -⟩ := dry_run_foretells_iff tidyGround overwriting 2 (some homeStore)
    hplain ["wiki"] hplace tidyGround.tree rfl rfl hread
  dsimp only [Option.getD_some] at hactual hsame
  rw [hfiles] at hactual hsame
  have hnodup : (newNames overwriting.extension homeStore.names files).Nodup := by
    rw [hnew]
    exact List.nodup_singleton _
  obtain ⟨hdry, hchanges, hcountsSame⟩ := hsame.mpr ⟨nofun, hnodup⟩
  exact ⟨hplain, hplace, rfl, rfl, hread, _, _, hdry, hactual, hchanges, hcountsSame, hcounts⟩

/-- Two files of one name in different directories. -/
def doubleGround : Ground where
  shown := "/wiki"
  name := "wiki"
  tree := .directory
    [("Week.md", .file [0x61]), ("zero", .directory [("Week.md", .file [0x62])])]

/-- The options of a plain dry run. -/
def plainDryRun : Options := { directory := "/wiki", extension := ".md", dryRun := true }

/-- A page that two files bring is said to be created twice, and counted twice. Without a table
    nothing is said of it. -/
theorem new_page_is_foretold_twice :
    (runOptions doubleGround plainDryRun 1 (some {})).output =
      "  create Week\n  create Week\n" ++ Counts.summary { created := 2 } ∧
    (runOptions doubleGround plainRun 1 (some {})).output =
      "  create Week\n" ++ Counts.summary { created := 1, skipped := 1 } ∧
    (runOptions doubleGround plainDryRun 1 none).output = [] ∧
    (runOptions doubleGround plainDryRun 1 none).ending =
      .stopped .noTable ∧
    (runOptions doubleGround plainRun 1 none).output =
      "  create Week\n" ++ Counts.summary { created := 1, skipped := 1 } := by
  have hplain : PlainExtension plainRun.extension := by decide
  have hplace : doubleGround.place? plainRun.directory = some [("wiki" : Text)] := by decide +kernel
  have htree : doubleGround.whole.find? [("wiki" : Text)] = some doubleGround.tree := rfl
  have hdirectory : doubleGround.tree.isDirectory = true := rfl
  obtain ⟨files, hfiles, hruns⟩ : ∃ files,
      filesBelow doubleGround ["wiki"] doubleGround.tree plainRun.extension = files ∧
        (importFiles plainDryRun 1 (some {}) files).output =
          "  create Week\n  create Week\n" ++ Counts.summary { created := 2 } ∧
        (importFiles plainRun 1 (some {}) files).output =
          "  create Week\n" ++ Counts.summary { created := 1, skipped := 1 } ∧
        (importFiles plainDryRun 1 none files).output = [] ∧
        (importFiles plainDryRun 1 none files).stopped = some .noTable ∧
        (importFiles plainRun 1 none files).output =
          "  create Week\n" ++ Counts.summary { created := 1, skipped := 1 } :=
    ⟨_, List.mergeSort_of_pairwise (by decide +kernel), by decide +kernel, by decide +kernel,
      by decide +kernel, by decide +kernel, by decide +kernel⟩
  have hfound : candidatesIn? doubleGround ["wiki"] plainRun.extension = some files := by
    rw [candidatesIn?_eq hplain htree hdirectory, hfiles]
  have hreal := runOptions_of_files hplace htree hdirectory hfound 1
  have hdryPlace : doubleGround.place? plainDryRun.directory = some [("wiki" : Text)] := hplace
  have hdry := runOptions_of_files hdryPlace htree hdirectory hfound 1
  obtain ⟨htwice, honce, hnothing, hstopped, hmade⟩ := hruns
  rw [hreal, hreal, hdry, hdry]
  refine ⟨htwice, honce, hnothing, ?_, hmade⟩
  dsimp only
  rw [hstopped]
  rfl

end Taskbook.Import
