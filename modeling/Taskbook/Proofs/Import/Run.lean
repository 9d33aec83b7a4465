/-
  Pages that come of files.

  One file leaves the pages as they are or saves one whose name is accepted (`next_cases`), so what
  such saves keep is kept by a whole import, by induction on the files (`keeps_foldl`,
  `keeps_runCommand`). A file that can be read and whose name without the extension is accepted is
  there as a page after the import, and one whose name is not accepted is not
  (`isSome_runOptions_iff`).
-/
import Taskbook.Proofs.Import.Search
import Taskbook.Proofs.Store.Names

namespace Taskbook.Import

variable {options : Options} {now : Nat} {store : Store} {files : List Candidate}
  {candidate : Candidate} {name content : Text}

/-! ## One file after another -/

/-- A property of stores that is kept where a page is saved whose name is accepted, and where what
    was done is committed. -/
structure Keeps (P : Store → Prop) : Prop where
  save : ∀ (store : Store) (now : Nat) (name content : Text), PageName.accepted name = true →
    P store → P (store.save now name content).1
  commit : ∀ store : Store, P store → P store.commit

theorem next_cases (options : Options) (now : Nat) (progress : Progress) (candidate : Candidate) :
    (progress.next options now candidate).store = progress.store ∨
      ∃ name content, PageName.accepted name = true ∧
        (progress.next options now candidate).store = (progress.store.save now name content).1 := by
  unfold Progress.next
  dsimp only
  split
  · next haccepted =>
    unfold Progress.take
    dsimp only
    split
    · exact Or.inl rfl
    · split
      · exact Or.inl rfl
      · unfold Progress.write
        split
        · exact Or.inr ⟨_, _, haccepted, rfl⟩
        · exact Or.inl rfl
  · exact Or.inl rfl

theorem keeps_foldl {P : Store → Prop} (hkeeps : Keeps P) (options : Options) (now : Nat)
    (files : List Candidate) (progress : Progress) (h : P progress.store) :
    P (files.foldl (Progress.next options now) progress).store := by
  induction files generalizing progress with
  | nil => exact h
  | cons candidate rest ih =>
    refine ih _ ?_
    rcases next_cases options now progress candidate with hsame | ⟨name, content, haccepted, hsave⟩
    · rwa [hsame]
    · rw [hsave]
      exact hkeeps.save _ _ _ _ haccepted h

theorem keeps_importFiles {P : Store → Prop} (hkeeps : Keeps P) (h : P store) {later : Store}
    (hlater : (importFiles options now (some store) files).table = some later) : P later := by
  obtain rfl := Option.some.inj hlater
  split
  · exact h
  · exact hkeeps.commit _ (keeps_foldl hkeeps options now files _ h)

/-- What saves of pages with accepted names keep is kept by the command, whatever its arguments and
    whatever files there are. -/
theorem keeps_runCommand {P : Store → Prop} (hkeeps : Keeps P) (h : P store) {ground : Ground}
    {arguments : List Text} {later : Store}
    (hlater : (runCommand ground arguments now (some store)).table = some later) : P later := by
  unfold runCommand at hlater
  split at hlater
  · exact Option.some.inj hlater ▸ h
  · exact Option.some.inj hlater ▸ h
  · unfold runOptions at hlater
    dsimp only at hlater
    split at hlater
    · exact Option.some.inj hlater ▸ h
    · split at hlater
      · split at hlater
        · exact keeps_importFiles hkeeps h hlater
        · exact Option.some.inj hlater ▸ h
      · exact Option.some.inj hlater ▸ h

/-! ## Pages and files -/

theorem pageName_append {extension : Text} (h : extension ≠ []) (name : Text) :
    pageName extension (name ++ extension) = name := by
  unfold pageName
  rw [if_neg h, List.length_append, Nat.add_sub_cancel, List.take_left]

/-- An import that is no dry run takes one file after another and commits what they come to. -/
theorem importFiles_of_real (hreal : options.dryRun = false) (now : Nat) (table : Option Store)
    (files : List Candidate) :
    importFiles options now table files =
      let last := files.foldl (Progress.next options now) { store := table.getD {} }
      { output := last.output ++ last.counts.summary, table := some last.store.commit } := by
  unfold importFiles importInto
  cases table <;> simp [hreal]

/-- A run imports the files that are found below its directory. -/
theorem runOptions_of_files {ground : Ground} {place : List Text} {tree : FileTree}
    (hplace : ground.place? options.directory = some place)
    (htree : ground.whole.find? place = some tree) (hdirectory : tree.isDirectory = true)
    (hfiles : candidatesIn? ground place options.extension = some files) (now : Nat)
    (table : Option Store) :
    runOptions ground options now table =
      let report := importFiles options now table files
      { output := report.output
        ending := (report.stopped.map Ending.stopped).getD (.exit 0)
        table := report.table } := by
  unfold runOptions
  dsimp only
  rw [hplace]
  dsimp only
  rw [htree, Option.map_some, Option.getD_some, if_pos hdirectory, hfiles]

theorem keeps_isSome (name : Text) : Keeps fun store => (store.contentOf? name).isSome = true where
  save store now other content _ h := by
    rw [Store.contentOf?_save]
    split
    · rfl
    · exact h
  commit _ h := h

theorem keeps_isNone (hrefused : ¬ PageName.accepted name = true) :
    Keeps fun store => store.contentOf? name = none where
  save store now other content haccepted h := by
    have hother : name ≠ other := fun heq => hrefused (heq ▸ haccepted)
    rw [Store.contentOf?_save, if_neg hother]
    exact h
  commit _ h := h

theorem isSome_next (hreal : options.dryRun = false)
    (hname : pageName options.extension candidate.fileName = name)
    (haccepted : PageName.accepted name = true) (hcontent : candidate.content = .ok content)
    (progress : Progress) :
    ((progress.next options now candidate).store.contentOf? name).isSome = true := by
  unfold Progress.next Progress.take
  rw [hname, if_pos haccepted]
  dsimp only
  split
  · next hexists =>
    unfold Store.contentOf?
    rw [Option.isSome_map]
    exact (Bool.and_eq_true_iff.mp hexists).1
  · rw [hreal, if_neg Bool.false_ne_true]
    unfold Progress.write
    rw [hcontent]
    dsimp only [Progress.say]
    rw [Store.contentOf?_save, if_pos rfl]
    rfl

/-- After an import that is no dry run the page of a file is there exactly if its name is accepted,
    where there was none before. -/
theorem isSome_importFiles_iff (hreal : options.dryRun = false) {table : Option Store}
    (hcandidate : candidate ∈ files) (hname : pageName options.extension candidate.fileName = name)
    (hcontent : candidate.content = .ok content) (hnew : (table.getD {}).contentOf? name = none) :
    ∃ later, (importFiles options now table files).table = some later ∧
      ((later.contentOf? name).isSome = true ↔ PageName.accepted name = true) := by
  rw [importFiles_of_real hreal]
  refine ⟨_, rfl, fun hsome => ?_, fun haccepted => ?_⟩
  · refine Decidable.byContradiction fun hrefused => ?_
    have hnone := keeps_foldl (keeps_isNone hrefused) options now files
      { store := table.getD {} } hnew
    have hcommit := (keeps_isNone hrefused).commit _ hnone
    rw [hcommit] at hsome
    cases hsome
  · obtain ⟨before, after, rfl⟩ := List.append_of_mem hcandidate
    rw [List.foldl_append, List.foldl_cons]
    refine keeps_foldl (keeps_isSome name) options now after _ ?_
    exact isSome_next hreal hname haccepted hcontent _

/-- A run that is no dry run finds a file that can be read, somewhere below its directory. The file
    has the given name with the extension behind it, and there is no page of that name so far. -/
structure Brings (ground : Ground) (options : Options) (table : Option Store) (name : Text) :
    Prop where
  real : options.dryRun = false
  plain : PlainExtension options.extension
  file : ∃ place tree bytes text, ground.place? options.directory = some place ∧
    ground.whole.find? place = some tree ∧
    FileTree.Holds (name ++ options.extension) (.file bytes) tree ∧ Text.decode bytes = .ok text
  new : (table.getD {}).contentOf? name = none

/-- A run of the import takes a file as a page exactly if its name without the extension is
    accepted. -/
theorem isSome_runOptions_iff {ground : Ground} {table : Option Store}
    (h : Brings ground options table name) :
    ∃ later, (runOptions ground options now table).table = some later ∧
      ((later.contentOf? name).isSome = true ↔ PageName.accepted name = true) := by
  obtain ⟨place, tree, bytes, text, hplace, htree, hfile, hbytes⟩ := h.file
  obtain ⟨files, hfiles, candidate, hcandidate, hfileName, hcandidateTree⟩ :=
    exists_candidate h.plain htree hfile
  have hcontent : candidate.content = .ok (Text.unixNewlines text) := by
    unfold Candidate.content
    rw [hcandidateTree]
    dsimp only
    rw [hbytes]
  have hname : pageName options.extension candidate.fileName = name := by
    rw [hfileName, pageName_append h.plain.ne_nil]
  rw [runOptions_of_files hplace htree hfile.isDirectory hfiles]
  exact isSome_importFiles_iff h.real hcandidate hname hcontent h.new

end Taskbook.Import
