/-
  Files that a search finds. An extension without marks of patterns and without slashes stands for
  itself, so behind a star it fits the file names that end in it and no others (`fits_star_eq`). The
  search goes through all directories below a place, by induction on the way to a file
  (`FileTree.exists_mem_directoriesFrom`); so the candidates are the files below the place whose
  names end in the extension (`candidatesIn?_eq`), and each such file is one (`exists_candidate`).
-/
import Taskbook.Import.Command
import Taskbook.Proofs.Text.Cut

namespace Taskbook.Import

/-! ## Patterns -/

/-- An extension that stands for itself. -/
structure PlainExtension (extension : Text) : Prop where
  ne_nil : extension ≠ []
  plain : ∀ c ∈ extension, c ∉ ['*', '?', '[', '/']

variable {extension : Text}

theorem plainExtension_iff : PlainExtension extension ↔
    extension ≠ [] ∧ extension.all (fun c => c ∉ ['*', '?', '[', '/']) = true := by
  rw [List.all_eq_true]
  exact ⟨fun h => ⟨h.ne_nil, fun c hc => decide_eq_true (h.plain c hc)⟩,
    fun h => ⟨h.1, fun c hc => of_decide_eq_true (h.2 c hc)⟩⟩

instance (extension : Text) : Decidable (PlainExtension extension) :=
  decidable_of_iff _ plainExtension_iff.symm

theorem readPattern_of_plain (h : ∀ c ∈ extension, c ∉ ['*', '?', '[', '/']) :
    readPattern extension = extension.map .char := by
  induction extension with
  | nil => rw [readPattern]; rfl
  | cons c rest ih =>
    obtain ⟨hc, hrest⟩ := List.forall_mem_cons.mp h
    simp only [List.mem_cons, List.not_mem_nil, or_false, not_or] at hc
    rw [readPattern, ih hrest, List.map_cons]
    · exact hc.1
    · exact hc.2.1
    · exact hc.2.2.1

theorem fits_char_iff {s t : Text} : fits (s.map .char) t = true ↔ t = s := by
  induction s generalizing t with
  | nil => cases t <;> simp [fits]
  | cons a s ih =>
    cases t with
    | nil => simp [fits]
    | cons c rest => simp [fits, Piece.takes, ih]

theorem fits_many_append {pattern : List Piece} {tail : Text} (h : fits pattern tail = true)
    (head : Text) : fits (.many :: pattern) (head ++ tail) = true := by
  induction head with
  | nil =>
    cases tail with
    | nil => rw [List.append_nil, fits, h]
    | cons c rest => rw [List.nil_append, fits, h, Bool.true_or]
  | cons c rest ih => rw [List.cons_append, fits, ih, Bool.or_true]

theorem exists_of_fits_many {pattern : List Piece} {s : Text}
    (h : fits (.many :: pattern) s = true) : ∃ head tail, s = head ++ tail ∧
      fits pattern tail = true := by
  induction s with
  | nil =>
    rw [fits] at h
    exact ⟨[], [], rfl, h⟩
  | cons c rest ih =>
    rw [fits, Bool.or_eq_true] at h
    rcases h with h | h
    · exact ⟨[], c :: rest, rfl, h⟩
    · obtain ⟨head, tail, rfl, htail⟩ := ih h
      exact ⟨c :: head, tail, rfl, htail⟩

/-- Behind a star the extension fits the names that end in it. -/
theorem fits_star_eq (h : PlainExtension extension) (name : Text) :
    fits (readPattern ('*' :: extension)) name = Text.endsWith name extension := by
  rw [Bool.eq_iff_iff, Text.endsWith, List.isSuffixOf_iff_suffix, readPattern,
    readPattern_of_plain h.plain]
  constructor
  · intro hfits
    obtain ⟨head, tail, rfl, htail⟩ := exists_of_fits_many hfits
    rw [fits_char_iff.mp htail]
    exact List.suffix_append head extension
  · rintro ⟨head, rfl⟩
    exact fits_many_append (fits_char_iff.mpr rfl) head

theorem cut?_stars (h : '*' ∉ extension) : Text.cut? ['*', '*'] ('*' :: extension) = none := by
  have hdrop : Text.dropPrefix? ['*', '*'] ('*' :: extension) = none := by
    rw [Option.eq_none_iff_forall_ne_some]
    intro after hafter
    obtain rfl : extension = '*' :: after := by
      simpa using Text.dropPrefix?_eq_some_iff.mp hafter
    exact h List.mem_cons_self
  unfold Text.cut?
  rw [hdrop, Text.cut?_eq_none h]
  rfl

theorem readWay?_star (h : PlainExtension extension) :
    readWay? ('*' :: extension) = some [.into (readPattern ('*' :: extension))] := by
  have hnot : ∀ c ∈ (['*', '?', '[', '/'] : Text), c ∉ extension :=
    fun c hc hmem => h.plain c hmem hc
  have hsplit : Text.splitOn ['/'] ('*' :: extension) = [('*' :: extension)] := by
    have hslash : '/' ∉ '*' :: extension := by
      rw [List.mem_cons, not_or]
      exact ⟨by decide, hnot '/' (by decide)⟩
    have hcut : Text.cut? ['/'] ('*' :: extension) = none := Text.cut?_eq_none hslash
    exact Text.splitOn_of_none hcut
  have hstep : Step.read? ('*' :: extension) = some (.into (readPattern ('*' :: extension))) := by
    have hstars : ¬ '*' :: extension = ['*', '*'] := by
      intro heq
      rw [(List.cons.inj heq).2] at hnot
      exact hnot '*' (by decide) List.mem_cons_self
    have hdots : ¬ '*' :: extension = ['.', '.'] :=
      fun heq => absurd (List.cons.inj heq).1 (by decide)
    unfold Step.read?
    rw [if_neg hstars, if_neg hdots, cut?_stars (hnot '*' (by decide))]
    rfl
  unfold readWay?
  rw [hsplit]
  simp [hstep]

/-! ## Trees -/

namespace FileTree

/-- A file of that name is somewhere below a directory. -/
inductive Holds (name : Text) (file : FileTree) : FileTree → Prop where
  | entry {entries : List (Text × FileTree)} (h : (name, file) ∈ entries) :
      Holds name file (.directory entries)
  | deeper {entries : List (Text × FileTree)} {directory : Text} {tree : FileTree}
      (h : (directory, tree) ∈ entries) (hdeeper : Holds name file tree) :
      Holds name file (.directory entries)

variable {name : Text} {file tree : FileTree}

theorem Holds.isDirectory (h : Holds name file tree) : tree.isDirectory = true := by
  cases h <;> rfl

theorem mem_directoriesAmong {entries : List (Text × FileTree)} {way : List Text}
    {entry : Text × FileTree} (h : entry ∈ entries) {found : List Text × FileTree}
    (hfound : found ∈ directoriesFrom (way ++ [entry.1]) entry.2) :
    found ∈ directoriesAmong way entries := by
  induction entries with
  | nil => cases h
  | cons first rest ih =>
    unfold directoriesAmong
    rcases List.mem_cons.mp h with rfl | hrest
    · exact List.mem_append_left _ hfound
    · exact List.mem_append_right _ (ih hrest)

/-- The file is an entry of one of the directories that are gone through. -/
theorem exists_mem_directoriesFrom (h : Holds name file tree) (way : List Text) :
    ∃ later entries, (later, .directory entries) ∈ directoriesFrom way tree ∧
      (name, file) ∈ entries := by
  induction h generalizing way with
  | @entry entries h =>
    refine ⟨way, entries, ?_, h⟩
    unfold directoriesFrom
    exact List.mem_cons_self
  | @deeper entries directory tree h _ ih =>
    obtain ⟨later, below, hlater, hfile⟩ := ih (way ++ [directory])
    refine ⟨later, below, ?_, hfile⟩
    unfold directoriesFrom
    exact List.mem_cons_of_mem _ (mem_directoriesAmong h hlater)

mutual

/-- All that is gone through are directories. -/
theorem isDirectory_of_mem_directoriesFrom : ∀ (tree : FileTree) (way : List Text),
    ∀ found ∈ directoriesFrom way tree, found.2.isDirectory = true
  | .file _, _, _, hfound => by
    unfold directoriesFrom at hfound
    cases hfound
  | .directory entries, way, found, hfound => by
    unfold directoriesFrom at hfound
    rcases List.mem_cons.mp hfound with rfl | hfound
    · rfl
    · exact isDirectory_of_mem_directoriesAmong entries way found hfound

theorem isDirectory_of_mem_directoriesAmong : ∀ (entries : List (Text × FileTree))
    (way : List Text), ∀ found ∈ directoriesAmong way entries, found.2.isDirectory = true
  | [], _, _, hfound => by
    unfold directoriesAmong at hfound
    cases hfound
  | (name, tree) :: rest, way, found, hfound => by
    unfold directoriesAmong at hfound
    rcases List.mem_append.mp hfound with hfound | hfound
    · exact isDirectory_of_mem_directoriesFrom tree (way ++ [name]) found hfound
    · exact isDirectory_of_mem_directoriesAmong rest way found hfound

end

end FileTree

/-! ## Candidates -/

theorem Found.distinct_below_into (pattern : List Piece) (all : List Found) :
    Found.distinct [.below, .into pattern] all = all := by
  have hcount : ¬ 1 < ([.below, .into pattern] : List Step).count .below := by simp
  unfold distinct
  rw [if_neg hcount]

theorem getLast?_star (h : PlainExtension extension) :
    ('*' :: extension).getLast? ≠ some '/' := by
  intro hlast
  have hmem : '/' ∈ '*' :: extension := List.mem_of_getLast? hlast
  rcases List.mem_cons.mp hmem with heq | hmem
  · exact absurd heq (by decide)
  · exact h.plain '/' hmem (by decide)

/-- What the search for an extension finds. -/
theorem search?_star (h : PlainExtension extension) {whole tree : FileTree} {place : List Text}
    (htree : whole.find? place = some tree) (hdirectory : tree.isDirectory = true) :
    whole.search? place ('*' :: extension) =
      some ((FileTree.directoriesFrom [] tree).flatMap fun directory =>
        (directory.2.entries.filter fun entry => Text.endsWith entry.1 extension).map fun entry =>
          { way := place ++ directory.1 ++ [entry.1], place := place ++ directory.1 ++ [entry.1]
            tree := entry.2 }) := by
  let start : Found := { way := place, place, tree }
  unfold FileTree.search?
  rw [readWay?_star h, Option.map_some]
  dsimp only
  rw [Found.distinct_below_into, if_neg (getLast?_star h), htree, Option.getD_some]
  refine congrArg some ?_
  change start.follow whole [.below, .into (readPattern ('*' :: extension))] = _
  unfold Found.follow
  rw [if_pos hdirectory]
  unfold Found.next
  rw [List.flatMap_map]
  refine List.flatMap_congr fun directory hmem => ?_
  have hinner : (start.extend directory.1 directory.2).tree.isDirectory = true :=
    FileTree.isDirectory_of_mem_directoriesFrom tree [] directory hmem
  unfold Found.follow
  rw [if_pos hinner]
  unfold Found.next
  simp only [Found.follow, List.flatMap_singleton', fits_star_eq h]
  rfl

/-- The files below a place whose names end in the extension, in the order of the lower case of
    their names. Directories of such a name are among them. -/
def filesBelow (ground : Ground) (place : List Text) (tree : FileTree) (extension : Text) :
    List Candidate :=
  ((FileTree.directoriesFrom [] tree).flatMap fun directory =>
    (directory.2.entries.filter fun entry => Text.endsWith entry.1 extension).map fun entry =>
      ({ path := ground.write (place ++ directory.1 ++ [entry.1]), fileName := entry.1
         tree := entry.2 } : Candidate)).mergeSort fun a b =>
    Text.le a.fileName.lower b.fileName.lower

/-- The candidates are just these files. -/
theorem candidatesIn?_eq (h : PlainExtension extension) {ground : Ground} {tree : FileTree}
    {place : List Text} (htree : ground.whole.find? place = some tree)
    (hdirectory : tree.isDirectory = true) :
    candidatesIn? ground place extension = some (filesBelow ground place tree extension) := by
  unfold candidatesIn? filesBelow
  rw [search?_star h htree hdirectory, Option.map_some, List.map_flatMap]
  simp only [List.map_map, Function.comp_def, List.getLast?_concat, Option.getD_some]

/-- A file below the place whose name ends in the extension is a candidate. -/
theorem exists_candidate (h : PlainExtension extension) {ground : Ground} {tree file : FileTree}
    {place : List Text} {name : Text} (htree : ground.whole.find? place = some tree)
    (hfile : FileTree.Holds (name ++ extension) file tree) :
    ∃ files, candidatesIn? ground place extension = some files ∧
      ∃ candidate ∈ files, candidate.fileName = name ++ extension ∧ candidate.tree = file := by
  obtain ⟨later, entries, hlater, hentry⟩ := FileTree.exists_mem_directoriesFrom hfile []
  have hends : Text.endsWith (name ++ extension) extension = true :=
    List.isSuffixOf_iff_suffix.mpr (List.suffix_append name extension)
  have hmem : (name ++ extension, file) ∈
      entries.filter fun entry => Text.endsWith entry.1 extension :=
    List.mem_filter.mpr ⟨hentry, hends⟩
  refine ⟨_, candidatesIn?_eq h htree hfile.isDirectory, _,
    (List.mergeSort_perm _ _).mem_iff.mpr
      (List.mem_flatMap.mpr ⟨_, hlater, List.mem_map_of_mem hmem⟩), rfl, rfl⟩

end Taskbook.Import
