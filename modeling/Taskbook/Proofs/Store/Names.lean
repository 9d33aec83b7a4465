/-
  A store has one page of each name (`Distinct`), whatever is saved, removed, committed or thrown
  away. So it is known by the contents under its names: saving sets one of them and removing takes
  one away (`contentOf?_save`, `contentOf?_of_remove?`), and the notebook of a store holds just its
  pages, so that a page that is saved is put into the notebook (`notebook_save`).
-/
import Taskbook.Proofs.Include.Notebook
import Taskbook.Proofs.Store.Change

namespace Taskbook

/-- The entry as a page of a notebook. -/
def Entry.page (entry : Entry) : Text × Text := (entry.name, entry.content)

namespace Store

/-- The content of the page of a name. -/
def contentOf? (store : Store) (name : Text) : Option Text := (store.find? name).map Entry.content

/-- No two pages have one name, neither as the session sees them nor as they were committed. -/
structure Distinct (store : Store) : Prop where
  entries : (store.entries.map Entry.name).Nodup
  committed : (store.committed.map Entry.name).Nodup

variable {store later : Store} {now : Nat} {name content : Text}

/-! ## Contents -/

theorem find?_filter_ne {entries : List Entry} {other : Text} (hother : other ≠ name) :
    (entries.filter (·.name ≠ name)).find? (·.name = other) = entries.find? (·.name = other) := by
  rw [List.find?_filter]
  congr 1
  funext entry
  by_cases h : entry.name = other <;> simp [h, hother]

/-- Where the pages but for that of a name are the same, each other page is found as it was. -/
theorem find?_of_filter
    (h : later.entries.filter (·.name ≠ name) = store.entries.filter (·.name ≠ name)) {other : Text}
    (hother : other ≠ name) : later.find? other = store.find? other := by
  unfold find?
  rw [← find?_filter_ne hother, h, find?_filter_ne hother]

theorem contentOf?_of_filter
    (h : later.entries.filter (·.name ≠ name) = store.entries.filter (·.name ≠ name)) {other : Text}
    (hother : other ≠ name) : later.contentOf? other = store.contentOf? other := by
  unfold contentOf?
  rw [find?_of_filter h hother]

/-- Saving sets the content of one page. -/
theorem contentOf?_save (store : Store) (now : Nat) (name content other : Text) :
    (store.save now name content).1.contentOf? other =
      if other = name then some content else store.contentOf? other := by
  by_cases hother : other = name
  · subst hother
    rw [if_pos rfl]
    unfold contentOf?
    rw [find?_save, Option.map_some, content_save]
  · rw [if_neg hother]
    exact contentOf?_of_filter (store.agreesBut_save now name content).others hother

/-- Removing takes one page away. -/
theorem contentOf?_of_remove? (h : store.remove? name = some later) (other : Text) :
    later.contentOf? other = if other = name then none else store.contentOf? other := by
  by_cases hother : other = name
  · subst hother
    rw [if_pos rfl]
    obtain ⟨entry, -, rfl⟩ := Option.map_eq_some_iff.mp h
    unfold contentOf? find?
    simp
  · rw [if_neg hother]
    exact contentOf?_of_filter (agreesBut_of_remove? h).others hother

theorem remove?_eq_none_iff : store.remove? name = none ↔ store.contentOf? name = none := by
  unfold remove? contentOf?
  rw [Option.map_eq_none_iff, Option.map_eq_none_iff]

/-! ## One page of each name -/

theorem distinct_empty : ({} : Store).Distinct := ⟨List.nodup_nil, List.nodup_nil⟩

theorem Distinct.commit (h : store.Distinct) : store.commit.Distinct := ⟨h.entries, h.entries⟩

theorem Distinct.rollback (h : store.Distinct) : store.rollback.Distinct :=
  ⟨h.committed, h.committed⟩

theorem names_replace (store : Store) (now : Nat) (entry : Entry) (content : Text) :
    (store.replace now entry content).1.entries.map Entry.name = store.entries.map Entry.name := by
  unfold replace
  rw [List.map_map]
  refine List.map_congr_left fun other _ => ?_
  by_cases h : other.name = entry.name <;> simp [h]

theorem find?_eq_none_iff : store.find? name = none ↔ name ∉ store.entries.map Entry.name := by
  unfold find?
  simp [List.find?_eq_none]

theorem Distinct.save (h : store.Distinct) (now : Nat) (name content : Text) :
    (store.save now name content).1.Distinct where
  committed := by
    rw [(store.agreesBut_save now name content).committed]
    exact h.committed
  entries := by
    unfold Store.save
    cases hfind : store.find? name with
    | none =>
      rw [find?_eq_none_iff] at hfind
      unfold create
      rw [List.map_append, List.nodup_append]
      refine ⟨h.entries, by simp, fun other hother new hnew => ?_⟩
      rintro rfl
      obtain rfl := List.mem_singleton.mp hnew
      exact hfind hother
    | some entry =>
      dsimp only
      split
      · exact h.entries
      · rw [names_replace]
        exact h.entries

theorem Distinct.remove (h : store.Distinct) (hremove : store.remove? name = some later) :
    later.Distinct := by
  obtain ⟨entry, -, rfl⟩ := Option.map_eq_some_iff.mp hremove
  exact ⟨h.entries.sublist (List.filter_sublist.map _), h.committed⟩

/-- Of the entries of one name the one that is found is the only one. -/
theorem Distinct.find?_of_mem (h : store.Distinct) {entry : Entry} (hentry : entry ∈ store.entries) :
    store.find? entry.name = some entry := by
  obtain ⟨before, after, hentries⟩ := List.append_of_mem hentry
  have hnames := h.entries
  rw [hentries, List.map_append, List.map_cons, List.nodup_append] at hnames
  unfold find?
  rw [hentries, List.find?_append, List.find?_cons_of_pos (by simp)]
  have hnone : before.find? (·.name = entry.name) = none := by
    refine List.find?_eq_none.mpr fun other hother hname => ?_
    exact hnames.2.2 _ (List.mem_map_of_mem hother) _ List.mem_cons_self (of_decide_eq_true hname)
  rw [hnone, Option.none_or]

/-! ## The notebook of a store -/

theorem map_fst_page (entries : List Entry) :
    (entries.map Entry.page).map Prod.fst = entries.map Entry.name := by
  rw [List.map_map]
  rfl

theorem pages_notebook (h : store.Distinct) : store.notebook.pages = store.entries.map Entry.page :=
  Notebook.pages_ofPages (by
    change ((store.entries.map Entry.page).map Prod.fst).Nodup
    rw [map_fst_page]
    exact h.entries)

theorem lookup_page (entries : List Entry) (name : Text) :
    (entries.map Entry.page).lookup name = (entries.find? (·.name = name)).map Entry.content := by
  induction entries with
  | nil => rfl
  | cons entry rest ih =>
    rw [List.map_cons, Entry.page, List.lookup_cons]
    by_cases h : entry.name = name
    · rw [List.find?_cons_of_pos (by simpa using h), beq_iff_eq.mpr h.symm]
      rfl
    · rw [List.find?_cons_of_neg (by simpa using h), beq_eq_false_iff_ne.mpr (Ne.symm h)]
      exact ih

theorem find?_notebook (h : store.Distinct) (name : Text) :
    store.notebook.find? name = store.contentOf? name := by
  unfold Notebook.find?
  rw [pages_notebook h, lookup_page]
  rfl

theorem names_notebook (h : store.Distinct) :
    store.notebook.names = store.entries.map Entry.name := by
  unfold Notebook.names
  rw [pages_notebook h, map_fst_page]

theorem map_page_replace (store : Store) (now : Nat) (entry : Entry) (content : Text) :
    (store.replace now entry content).1.entries.map Entry.page =
      (store.entries.map Entry.page).map fun page =>
        if page.1 = entry.name then (entry.name, content) else page := by
  unfold replace
  rw [List.map_map, List.map_map]
  refine List.map_congr_left fun other _ => ?_
  by_cases h : other.name = entry.name <;> simp [Entry.page, h]

/-- To replace a content by itself changes nothing. -/
theorem map_page_of_find? (h : store.Distinct) {entry : Entry}
    (hfind : store.find? entry.name = some entry) :
    ((store.entries.map Entry.page).map fun page =>
        if page.1 = entry.name then (entry.name, entry.content) else page) =
      store.entries.map Entry.page := by
  rw [List.map_map]
  refine List.map_congr_left fun other hother => ?_
  by_cases hname : other.name = entry.name
  · have hfound := h.find?_of_mem hother
    rw [hname, hfind] at hfound
    obtain rfl := Option.some.inj hfound
    simp [Entry.page]
  · simp [Entry.page, hname]

/-- A page that is saved is put into the notebook. -/
theorem notebook_save (h : store.Distinct) (now : Nat) (name content : Text) :
    (store.save now name content).1.notebook = store.notebook.put name content := by
  refine Notebook.eq_of_pages ?_
  rw [pages_notebook (h.save now name content)]
  unfold Store.save
  cases hfind : store.find? name with
  | none =>
    rw [Notebook.pages_put_of_not_mem, pages_notebook h]
    · exact List.map_append
    · rw [names_notebook h]
      exact find?_eq_none_iff.mp hfind
  | some entry =>
    obtain rfl := name_of_find? hfind
    rw [Notebook.pages_put_of_mem, pages_notebook h]
    · dsimp only
      split
      · next hcontent => rw [← hcontent, map_page_of_find? h hfind]
      · exact map_page_replace store now entry content
    · rw [names_notebook h]
      exact List.mem_map_of_mem (List.mem_of_find?_eq_some hfind)

end Store

end Taskbook
