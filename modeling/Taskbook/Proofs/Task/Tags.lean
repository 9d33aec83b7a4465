/-
  Tags handed to a task stand behind its own: the own tags stay as they are and in front
  (`prefix_inherit`), what is new was handed (`mem_inherit`), and a key that has a value keeps it
  when more tags are put behind (`get?_append`). What is put behind has each key once, and none
  that was there (`exists_adds_inherit`); a key counts as handed only if it has no value of its own
  (`get?_inherit`).
-/
import Taskbook.Task.Basic

namespace Taskbook.Tags

theorem inherit_cons (tags handed : Tags) (tag : Text × Text) :
    tags.inherit (tag :: handed) =
      (if tags.has tag.1 then tags else tags ++ [tag]).inherit handed := rfl

theorem prefix_inherit (tags handed : Tags) : tags <+: tags.inherit handed := by
  induction handed generalizing tags with
  | nil => exact List.prefix_rfl
  | cons tag rest ih =>
    have hstep : tags <+: if tags.has tag.1 then tags else tags ++ [tag] := by
      split
      · exact List.prefix_rfl
      · exact List.prefix_append _ _
    exact hstep.trans (ih _)

theorem mem_inherit {tags handed : Tags} {tag : Text × Text} (h : tag ∈ tags.inherit handed) :
    tag ∈ tags ∨ tag ∈ handed := by
  induction handed generalizing tags with
  | nil => exact Or.inl h
  | cons first rest ih =>
    rw [inherit_cons] at h
    rcases ih h with hown | hrest
    · split at hown
      · exact Or.inl hown
      · rcases List.mem_append.mp hown with hown | hfirst
        · exact Or.inl hown
        · exact Or.inr (List.mem_singleton.mp hfirst ▸ List.mem_cons_self)
    · exact Or.inr (List.mem_cons_of_mem _ hrest)

theorem mem_of_get? {tags : Tags} {key value : Text} (h : tags.get? key = some value) :
    (key, value) ∈ tags := by
  obtain ⟨before, after, htags, -⟩ := List.lookup_eq_some_iff.mp h
  rw [htags]
  exact List.mem_append_right _ List.mem_cons_self

theorem get?_append {tags : Tags} {key value : Text} (h : tags.get? key = some value)
    (more : Tags) : Tags.get? (tags ++ more) key = some value := by
  unfold get? at h ⊢
  rw [List.lookup_append, h, Option.some_or]

/-! ## What inheriting adds -/

/-- `more` can be put behind `tags`: none of its keys is there yet, and none stands twice. -/
structure Adds (tags more : Tags) : Prop where
  nodup : (more.map Prod.fst).Nodup
  new : ∀ tag ∈ more, tags.has tag.1 = false

theorem has_append (tags more : Tags) (key : Text) :
    Tags.has (tags ++ more) key = (tags.has key || more.has key) := List.any_append

theorem Adds.append {tags more later : Tags} (h : tags.Adds more)
    (h' : Tags.Adds (tags ++ more) later) : tags.Adds (more ++ later) where
  nodup := by
    rw [List.map_append, List.nodup_append]
    refine ⟨h.nodup, h'.nodup, ?_⟩
    rintro _ hkey _ hkey' rfl
    obtain ⟨tag, htag, htag_key⟩ := List.mem_map.mp hkey
    obtain ⟨tag', htag', rfl⟩ := List.mem_map.mp hkey'
    have hnew := h'.new tag' htag'
    rw [has_append, Bool.or_eq_false_iff] at hnew
    have hhas : more.has tag'.1 = true :=
      List.any_eq_true.mpr ⟨tag, htag, decide_eq_true htag_key⟩
    rw [hnew.2] at hhas
    cases hhas
  new := by
    intro tag htag
    rcases List.mem_append.mp htag with htag | htag
    · exact h.new tag htag
    · have hnew := h'.new tag htag
      rw [has_append, Bool.or_eq_false_iff] at hnew
      exact hnew.1

theorem exists_adds_inherit (tags handed : Tags) :
    ∃ more, tags.inherit handed = tags ++ more ∧ more ⊆ handed ∧ tags.Adds more := by
  induction handed generalizing tags with
  | nil => exact ⟨[], (List.append_nil tags).symm, List.Subset.refl _, List.nodup_nil, nofun⟩
  | cons tag rest ih =>
    rw [inherit_cons]
    split
    · obtain ⟨more, hmore, hsub, hadds⟩ := ih tags
      exact ⟨more, hmore, List.subset_cons_of_subset tag hsub, hadds⟩
    · next hhas =>
      obtain ⟨more, hmore, hsub, hadds⟩ := ih (tags ++ [tag])
      have hone : tags.Adds [tag] := ⟨by simp, by simpa using hhas⟩
      refine ⟨tag :: more, by simpa using hmore, ?_, hone.append hadds⟩
      exact List.cons_subset_cons tag hsub

/-- What can be put behind the tags is all put there. -/
theorem inherit_of_adds {tags handed : Tags} (h : tags.Adds handed) :
    tags.inherit handed = tags ++ handed := by
  induction handed generalizing tags with
  | nil => exact (List.append_nil tags).symm
  | cons tag rest ih =>
    obtain ⟨hnodup, hnew⟩ := h
    rw [List.map_cons, List.nodup_cons] at hnodup
    have hrest : Tags.Adds (tags ++ [tag]) rest := by
      refine ⟨hnodup.2, fun other hother => ?_⟩
      have hne : tag.1 ≠ other.1 := fun heq => hnodup.1 (heq ▸ List.mem_map_of_mem hother)
      rw [has_append, hnew other (List.mem_cons_of_mem _ hother), Bool.false_or]
      simpa [has] using hne
    rw [inherit_cons, hnew tag List.mem_cons_self, if_neg Bool.false_ne_true, ih hrest,
      List.append_assoc, List.singleton_append]

theorem get?_cons (tag : Text × Text) (tags : Tags) (key : Text) :
    Tags.get? (tag :: tags) key = if tag.1 = key then some tag.2 else tags.get? key := by
  unfold get?
  rw [List.lookup_cons]
  by_cases h : tag.1 = key
  · simp [h]
  · simp [h, beq_eq_false_iff_ne.mpr (Ne.symm h)]

theorem has_eq_isSome_get? (tags : Tags) (key : Text) : tags.has key = (tags.get? key).isSome := by
  induction tags with
  | nil => rfl
  | cons tag rest ih =>
    rw [get?_cons]
    change (decide (tag.1 = key) || Tags.has rest key) = _
    by_cases h : tag.1 = key
    · simp [h]
    · simp [h, ih]

theorem get?_append_eq_or (tags more : Tags) (key : Text) :
    Tags.get? (tags ++ more) key = (tags.get? key).or (more.get? key) := List.lookup_append

/-- A key has the value of its own tags, and without one the value that is handed. -/
theorem get?_inherit (tags handed : Tags) (key : Text) :
    (tags.inherit handed).get? key = (tags.get? key).or (handed.get? key) := by
  induction handed generalizing tags with
  | nil => exact (Option.or_none).symm
  | cons tag rest ih =>
    rw [inherit_cons, ih]
    split
    · next hhas =>
      rw [get?_cons]
      split
      · next hkey =>
        -- The tag of this key is not put behind, but the key has a value before it.
        rw [hkey, has_eq_isSome_get?] at hhas
        obtain ⟨value, hvalue⟩ := Option.isSome_iff_exists.mp hhas
        rw [hvalue]
        rfl
      · rfl
    · rw [get?_append_eq_or, Option.or_assoc, ← get?_append_eq_or]
      rfl

theorem map_fst_filterMap_sublist (keys : List Text) (value? : Text → Option Text) :
    ((keys.filterMap fun key => (value? key).map (key, ·)).map Prod.fst).Sublist keys := by
  induction keys with
  | nil => exact .slnil
  | cons key rest ih =>
    rw [List.filterMap_cons]
    cases value? key with
    | none => exact ih.cons key
    | some value => exact ih.cons_cons key

/-- Of tags made for some keys, a key has the value that was made for it. -/
theorem get?_filterMap (keys : List Text) (value? : Text → Option Text) (key : Text) :
    Tags.get? (keys.filterMap fun k => (value? k).map (k, ·)) key =
      if key ∈ keys then value? key else none := by
  induction keys with
  | nil => rfl
  | cons first rest ih =>
    by_cases hkey : first = key
    · subst hkey
      cases hvalue : value? first with
      | some value => simp [hvalue, get?_cons]
      | none => simp [hvalue, ih]
    · cases hvalue : value? first with
      | some value => simp [hvalue, get?_cons, ih, hkey, Ne.symm hkey]
      | none => simp [hvalue, ih, Ne.symm hkey]

end Taskbook.Tags
