/-
  The moments of an expansion.

  `World.Next` does one thing to what is pending, as the rules of a run do, and `World.Comes` is
  what comes of it after any number of steps. A moment has one next moment at most
  (`Next.unique`), so of two moments that come of one, one comes of the other, and whatever comes of
  the start of a run is a moment before its end (`Comes.end_of_runs`). Origins that are met stay
  met, so no origin is entered twice (`source_of_entered_twice`). What goes along with the steps
  holds of all that is ever pending (`Comes.of_invariant`).
-/
import Mathlib.Logic.Relation
import Taskbook.Proofs.Include.Pending

namespace Taskbook

/-- An expansion at one moment: the origins met so far, if they are kept, and what is pending. -/
structure Moment where
  visited : Option (List Text)
  pending : List Item

/-- One step of an expansion. -/
inductive World.Next (world : World) : Moment → Moment → Prop where
  | keep {visited : Option (List Text)} {task : Task} {rest : List Item}
      (hkept : task.collects = true → visited = none) :
      Next world ⟨visited, .line task :: rest⟩ ⟨visited, rest⟩
  | expand {met : List Text} {task : Task} {rest : List Item} (hc : task.collects = true) :
      Next world ⟨some met, .line task :: rest⟩ ⟨some met, .call task :: rest⟩
  | found {visited : Option (List Text)} {task : Task} {sources : List Source} {rest : List Item}
      (hfind : world.find task = .sources sources) :
      Next world ⟨visited, .call task :: rest⟩ ⟨visited, sources.map .source ++ rest⟩
  | missed {visited : Option (List Text)} {task : Task} {cause : IncludeError} {rest : List Item}
      (hfind : world.find task = .error cause) :
      Next world ⟨visited, .call task :: rest⟩ ⟨visited, rest⟩
  | skip {met : List Text} {source : Source} {rest : List Item} (hmet : source.origin.name ∈ met) :
      Next world ⟨some met, .source source :: rest⟩ ⟨some met, rest⟩
  | enter {visited : Option (List Text)} {source : Source} {rest : List Item}
      (hnew : ∀ met, visited = some met → source.origin.name ∉ met) :
      Next world ⟨visited, .source source :: rest⟩
        ⟨visited.map (· ++ [source.origin.name]), source.tasks.map .line ++ rest⟩

/-- What comes of a moment. -/
def World.Comes (world : World) : Moment → Moment → Prop := Relation.ReflTransGen world.Next

namespace World

variable {world : World} {moment later last : Moment}

/-! ## Moments of a run -/

theorem Next.unique (h : world.Next moment later) (h' : world.Next moment last) :
    later = last := by
  cases h with
  | keep hkept =>
    cases h' with
    | keep => rfl
    | expand hc => cases hkept hc
  | expand hc =>
    cases h' with
    | keep hkept => cases hkept hc
    | expand => rfl
  | found hfind =>
    cases h' with
    | found hfind' =>
      obtain rfl := Finding.sources.inj (hfind.symm.trans hfind')
      rfl
    | missed hfind' => cases hfind.symm.trans hfind'
  | missed hfind =>
    cases h' with
    | found hfind' => cases hfind.symm.trans hfind'
    | missed => rfl
  | skip hmet =>
    cases h' with
    | skip => rfl
    | enter hnew => exact absurd hmet (hnew _ rfl)
  | enter hnew =>
    cases h' with
    | skip hmet => exact absurd hmet (hnew _ rfl)
    | enter => rfl

theorem Comes.total (h : world.Comes moment later) (h' : world.Comes moment last) :
    world.Comes later last ∨ world.Comes last later :=
  Relation.ReflTransGen.total_of_right_unique (fun _ _ _ => Next.unique) h h'

/-- The moment is where what was found is found: nothing is pending, or a request cannot be sent. -/
structure EndsAt (world : World) (found : Expansion) (moment : Moment) : Prop where
  visited : moment.visited = found.visited
  pending : moment.pending = [] ∧ found.stopped = none ∨
    ∃ task fault rest, moment.pending = .call task :: rest ∧
      world.find task = .invalidAddress fault ∧ found.stopped = some fault

/-- The steps of a run lead to its end. -/
theorem Runs.comes {visited : Option (List Text)} {items : List Item} {found : Expansion}
    (h : world.Runs visited items found) :
    ∃ last, world.Comes ⟨visited, items⟩ last ∧ world.EndsAt found last := by
  induction h with
  | done visited => exact ⟨_, .refl, rfl, .inl ⟨rfl, rfl⟩⟩
  | keep hkept _ ih =>
    obtain ⟨last, hcomes, hvisited, hpending⟩ := ih
    exact ⟨last, hcomes.head (.keep hkept), hvisited, hpending⟩
  | expand hc _ ih =>
    obtain ⟨last, hcomes, hends⟩ := ih
    exact ⟨last, hcomes.head (.expand hc), hends⟩
  | found hfind _ ih =>
    obtain ⟨last, hcomes, hvisited, hpending⟩ := ih
    exact ⟨last, hcomes.head (.found hfind), hvisited, hpending⟩
  | missed hfind _ ih =>
    obtain ⟨last, hcomes, hvisited, hpending⟩ := ih
    exact ⟨last, hcomes.head (.missed hfind), hvisited, hpending⟩
  | stopped hfind => exact ⟨_, .refl, rfl, .inr ⟨_, _, _, rfl, hfind, rfl⟩⟩
  | skip hmet _ ih =>
    obtain ⟨last, hcomes, hends⟩ := ih
    exact ⟨last, hcomes.head (.skip hmet), hends⟩
  | enter hnew _ ih =>
    obtain ⟨last, hcomes, hends⟩ := ih
    exact ⟨last, hcomes.head (.enter hnew), hends⟩

/-- At the end of a run there is no next step. -/
theorem EndsAt.not_next {found : Expansion} (h : world.EndsAt found moment) :
    ¬ world.Next moment later := by
  obtain ⟨-, ⟨hpending, -⟩ | ⟨task, fault, rest, hpending, hfault, -⟩⟩ := h
  · rintro (_ | _ | _ | _ | _ | _) <;> cases hpending
  · intro hnext
    cases hnext with
    | found hfind =>
      obtain rfl := Item.call.inj (List.cons.inj hpending).1
      cases hfind.symm.trans hfault
    | missed hfind =>
      obtain rfl := Item.call.inj (List.cons.inj hpending).1
      cases hfind.symm.trans hfault
    | keep | expand | skip | enter => cases hpending

/-- Whatever comes of the start of a run is a moment before its end. -/
theorem Comes.end_of_runs (h : world.Comes moment later) {found : Expansion}
    (hruns : world.Runs moment.visited moment.pending found) :
    ∃ last, world.Comes later last ∧ world.EndsAt found last := by
  obtain ⟨last, hcomes, hends⟩ := hruns.comes
  refine ⟨last, (h.total hcomes).elim id fun hback => ?_, hends⟩
  obtain rfl | ⟨next, hnext, -⟩ := Relation.ReflTransGen.cases_head hback
  · exact .refl
  · exact absurd hnext hends.not_next

/-! ## Origins that are met -/

theorem Next.mem_visited (h : world.Next moment later) {met : List Text} {name : Text}
    (hmet : moment.visited = some met) (hname : name ∈ met) :
    ∃ now, later.visited = some now ∧ name ∈ now := by
  cases h with
  | keep | found | missed => exact ⟨met, hmet, hname⟩
  | expand | skip => exact ⟨met, hmet, hname⟩
  | @enter visited source rest hnew =>
    obtain rfl : visited = some met := hmet
    exact ⟨met ++ [source.origin.name], rfl, List.mem_append_left _ hname⟩

theorem Comes.mem_visited (h : world.Comes moment later) {met : List Text} {name : Text}
    (hmet : moment.visited = some met) (hname : name ∈ met) :
    ∃ now, later.visited = some now ∧ name ∈ now := by
  induction h with
  | refl => exact ⟨met, hmet, hname⟩
  | tail _ hnext ih =>
    obtain ⟨now, hnow, hin⟩ := ih
    exact hnext.mem_visited hnow hin

variable {met now : List Text} {source source' : Source} {rest rest' : List Item}

/-- Behind a source that is entered no other of its origin is. -/
theorem Comes.source_eq (h : world.Comes ⟨some met, .source source :: rest⟩
      ⟨some now, .source source' :: rest'⟩) (hmet : source.origin.name ∉ met)
    (hnow : source.origin.name ∉ now) : source' = source := by
  obtain heq | ⟨next, hnext, hcomes⟩ := Relation.ReflTransGen.cases_head h
  · cases heq
    rfl
  · have henter : world.Next ⟨some met, .source source :: rest⟩
        ⟨some (met ++ [source.origin.name]), source.tasks.map .line ++ rest⟩ :=
      .enter fun _ hvisited => Option.some.inj hvisited ▸ hmet
    obtain rfl := hnext.unique henter
    obtain ⟨now', hnow', hin⟩ := Comes.mem_visited hcomes rfl
      (List.mem_append_right met (List.mem_singleton_self source.origin.name))
    obtain rfl := Option.some.inj hnow'
    exact absurd hin hnow

/-- No two sources of one origin are entered. -/
theorem source_of_entered_twice (h : world.Comes moment ⟨some met, .source source :: rest⟩)
    (hmet : source.origin.name ∉ met) (h' : world.Comes moment ⟨some now, .source source' :: rest'⟩)
    (hnow : source'.origin.name ∉ now) (hname : source'.origin.name = source.origin.name) :
    source' = source := by
  obtain hcomes | hcomes := h.total h'
  · exact hcomes.source_eq hmet (hname ▸ hnow)
  · exact (hcomes.source_eq hnow (hname ▸ hmet)).symm

/-! ## What is ever pending -/

theorem Next.of_invariant {P : Item → Prop} (hP : world.Invariant P) (h : world.Next moment later)
    (hitems : ∀ item ∈ moment.pending, P item) : ∀ item ∈ later.pending, P item := by
  cases h with
  | keep | missed | skip => exact (List.forall_mem_cons.mp hitems).2
  | expand hc =>
    obtain ⟨hline, hrest⟩ := List.forall_mem_cons.mp hitems
    exact List.forall_mem_cons.mpr ⟨hP.expand hc hline, hrest⟩
  | found hfind => exact hP.forall_sources hfind hitems
  | enter => exact hP.forall_lines hitems

theorem Comes.of_invariant {P : Item → Prop} (hP : world.Invariant P) (h : world.Comes moment later)
    (hitems : ∀ item ∈ moment.pending, P item) : ∀ item ∈ later.pending, P item := by
  induction h with
  | refl => exact hitems
  | tail _ hnext ih => exact hnext.of_invariant hP ih

end World

end Taskbook
