import Mathlib.Data.List.NodupEquivFin
import Mathlib.Data.List.ReduceOption
import PlanChain.Proofs.Plan.Independence

set_option autoImplicit false

namespace PlanChain

open Canonical

-- A step of a known kind whose id has this normal form, whatever else is wrong with it.
def NamesStep (item : Json) (id : String) : Prop :=
  ∃ (members : Members) (kind : StepKind), item = .obj members ∧
    members.get? "kind" = some (.str kind.name) ∧ Grammar.TextField members "id" 256 id

-- Among the steps of a plan, one that has this id and that nothing stands against when it is alone.
def Faultless (items : List Json) (place : Nat) (id : String) : Prop :=
  ∃ item, items[place]? = some item ∧ NamesStep item id ∧ Plan.issues (lone item) = []

namespace Canonical

theorem mem_repeats_iff (ids : List String) (id : String) :
    id ∈ repeats ids ↔ ∃ earlier later : Nat, earlier < later ∧ ids[earlier]? = some id ∧ ids[later]? = some id := by
  have before (later : Nat) : (ids.take later).contains id = true ↔ ∃ earlier < later, ids[earlier]? = some id := by
    rw [List.contains_iff_mem, List.mem_iff_getElem?]
    refine exists_congr fun earlier => ?_
    by_cases front : earlier < later <;> simp [front]
  constructor
  · intro present
    obtain ⟨placed, kept, rfl⟩ := List.mem_map.mp present
    obtain ⟨found, seen⟩ := List.mem_filter.mp kept
    obtain ⟨earlier, front, isId⟩ := (before placed.2).mp seen
    exact ⟨earlier, placed.2, front, isId, List.mem_zipIdx_iff_getElem?.mp found⟩
  · rintro ⟨earlier, later, front, isId, found⟩
    refine List.mem_map.mpr ⟨(id, later), List.mem_filter.mpr ⟨?_, ?_⟩, rfl⟩
    · exact List.mem_zipIdx_iff_getElem?.mpr found
    · exact (before later).mpr ⟨earlier, front, isId⟩

theorem twice_iff {α : Type} [BEq α] [LawfulBEq α] (items : List α) (item : α) :
    (∃ earlier later : Nat, earlier < later ∧ items[earlier]? = some item ∧ items[later]? = some item) ↔
      2 ≤ items.count item := by
  rw [← List.replicate_sublist_iff, List.replicate_succ, List.replicate_one, ← List.duplicate_iff_sublist,
    List.duplicate_iff_exists_distinct_get]
  constructor
  · rintro ⟨earlier, later, front, first, second⟩
    obtain ⟨inside, isItem⟩ := List.getElem?_eq_some_iff.mp first
    obtain ⟨alsoInside, alsoItem⟩ := List.getElem?_eq_some_iff.mp second
    exact ⟨⟨earlier, inside⟩, ⟨later, alsoInside⟩, front, isItem.symm, alsoItem.symm⟩
  · rintro ⟨earlier, later, front, first, second⟩
    exact ⟨earlier, later, front, List.getElem?_eq_some_iff.mpr ⟨earlier.isLt, first.symm⟩,
      List.getElem?_eq_some_iff.mpr ⟨later.isLt, second.symm⟩⟩

def readIds (items : List Json) : List (Option String) :=
  (items.mapIdx fun index item => (step index item).value).map (Option.map Step.id)

theorem read_steps_ids (items : List Json) : (readSteps items).map Step.id = (readIds items).reduceOption := by
  rw [readSteps, readIds, List.reduceOption_map]

theorem faultless_iff (items : List Json) (place : Nat) (id : String) :
    Faultless items place id ↔ (readIds items)[place]? = some (some id) := by
  have clean_anywhere (item : Json) : Plan.issues (lone item) = [] ↔ (step place item).issues = [] := by
    rw [lone_issues, ← List.length_eq_zero_iff, (step_moved 0 place item).issues.length_eq, List.length_eq_zero_iff]
  rw [readIds, List.getElem?_map, List.getElem?_mapIdx]
  cases placed : items[place]? with
  | none => simp [Faultless, placed]
  | some item =>
      simp only [Option.map_some, Option.some.injEq, Option.map_eq_some_iff]
      constructor
      · rintro ⟨other, same, ⟨members, kind, rfl, -, named⟩, clean⟩
        rw [placed] at same
        cases same
        obtain ⟨found, read⟩ := (step_clean_iff place _).mp ((clean_anywhere _).mp clean)
        obtain ⟨whole, sameMembers, reads⟩ := (step_value_iff place _ found).mp read
        cases sameMembers
        exact ⟨found, read, Grammar.text_field_unique members "id" 256 found.id id reads.id named⟩
      · rintro ⟨found, read, rfl⟩
        obtain ⟨members, rfl, reads⟩ := (step_value_iff place item found).mp read
        exact ⟨_, placed, ⟨members, found.kind, rfl, reads.tag, reads.id⟩,
          (clean_anywhere _).mpr (read_step_clean place _ found read)⟩

theorem moved_from (here there : String) (issues moved : List Issue)
    (isMoved : List.Forall₂ (Issue.Moved here there) issues moved) (issue : Issue) (present : issue ∈ issues) :
    ∃ rest, issue.path = here ++ rest := by
  induction isMoved with
  | nil => cases present
  | cons head _ ih =>
      rcases List.mem_cons.mp present with rfl | later
      · obtain ⟨rest, path, -⟩ := head.path
        exact ⟨rest, path⟩
      · exact ih later

theorem frame_tells_no_repetition (members : Members) (steps : Json) (given : members.get? "steps" = some steps)
    (id : String) :
    repetition id ∉ frameIssues (members.map (·.1)) (members.get? "planId") (members.get? "version") := by
  rw [frame_by_part members steps given]
  intro present
  rcases List.mem_append.mp present with inFront | ofVersion
  · rcases List.mem_append.mp inFront with ofNames | ofId
    · rw [unsupported] at ofNames
      split at ofNames
      · cases ofNames
      · cases List.mem_singleton.mp ofNames
    · have moved := text_moved "plan.planId" "" "" idLimit (members.get? "planId")
      obtain ⟨rest, path⟩ := moved_from _ _ _ _ moved.issues _ ofId
      have chars := congrArg String.toList path
      simp [repetition] at chars
  · rw [version] at ofVersion
    split at ofVersion
    · cases ofVersion
    · cases List.mem_singleton.mp ofVersion

theorem steps_tell_no_repetition (items : List Json) (id : String) : repetition id ∉ (ownIssues items).flatten := by
  intro present
  obtain ⟨issues, own, isIssue⟩ := List.mem_flatten.mp present
  obtain ⟨place, _, rfl⟩ := List.mem_mapIdx.mp own
  obtain ⟨rest, path⟩ := moved_from _ _ _ _ (step_moved place place _).issues _ isIssue
  have chars := congrArg String.toList path
  simp [repetition, Policy.stepPath] at chars

theorem repetition_injective (first second : String) (same : repetition first = repetition second) :
    first = second := by
  have messages := congrArg (fun issue => issue.message.toList) same
  exact String.toList_inj.mp (by simpa [repetition] using messages)

end Canonical

-- An id is told to be repeated when two steps have it that have no other fault, and then whatever other issues the
-- plan and its steps have.
theorem repeated_id_told_iff (members : Members) (items : List Json) (given : members.get? "steps" = some (.arr items))
    (id : String) :
    repetition id ∈ Plan.issues (.obj members) ↔
      ∃ earlier later, earlier < later ∧ Faultless items earlier id ∧ Faultless items later id := by
  have among : repetition id ∈ Plan.issues (.obj members) ↔ id ∈ repeats ((readSteps items).map Step.id) := by
    rw [issues_in_order members items given, List.mem_append, List.mem_append]
    constructor
    · rintro ((ofFrame | ofSteps) | told)
      · exact (frame_tells_no_repetition members _ given id ofFrame).elim
      · exact (steps_tell_no_repetition items id ofSteps).elim
      · obtain ⟨other, repeated, same⟩ := List.mem_map.mp told
        exact repetition_injective other id same ▸ repeated
    · exact fun repeated => .inr (List.mem_map.mpr ⟨id, repeated, rfl⟩)
  have counted : ((readSteps items).map Step.id).count id = (readIds items).count (some id) := by
    rw [read_steps_ids, List.reduceOption, List.count_filterMap, List.count]
    rfl
  simp only [among, mem_repeats_iff, twice_iff, counted, faultless_iff]

theorem repetition_told_amid_faults :
    (faulty keyless).get? "steps" = some (.arr [keyless, logged "a", kindless, logged " a"]) ∧
      repetition "a" ∈ Plan.issues (.obj (faulty keyless)) := by
  have good (place : Nat) (text : String)
      (placed : [keyless, logged "a", kindless, logged " a"][place]? = some (logged text))
      (named : Text.normalize text = "a") (clean : Plan.issues (lone (logged text)) = []) :
      Faultless [keyless, logged "a", kindless, logged " a"] place "a" :=
    ⟨_, placed, ⟨_, .appendLog, rfl, rfl, text, rfl, named, by decide, by decide⟩, clean⟩
  exact ⟨rfl, (repeated_id_told_iff (faulty keyless) _ rfl "a").mpr
    ⟨1, 3, by decide, good 1 "a" rfl (by decide +kernel) (by decide +kernel),
      good 3 " a" rfl (by decide +kernel) (by decide +kernel)⟩⟩

def shadowed : Members := [("planId", .str "p1"), ("steps", .arr [keyless, logged " k"]), ("version", .ofInt 1)]

-- Not every repeated id is told: that the first step has no key is all that is said of this plan.
theorem shadowed_repetition_untold :
    ¬ ∀ (members : Members) (items : List Json), members.get? "steps" = some (.arr items) →
      ∀ (first second : Nat) (one other : Json) (id : String), first ≠ second → items[first]? = some one →
        items[second]? = some other → NamesStep one id → NamesStep other id →
          ∃ issue ∈ Plan.issues (.obj members), issue.code = .duplicateStepId ∧
            issue.message = (repetition id).message := by
  intro told
  have named : NamesStep keyless "k" := ⟨_, .set, rfl, rfl, "k", rfl, by decide +kernel, by decide, by decide⟩
  have alsoNamed : NamesStep (logged " k") "k" :=
    ⟨_, .appendLog, rfl, rfl, " k", rfl, by decide +kernel, by decide, by decide⟩
  obtain ⟨issue, present, isRepetition, -⟩ :=
    told shadowed _ rfl 0 1 keyless (logged " k") "k" (by decide) rfl rfl named alsoNamed
  have only : Plan.issues (.obj shadowed) =
      [⟨.expectedString, "steps[0].key", "steps[0].key must be a string"⟩] := by decide +kernel
  rw [only, List.mem_singleton] at present
  rw [present] at isRepetition
  cases isRepetition

end PlanChain
