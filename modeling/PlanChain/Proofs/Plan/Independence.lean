import Mathlib.Data.List.Forall2
import Mathlib.Data.List.ReduceOption
import PlanChain.Proofs.Json.Survival
import PlanChain.Proofs.Plan.Canonical

set_option autoImplicit false

namespace PlanChain

open Canonical

variable {α β γ : Type}

def Plan.issues (raw : Json) : List Issue :=
  match Plan.canonical raw with
  | .ok _ => []
  | .error issues => issues

structure Issue.Moved (here there : String) (issue moved : Issue) : Prop where
  code : issue.code = moved.code
  path : ∃ rest, issue.path = here ++ rest ∧ moved.path = there ++ rest
  message : ∃ rest, issue.message = here ++ rest ∧ moved.message = there ++ rest

theorem Issue.placed_moved (here there : String) (code : IssueCode) (told : String) :
    Issue.Moved here there ⟨code, here, here ++ told⟩ ⟨code, there, there ++ told⟩ :=
  ⟨rfl, ⟨"", String.append_empty.symm, String.append_empty.symm⟩, ⟨told, rfl, rfl⟩⟩

structure Checked.Moved (here there : String) (checked moved : Checked α) : Prop where
  issues : List.Forall₂ (Issue.Moved here there) checked.issues moved.issues
  value : checked.value = moved.value

namespace Checked

variable (here there : String)

theorem accept_moved (value : α) : (accept value).Moved here there (accept value) := ⟨.nil, rfl⟩

theorem reject_moved (code : IssueCode) (path message : String) :
    (reject code (here ++ path) (here ++ message) : Checked α).Moved here there
      (reject code (there ++ path) (there ++ message)) :=
  ⟨.cons ⟨rfl, ⟨path, rfl, rfl⟩, ⟨message, rfl, rfl⟩⟩ .nil, rfl⟩

theorem both_moved (combine : α → β → γ) (first first' : Checked α) (second second' : Checked β)
    (firstMoved : first.Moved here there first') (secondMoved : second.Moved here there second') :
    (both combine first second).Moved here there (both combine first' second') :=
  ⟨List.rel_append firstMoved.issues secondMoved.issues, by rw [both, both, firstMoved.value, secondMoved.value]⟩

theorem map_moved (change : α → β) (checked moved : Checked α) (isMoved : checked.Moved here there moved) :
    (map change checked).Moved here there (map change moved) :=
  ⟨isMoved.issues, by rw [map, map, isMoved.value]⟩

theorem following_moved (issues issues' : List Issue) (checked moved : Checked α)
    (issuesMoved : List.Forall₂ (Issue.Moved here there) issues issues') (isMoved : checked.Moved here there moved) :
    (following issues checked).Moved here there (following issues' moved) :=
  ⟨List.rel_append issuesMoved isMoved.issues, isMoved.value⟩

theorem withheld_moved (checked moved : Checked α) (isMoved : checked.Moved here there moved) :
    Moved here there ⟨checked.issues, if checked.issues.isEmpty then checked.value else none⟩
      ⟨moved.issues, if moved.issues.isEmpty then moved.value else none⟩ := by
  obtain ⟨issues, value⟩ := checked
  obtain ⟨otherIssues, otherValue⟩ := moved
  obtain ⟨each, same⟩ := isMoved
  refine ⟨each, ?_⟩
  cases each with
  | nil => exact same
  | cons head rest => rfl

theorem withheld_clean (checked : Checked α) (value : α)
    (read : (if checked.issues.isEmpty then checked.value else none) = some value) : checked.issues = [] := by
  by_cases clean : checked.issues.isEmpty = true
  · exact List.isEmpty_iff.mp clean
  · rw [if_neg clean] at read
    cases read

end Checked

namespace Canonical

section

variable (here there : String)

theorem text_moved (place : String) (limit : Nat) (value : Option Json) :
    (text (here ++ place) limit value).Moved here there (text (there ++ place) limit value) := by
  have reject (code : IssueCode) (told : String) :
      (.reject code (here ++ place) (here ++ place ++ told) : Checked String).Moved here there
        (.reject code (there ++ place) (there ++ place ++ told)) := by
    rw [String.append_assoc, String.append_assoc]
    exact Checked.reject_moved here there code place (place ++ told)
  rw [text.eq_def, text.eq_def]
  cases value with
  | none => exact reject _ _
  | some json =>
      cases json with
      | str raw =>
          dsimp only
          by_cases empty : Text.normalize raw = ""
          · rw [if_pos empty, if_pos empty]
            exact reject _ _
          · rw [if_neg empty, if_neg empty]
            by_cases long : limit < (Text.normalize raw).length
            · rw [if_pos long, if_pos long]
              have told := reject .tooLong (" exceeds max length " ++ Text.numeral limit)
              simpa only [← String.append_assoc] using told
            · rw [if_neg long, if_neg long]
              exact Checked.accept_moved here there _
      | _ => exact reject _ _

theorem url_moved (place : String) (value : Option Json) :
    (url (here ++ place) value).Moved here there (url (there ++ place) value) := by
  have moved := text_moved here there place urlLimit value
  rw [url, url, ← moved.value]
  cases read : (text (here ++ place) urlLimit value).value with
  | none => exact moved
  | some address =>
      dsimp only
      by_cases http : Policy.isHttp address = true
      · rw [if_pos http, if_pos http]
        exact moved
      · rw [if_neg http, if_neg http, String.append_assoc, String.append_assoc]
        exact Checked.reject_moved here there _ place _

theorem safe_integer_moved (place : String) (value : Option Json) :
    (safeInteger (here ++ place) value).Moved here there (safeInteger (there ++ place) value) := by
  rw [safeInteger, safeInteger]
  cases (value.bind Json.number?).bind Number.toInt? with
  | none =>
      dsimp only
      rw [String.append_assoc, String.append_assoc]
      exact Checked.reject_moved here there _ place _
  | some whole =>
      dsimp only
      by_cases safe : whole.natAbs ≤ maxSafeInteger
      · rw [if_pos safe, if_pos safe]
        exact Checked.accept_moved here there _
      · rw [if_neg safe, if_neg safe, String.append_assoc, String.append_assoc]
        exact Checked.reject_moved here there _ place _

theorem unsupported_moved (known : List String) (members : Members) :
    List.Forall₂ (Issue.Moved here there) (unsupported here known members) (unsupported there known members) := by
  rw [unsupported, unsupported]
  generalize (members.map (·.1)).filter (!known.contains ·) = extras
  cases extras with
  | nil => exact .nil
  | cons extra rest =>
      rw [String.append_assoc, String.append_assoc]
      exact .cons (Issue.placed_moved here there _ _) .nil

theorem unused_moved (kind : StepKind) (names : List String) (members : Members) :
    List.Forall₂ (Issue.Moved here there) (unused here kind names members) (unused there kind names members) := by
  rw [unused, unused]
  refine List.forall₂_map_left_iff.mpr (List.forall₂_map_right_iff.mpr (List.forall₂_same.mpr fun name _ => ?_))
  refine ⟨rfl, ⟨"." ++ name, ?_⟩, ⟨"." ++ name ++ " must not be present for " ++ kind.name, ?_⟩⟩
  · simp only [String.append_assoc, and_self]
  · simp only [String.append_assoc, and_self]

theorem action_moved (kind : StepKind) (members : Members) :
    (action here kind members).Moved here there (action there kind members) := by
  have field (name : String) (limit : Nat) :
      (text (here ++ "." ++ name) limit (members.get? name)).Moved here there
        (text (there ++ "." ++ name) limit (members.get? name)) := by
    rw [String.append_assoc, String.append_assoc]
    exact text_moved here there _ limit _
  refine Checked.following_moved here there _ _ _ _ (unused_moved here there kind _ members) ?_
  cases kind with
  | set => exact Checked.both_moved here there _ _ _ _ _ (field "key" _) (field "value" _)
  | increment =>
      exact Checked.both_moved here there _ _ _ _ _ (field "key" _) (safe_integer_moved here there ".value" _)
  | appendLog => exact Checked.map_moved here there _ _ _ (field "value" _)
  | sandboxOpen =>
      exact Checked.both_moved here there _ _ _ _ _ (field "sessionId" _)
        (Checked.map_moved here there _ _ _ (url_moved here there ".url" _))
  | sandboxClick =>
      exact Checked.both_moved here there _ _ _ _ _ (field "sessionId" _)
        (Checked.map_moved here there _ _ _ (field "selector" _))
  | sandboxType =>
      exact Checked.both_moved here there _ _ _ _ _ (field "sessionId" _)
        (Checked.both_moved here there _ _ _ _ _ (field "selector" _) (field "text" _))
  | sandboxExtract =>
      exact Checked.both_moved here there _ _ _ _ _ (field "sessionId" _)
        (Checked.both_moved here there _ _ _ _ _ (field "selector" _) (field "outputKey" _))

end

theorem step_moved (index other : Nat) (item : Json) :
    (step index item).Moved (Policy.stepPath index) (Policy.stepPath other) (step other item) := by
  rw [step, step]
  dsimp only
  cases item.members? with
  | none => exact ⟨.cons (Issue.placed_moved _ _ _ _) .nil, rfl⟩
  | some members =>
      dsimp only
      cases Policy.kindOf members with
      | none =>
          dsimp only
          rw [String.append_assoc, String.append_assoc]
          exact Checked.reject_moved _ _ _ ".kind" _
      | some kind =>
          have moved := Checked.both_moved _ _ Step.mk _ _ _ _
            (text_moved (Policy.stepPath index) (Policy.stepPath other) ".id" idLimit (members.get? "id"))
            (Checked.following_moved _ _ _ _ _ _ (unsupported_moved _ _ (knownFields kind) members)
              (action_moved (Policy.stepPath index) (Policy.stepPath other) kind members))
          exact Checked.withheld_moved _ _ _ _ moved

def contentOf (planId version : Option Json) (items : List Json) (name : String) : Json :=
  if name = "steps" then .arr items
  else if name = "planId" then planId.getD .null
  else if name = "version" then version.getD .null
  else .null

-- Members with these names, of which only the id, the version and the steps of a plan have a value.
def planOf (names : List String) (planId version : Option Json) (items : List Json) : Members :=
  names.map fun name => (name, contentOf planId version items name)

def frameIssues (names : List String) (planId version : Option Json) : List Issue :=
  Plan.issues (.obj (planOf names planId version []))

def lone (item : Json) : Json :=
  .obj (planOf ["planId", "version", "steps"] (some (.str "p")) (some (.ofInt 1)) [item])

def ownIssues (items : List Json) : List (List Issue) := items.mapIdx fun index item => (step index item).issues

def readSteps (items : List Json) : List Step :=
  (items.mapIdx fun index item => (step index item).value).reduceOption

-- The ids that stand in front of themselves already, each as often as it is repeated.
def repeats (ids : List String) : List String :=
  (ids.zipIdx.filter fun found => (ids.take found.2).contains found.1).map (·.1)

def repetition (id : String) : Issue :=
  ⟨.duplicateStepId, "plan.steps", "Duplicate step id in canonical plan: " ++ id⟩

structure SameFrame (members other : Members) : Prop where
  names : members.map (·.1) = other.map (·.1)
  planId : members.get? "planId" = other.get? "planId"
  version : members.get? "version" = other.get? "version"

theorem plan_of_get? (names : List String) (planId version : Option Json) (items : List Json) (name : String) :
    (planOf names planId version items).get? name =
      if name ∈ names then some (contentOf planId version items name) else none := by
  induction names with
  | nil => rfl
  | cons first rest ih =>
      rw [planOf] at ih ⊢
      by_cases hit : first = name
      · simp [Members.get?, hit]
      · simp [Members.get?, hit, Ne.symm hit, ih]

theorem plan_of_names (names : List String) (planId version : Option Json) (items : List Json) :
    (planOf names planId version items).map (·.1) = names := by
  rw [planOf, List.map_map]
  exact List.map_id names

theorem get?_unnamed_iff (members : Members) (name : String) :
    members.get? name = none ↔ name ∉ members.map (·.1) := by
  have present := contains_iff members name
  rw [Members.contains, ← List.mem_map (f := Prod.fst)] at present
  rw [← Option.not_isSome_iff_eq_none]
  exact not_congr present

theorem plan_of_kept (members : Members) (planId version : Option Json) (items : List Json) (name : String)
    (content : contentOf planId version items name = (members.get? name).getD .null) :
    (planOf (members.map (·.1)) planId version items).get? name = members.get? name := by
  rw [plan_of_get?, content]
  cases found : members.get? name with
  | none => rw [if_neg ((get?_unnamed_iff members name).mp found)]
  | some value => rw [if_pos (Json.get?_named members name value found), Option.getD_some]

theorem plan_of_same_frame (members : Members) (items : List Json) :
    SameFrame (planOf (members.map (·.1)) (members.get? "planId") (members.get? "version") items) members :=
  ⟨plan_of_names _ _ _ _, plan_of_kept members _ _ items "planId" rfl, plan_of_kept members _ _ items "version" rfl⟩

theorem issues_by_part (members : Members) (items : List Json) (given : members.get? "steps" = some (.arr items)) :
    Plan.issues (.obj members) =
      unsupported "plan" planFields members ++ (text "plan.planId" idLimit (members.get? "planId")).issues
        ++ version (members.get? "version") ++ (steps 0 items).flatMap (·.issues)
        ++ duplicates [] ((steps 0 items).filterMap (·.value)) := by
  have listed : stepList (members.get? "steps") =
      ((steps 0 items).flatMap (·.issues), (steps 0 items).filterMap (·.value)) := by
    rw [given]
    rfl
  rw [Plan.issues, Plan.canonical]
  simp only [Json.members?, listed]
  generalize unsupported "plan" planFields members ++ (text "plan.planId" idLimit (members.get? "planId")).issues
        ++ version (members.get? "version") ++ (steps 0 items).flatMap (·.issues)
        ++ duplicates [] ((steps 0 items).filterMap (·.value)) = all
  cases all with
  | nil => rfl
  | cons first rest => rfl

theorem steps_by_index (index : Nat) (items : List Json) :
    steps index items = (items.zipIdx index).map fun placed => step placed.2 placed.1 := by
  induction items generalizing index with
  | nil => rfl
  | cons item rest ih => rw [steps, ih, List.zipIdx_cons, List.map_cons]

theorem own_issues_flatten (items : List Json) : (steps 0 items).flatMap (·.issues) = (ownIssues items).flatten := by
  rw [steps_by_index, List.flatMap_def, List.map_map, ownIssues, List.mapIdx_eq_zipIdx_map]
  rfl

theorem read_steps_values (items : List Json) : (steps 0 items).filterMap (·.value) = readSteps items := by
  rw [steps_by_index, List.filterMap_map, readSteps, List.reduceOption, List.mapIdx_eq_zipIdx_map, List.filterMap_map]
  rfl

-- The ids seen so far are those of the steps before, whether or not they were repeated.
theorem duplicates_repeat (seen earlier : List String) (found : List Step)
    (same : ∀ id, id ∈ seen ↔ id ∈ earlier) :
    duplicates seen found =
      (((found.map Step.id).zipIdx earlier.length).filter fun placed =>
        ((earlier ++ found.map Step.id).take placed.2).contains placed.1).map fun placed => repetition placed.1 := by
  induction found generalizing seen earlier with
  | nil => rfl
  | cons step rest ih =>
      have whole : earlier ++ [step.id] ++ rest.map Step.id = earlier ++ step.id :: rest.map Step.id :=
        List.append_assoc earlier [step.id] _
      have size : (earlier ++ [step.id]).length = earlier.length + 1 := List.length_append
      rw [duplicates, List.map_cons, List.zipIdx_cons]
      by_cases repeated : step.id ∈ seen
      · have later := ih seen (earlier ++ [step.id]) fun id => by
          rw [same, List.mem_append, List.mem_singleton]
          exact ⟨.inl, fun either => either.elim (fun here => here) fun isId => isId ▸ (same _).mp repeated⟩
        rw [whole, size] at later
        have before : step.id ∈ earlier := (same _).mp repeated
        rw [if_pos repeated, later, List.filter_cons_of_pos (by simpa using before)]
        rfl
      · have later := ih (step.id :: seen) (earlier ++ [step.id]) fun id => by
          rw [List.mem_cons, same, List.mem_append, List.mem_singleton, or_comm]
        rw [whole, size] at later
        have before : step.id ∉ earlier := fun present => repeated ((same _).mpr present)
        rw [if_neg repeated, later, List.filter_cons_of_neg (by simpa using before)]

theorem duplicates_are_repetitions (found : List Step) :
    duplicates [] found = (repeats (found.map Step.id)).map repetition := by
  rw [duplicates_repeat [] [] found fun _ => Iff.rfl, repeats, List.map_map]
  rfl

theorem frame_by_part (members : Members) (steps : Json) (given : members.get? "steps" = some steps) :
    frameIssues (members.map (·.1)) (members.get? "planId") (members.get? "version") =
      unsupported "plan" planFields members ++ (text "plan.planId" idLimit (members.get? "planId")).issues
        ++ version (members.get? "version") := by
  have named := Json.get?_named members "steps" steps given
  have same := plan_of_same_frame members []
  have noSteps : (planOf (members.map (·.1)) (members.get? "planId") (members.get? "version") []).get? "steps" =
      some (.arr []) := by
    rw [plan_of_get?, if_pos named]
    rfl
  rw [frameIssues, issues_by_part _ [] noSteps, same.planId, same.version, unsupported, same.names, ← unsupported]
  simp [Canonical.steps, duplicates]

theorem issues_in_order (members : Members) (items : List Json) (given : members.get? "steps" = some (.arr items)) :
    Plan.issues (.obj members) =
      frameIssues (members.map (·.1)) (members.get? "planId") (members.get? "version")
        ++ (ownIssues items).flatten ++ (repeats ((readSteps items).map Step.id)).map repetition := by
  rw [issues_by_part members items given, frame_by_part members _ given, own_issues_flatten, read_steps_values,
    duplicates_are_repetitions]

theorem lone_issues (item : Json) : Plan.issues (lone item) = (step 0 item).issues := by
  have clean : frameIssues planFields (some (.str "p")) (some (.ofInt 1)) = [] := rfl
  have alone : duplicates [] (readSteps [item]) = [] := by
    rw [readSteps, List.mapIdx_cons, List.mapIdx_nil]
    cases (step 0 item).value <;> rfl
  rw [duplicates_are_repetitions] at alone
  have parts := issues_in_order (planOf planFields (some (.str "p")) (some (.ofInt 1)) [item]) [item] rfl
  rw [alone, List.append_nil, plan_of_names] at parts
  refine parts.trans ?_
  change frameIssues planFields (some (.str "p")) (some (.ofInt 1)) ++ (ownIssues [item]).flatten = _
  rw [clean, List.nil_append, ownIssues, List.mapIdx_cons, List.mapIdx_nil]
  exact List.append_nil _

theorem read_step_clean (index : Nat) (item : Json) (found : Step) (read : (step index item).value = some found) :
    (step index item).issues = [] := by
  cases isObject : item.members? with
  | none => simp [step, isObject, Checked.reject] at read
  | some members =>
      cases isKind : Policy.kindOf members with
      | none => simp [step, isObject, isKind, Checked.reject] at read
      | some kind =>
          simp only [step, isObject, isKind] at read ⊢
          exact Checked.withheld_clean _ found read

theorem step_value_iff (index : Nat) (item : Json) (found : Step) :
    (step index item).value = some found ↔ Grammar.ReadsItem item found := by
  have reads := step_reads index item
  refine ⟨fun read => ?_, fun isRead => (reads.complete found isRead).2⟩
  obtain ⟨other, same, isRead⟩ := reads.sound (read_step_clean index item found read)
  rw [read] at same
  cases same
  exact isRead

theorem step_clean_iff (index : Nat) (item : Json) :
    (step index item).issues = [] ↔ ∃ found, (step index item).value = some found :=
  ⟨fun clean => ((step_reads index item).sound clean).imp fun _ both => both.1,
    fun ⟨found, read⟩ => read_step_clean index item found read⟩

end Canonical

theorem steps_are_checked_independently (members : Members) (items : List Json)
    (given : members.get? "steps" = some (.arr items)) :
    Plan.issues (.obj members) =
        frameIssues (members.map (·.1)) (members.get? "planId") (members.get? "version")
          ++ (ownIssues items).flatten ++ (repeats ((readSteps items).map Step.id)).map repetition ∧
      (∀ index item,
        List.Forall₂ (Issue.Moved (Policy.stepPath 0) (Policy.stepPath index)) (Plan.issues (lone item))
            (step index item).issues ∧
          ((step index item).issues = [] ↔ ∃ found, (step index item).value = some found) ∧
          ∀ found, (step index item).value = some found ↔ Grammar.ReadsItem item found) ∧
      ∀ place edited other, SameFrame other members → other.get? "steps" = some (.arr (items.set place edited)) →
        ∃ repeated : List Issue, (∀ issue ∈ repeated, issue.code = .duplicateStepId) ∧
          Plan.issues (.obj other) =
            frameIssues (members.map (·.1)) (members.get? "planId") (members.get? "version")
              ++ ((ownIssues items).set place (step place edited).issues).flatten ++ repeated := by
  refine ⟨issues_in_order members items given, fun index item => ⟨?_, ?_⟩, ?_⟩
  · rw [lone_issues]
    exact (step_moved 0 index item).issues
  · exact ⟨step_clean_iff index item, step_value_iff index item⟩
  · intro place edited other same otherGiven
    refine ⟨(repeats ((readSteps (items.set place edited)).map Step.id)).map repetition, ?_, ?_⟩
    · exact List.forall_mem_map.mpr fun _ _ => rfl
    · rw [issues_in_order other _ otherGiven, same.names, same.planId, same.version, ownIssues, List.mapIdx_set]
      rfl

def keyless : Json := .obj [("id", .str "k"), ("kind", .str "set"), ("value", .str "v")]

def logged (id : String) : Json := .obj [("id", .str id), ("kind", .str "append_log"), ("value", .str "x")]

def kindless : Json := .obj [("id", .str "b"), ("kind", .str "jump")]

def faulty (first : Json) : Members :=
  [("planId", .str "p1"), ("steps", .arr [first, logged "a", kindless, logged " a"]), ("version", .ofInt 1)]

theorem mended_step_leaves_issues :
    (faulty keyless).get? "steps" = some (.arr [keyless, logged "a", kindless, logged " a"]) ∧
      SameFrame (faulty (logged "k")) (faulty keyless) ∧
      Plan.issues (.obj (faulty keyless)) =
        (step 0 keyless).issues ++ (step 2 kindless).issues ++ [repetition "a"] ∧
      ∃ repeated : List Issue, (∀ issue ∈ repeated, issue.code = .duplicateStepId) ∧
        Plan.issues (.obj (faulty (logged "k"))) = (step 2 kindless).issues ++ repeated := by
  have given : (faulty keyless).get? "steps" = some (.arr [keyless, logged "a", kindless, logged " a"]) := rfl
  have same : SameFrame (faulty (logged "k")) (faulty keyless) := ⟨rfl, rfl, rfl⟩
  obtain ⟨parts, -, edits⟩ := steps_are_checked_independently (faulty keyless) _ given
  obtain ⟨repeated, only, mended⟩ := edits 0 (logged "k") (faulty (logged "k")) same rfl
  exact ⟨given, same, parts.trans rfl, repeated, only, mended.trans rfl⟩

end PlanChain
