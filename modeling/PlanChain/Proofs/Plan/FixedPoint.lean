import PlanChain.Proofs.Plan.Canonical
import PlanChain.Proofs.Plan.Wire
import PlanChain.Proofs.Text.Stability
import PlanChain.Sample

set_option autoImplicit false

namespace PlanChain

open Grammar

theorem text_field_again (members written : Members) (name other : String) (limit : Nat) (normal : String)
    (field : TextField members name limit normal) (read : written.get? other = some (.str normal)) :
    TextField written other limit normal := by
  obtain ⟨raw, -, isNormal, positive, bound⟩ := field
  have stable : Text.normalize normal = normal := by rw [← isNormal, Text.normalize_idempotent]
  exact ⟨normal, read, stable, positive, bound⟩

theorem whole_field_written (written : Members) (name : String) (whole : Int)
    (read : written.get? name = some (.ofInt whole)) : WholeField written name whole :=
  ⟨.int whole, read, rfl⟩

theorem written_action_reads (members : Members) (action : Action) (id kind : Json)
    (reads : ReadsAction members action) :
    ReadsAction (("id", id) :: ("kind", kind) :: action.members) action := by
  cases action with
  | set key value =>
      exact ⟨text_field_again members _ "key" _ 256 key reads.1 rfl,
        text_field_again members _ "value" _ 4096 value reads.2 rfl⟩
  | increment key amount =>
      exact ⟨text_field_again members _ "key" _ 256 key reads.1 rfl,
        whole_field_written _ "value" amount.toInt rfl, reads.2.2⟩
  | appendLog line => exact text_field_again members _ "value" _ 4096 line reads rfl
  | sandbox session call =>
      cases call with
      | visit url =>
          exact ⟨text_field_again members _ "sessionId" _ 256 session reads.1 rfl,
            text_field_again members _ "url" _ 2048 url reads.2.1 rfl, reads.2.2⟩
      | click selector =>
          exact ⟨text_field_again members _ "sessionId" _ 256 session reads.1 rfl,
            text_field_again members _ "selector" _ 512 selector reads.2 rfl⟩
      | enter selector text =>
          exact ⟨text_field_again members _ "sessionId" _ 256 session reads.1 rfl,
            text_field_again members _ "selector" _ 512 selector reads.2.1 rfl,
            text_field_again members _ "text" _ 4096 text reads.2.2 rfl⟩
      | extract selector outputKey =>
          exact ⟨text_field_again members _ "sessionId" _ 256 session reads.1 rfl,
            text_field_again members _ "selector" _ 512 selector reads.2.1 rfl,
            text_field_again members _ "outputKey" _ 256 outputKey reads.2.2 rfl⟩

-- What is written for a step are the fields its kind uses, and no others.
theorem written_fields (action : Action) :
    "id" :: "kind" :: action.members.map (·.1) = usedFields action.kind := by
  cases action with
  | sandbox session call => cases call <;> rfl
  | _ => rfl

theorem written_step_reads (item : Json) (step : Step) (reads : ReadsItem item step) :
    ReadsItem step.toJson step := by
  obtain ⟨members, -, readsStep⟩ := reads
  refine ⟨_, rfl, rfl, ?_, ?_, written_action_reads members step.action _ _ readsStep.action⟩
  · intro member present
    have named : member.1 ∈ "id" :: "kind" :: step.action.members.map (·.1) :=
      List.mem_map_of_mem (f := Prod.fst) present
    rwa [written_fields] at named
  · exact text_field_again members _ "id" _ 256 step.id readsStep.id rfl

theorem written_steps_read (items : List Json) (steps : List Step)
    (reads : List.Forall₂ ReadsItem items steps) :
    List.Forall₂ ReadsItem (steps.map Step.toJson) steps := by
  induction reads with
  | nil => exact .nil
  | cons head _ ih => exact .cons (written_step_reads _ _ head) ih

theorem written_plan_reads (members : Members) (plan : Plan) (reads : ReadsPlan members plan) :
    ∃ written, plan.toJson = .obj written ∧ ReadsPlan written plan := by
  obtain ⟨items, -, itemsRead⟩ := reads.steps
  have current : plan.version = 1 := reads.version.2
  refine ⟨_, rfl, ?_, ?_, ⟨?_, current⟩, ?_, reads.distinct⟩
  · intro member present
    have named : member.1 ∈ ["planId", "version", "steps"] :=
      List.mem_map_of_mem (f := Prod.fst) present
    exact named
  · exact text_field_again members _ "planId" _ 256 plan.planId reads.planId rfl
  · rw [current]
    exact whole_field_written _ "version" 1 rfl
  · exact ⟨plan.steps.map Step.toJson, rfl, written_steps_read items plan.steps itemsRead⟩

theorem canonical_plan_is_fixed (raw : Json) (plan : Plan) (accepted : Plan.canonical raw = .ok plan) :
    plan.recanonical = .ok plan ∧ Plan.ofJson? plan.toJson = some plan := by
  obtain ⟨members, -, reads⟩ := (canonical_ok_iff raw plan).mp accepted
  have again := (canonical_ok_iff plan.toJson plan).mpr (written_plan_reads members plan reads)
  exact ⟨again, written_plan plan⟩

def padded : Json := Sample.plan " p1" [Sample.stepOf "a" (.set "k " " v"), Sample.stepOf "b" (.increment "n" 2)]

def unpadded : Plan := ⟨"p1", 1, [⟨"a", .set "k" "v"⟩, ⟨"b", .increment "n" 2⟩]⟩

theorem unpadded_plan_is_fixed : Plan.canonical padded = .ok unpadded ∧
    unpadded.recanonical = .ok unpadded ∧ Plan.ofJson? unpadded.toJson = some unpadded := by
  have accepted : Plan.canonical padded = .ok unpadded := rfl
  exact ⟨accepted, canonical_plan_is_fixed padded unpadded accepted⟩

end PlanChain
