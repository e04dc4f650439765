import Mathlib.Data.List.Basic
import PlanChain.Plan.Canonical
import PlanChain.Proofs.Json.Order
import PlanChain.Proofs.Plan.Wire

/-! What is hashed has its members in another order than a plan is written in, but decoding does not see
order; so two plans of one text are decoded from one document. -/

set_option autoImplicit false

namespace PlanChain

variable {α : Type}

-- A decoder is blind when sorting a document changes nothing for it.
def Json.Blind (decode : Json → Option α) : Prop := ∀ json, decode json.sortMembers = decode json

namespace Json

theorem int_blind : Blind int? := by
  intro json
  cases json <;> rfl

theorem string_blind : Blind string? := by
  intro json
  cases json <;> rfl

theorem int64_blind : Blind int64? := by
  intro json
  rw [int64?, int64?, int_blind json]

theorem uint32_blind : Blind uint32? := by
  intro json
  rw [uint32?, uint32?, int_blind json]

theorem list_blind (decode : Json → Option α) (blind : Blind decode) : Blind (list? decode) := by
  intro json
  cases json with
  | arr items =>
      have same : decode ∘ sortMembers = decode := funext blind
      rw [sortMembers, sort_items_map, list?, list?, items?, items?, Option.bind_some, Option.bind_some,
        List.mapM_map, same]
  | _ => rfl

theorem required_blind (members : Members) (name : String) (decode : Json → Option α) (blind : Blind decode) :
    Members.required (sortEach members) name decode = members.required name decode := by
  rw [Members.required, Members.required, sort_get?]
  cases members.get? name with
  | none => rfl
  | some value => exact blind value

end Json

open Json

theorem tag_blind : Blind StepKind.ofTag? := by
  intro json
  cases json <;> rfl

theorem action_blind (kind : StepKind) (members : Members) :
    Action.ofMembers? kind (sortEach members) = Action.ofMembers? kind members := by
  have text (name : String) := required_blind members name string? string_blind
  have amount := required_blind members "value" int64? int64_blind
  cases kind <;> simp only [Action.ofMembers?, text, amount]

theorem step_blind : Blind Step.ofJson? := by
  intro json
  cases json with
  | obj members =>
      have kind := required_blind members "kind" StepKind.ofTag? tag_blind
      have id := required_blind members "id" string? string_blind
      simp only [Step.ofJson?, sortMembers, members?, Option.bind_eq_bind, Option.bind_some, kind, id, action_blind]
  | _ => rfl

theorem plan_blind (members : Members) : Plan.ofJson? (obj members).sortMembers = Plan.ofJson? (.obj members) := by
  have planId := required_blind members "planId" string? string_blind
  have version := required_blind members "version" uint32? uint32_blind
  have steps := required_blind members "steps" (list? Step.ofJson?) (list_blind Step.ofJson? step_blind)
  simp only [Plan.ofJson?, sortMembers, record?, Option.bind_eq_bind, Option.bind_some, planId, version, steps]

namespace Plan

theorem action_plain (action : Action) : ∀ member ∈ action.members, member.2.Plain := by
  cases action with
  | sandbox session call => cases call <;> simp [Action.members, Plain]
  | _ => simp [Action.members, Plain, Json.ofInt64, Json.ofInt]

theorem step_whole (step : Step) : step.toJson.Whole := by
  refine (whole_members_iff _).mpr fun member present => plain_whole _ ?_
  rcases List.mem_cons.mp present with rfl | kindOrField
  · trivial
  · rcases List.mem_cons.mp kindOrField with rfl | field
    · trivial
    · exact action_plain step.action member field

theorem whole (plan : Plan) : plan.toJson.Whole := by
  refine (whole_members_iff _).mpr ?_
  simp only [List.forall_mem_cons]
  refine ⟨trivial, trivial, (whole_items_iff _).mpr fun item present => ?_, by simp⟩
  obtain ⟨step, -, same⟩ := List.mem_map.mp present
  rw [← same]
  exact step_whole step

theorem text_injective (a b : Plan) (same : a.text = b.text) : a = b := by
  have sorted : a.toJson.sortMembers = b.toJson.sortMembers := canonical_sorted _ _ a.whole b.whole same
  have decoded : Plan.ofJson? a.toJson = Plan.ofJson? b.toJson := by
    rw [Plan.toJson, Plan.toJson] at sorted ⊢
    rw [← plan_blind, sorted, plan_blind]
  rw [written_plan, written_plan] at decoded
  exact Option.some.inj decoded

end Plan

end PlanChain
