import PlanChain.Proofs.Json.Order
import PlanChain.Proofs.Plan.Wire
import PlanChain.Trace

set_option autoImplicit false

namespace PlanChain

namespace StepKind

theorem name_injective (a b : StepKind) (same : a.name = b.name) : a = b := by
  have distinct : ∀ a ∈ all, ∀ b ∈ all, a.name = b.name → a = b := by decide
  have listed : ∀ kind : StepKind, kind ∈ all := by
    intro kind
    cases kind <;> decide
  exact distinct a (listed a) b (listed b) same

def viewNames (kind : StepKind) : List String :=
  ["id", "kind", "key", "value"] ++
    if kind.isSandbox then ["sessionId", "url", "selector", "text", "outputKey"] else []

theorem view_names_distinct (kind : StepKind) : kind.viewNames.Nodup := by
  cases kind <;> decide

end StepKind

namespace Step

theorem view_members (step : Step) :
    ∃ members : Members, step.view = .obj members ∧ members.map (·.1) = step.kind.viewNames ∧
      members.get? "kind" = some step.kind.toJson ∧ ∀ member ∈ members, member.2.Plain := by
  obtain ⟨id, action⟩ := step
  cases action with
  | set key value => exact ⟨_, rfl, rfl, rfl, by simp [Json.Plain, Json.ofOption, StepKind.toJson, Action.key?]⟩
  | increment key amount =>
      exact ⟨_, rfl, rfl, rfl, by
        simp [Json.Plain, Json.ofOption, StepKind.toJson, Action.key?, Json.ofInt64, Json.ofInt]⟩
  | appendLog line => exact ⟨_, rfl, rfl, rfl, by simp [Json.Plain, Json.ofOption, StepKind.toJson, Action.key?]⟩
  | sandbox session call =>
      cases call with
      | _ =>
          exact ⟨_, rfl, rfl, rfl, by
            simp [Json.Plain, Json.ofOption, StepKind.toJson, Action.key?, SandboxAction.url?,
              SandboxAction.selector?, SandboxAction.text?, SandboxAction.outputKey?]⟩

theorem view_whole (step : Step) : step.view.Whole := by
  obtain ⟨members, isView, -, -, plain⟩ := step.view_members
  rw [isView]
  exact (Json.whole_members_iff members).mpr fun member present => Json.plain_whole _ (plain member present)

theorem view_kind (a b : Step) (same : a.view.sortMembers = b.view.sortMembers) : a.kind = b.kind := by
  obtain ⟨membersA, viewA, -, kindA, plainA⟩ := a.view_members
  obtain ⟨membersB, viewB, -, kindB, plainB⟩ := b.view_members
  rw [viewA, viewB] at same
  have found : (membersA.get? "kind").map Json.sortMembers = (membersB.get? "kind").map Json.sortMembers := by
    rw [← Json.sort_get?, Json.obj.inj same, Json.sort_get?]
  rw [kindA, kindB] at found
  exact StepKind.name_injective _ _ (Json.str.inj (Option.some.inj found))

theorem view_determined (a b : Step) (same : a.view.sortMembers = b.view.sortMembers) : a.view = b.view := by
  have sameKind := view_kind a b same
  obtain ⟨membersA, viewA, namesA, -, plainA⟩ := a.view_members
  obtain ⟨membersB, viewB, namesB, -, plainB⟩ := b.view_members
  have names : membersA.map (·.1) = membersB.map (·.1) := by rw [namesA, namesB, sameKind]
  have distinct : (membersA.map (·.1)).Nodup := namesA ▸ a.kind.view_names_distinct
  rw [viewA, viewB] at same ⊢
  rw [Json.object_determined membersA membersB names distinct
    (fun member present => Json.plain_settled member.2 (plainA member present))
    (fun member present => Json.plain_settled member.2 (plainB member present)) (Json.obj.inj same)]

def texts (step : Step) : List String :=
  step.id :: match step.action with
    | .set key value => [key, value]
    | .increment key _ => [key]
    | .appendLog line => [line]
    | .sandbox session (.visit url) => [session, url]
    | .sandbox session (.click selector) => [session, selector]
    | .sandbox session (.enter selector text) => [session, selector, text]
    | .sandbox session (.extract selector outputKey) => [session, selector, outputKey]

def InFormC (step : Step) : Prop := ∀ text ∈ step.texts, Text.nfc text = text

-- The names in a view are those of a written step, so a step whose texts are in form C is decoded from its view.
theorem view_decodes (step : Step) (form : step.InFormC) : ofJson? step.view = some step := by
  obtain ⟨id, action⟩ := step
  cases action with
  | set key value =>
      simp only [InFormC, texts, List.forall_mem_cons] at form
      simp [view, ofJson?, Json.members?, Members.required, Members.get?, Json.ofOption, Json.string?, kind,
        Action.kind, Action.key?, Action.ofMembers?, form]
  | increment key amount =>
      simp only [InFormC, texts, List.forall_mem_cons] at form
      simp [view, ofJson?, Json.members?, Members.required, Members.get?, Json.ofOption, Json.string?, kind,
        Action.kind, Action.key?, Action.ofMembers?, form]
  | appendLog line =>
      simp only [InFormC, texts, List.forall_mem_cons] at form
      simp [view, ofJson?, Json.members?, Members.required, Members.get?, Json.ofOption, Json.string?, kind,
        Action.kind, Action.key?, Action.ofMembers?, form]
  | sandbox session call =>
      cases call <;> simp only [InFormC, texts, List.forall_mem_cons] at form <;>
        simp [view, ofJson?, Json.members?, Members.required, Members.get?, Json.ofOption, Json.string?, kind,
          Action.kind, SandboxAction.kind, SandboxAction.url?, SandboxAction.selector?, SandboxAction.text?,
          SandboxAction.outputKey?, Action.ofMembers?, form]

theorem view_injective (a b : Step) (formA : a.InFormC) (formB : b.InFormC) (same : a.view = b.view) : a = b := by
  have decoded := congrArg ofJson? same
  rw [view_decodes a formA, view_decodes b formB] at decoded
  exact Option.some.inj decoded

end Step

namespace State

theorem view_members (state : State) :
    ∃ members : Members, state.view = .obj members ∧ members.map (·.1) = ["counters", "values", "logs"] ∧
      ∀ member ∈ members, member.2.Whole ∧ member.2.sortMembers = member.2 := by
  refine ⟨_, rfl, rfl, ?_⟩
  simp only [List.forall_mem_cons]
  refine ⟨⟨?_, ?_⟩, ⟨?_, ?_⟩, ⟨?_, ?_⟩, by simp⟩
  · exact Json.table_whole _ _ fun _ => trivial
  · exact Json.table_stays _ _ fun _ => rfl
  · exact Json.table_whole _ _ fun _ => trivial
  · exact Json.table_stays _ _ fun _ => rfl
  · refine (Json.whole_items_iff _).mpr fun item present => ?_
    obtain ⟨line, -, same⟩ := List.mem_map.mp present
    rw [← same]
    trivial
  · refine Json.items_stay _ fun item present => ?_
    obtain ⟨line, -, same⟩ := List.mem_map.mp present
    rw [← same]
    rfl

theorem view_whole (state : State) : state.view.Whole := by
  obtain ⟨members, isView, -, each⟩ := state.view_members
  rw [isView]
  exact (Json.whole_members_iff members).mpr fun member present => (each member present).1

theorem view_determined (a b : State) (same : a.view.sortMembers = b.view.sortMembers) : a.view = b.view := by
  obtain ⟨membersA, viewA, namesA, eachA⟩ := a.view_members
  obtain ⟨membersB, viewB, namesB, eachB⟩ := b.view_members
  rw [viewA, viewB] at same ⊢
  have distinct : (membersA.map (·.1)).Nodup := by
    rw [namesA]
    decide
  rw [Json.object_determined membersA membersB (namesA.trans namesB.symm) distinct
    (fun member present => (eachA member present).2) (fun member present => (eachB member present).2)
    (Json.obj.inj same)]

end State

end PlanChain
