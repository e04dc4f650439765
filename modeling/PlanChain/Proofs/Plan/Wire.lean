import PlanChain.Plan.Wire

set_option autoImplicit false

namespace PlanChain

theorem required_found {α : Type} (members : Members) (name : String) (value : Json) (decode : Json → Option α)
    (found : members.get? name = some value) : members.required name decode = decode value := by
  rw [Members.required, found, Option.bind_some]

@[simp] theorem written_int64 (value : Int64) : (Json.ofInt64 value).int64? = some value := by
  have inRange : Int64.minValue.toInt ≤ value.toInt ∧ value.toInt ≤ Int64.maxValue.toInt :=
    ⟨Int64.le_iff_toInt_le.mp (Int64.minValue_le value), Int64.le_iff_toInt_le.mp (Int64.le_maxValue value)⟩
  have read : (Json.ofInt64 value).int64? = Word.int64? value.toInt := rfl
  rw [read, Word.int64?, if_pos inRange, Int64.ofInt_toInt]

@[simp] theorem written_uint32 (value : UInt32) : (Json.ofUInt32 value).uint32? = some value := by
  have inRange : (0 : Int) ≤ value.toNat ∧ (value.toNat : Int) < UInt32.size :=
    ⟨Int.natCast_nonneg _, Int.ofNat_lt.mpr value.toNat_lt_size⟩
  have read : (Json.ofUInt32 value).uint32? = Word.uint32? value.toNat := by
    rw [Json.ofUInt32, Json.ofNat, Json.uint32?, Json.int?, Option.bind_some]
  have same : UInt32.ofNat (value.toNat : Int).toNat = value := UInt32.ofNat_toNat
  rw [read, Word.uint32?, if_pos inRange, same]

@[simp] theorem written_kind (kind : StepKind) : StepKind.ofTag? kind.toJson = some kind := by
  cases kind <;> decide

theorem written_action (action : Action) (id kind : Json) :
    Action.ofMembers? action.kind (("id", id) :: ("kind", kind) :: action.members) = some action := by
  cases action with
  | set key value => rfl
  | increment key amount =>
      have amountRead := written_int64 amount
      simp [Action.kind, Action.members, Action.ofMembers?, Members.required, Members.get?, Json.string?, amountRead]
  | appendLog line => rfl
  | sandbox session call => cases call <;> rfl

theorem written_step (step : Step) : Step.ofJson? step.toJson = some step := by
  have actionRead := written_action step.action (.str step.id) step.kind.toJson
  have kindRead := written_kind step.kind
  rw [← Step.kind] at actionRead
  simp [Step.ofJson?, Step.toJson, Json.members?, Members.required, Members.get?, kindRead, actionRead, Json.string?]

theorem written_steps (steps : List Step) : (steps.map Step.toJson).mapM Step.ofJson? = some steps := by
  induction steps with
  | nil => rfl
  | cons step rest ih => simp [written_step, ih]

theorem plan_decodes (members : Members) (plan : Plan)
    (planId : members.required "planId" Json.string? = some plan.planId)
    (version : members.required "version" Json.uint32? = some plan.version)
    (steps : members.required "steps" (Json.list? Step.ofJson?) = some plan.steps) :
    Plan.ofJson? (.obj members) = some plan := by
  simp [Plan.ofJson?, Json.record?, planId, version, steps]

theorem written_plan (plan : Plan) : Plan.ofJson? plan.toJson = some plan := by
  apply plan_decodes
  · rfl
  · rw [required_found _ "version" _ _ rfl, written_uint32]
  · rw [required_found _ "steps" _ _ rfl, Json.list?, Json.items?, Option.bind_some, written_steps]

end PlanChain
