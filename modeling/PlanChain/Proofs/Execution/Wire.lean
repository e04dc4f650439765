import PlanChain.Execution.Result
import PlanChain.Proofs.Json.Reading

set_option autoImplicit false

namespace PlanChain

open Json

theorem kind_survives : Survives StepKind.toJson StepKind.ofJson? := by
  refine plain_survives _ _ (fun _ => trivial) fun kind => ?_
  cases kind <;> decide

theorem mode_survives : Survives Mode.toJson Mode.ofJson? := by
  refine plain_survives _ _ (fun _ => trivial) fun mode => ?_
  cases mode <;> decide

theorem state_survives : Survives State.toJson State.ofJson? := by
  intro state json same
  obtain ⟨members, rfl, written⟩ := reordered_object json _ same
  have counters := written.required "counters" state.counters _ _ (table_survives _ _ int64_survives) rfl
  have values := written.required "values" state.values _ _ (table_survives _ _ string_survives) rfl
  have logs := written.required "logs" state.logs _ _ (list_survives _ _ string_survives) rfl
  simp only [State.ofJson?, record?, Option.bind_eq_bind, Option.bind_some, counters, values, logs]

theorem entry_survives : Survives TraceEntry.toJson TraceEntry.ofJson? := by
  intro entry json same
  obtain ⟨members, rfl, written⟩ := reordered_object json _ same
  have schemaVersion := written.required "traceSchemaVersion" entry.schemaVersion _ _ uint32_survives rfl
  have stepIndex := written.required "stepIndex" entry.stepIndex _ _ uint64_survives rfl
  have stepId := written.required "stepId" entry.stepId _ _ string_survives rfl
  have kind := written.required "kind" entry.kind _ _ kind_survives rfl
  have before := written.required "beforeHashLike" entry.before _ _ string_survives rfl
  have after := written.required "afterHashLike" entry.after _ _ string_survives rfl
  have previousLink := written.required "previousTraceLinkHash" entry.previousLink _ _ string_survives rfl
  have link := written.required "traceLinkHash" entry.link _ _ string_survives rfl
  have applied := written.required "applied" entry.applied _ _ bool_survives rfl
  simp only [TraceEntry.ofJson?, record?, Option.bind_eq_bind, Option.bind_some, schemaVersion, stepIndex, stepId,
    kind, before, after, previousLink, link, applied]

theorem result_survives : Survives ExecutionResult.toJson ExecutionResult.ofJson? := by
  intro result json same
  obtain ⟨members, rfl, written⟩ := reordered_object json _ same
  have planId := written.required "planId" result.planId _ _ string_survives rfl
  have planDigest := written.required "planHash" result.planDigest _ _ string_survives rfl
  have executionDigest := written.required "executionHash" result.executionDigest _ _ string_survives rfl
  have finalLink := written.required "finalTraceLinkHash" result.finalLink _ _ string_survives rfl
  have schemaVersion := written.required "traceSchemaVersion" result.schemaVersion _ _ uint32_survives rfl
  have stepsRequested := written.required "stepsRequested" result.stepsRequested _ _ uint64_survives rfl
  have stepsExecuted := written.required "stepsExecuted" result.stepsExecuted _ _ uint64_survives rfl
  have converged := written.required "converged" result.converged _ _ bool_survives rfl
  have finalState := written.required "finalState" result.finalState _ _ state_survives rfl
  have trace := written.required "trace" result.trace _ _ (list_survives _ _ entry_survives) rfl
  simp only [ExecutionResult.ofJson?, record?, Option.bind_eq_bind, Option.bind_some, planId, planDigest,
    executionDigest, finalLink, schemaVersion, stepsRequested, stepsExecuted, converged, finalState, trace]

theorem meta_survives : Survives ResponseMeta.toJson ResponseMeta.ofJson? := by
  intro info json same
  obtain ⟨members, rfl, written⟩ := reordered_object json _ same
  have mode := written.required "mode" info.mode _ _ mode_survives rfl
  have stepCount := written.optional "stepCount" info.stepCount _ _ uint64_survives
    (fun _ isNull => by cases isNull) (by cases info.stepCount <;> cases info.traceId <;> rfl)
  have traceId := written.optional "traceId" info.traceId _ _ string_survives
    (fun _ isNull => by cases isNull) (by cases info.stepCount <;> cases info.traceId <;> rfl)
  simp only [ResponseMeta.ofJson?, record?, Option.bind_eq_bind, Option.bind_some, mode, stepCount, traceId]

theorem envelope_survives (result : ExecutionResult) (info : ResponseMeta) (json : Json)
    (same : json.Reordered (ExecutionResponse.toJson (.success result info))) :
    ExecutionResponse.ofJson? json = some (.success result info) := by
  obtain ⟨members, rfl, written⟩ := reordered_object json _ same
  have ok := written.required "ok" true _ _ bool_survives rfl
  have found := written.optional "result" (some result) _ _ result_survives (fun _ => nofun) rfl
  have noError : members.optional "error" Failure.ofJson? = some none := by
    rw [Members.optional, written.missing "error" rfl]
  have isInfo := written.required "meta" info _ _ meta_survives rfl
  simp only [ExecutionResponse.ofJson?, Response.ofJson?, Response.members?, members?, Option.bind_eq_bind,
    Option.bind_some, ok, found, noError, isInfo]

-- A bare result does not pass for an envelope.
theorem bare_result_not_envelope (result : ExecutionResult) (json : Json) (same : json.Reordered result.toJson) :
    ExecutionResponse.ofJson? json = none := by
  obtain ⟨members, rfl, written⟩ := reordered_object json _ same
  have noOk : members.required "ok" bool? = none := by
    rw [Members.required, written.missing "ok" rfl, Option.bind_none]
  simp only [ExecutionResponse.ofJson?, Response.ofJson?, Response.members?, members?, Option.bind_eq_bind,
    Option.bind_some, noOk, Option.bind_none]

theorem state_writable (depth : Nat) (state : State) : Writable (depth + 2) state.toJson := by
  refine .obj (depth + 1) _ (by simp) ?_
  simp only [List.forall_mem_cons, List.not_mem_nil, false_imp_iff, implies_true, and_true]
  exact ⟨table_writable _ depth (int64_writable depth) _, table_writable _ depth (.str depth) _,
    list_writable _ depth (.str depth) _⟩

theorem entry_writable (depth : Nat) (entry : TraceEntry) : Writable (depth + 1) entry.toJson := by
  refine .obj depth _ (by simp) ?_
  simp only [List.forall_mem_cons, List.not_mem_nil, false_imp_iff, implies_true, and_true]
  exact ⟨uint32_writable depth _, uint64_writable depth _, .str depth _, .str depth _, .str depth _, .str depth _,
    .str depth _, .str depth _, .bool depth _⟩

theorem result_writable (depth : Nat) (result : ExecutionResult) : Writable (depth + 3) result.toJson := by
  refine .obj (depth + 2) _ (by simp) ?_
  simp only [List.forall_mem_cons, List.not_mem_nil, false_imp_iff, implies_true, and_true]
  exact ⟨.str _ _, .str _ _, .str _ _, .str _ _, uint32_writable _ _, uint64_writable _ _, uint64_writable _ _,
    .bool _ _, state_writable depth _, list_writable _ (depth + 1) (entry_writable depth) _⟩

theorem meta_writable (depth : Nat) (info : ResponseMeta) : Writable (depth + 1) info.toJson := by
  obtain ⟨mode, stepCount, traceId⟩ := info
  refine .obj depth _ ?_ fun member present => ?_
  · cases stepCount <;> cases traceId <;> simp [Json.present]
  · rcases List.mem_cons.mp present with rfl | later
    · exact .str depth _
    · rcases List.mem_append.mp later with counted | traced
      · cases stepCount with
        | none => cases counted
        | some stepCount =>
            rw [List.mem_singleton.mp counted]
            exact uint64_writable depth stepCount
      · cases traceId with
        | none => cases traced
        | some traceId =>
            rw [List.mem_singleton.mp traced]
            exact .str depth traceId

theorem envelope_writable (depth : Nat) (result : ExecutionResult) (info : ResponseMeta) :
    Writable (depth + 4) (ExecutionResponse.toJson (.success result info)) := by
  refine .obj (depth + 3) _ (by simp) ?_
  simp only [List.forall_mem_cons, List.not_mem_nil, false_imp_iff, implies_true, and_true]
  exact ⟨.bool _ _, result_writable depth result, meta_writable (depth + 2) info⟩

end PlanChain
