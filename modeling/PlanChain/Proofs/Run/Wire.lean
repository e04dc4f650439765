import PlanChain.Proofs.Execution.Wire
import PlanChain.Proofs.Timestamp.Reading
import PlanChain.Run.Record
import PlanChain.Run.Request

set_option autoImplicit false

namespace PlanChain

open Json

namespace Members

variable {α : Type}

@[simp] theorem get?_append (front back : Members) (name : String) :
    Members.get? (front ++ back) name = (front.get? name).or (back.get? name) := by
  induction front with
  | nil => rfl
  | cons head rest ih =>
      obtain ⟨key, value⟩ := head
      by_cases hit : key = name
      · simp [get?, hit]
      · simpa [get?, hit] using ih

@[simp] theorem get?_present (name other : String) (encode : α → Json) (value : Option α) :
    (present name encode value).get? other = if name = other then value.map encode else none := by
  cases value with
  | none => simp [present, get?]
  | some value => simp [present, get?]

theorem optional_found (members : Members) (name : String) (value : Option α) (encode : α → Json)
    (decode : Json → Option α) (read : ∀ value, decode (encode value) = some value)
    (filled : ∀ value, encode value ≠ .null) (found : members.get? name = value.map encode) :
    members.optional name decode = some value := by
  rw [optional, found]
  cases value with
  | none => rfl
  | some value =>
      have notNull := filled value
      rw [Option.map_some]
      cases written : encode value with
      | null => exact absurd written notNull
      | _ =>
          dsimp only
          rw [← written, read, Option.map_some]

theorem defaulted_found (members : Members) (name : String) (value : Json) (default : α) (decode : Json → Option α)
    (found : members.get? name = some value) : members.defaulted name default decode = decode value := by
  rw [defaulted, found]

def Filled (members : Members) (name : String) : Prop := ∃ value, members.get? name = some value ∧ value ≠ .null

theorem optional_unfilled (members : Members) (name : String) (decode : Json → Option α)
    (read : members.optional name decode = some none) : ¬ members.Filled name := by
  rintro ⟨value, found, notNull⟩
  rw [optional, found] at read
  cases value with
  | null => exact notNull rfl
  | _ =>
      obtain ⟨_, _, isNone⟩ := Option.map_eq_some_iff.mp read
      cases isNone

theorem optional_filled (members : Members) (name : String) (decode : Json → Option α) (value : α)
    (read : members.optional name decode = some (some value)) : members.Filled name := by
  rw [optional] at read
  cases found : members.get? name with
  | none =>
      rw [found] at read
      cases read
  | some content =>
      refine ⟨content, found, ?_⟩
      rintro rfl
      rw [found] at read
      cases read

theorem required_bool (members : Members) (name : String) (value : Bool)
    (read : members.required name bool? = some value) : members.get? name = some (.bool value) := by
  obtain ⟨content, found, isBool⟩ := Option.bind_eq_some_iff.mp read
  cases content with
  | bool other =>
      cases isBool
      exact found
  | _ => cases isBool

end Members

theorem error_code_survives : Survives ErrorCode.toJson ErrorCode.ofJson? := by
  refine plain_survives _ _ (fun _ => trivial) fun code => ?_
  cases code <;> decide

theorem failure_survives : Survives Failure.toJson Failure.ofJson? := by
  intro failure json same
  obtain ⟨members, rfl, written⟩ := reordered_object json _ same
  have code := written.required "code" failure.code _ _ error_code_survives rfl
  have message := written.required "message" failure.message _ _ string_survives rfl
  have retryable := written.required "retryable" failure.retryable _ _ bool_survives rfl
  simp only [Failure.ofJson?, record?, Option.bind_eq_bind, Option.bind_some, code, message, retryable]

theorem response_survives : Survives ExecutionResponse.toJson ExecutionResponse.ofJson? := by
  intro response json same
  cases response with
  | success result info => exact envelope_survives result info json same
  | failure failure info =>
      obtain ⟨members, rfl, written⟩ := reordered_object json _ same
      have ok := written.required "ok" false _ _ bool_survives rfl
      have noResult : members.optional "result" ExecutionResult.ofJson? = some none := by
        rw [Members.optional, written.missing "result" rfl]
      have found := written.optional "error" (some failure) _ _ failure_survives
        (fun failure => by simp [Failure.toJson]) rfl
      have isInfo := written.required "meta" info _ _ meta_survives rfl
      simp only [ExecutionResponse.ofJson?, Response.ofJson?, Response.members?, members?, Option.bind_eq_bind,
        Option.bind_some, ok, noResult, found, isInfo]

theorem response_carries_one (members : Members) (response : ExecutionResponse)
    (read : ExecutionResponse.ofJson? (.obj members) = some response) :
    (members.get? "ok" = some (.bool true) ∧ members.Filled "result" ∧ ¬ members.Filled "error") ∨
      (members.get? "ok" = some (.bool false) ∧ members.Filled "error" ∧ ¬ members.Filled "result") := by
  simp only [ExecutionResponse.ofJson?, Response.ofJson?, Response.members?, members?, Option.bind_eq_bind,
    Option.bind_some, Option.bind_eq_some_iff] at read
  obtain ⟨ok, isOk, result, isResult, error, isError, info, -, made⟩ := read
  cases ok with
  | true =>
      cases result with
      | none => cases made
      | some result =>
          cases error with
          | some error => cases made
          | none =>
              exact .inl ⟨members.required_bool "ok" true isOk, members.optional_filled "result" _ result isResult,
                members.optional_unfilled "error" _ isError⟩
  | false =>
      cases result with
      | some result => cases made
      | none =>
          cases error with
          | none => cases made
          | some error =>
              exact .inr ⟨members.required_bool "ok" false isOk, members.optional_filled "error" _ error isError,
                members.optional_unfilled "result" _ isResult⟩

theorem request_decodes (members : Members) (request : ExecuteRequest)
    (mode : members.defaulted "mode" .mock Mode.ofJson? = some request.options.mode)
    (maxSteps : members.defaulted "maxSteps" defaultMaxSteps int64? = some request.options.maxSteps)
    (traceId : members.optional "traceId" string? = some request.options.traceId)
    (plan : members.get? "plan" = some request.plan) : ExecuteRequest.ofJson? (.obj members) = some request := by
  simp only [ExecuteRequest.ofJson?, record?, Option.bind_eq_bind, Option.bind_some, mode, maxSteps, traceId, plan]

theorem written_request (request : ExecuteRequest) : ExecuteRequest.ofJson? request.toJson = some request := by
  apply request_decodes
  · rw [Members.defaulted_found _ "mode" _ _ _ rfl]
    exact mode_survives request.options.mode _ rfl
  · rw [Members.defaulted_found _ "maxSteps" _ _ _ rfl, written_int64]
  · refine Members.optional_found _ "traceId" _ str _ (fun _ => rfl) (fun _ => by simp) ?_
    simp [Members.get?]
  · simp [Members.get?]

theorem status_survives : Survives RunStatus.toJson RunStatus.ofJson? := by
  refine plain_survives _ _ (fun _ => trivial) fun status => ?_
  cases status <;> decide

theorem run_error_survives : Survives RunError.toJson RunError.ofJson? := by
  intro error json same
  obtain ⟨members, rfl, written⟩ := reordered_object json _ same
  have code := written.required "code" error.code _ _ error_code_survives rfl
  have message := written.required "message" error.message _ _ string_survives rfl
  simp only [RunError.ofJson?, record?, Option.bind_eq_bind, Option.bind_some, code, message]

theorem written_moment (moment : Timestamp) (proper : moment.Proper) :
    Timestamp.ofJson? moment.toJson = some moment := by
  rw [Timestamp.toJson, Timestamp.ofJson?, string?, Option.bind_some, Timestamp.text_read moment proper]

theorem record_decodes (members : Members) (record : RunRecord)
    (runId : members.required "runId" string? = some record.runId)
    (agentId : members.required "agentId" string? = some record.agentId)
    (status : members.required "status" RunStatus.ofJson? = some record.status)
    (input : members.optional "input" members? = some record.input)
    (output : members.optional "output" members? = some record.output)
    (error : members.optional "error" RunError.ofJson? = some record.error)
    (createdAt : members.required "createdAt" Timestamp.ofJson? = some record.createdAt)
    (updatedAt : members.required "updatedAt" Timestamp.ofJson? = some record.updatedAt) :
    RunRecord.ofJson? (.obj members) = some record := by
  simp only [RunRecord.ofJson?, record?, Option.bind_eq_bind, Option.bind_some, runId, agentId, status, input, output,
    error, createdAt, updatedAt]

theorem written_record (record : RunRecord) (created : record.createdAt.Proper) (updated : record.updatedAt.Proper) :
    RunRecord.ofJson? record.toJson = some record := by
  apply record_decodes
  · rfl
  · rfl
  · rw [required_found _ "status" _ _ rfl]
    exact status_survives record.status _ rfl
  · refine Members.optional_found _ "input" _ obj _ (fun _ => rfl) (fun _ => by simp) ?_
    simp [Members.get?]
  · refine Members.optional_found _ "output" _ obj _ (fun _ => rfl) (fun _ => by simp) ?_
    simp [Members.get?]
  · refine Members.optional_found _ "error" _ RunError.toJson _ (fun error => run_error_survives error _ rfl)
      (fun error => by simp [RunError.toJson]) ?_
    simp [Members.get?]
  · rw [required_found _ "createdAt" record.createdAt.toJson]
    · exact written_moment record.createdAt created
    · simp [Members.get?]
  · rw [required_found _ "updatedAt" record.updatedAt.toJson]
    · exact written_moment record.updatedAt updated
    · simp [Members.get?]

theorem decoded_moment_proper (members : Members) (name : String) (moment : Timestamp)
    (read : members.required name Timestamp.ofJson? = some moment) : moment.Proper := by
  obtain ⟨_, -, isMoment⟩ := Option.bind_eq_some_iff.mp read
  obtain ⟨written, -, isRead⟩ := Option.bind_eq_some_iff.mp isMoment
  exact Timestamp.proper_of_read written moment isRead

theorem decoded_record_survives (json : Json) (record : RunRecord) (read : RunRecord.ofJson? json = some record) :
    RunRecord.ofJson? record.toJson = some record := by
  simp only [RunRecord.ofJson?, Option.bind_eq_bind, Option.bind_eq_some_iff] at read
  obtain ⟨members, -, runId, -, agentId, -, status, -, input, -, output, -, error, -, createdAt, isCreated, updatedAt,
    isUpdated, made⟩ := read
  cases made
  exact written_record _ (decoded_moment_proper members _ createdAt isCreated)
    (decoded_moment_proper members _ updatedAt isUpdated)

theorem wire_formats_round_trip :
    (∀ plan : Plan, Plan.ofJson? plan.toJson = some plan) ∧
      (∀ state : State, State.ofJson? state.toJson = some state) ∧
      (∀ response : ExecutionResponse, ExecutionResponse.ofJson? response.toJson = some response) ∧
      (∀ request : ExecuteRequest, ExecuteRequest.ofJson? request.toJson = some request) ∧
      (∀ record : RunRecord, record.createdAt.Proper → record.updatedAt.Proper →
        RunRecord.ofJson? record.toJson = some record) ∧
      (∀ (members : Members) (response : ExecutionResponse),
        ExecutionResponse.ofJson? (.obj members) = some response →
          (members.get? "ok" = some (.bool true) ∧ members.Filled "result" ∧ ¬ members.Filled "error") ∨
            (members.get? "ok" = some (.bool false) ∧ members.Filled "error" ∧ ¬ members.Filled "result")) ∧
      ∀ members : Members, (members.Filled "result" ↔ members.Filled "error") →
        ExecutionResponse.ofJson? (.obj members) = none := by
  refine ⟨written_plan, fun state => state_survives state _ rfl, fun response => response_survives response _ rfl,
    written_request, written_record, response_carries_one, fun members even => ?_⟩
  refine Option.eq_none_iff_forall_ne_some.mpr fun response read => ?_
  rcases response_carries_one members response read with ⟨-, result, noError⟩ | ⟨-, error, noResult⟩
  · exact noError (even.mp result)
  · exact noResult (even.mpr error)

-- A run with an empty input, cancelled within the leap second at the end of 2016.
def leapRun : RunRecord :=
  { runId := "run_000001", agentId := "agent", status := .cancelled, input := some [], output := none
    error := some ⟨.runCancelled, "late"⟩, createdAt := ⟨951827696, 0⟩, updatedAt := ⟨1483228799, 1500000000⟩ }

def refused : Members :=
  [("ok", .bool false), ("result", .null), ("error", (Failure.of .notFound "gone").toJson),
    ("meta", .obj [("mode", .str "mock")])]

def twofold : Members := [("ok", .bool true), ("result", .obj []), ("error", .obj []), ("meta", .obj [])]

theorem leap_run_round_trips :
    leapRun.createdAt.Proper ∧ leapRun.updatedAt.Proper ∧ RunRecord.ofJson? leapRun.toJson = some leapRun ∧
      (∃ response, ExecutionResponse.ofJson? (.obj refused) = some response) ∧
      refused.Filled "error" ∧ ¬ refused.Filled "result" ∧
      (twofold.Filled "result" ↔ twofold.Filled "error") ∧ ExecutionResponse.ofJson? (.obj twofold) = none := by
  have created : leapRun.createdAt.Proper := ⟨by decide, .inl (by decide)⟩
  have updated : leapRun.updatedAt.Proper := ⟨by decide, .inr (by decide)⟩
  have read : ExecutionResponse.ofJson? (.obj refused) =
      some (.failure (.of .notFound "gone") ⟨.mock, none, none⟩) := by decide
  have both : twofold.Filled "result" ↔ twofold.Filled "error" :=
    iff_of_true ⟨.obj [], rfl, by simp⟩ ⟨.obj [], rfl, by simp⟩
  obtain ⟨-, -, -, -, records, carries, unread⟩ := wire_formats_round_trip
  rcases carries refused _ read with ⟨isOk, -⟩ | ⟨-, error, noResult⟩
  · cases isOk
  · exact ⟨created, updated, records leapRun created updated, ⟨_, read⟩, error, noResult, both, unread twofold both⟩

end PlanChain
