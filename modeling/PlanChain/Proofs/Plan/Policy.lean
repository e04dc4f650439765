import PlanChain.Plan.Policy
import PlanChain.Proofs.Plan.Canonical
import PlanChain.Proofs.Text.Normal

set_option autoImplicit false

namespace PlanChain

open Grammar

namespace Policy

def opensPadded (item : Json) : Bool :=
  match kindOf (item.members?.getD []), (item.get? "url").bind Json.string? with
  | some .sandboxOpen, some url => Text.startsBlank url
  | _, _ => false

def paddedAddresses (raw : Json) : Nat :=
  (((raw.get? "steps").bind Json.items?).getD []).countP opensPadded

theorem text_field_content (members : Members) (name normal : String) (limit : Nat)
    (field : TextField members name limit normal) :
    ∃ raw, members.get? name = some (.str raw) ∧ Text.normalize raw = normal ∧ Text.hasContent raw = true := by
  obtain ⟨raw, read, rfl, positive, -⟩ := field
  refine ⟨raw, read, rfl, Text.normal_has_content raw ?_⟩
  intro empty
  rw [empty] at positive
  exact absurd positive (by decide)

theorem text_field_is_text (members : Members) (name normal : String) (limit : Nat)
    (field : TextField members name limit normal) : isText (members.get? name) = true := by
  obtain ⟨raw, read, -, content⟩ := text_field_content members name normal limit field
  rw [read]
  exact content

theorem text_field_is_string (members : Members) (name normal : String) (limit : Nat)
    (field : TextField members name limit normal) : isString (members.get? name) = true := by
  obtain ⟨raw, read, -⟩ := field
  rw [read]
  rfl

theorem whole_field_is_integer (members : Members) (name : String) (whole : Int)
    (field : WholeField members name whole) : isInteger (members.get? name) = true := by
  obtain ⟨number, read, found⟩ := field
  rw [read]
  simp [isInteger, found]

-- Of the two shapes of an address in front of the normal form, the one that was written is the same.
theorem http_as_written (raw : String) (http : IsHttp (Text.normalize raw))
    (visible : Text.startsBlank raw = false) : IsHttp raw := by
  rcases http with plain | secure
  · exact Or.inl (Text.written_front "http:/".toList raw (by simp [Text.isSchemeLetter]) plain visible)
  · exact Or.inr (Text.written_front "https:/".toList raw (by simp [Text.isSchemeLetter]) secure visible)

theorem padded_not_http (raw : String) (padded : Text.startsBlank raw = true) : ¬ IsHttp raw := by
  intro http
  have letter : raw.toList.head? = some 'h' := by
    rcases http with ⟨rest, written⟩ | ⟨rest, written⟩ <;> rw [← written] <;> rfl
  rw [Text.startsBlank, letter] at padded
  exact absurd padded (by decide)

theorem address_met (members : Members) (url : String) (field : TextField members "url" 2048 url)
    (http : IsHttp url) :
    isHttpUrl (members.get? "url") = !((members.get? "url").bind Json.string?).any Text.startsBlank := by
  obtain ⟨raw, read, rfl, content⟩ := text_field_content members "url" url 2048 field
  rw [read]
  simp only [isHttpUrl, content, Bool.true_and, Json.string?, Option.bind_some, Option.any_some]
  cases padded : Text.startsBlank raw with
  | true =>
      have notHttp := mt (Canonical.is_http_iff raw).mp (padded_not_http raw padded)
      exact Bool.eq_false_iff.mpr notHttp
  | false => exact (Canonical.is_http_iff raw).mpr (http_as_written raw http padded)

theorem unmet_met (members : Members) (index : Nat) (kind : StepKind) (demand : Demand)
    (met : demand.met (members.get? demand.field) = true) : unmet members index kind demand = none := by
  rw [unmet, if_pos met]

theorem demands_met (members : Members) (step : Step) (reads : ReadsStep members step) :
    ∀ demand ∈ demands step.kind, demand.code ≠ .invalidSandboxUrl →
      demand.met (members.get? demand.field) = true := by
  obtain ⟨id, action⟩ := step
  have actionReads := reads.action
  have isText := fun name normal limit => text_field_is_text members name normal limit
  have isString := fun name normal limit => text_field_is_string members name normal limit
  cases action with
  | set key value =>
      simp only [Step.kind, Action.kind, demands, List.forall_mem_cons]
      exact ⟨fun _ => isText _ _ _ actionReads.1, fun _ => isString _ _ _ actionReads.2, by simp⟩
  | increment key amount =>
      simp only [Step.kind, Action.kind, demands, List.forall_mem_cons]
      exact ⟨fun _ => isText _ _ _ actionReads.1, fun _ => whole_field_is_integer _ _ _ actionReads.2.1, by simp⟩
  | appendLog line =>
      simp only [Step.kind, Action.kind, demands, List.forall_mem_cons]
      exact ⟨fun _ => isString _ _ _ actionReads, by simp⟩
  | sandbox session call =>
      cases call with
      | visit url =>
          simp only [Step.kind, Action.kind, SandboxAction.kind, demands, List.forall_mem_cons]
          exact ⟨fun _ => isText _ _ _ actionReads.1, fun other => (other rfl).elim, by simp⟩
      | click selector =>
          simp only [Step.kind, Action.kind, SandboxAction.kind, demands, List.forall_mem_cons]
          exact ⟨fun _ => isText _ _ _ actionReads.1, fun _ => isText _ _ _ actionReads.2, by simp⟩
      | enter selector text =>
          simp only [Step.kind, Action.kind, SandboxAction.kind, demands, List.forall_mem_cons]
          exact ⟨fun _ => isText _ _ _ actionReads.1, fun _ => isText _ _ _ actionReads.2.1,
            fun _ => isText _ _ _ actionReads.2.2, by simp⟩
      | extract selector outputKey =>
          simp only [Step.kind, Action.kind, SandboxAction.kind, demands, List.forall_mem_cons]
          exact ⟨fun _ => isText _ _ _ actionReads.1, fun _ => isText _ _ _ actionReads.2.1,
            fun _ => isText _ _ _ actionReads.2.2, by simp⟩

theorem open_step_reads (members : Members) (step : Step) (reads : ReadsStep members step)
    (isOpen : step.kind = .sandboxOpen) : ∃ url, TextField members "url" 2048 url ∧ IsHttp url := by
  obtain ⟨id, action⟩ := step
  have actionReads := reads.action
  cases action with
  | sandbox session call =>
      cases call with
      | visit url => exact ⟨url, actionReads.2⟩
      | _ => cases isOpen
  | _ => cases isOpen

theorem address_demanded (kind : StepKind) (notOpen : kind ≠ .sandboxOpen) :
    ∀ demand ∈ demands kind, demand.code ≠ .invalidSandboxUrl := by
  cases kind with
  | sandboxOpen => exact (notOpen rfl).elim
  | _ => simp [demands, demands.session, demands.selector]

theorem step_violations (index : Nat) (members : Members) (step : Step) (reads : ReadsStep members step) :
    (stepViolations index members).map Issue.code =
      if opensPadded (.obj members) then [.invalidSandboxUrl] else [] := by
  have isKind := (Canonical.kind_of_iff members step.kind).mpr reads.tag
  have idMet := text_field_is_text members "id" step.id 256 reads.id
  have met := demands_met members step reads
  rw [stepViolations, if_pos idMet, isKind, List.nil_append]
  dsimp only
  by_cases isOpen : step.kind = .sandboxOpen
  · obtain ⟨url, field, http⟩ := open_step_reads members step reads isOpen
    have sessionMet := unmet_met members index .sandboxOpen demands.session
      (met _ (by simp [isOpen, demands]) (by decide))
    have padded : opensPadded (.obj members) =
        ((members.get? "url").bind Json.string?).any Text.startsBlank := by
      obtain ⟨raw, read, -⟩ := field
      simp [opensPadded, Json.members?, Json.get?, isKind, isOpen, read, Json.string?]
    have address := address_met members url field http
    rw [isOpen, demands, List.filterMap_cons_none sessionMet, padded]
    cases found : ((members.get? "url").bind Json.string?).any Text.startsBlank <;>
      simp [unmet, address, found]
  · have clean : (demands step.kind).filterMap (unmet members index step.kind) = [] := by
      rw [List.filterMap_eq_nil_iff]
      intro demand present
      exact unmet_met members index step.kind demand
        (met demand present (address_demanded step.kind isOpen demand present))
    have notPadded : opensPadded (.obj members) = false := by
      unfold opensPadded
      split
      · rename_i open_ _
        exact (isOpen (Option.some.inj (isKind.symm.trans open_))).elim
      · rfl
    rw [clean, notPadded]
    rfl

theorem steps_violations (items : List Json) (steps : List Step) (index : Nat) (seen : List String)
    (reads : List.Forall₂ ReadsItem items steps) (distinct : (steps.map Step.id).Nodup)
    (apart : ∀ id ∈ seen, ∀ step ∈ steps, Text.normalize id ≠ step.id) :
    (stepsViolations index seen items).map Issue.code =
      List.replicate (items.countP opensPadded) .invalidSandboxUrl := by
  induction reads generalizing index seen with
  | nil => rfl
  | @cons item step items steps head _ ih =>
      obtain ⟨members, rfl, readsStep⟩ := head
      obtain ⟨raw, read, normal, content⟩ := text_field_content members "id" step.id 256 readsStep.id
      have fresh : raw ∉ seen := fun present =>
        apart raw present step List.mem_cons_self normal
      have isId : (idOf members).filter Text.hasContent = some raw := by
        simp [idOf, read, Json.string?, content]
      have later := ih (index + 1) (raw :: seen) (List.nodup_cons.mp distinct).2 (by
        intro id present other otherPresent
        rcases List.mem_cons.mp present with rfl | before
        · rw [normal]
          intro same
          exact (List.nodup_cons.mp distinct).1 (same ▸ List.mem_map_of_mem otherPresent)
        · exact apart id before other (List.mem_cons_of_mem _ otherPresent))
      rw [stepsViolations, Json.members?, Option.getD_some, isId]
      dsimp only
      rw [if_neg fresh, List.map_append, step_violations index members step readsStep, later,
        List.countP_cons]
      · cases opensPadded (.obj members) with
        | true => simp [List.replicate_succ]
        | false => simp
      · intro isNull
        cases isNull

theorem violations_of_canonical (raw : Json) (plan : Plan) (canonical : Plan.canonical raw = .ok plan) :
    (violations raw).map Issue.code =
      (if plan.steps = [] then [.emptyPlan] else []) ++
        List.replicate (paddedAddresses raw) .invalidSandboxUrl := by
  obtain ⟨members, rfl, reads⟩ := (canonical_ok_iff raw plan).mp canonical
  obtain ⟨items, read, itemsRead⟩ := reads.steps
  have idMet := text_field_is_text members "planId" plan.planId 256 reads.planId
  have isVersion := (Canonical.whole_field_iff members "version" 1).mpr reads.version.1
  have stepsClean := steps_violations items plan.steps 0 [] itemsRead reads.distinct (by simp)
  have sameEmpty : items.isEmpty = true ↔ plan.steps = [] := by
    rw [List.isEmpty_iff, ← List.length_eq_zero_iff, itemsRead.length_eq, List.length_eq_zero_iff]
  have padded : paddedAddresses (.obj members) = items.countP opensPadded := by
    simp [paddedAddresses, Json.get?, Json.members?, read, Json.items?]
  have isSteps : ((Members.get? members "steps").bind Json.items?).getD [] = items := by
    rw [read]
    rfl
  unfold violations
  dsimp only [Json.members?, Option.getD_some]
  rw [isSteps, if_pos idMet, if_pos isVersion, padded, List.map_append, stepsClean]
  by_cases empty : plan.steps = []
  · rw [if_pos empty, if_pos (sameEmpty.mpr empty)]
    rfl
  · rw [if_neg empty, if_neg (mt sameEmpty.mp empty)]
    rfl

end Policy

end PlanChain
