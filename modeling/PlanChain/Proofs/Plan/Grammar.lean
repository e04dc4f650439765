import Mathlib.Data.List.Forall2
import Mathlib.Data.List.Nodup
import PlanChain.Plan.Canonical

/-! `ReadsPlan` relates an object to the plan it stands for, field by field; `AdmitsPlan` says which objects
stand for any plan. -/

set_option autoImplicit false

namespace PlanChain.Grammar

def TextField (members : Members) (name : String) (limit : Nat) (normal : String) : Prop :=
  ∃ raw, members.get? name = some (.str raw) ∧ Text.normalize raw = normal ∧
    1 ≤ normal.length ∧ normal.length ≤ limit

def IsHttp (address : String) : Prop :=
  "http://".toList <+: address.toList ∨ "https://".toList <+: address.toList

-- A field holds a number equal to a whole number, whether it is spelled as an integer or not.
def WholeField (members : Members) (name : String) (whole : Int) : Prop :=
  ∃ number, members.get? name = some (.num number) ∧ number.toInt? = some whole

def Only (fields : List String) (members : Members) : Prop :=
  ∀ member ∈ members, member.1 ∈ fields

def textFields : StepKind → List (String × Nat)
  | .set => [("key", 256), ("value", 4096)]
  | .increment => [("key", 256)]
  | .appendLog => [("value", 4096)]
  | .sandboxOpen => [("sessionId", 256), ("url", 2048)]
  | .sandboxClick => [("sessionId", 256), ("selector", 512)]
  | .sandboxType => [("sessionId", 256), ("selector", 512), ("text", 4096)]
  | .sandboxExtract => [("sessionId", 256), ("selector", 512), ("outputKey", 256)]

def usedFields : StepKind → List String
  | .increment => ["id", "kind", "key", "value"]
  | kind => "id" :: "kind" :: (textFields kind).map (·.1)

def ReadsAction (members : Members) : Action → Prop
  | .set key value => TextField members "key" 256 key ∧ TextField members "value" 4096 value
  | .increment key amount =>
    TextField members "key" 256 key ∧ WholeField members "value" amount.toInt ∧
      amount.toInt.natAbs ≤ 9007199254740991
  | .appendLog line => TextField members "value" 4096 line
  | .sandbox session (.visit url) =>
    TextField members "sessionId" 256 session ∧ TextField members "url" 2048 url ∧ IsHttp url
  | .sandbox session (.click selector) =>
    TextField members "sessionId" 256 session ∧ TextField members "selector" 512 selector
  | .sandbox session (.enter selector text) =>
    TextField members "sessionId" 256 session ∧ TextField members "selector" 512 selector ∧
      TextField members "text" 4096 text
  | .sandbox session (.extract selector outputKey) =>
    TextField members "sessionId" 256 session ∧ TextField members "selector" 512 selector ∧
      TextField members "outputKey" 256 outputKey

structure ReadsStep (members : Members) (step : Step) : Prop where
  tag : members.get? "kind" = some (.str step.kind.name)
  fields : Only (usedFields step.kind) members
  id : TextField members "id" 256 step.id
  action : ReadsAction members step.action

def ReadsItem (item : Json) (step : Step) : Prop :=
  ∃ members, item = .obj members ∧ ReadsStep members step

structure ReadsPlan (members : Members) (plan : Plan) : Prop where
  fields : Only ["planId", "version", "steps"] members
  planId : TextField members "planId" 256 plan.planId
  version : WholeField members "version" 1 ∧ plan.version = 1
  steps : ∃ items, members.get? "steps" = some (.arr items) ∧ List.Forall₂ ReadsItem items plan.steps
  distinct : (plan.steps.map Step.id).Nodup

def itemId (item : Json) : Option String :=
  ((item.get? "id").bind Json.string?).map Text.normalize

structure AdmitsStep (members : Members) (kind : StepKind) : Prop where
  tag : members.get? "kind" = some (.str kind.name)
  fields : Only (usedFields kind) members
  texts : ∀ field ∈ ("id", 256) :: textFields kind, ∃ normal, TextField members field.1 field.2 normal
  address : kind = .sandboxOpen → ∀ url, TextField members "url" 2048 url → IsHttp url
  amount : kind = .increment → ∃ whole, WholeField members "value" whole ∧
    whole.natAbs ≤ 9007199254740991

structure AdmitsPlan (members : Members) : Prop where
  fields : Only ["planId", "version", "steps"] members
  planId : ∃ normal, TextField members "planId" 256 normal
  version : WholeField members "version" 1
  steps : ∃ items, members.get? "steps" = some (.arr items) ∧
    (∀ item ∈ items, ∃ step kind, item = .obj step ∧ AdmitsStep step kind) ∧
    (items.map itemId).Nodup

theorem text_field_unique (members : Members) (name : String) (limit : Nat) (a b : String)
    (first : TextField members name limit a) (second : TextField members name limit b) : a = b := by
  obtain ⟨rawA, readA, normalA, -⟩ := first
  obtain ⟨rawB, readB, normalB, -⟩ := second
  rw [readA] at readB
  cases readB
  exact normalA.symm.trans normalB

theorem whole_field_unique (members : Members) (name : String) (a b : Int)
    (first : WholeField members name a) (second : WholeField members name b) : a = b := by
  obtain ⟨numberA, readA, wholeA⟩ := first
  obtain ⟨numberB, readB, wholeB⟩ := second
  rw [readA] at readB
  cases readB
  exact Option.some.inj (wholeA.symm.trans wholeB)

theorem reads_step_id (item : Json) (step : Step) (reads : ReadsItem item step) :
    itemId item = some step.id := by
  obtain ⟨members, rfl, reads⟩ := reads
  obtain ⟨raw, read, normal, -⟩ := reads.id
  simp [itemId, Json.get?, Json.members?, read, Json.string?, normal]

theorem reads_step_ids (items : List Json) (steps : List Step)
    (reads : List.Forall₂ ReadsItem items steps) :
    items.map itemId = (steps.map Step.id).map some := by
  induction reads with
  | nil => rfl
  | cons head _ ih => simp [reads_step_id _ _ head, ih]

theorem reads_step_texts (members : Members) (id : String) (action : Action)
    (idReads : TextField members "id" 256 id) (reads : ReadsAction members action) :
    ∀ field ∈ ("id", 256) :: textFields action.kind, ∃ normal, TextField members field.1 field.2 normal := by
  cases action with
  | set key value =>
      simp only [Action.kind, textFields, List.forall_mem_cons, List.not_mem_nil, false_implies, implies_true]
      exact ⟨⟨id, idReads⟩, ⟨key, reads.1⟩, ⟨value, reads.2⟩, trivial⟩
  | increment key amount =>
      simp only [Action.kind, textFields, List.forall_mem_cons, List.not_mem_nil, false_implies, implies_true]
      exact ⟨⟨id, idReads⟩, ⟨key, reads.1⟩, trivial⟩
  | appendLog line =>
      simp only [Action.kind, textFields, List.forall_mem_cons, List.not_mem_nil, false_implies, implies_true]
      exact ⟨⟨id, idReads⟩, ⟨line, reads⟩, trivial⟩
  | sandbox session call =>
      cases call <;> simp only [Action.kind, SandboxAction.kind, textFields, List.forall_mem_cons,
        List.not_mem_nil, false_implies, implies_true]
      case visit url => exact ⟨⟨id, idReads⟩, ⟨session, reads.1⟩, ⟨url, reads.2.1⟩, trivial⟩
      case click selector => exact ⟨⟨id, idReads⟩, ⟨session, reads.1⟩, ⟨selector, reads.2⟩, trivial⟩
      case enter selector text =>
        exact ⟨⟨id, idReads⟩, ⟨session, reads.1⟩, ⟨selector, reads.2.1⟩, ⟨text, reads.2.2⟩, trivial⟩
      case extract selector outputKey =>
        exact ⟨⟨id, idReads⟩, ⟨session, reads.1⟩, ⟨selector, reads.2.1⟩, ⟨outputKey, reads.2.2⟩, trivial⟩

theorem reads_step_admitted (members : Members) (step : Step) (reads : ReadsStep members step) :
    AdmitsStep members step.kind := by
  obtain ⟨id, action⟩ := step
  refine ⟨reads.tag, reads.fields, reads_step_texts members id action reads.id reads.action, ?_, ?_⟩
  · intro isOpen url urlReads
    cases action with
    | sandbox session call =>
        cases call with
        | visit address =>
            rw [text_field_unique members "url" 2048 url address urlReads reads.action.2.1]
            exact reads.action.2.2
        | _ => cases isOpen
    | _ => cases isOpen
  · intro isIncrement
    cases action with
    | increment key amount => exact ⟨amount.toInt, reads.action.2⟩
    | sandbox session call => cases call <;> cases isIncrement
    | _ => cases isIncrement

theorem safe_amount (whole : Int) (bound : whole.natAbs ≤ 9007199254740991) :
    (Int64.ofInt whole).toInt = whole := by
  apply Int64.toInt_ofInt_of_le
  · omega
  · omega

theorem admitted_step_reads (members : Members) (kind : StepKind) (admits : AdmitsStep members kind) :
    ∃ step : Step, step.kind = kind ∧ ReadsStep members step := by
  obtain ⟨tag, fields, texts, address, amount⟩ := admits
  cases kind with
  | set =>
      simp only [textFields, List.forall_mem_cons] at texts
      obtain ⟨⟨id, idReads⟩, ⟨key, keyReads⟩, ⟨value, valueReads⟩, -⟩ := texts
      exact ⟨⟨id, .set key value⟩, rfl, tag, fields, idReads, keyReads, valueReads⟩
  | increment =>
      simp only [textFields, List.forall_mem_cons] at texts
      obtain ⟨⟨id, idReads⟩, ⟨key, keyReads⟩, -⟩ := texts
      obtain ⟨whole, wholeReads, bound⟩ := amount rfl
      have same := safe_amount whole bound
      refine ⟨⟨id, .increment key (Int64.ofInt whole)⟩, rfl, tag, fields, idReads, keyReads, ?_⟩
      rw [same]
      exact ⟨wholeReads, bound⟩
  | appendLog =>
      simp only [textFields, List.forall_mem_cons] at texts
      obtain ⟨⟨id, idReads⟩, ⟨line, lineReads⟩, -⟩ := texts
      exact ⟨⟨id, .appendLog line⟩, rfl, tag, fields, idReads, lineReads⟩
  | sandboxOpen =>
      simp only [textFields, List.forall_mem_cons] at texts
      obtain ⟨⟨id, idReads⟩, ⟨session, sessionReads⟩, ⟨url, urlReads⟩, -⟩ := texts
      exact ⟨⟨id, .sandbox session (.visit url)⟩, rfl, tag, fields, idReads, sessionReads, urlReads,
        address rfl url urlReads⟩
  | sandboxClick =>
      simp only [textFields, List.forall_mem_cons] at texts
      obtain ⟨⟨id, idReads⟩, ⟨session, sessionReads⟩, ⟨selector, selectorReads⟩, -⟩ := texts
      exact ⟨⟨id, .sandbox session (.click selector)⟩, rfl, tag, fields, idReads, sessionReads,
        selectorReads⟩
  | sandboxType =>
      simp only [textFields, List.forall_mem_cons] at texts
      obtain ⟨⟨id, idReads⟩, ⟨session, sessionReads⟩, ⟨selector, selectorReads⟩, ⟨text, textReads⟩, -⟩ := texts
      exact ⟨⟨id, .sandbox session (.enter selector text)⟩, rfl, tag, fields, idReads, sessionReads,
        selectorReads, textReads⟩
  | sandboxExtract =>
      simp only [textFields, List.forall_mem_cons] at texts
      obtain ⟨⟨id, idReads⟩, ⟨session, sessionReads⟩, ⟨selector, selectorReads⟩, ⟨key, keyReads⟩, -⟩ := texts
      exact ⟨⟨id, .sandbox session (.extract selector key)⟩, rfl, tag, fields, idReads, sessionReads,
        selectorReads, keyReads⟩

theorem admitted_items_read (items : List Json)
    (admits : ∀ item ∈ items, ∃ step kind, item = .obj step ∧ AdmitsStep step kind) :
    ∃ steps, List.Forall₂ ReadsItem items steps := by
  induction items with
  | nil => exact ⟨[], .nil⟩
  | cons item rest ih =>
      obtain ⟨steps, reads⟩ := ih fun other present => admits other (List.mem_cons_of_mem _ present)
      obtain ⟨members, kind, same, admitsStep⟩ := admits item List.mem_cons_self
      obtain ⟨step, -, readsStep⟩ := admitted_step_reads members kind admitsStep
      exact ⟨step :: steps, .cons ⟨members, same, readsStep⟩ reads⟩

theorem reads_items_admitted (items : List Json) (steps : List Step)
    (reads : List.Forall₂ ReadsItem items steps) :
    ∀ item ∈ items, ∃ step kind, item = .obj step ∧ AdmitsStep step kind := by
  induction reads with
  | nil => simp
  | @cons item step items steps head _ ih =>
      obtain ⟨members, same, readsStep⟩ := head
      exact List.forall_mem_cons.mpr
        ⟨⟨members, step.kind, same, reads_step_admitted members step readsStep⟩, ih⟩

theorem admits_plan_iff (members : Members) :
    AdmitsPlan members ↔ ∃ plan, ReadsPlan members plan := by
  constructor
  · rintro ⟨fields, ⟨planId, planIdReads⟩, version, items, stepsRead, admits, distinct⟩
    obtain ⟨steps, reads⟩ := admitted_items_read items admits
    refine ⟨⟨planId, 1, steps⟩, fields, planIdReads, ⟨version, rfl⟩, ⟨items, stepsRead, reads⟩, ?_⟩
    rw [reads_step_ids items steps reads] at distinct
    exact List.Nodup.of_map some distinct
  · rintro ⟨plan, fields, planId, version, ⟨items, stepsRead, reads⟩, distinct⟩
    refine ⟨fields, ⟨plan.planId, planId⟩, version.1, items, stepsRead,
      reads_items_admitted items plan.steps reads, ?_⟩
    rw [reads_step_ids items plan.steps reads]
    exact distinct.map fun _ _ same => Option.some.inj same

end PlanChain.Grammar
