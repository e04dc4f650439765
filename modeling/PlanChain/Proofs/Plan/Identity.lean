import PlanChain.Proofs.Plan.Canonical
import PlanChain.Proofs.Plan.Text
import PlanChain.Proofs.Trace.Payloads
import PlanChain.Sample

set_option autoImplicit false

namespace PlanChain

namespace Grammar

variable {first second : Members} {name : String} {limit : Nat}

def SameText (first second : Members) (name : String) : Prop :=
  ∃ text other, first.get? name = some (.str text) ∧ second.get? name = some (.str other) ∧
    Text.normalize text = Text.normalize other

def SameWhole (first second : Members) (name : String) : Prop :=
  ∃ number other whole, first.get? name = some (.num number) ∧ second.get? name = some (.num other) ∧
    number.toInt? = some whole ∧ other.toInt? = some whole

def SameStep (first second : Members) (kind : StepKind) : Prop :=
  first.get? "kind" = some (.str kind.name) ∧ second.get? "kind" = some (.str kind.name) ∧
    (∀ field ∈ ("id", 256) :: textFields kind, SameText first second field.1) ∧
    (kind = .increment → SameWhole first second "value")

def SameItem (first second : Json) : Prop :=
  ∃ (members others : Members) (kind : StepKind), first = .obj members ∧ second = .obj others ∧
    SameStep members others kind

def SamePlan (first second : Json) : Prop :=
  ∃ members others : Members, first = .obj members ∧ second = .obj others ∧ SameText members others "planId" ∧
    ∃ items otherItems, members.get? "steps" = some (.arr items) ∧ others.get? "steps" = some (.arr otherItems) ∧
      List.Forall₂ SameItem items otherItems

theorem same_text_iff {text other : String} (reads : TextField first name limit text)
    (readsOther : TextField second name limit other) : SameText first second name ↔ text = other := by
  obtain ⟨raw, isRaw, normal, -⟩ := reads
  obtain ⟨otherRaw, isOther, otherNormal, -⟩ := readsOther
  rw [← normal, ← otherNormal]
  constructor
  · rintro ⟨found, otherFound, isFound, isOtherFound, same⟩
    cases isRaw.symm.trans isFound
    cases isOther.symm.trans isOtherFound
    exact same
  · exact fun same => ⟨raw, otherRaw, isRaw, isOther, same⟩

theorem same_whole_iff {whole other : Int} (reads : WholeField first name whole)
    (readsOther : WholeField second name other) : SameWhole first second name ↔ whole = other := by
  constructor
  · rintro ⟨number, otherNumber, shared, isNumber, isOther, isShared, isOtherShared⟩
    rw [whole_field_unique first name whole shared reads ⟨number, isNumber, isShared⟩,
      whole_field_unique second name other shared readsOther ⟨otherNumber, isOther, isOtherShared⟩]
  · rintro rfl
    obtain ⟨number, isNumber, isWhole⟩ := reads
    obtain ⟨otherNumber, isOther, isOtherWhole⟩ := readsOther
    exact ⟨number, otherNumber, whole, isNumber, isOther, isWhole, isOtherWhole⟩

end Grammar

namespace Action

def texts : Action → List String
  | set key value => [key, value]
  | increment key _ => [key]
  | appendLog line => [line]
  | sandbox sessionId (.visit url) => [sessionId, url]
  | sandbox sessionId (.click selector) => [sessionId, selector]
  | sandbox sessionId (.enter selector text) => [sessionId, selector, text]
  | sandbox sessionId (.extract selector outputKey) => [sessionId, selector, outputKey]

def amount? : Action → Option Int
  | increment _ amount => some amount.toInt
  | _ => none

theorem determined (action other : Action) (kind : action.kind = other.kind) (texts : action.texts = other.texts)
    (amount : action.amount? = other.amount?) : action = other := by
  cases action with
  | sandbox sessionId call =>
      cases other with
      | sandbox otherId otherCall =>
          cases call <;> cases otherCall <;> simp_all [Action.kind, SandboxAction.kind, Action.texts]
      | _ => cases call <;> cases kind
  | increment key added =>
      cases other with
      | increment otherKey otherAdded => simp_all [Action.texts, Action.amount?, Int64.toInt_inj]
      | sandbox otherId otherCall => cases otherCall <;> cases kind
      | _ => cases kind
  | _ =>
      cases other with
      | sandbox otherId otherCall => cases otherCall <;> cases kind
      | _ => simp_all [Action.kind, Action.texts]

end Action

namespace Grammar

variable {first second : Members}

theorem kind_unique {members : Members} {kind other : StepKind} (tag : members.get? "kind" = some (.str kind.name))
    (otherTag : members.get? "kind" = some (.str other.name)) : kind = other :=
  Option.some.inj (((Canonical.kind_of_iff members kind).mpr tag).symm.trans
    ((Canonical.kind_of_iff members other).mpr otherTag))

theorem reads_texts {members : Members} {action : Action} (reads : ReadsAction members action) :
    List.Forall₂ (fun field text => TextField members field.1 field.2 text) (textFields action.kind) action.texts := by
  cases action with
  | set key value => exact .cons reads.1 (.cons reads.2 .nil)
  | increment key amount => exact .cons reads.1 .nil
  | appendLog line => exact .cons reads .nil
  | sandbox sessionId call =>
      cases call with
      | visit url => exact .cons reads.1 (.cons reads.2.1 .nil)
      | click selector => exact .cons reads.1 (.cons reads.2 .nil)
      | enter selector text => exact .cons reads.1 (.cons reads.2.1 (.cons reads.2.2 .nil))
      | extract selector key => exact .cons reads.1 (.cons reads.2.1 (.cons reads.2.2 .nil))

theorem same_texts_iff {fields : List (String × Nat)} {texts others : List String}
    (reads : List.Forall₂ (fun field text => TextField first field.1 field.2 text) fields texts)
    (readsOther : List.Forall₂ (fun field text => TextField second field.1 field.2 text) fields others) :
    (∀ field ∈ fields, SameText first second field.1) ↔ texts = others := by
  induction reads generalizing others with
  | nil =>
      cases readsOther
      exact iff_of_true (fun _ among => absurd among List.not_mem_nil) rfl
  | cons head _ ih =>
      cases readsOther with
      | cons otherHead otherRest =>
          rw [List.forall_mem_cons, List.cons.injEq, same_text_iff head otherHead, ih otherRest]

theorem same_amount_iff {action other : Action} (reads : ReadsAction first action)
    (readsOther : ReadsAction second other) (kind : action.kind = other.kind) :
    (action.kind = .increment → SameWhole first second "value") ↔ action.amount? = other.amount? := by
  have others {action : Action} (isOther : action.kind ≠ .increment) : action.amount? = none := by
    cases action with
    | increment key amount => exact absurd rfl isOther
    | _ => rfl
  by_cases isIncrement : action.kind = .increment
  · have shape := Canonical.action_of_kind action
    have otherShape := Canonical.action_of_kind other
    rw [← kind] at otherShape
    rw [isIncrement] at shape otherShape
    obtain ⟨key, amount, rfl⟩ := shape
    obtain ⟨otherKey, otherAmount, rfl⟩ := otherShape
    have same := same_whole_iff reads.2.1 readsOther.2.1
    simpa [Action.kind, Action.amount?] using same
  · rw [others isIncrement, others (kind ▸ isIncrement)]
    exact iff_of_true (fun isOther => absurd isOther isIncrement) rfl

theorem same_step_iff {step other : Step} (reads : ReadsStep first step) (readsOther : ReadsStep second other) :
    (∃ kind, SameStep first second kind) ↔ step = other := by
  have texts : List.Forall₂ (fun field text => TextField first field.1 field.2 text)
      (("id", 256) :: textFields step.kind) (step.id :: step.action.texts) := .cons reads.id (reads_texts reads.action)
  have otherTexts : List.Forall₂ (fun field text => TextField second field.1 field.2 text)
      (("id", 256) :: textFields other.kind) (other.id :: other.action.texts) :=
    .cons readsOther.id (reads_texts readsOther.action)
  constructor
  · rintro ⟨kind, tag, otherTag, same, whole⟩
    obtain rfl : step.kind = kind := kind_unique reads.tag tag
    have kinds : other.kind = step.kind := kind_unique readsOther.tag otherTag
    rw [kinds] at otherTexts
    obtain ⟨sameId, sameTexts⟩ := List.cons.inj ((same_texts_iff texts otherTexts).mp same)
    have sameAmount := (same_amount_iff reads.action readsOther.action kinds.symm).mp whole
    obtain ⟨id, action⟩ := step
    obtain ⟨otherId, otherAction⟩ := other
    rw [show id = otherId from sameId, Action.determined action otherAction kinds.symm sameTexts sameAmount]
  · rintro rfl
    exact ⟨step.kind, reads.tag, readsOther.tag, (same_texts_iff texts otherTexts).mpr rfl,
      (same_amount_iff reads.action readsOther.action rfl).mpr rfl⟩

theorem same_item_iff {item otherItem : Json} {step other : Step} (reads : ReadsItem item step)
    (readsOther : ReadsItem otherItem other) : SameItem item otherItem ↔ step = other := by
  obtain ⟨members, rfl, readsStep⟩ := reads
  obtain ⟨others, rfl, readsOtherStep⟩ := readsOther
  rw [← same_step_iff readsStep readsOtherStep]
  constructor
  · rintro ⟨_, _, kind, ⟨rfl⟩, ⟨rfl⟩, same⟩
    exact ⟨kind, same⟩
  · exact fun ⟨kind, same⟩ => ⟨members, others, kind, rfl, rfl, same⟩

theorem same_items_iff {items otherItems : List Json} {steps others : List Step}
    (reads : List.Forall₂ ReadsItem items steps) (readsOthers : List.Forall₂ ReadsItem otherItems others) :
    List.Forall₂ SameItem items otherItems ↔ steps = others := by
  induction reads generalizing otherItems others with
  | nil => cases readsOthers <;> simp
  | cons head _ ih =>
      cases readsOthers with
      | nil => simp
      | cons otherHead otherRest =>
          rw [List.forall₂_cons, List.cons.injEq, same_item_iff head otherHead, ih otherRest]

theorem same_plan_iff {plan other : Plan} (reads : ReadsPlan first plan) (readsOther : ReadsPlan second other) :
    SamePlan (.obj first) (.obj second) ↔ plan = other := by
  obtain ⟨items, isItems, itemsRead⟩ := reads.steps
  obtain ⟨otherItems, isOtherItems, otherItemsRead⟩ := readsOther.steps
  have ids := same_text_iff reads.planId readsOther.planId
  have steps := same_items_iff itemsRead otherItemsRead
  constructor
  · rintro ⟨_, _, ⟨rfl⟩, ⟨rfl⟩, sameId, found, otherFound, isFound, isOtherFound, same⟩
    cases isItems.symm.trans isFound
    cases isOtherItems.symm.trans isOtherFound
    have version : plan.version = other.version := reads.version.2.trans readsOther.version.2.symm
    obtain ⟨id, number, planSteps⟩ := plan
    obtain ⟨otherId, otherNumber, otherSteps⟩ := other
    rw [show id = otherId from ids.mp sameId, show number = otherNumber from version,
      show planSteps = otherSteps from steps.mp same]
  · rintro rfl
    exact ⟨first, second, rfl, rfl, ids.mpr rfl, items, otherItems, isItems, isOtherItems, steps.mpr rfl⟩

end Grammar

open Grammar Digest

-- Plans that have a canonical form have one digest just when they say the same.
theorem plan_digest_identifies (first second : Json) (plan other : Plan) (accepted : Plan.canonical first = .ok plan)
    (otherAccepted : Plan.canonical second = .ok other) (apart : NoCollision [plan.text, other.text]) :
    plan.digest = other.digest ↔ SamePlan first second := by
  obtain ⟨members, rfl, reads⟩ := (canonical_ok_iff first plan).mp accepted
  obtain ⟨others, rfl, readsOther⟩ := (canonical_ok_iff second other).mp otherAccepted
  rw [same_plan_iff reads readsOther]
  constructor
  · intro same
    exact Plan.text_injective plan other (apart _ (by simp) _ (by simp) ((tagged_inj "ph" _ _).mp same))
  · rintro rfl
    rfl

def plainly : Json := Sample.plan "café" [Sample.stepOf "a" (.set "k" "v"), Sample.stepOf "b" (.increment "n" 2)]

def otherwise : Json := .obj [("version", .ofNat 1), ("planId", .str "  café\t"), ("steps", .arr [
  .obj [("kind", .str "set"), ("value", .str " v "), ("id", .str " a"), ("key", .str "k")],
  .obj [("kind", .str "increment"), ("value", .num (.float ⟨0x4000000000000000⟩)), ("id", .str "b"),
    ("key", .str "n")]])]

def spelled (amount : Int64) : Plan := ⟨"café", 1, [⟨"a", .set "k" "v"⟩, ⟨"b", .increment "n" amount⟩]⟩

theorem spelled_plan_identified :
    Plan.canonical plainly = .ok (spelled 2) ∧ Plan.canonical otherwise = .ok (spelled 2) ∧
      SamePlan plainly otherwise ∧
      Plan.canonical (spelled 3).toJson = .ok (spelled 3) ∧ (spelled 2).digest ≠ (spelled 3).digest ∧
      ¬ SamePlan plainly (spelled 3).toJson := by
  have accepted : Plan.canonical plainly = .ok (spelled 2) := rfl
  have otherAccepted : Plan.canonical otherwise = .ok (spelled 2) := by decide +kernel
  have thirdAccepted : Plan.canonical (spelled 3).toJson = .ok (spelled 3) := rfl
  have hashedApart : sha256 (spelled 2).text ≠ sha256 (spelled 3).text := by decide +kernel
  have digestsApart : (spelled 2).digest ≠ (spelled 3).digest := fun same =>
    hashedApart ((tagged_inj "ph" _ _).mp same)
  have alone : NoCollision [(spelled 2).text, (spelled 2).text] := by
    intro text here other there _
    simp only [List.mem_cons, List.not_mem_nil, or_false, or_self] at here there
    rw [here, there]
  have apart : NoCollision [(spelled 2).text, (spelled 3).text] := by
    intro text here other there same
    simp only [List.mem_cons, List.not_mem_nil, or_false] at here there
    rcases here with rfl | rfl <;> rcases there with rfl | rfl
    · rfl
    · exact absurd same hashedApart
    · exact absurd same.symm hashedApart
    · rfl
  refine ⟨accepted, otherAccepted,
    (plan_digest_identifies plainly otherwise _ _ accepted otherAccepted alone).mp rfl, thirdAccepted, digestsApart,
    fun same => digestsApart ?_⟩
  exact (plan_digest_identifies plainly _ _ _ accepted thirdAccepted apart).mpr same

end PlanChain
