import PlanChain.Proofs.Trace.Views

set_option autoImplicit false

namespace PlanChain

namespace Digest

def NoCollision (texts : List String) : Prop :=
  ∀ first ∈ texts, ∀ second ∈ texts, sha256 first = sha256 second → first = second

theorem NoCollision.restrict {texts fewer : List String} (clean : NoCollision texts)
    (among : ∀ text ∈ fewer, text ∈ texts) : NoCollision fewer :=
  fun first here second there same => clean first (among first here) second (among second there) same

theorem tagged_inj (tag first second : String) : tagged tag first = tagged tag second ↔ sha256 first = sha256 second :=
  String.append_right_inj tag

end Digest

namespace Trace

theorem uint64_written (a b : UInt64) (same : Json.ofUInt64 a = Json.ofUInt64 b) : a = b := by
  have value := Json.num.inj same
  exact UInt64.toNat_inj.mp (Int.ofNat.inj (Number.int.inj value))

namespace LinkInput

def payload (input : LinkInput) : String := input.toJson.canonical

theorem whole (input : LinkInput) : input.toJson.Whole := by
  refine (Json.whole_members_iff _).mpr ?_
  simp only [List.forall_mem_cons]
  exact ⟨trivial, trivial, trivial, input.step.view_whole, trivial, trivial, input.before.view_whole,
    input.after.view_whole, by simp⟩

structure Alike (a b : LinkInput) : Prop where
  previousLink : a.previousLink = b.previousLink
  stepIndex : a.stepIndex = b.stepIndex
  step : a.step.view = b.step.view
  beforeMark : a.beforeMark = b.beforeMark
  afterMark : a.afterMark = b.afterMark
  before : a.before.view = b.before.view
  after : a.after.view = b.after.view

theorem payload_determines (a b : LinkInput) (same : a.payload = b.payload) : Alike a b := by
  have field := Json.canonical_members _ _ a.whole b.whole same
  have previousLink : some (Json.str a.previousLink) = some (.str b.previousLink) := field "previousLinkHash"
  have stepIndex : some (Json.ofUInt64 a.stepIndex) = some (.ofUInt64 b.stepIndex) := field "stepIndex"
  have step : some a.step.view.sortMembers = some b.step.view.sortMembers := field "step"
  have beforeMark : some (Json.str a.beforeMark) = some (.str b.beforeMark) := field "beforeHashLike"
  have afterMark : some (Json.str a.afterMark) = some (.str b.afterMark) := field "afterHashLike"
  have before : some a.before.view.sortMembers = some b.before.view.sortMembers := field "beforeState"
  have after : some a.after.view.sortMembers = some b.after.view.sortMembers := field "afterState"
  exact {
    previousLink := Json.str.inj (Option.some.inj previousLink)
    stepIndex := uint64_written _ _ (Option.some.inj stepIndex)
    step := Step.view_determined _ _ (Option.some.inj step)
    beforeMark := Json.str.inj (Option.some.inj beforeMark)
    afterMark := Json.str.inj (Option.some.inj afterMark)
    before := State.view_determined _ _ (Option.some.inj before)
    after := State.view_determined _ _ (Option.some.inj after) }

end LinkInput

namespace ExecutionInput

def payload (input : ExecutionInput) : String := input.toJson.canonical

theorem whole (input : ExecutionInput) : input.toJson.Whole := by
  refine (Json.whole_members_iff _).mpr ?_
  simp only [List.forall_mem_cons]
  exact ⟨trivial, trivial, trivial, trivial, input.finalState.view_whole, by simp⟩

theorem payload_determines (a b : ExecutionInput) (same : a.payload = b.payload) :
    a.planDigest = b.planDigest ∧ a.stepCount = b.stepCount ∧ a.finalLink = b.finalLink ∧
      a.finalState.view = b.finalState.view := by
  have field := Json.canonical_members _ _ a.whole b.whole same
  have planDigest : some (Json.str a.planDigest) = some (.str b.planDigest) := field "planHash"
  have stepCount : some (Json.ofUInt64 a.stepCount) = some (.ofUInt64 b.stepCount) := field "stepCount"
  have finalLink : some (Json.str a.finalLink) = some (.str b.finalLink) := field "finalTraceLinkHash"
  have finalState : some a.finalState.view.sortMembers = some b.finalState.view.sortMembers := field "finalState"
  exact ⟨Json.str.inj (Option.some.inj planDigest), uint64_written _ _ (Option.some.inj stepCount),
    Json.str.inj (Option.some.inj finalLink), State.view_determined _ _ (Option.some.inj finalState)⟩

end ExecutionInput

end Trace

end PlanChain
