import Mathlib.Data.List.Forall2
import Mathlib.Data.List.Induction
import PlanChain.Proofs.Trace.Payloads

/-! The argument goes back from the last link, one recording at a time, and needs that the hash function tells
the hashed payloads apart and maps none of them to the link that the first entry refers to. -/

set_option autoImplicit false

namespace PlanChain

namespace Trace

open Digest

structure Recording where
  step : Step
  before : State
  after : State
  beforeMark : String
  afterMark : String

-- Two recordings look alike when all that is hashed of them is the same; the steps themselves are the same
-- when form C hides nothing of them.
structure Recording.Alike (a b : Recording) : Prop where
  view : a.step.view = b.step.view
  step : a.step.InFormC → b.step.InFormC → a.step = b.step
  beforeMark : a.beforeMark = b.beforeMark
  afterMark : a.afterMark = b.afterMark
  before : a.before.view = b.before.view
  after : a.after.view = b.after.view

namespace Chain

def add (chain : Chain) (recording : Recording) : Chain :=
  chain.record recording.step recording.before recording.after recording.beforeMark recording.afterMark

def build (recordings : List Recording) : Chain := recordings.foldl add empty

def input (chain : Chain) (recording : Recording) : LinkInput :=
  { previousLink := chain.latest
    stepIndex := UInt64.ofNat chain.entries.length
    step := recording.step
    beforeMark := recording.beforeMark
    afterMark := recording.afterMark
    before := recording.before
    after := recording.after }

def payloads (chain : Chain) : List Recording → List String
  | [] => []
  | recording :: rest => (chain.input recording).payload :: payloads (chain.add recording) rest

theorem latest_add (chain : Chain) (recording : Recording) :
    (chain.add recording).latest = tagged "tl" (chain.input recording).payload := rfl

theorem payloads_append (chain : Chain) (front : List Recording) (last : Recording) :
    chain.payloads (front ++ [last]) =
      chain.payloads front ++ [((front.foldl add chain).input last).payload] := by
  induction front generalizing chain with
  | nil => rfl
  | cons recording rest ih =>
      rw [List.cons_append, payloads, payloads, ih, List.cons_append, List.foldl_cons]

theorem build_append (front : List Recording) (last : Recording) :
    build (front ++ [last]) = (build front).add last := by
  rw [build, List.foldl_append]
  rfl

theorem input_alike (chain other : Chain) (a b : Recording) (alike : LinkInput.Alike (chain.input a) (other.input b)) :
    chain.latest = other.latest ∧ a.Alike b :=
  ⟨alike.previousLink, alike.step, fun formA formB => Step.view_injective a.step b.step formA formB alike.step,
    alike.beforeMark, alike.afterMark, alike.before, alike.after⟩

theorem grown_not_genesis (chain : Chain) (recording : Recording)
    (apart : sha256 (chain.input recording).payload ≠ String.ofList (List.replicate 64 '0')) :
    (chain.add recording).latest ≠ genesis := by
  intro same
  rw [latest_add, tagged, genesis] at same
  exact apart ((String.append_right_inj "tl").mp same)

theorem equal_links_equal_recordings (first second : List Recording)
    (distinct : NoCollision (payloads empty first ++ payloads empty second))
    (apart : ∀ text ∈ payloads empty first ++ payloads empty second,
      sha256 text ≠ String.ofList (List.replicate 64 '0'))
    (same : (build first).latest = (build second).latest) :
    List.Forall₂ Recording.Alike first second := by
  induction first using List.reverseRecOn generalizing second with
  | nil =>
      rcases List.eq_nil_or_concat' second with rfl | ⟨front, last, rfl⟩
      · exact .nil
      · rw [build_append] at same
        refine absurd same.symm (grown_not_genesis (build front) last (apart _ ?_))
        rw [payloads_append]
        simp [build]
  | append_singleton front last ih =>
      rcases List.eq_nil_or_concat' second with rfl | ⟨otherFront, otherLast, rfl⟩
      · rw [build_append] at same
        refine absurd same (grown_not_genesis (build front) last (apart _ ?_))
        rw [payloads_append]
        simp [build]
      · rw [payloads_append, payloads_append] at distinct apart
        rw [build_append, build_append, latest_add, latest_add, tagged_inj] at same
        have samePayload : ((build front).input last).payload = ((build otherFront).input otherLast).payload :=
          distinct _ (by simp [build]) _ (by simp [build]) same
        obtain ⟨sameLatest, lastAlike⟩ := input_alike _ _ _ _ (LinkInput.payload_determines _ _ samePayload)
        have fewer : ∀ text ∈ payloads empty front ++ payloads empty otherFront,
            text ∈ (payloads empty front ++ [((front.foldl add empty).input last).payload]) ++
              (payloads empty otherFront ++ [((otherFront.foldl add empty).input otherLast).payload]) := by
          intro text present
          rcases List.mem_append.mp present with here | there
          · simp [here]
          · simp [there]
        have frontsAlike := ih otherFront (distinct.restrict fewer)
          (fun text present => apart text (fewer text present)) sameLatest
        exact List.rel_append frontsAlike (.cons lastAlike .nil)

-- Two recordings of one step: after the one a counter is out of the safe range, which digests do not see.
def seen : Recording := ⟨⟨"a", .set "k" "v"⟩, .empty, .empty, "x", "y"⟩

def unseen : Recording := { seen with after := { counters := (∅ : Table Int64).insert "n" 9007199254740992 } }

theorem unseen_counter_alike :
    (build [seen]).latest = (build [unseen]).latest ∧ List.Forall₂ Recording.Alike [seen] [unseen] := by
  have samePayload : (empty.input unseen).payload = (empty.input seen).payload := rfl
  have sameLatest : (build [seen]).latest = (build [unseen]).latest :=
    (congrArg (tagged "tl") samePayload).symm
  have texts : payloads empty [seen] ++ payloads empty [unseen] =
      [(empty.input seen).payload, (empty.input seen).payload] := by
    simp only [payloads, samePayload, List.cons_append, List.nil_append]
  have one : ∀ text ∈ payloads empty [seen] ++ payloads empty [unseen], text = (empty.input seen).payload := by
    simp [texts]
  have apart : sha256 (empty.input seen).payload ≠ String.ofList (List.replicate 64 '0') := by
    decide +kernel
  refine ⟨sameLatest, equal_links_equal_recordings [seen] [unseen] ?_ ?_ sameLatest⟩
  · intro text here other there _
    rw [one text here, one other there]
  · intro text present
    rw [one text present]
    exact apart

end Chain

end Trace

end PlanChain
