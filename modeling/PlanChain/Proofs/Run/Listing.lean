import Mathlib.Data.List.Basic
import Mathlib.Data.List.Induction
import Mathlib.Data.List.Nodup
import PlanChain.Proofs.Run.Attempts
import PlanChain.Proofs.Run.Ending
import PlanChain.Proofs.Run.Numbering

set_option autoImplicit false

namespace PlanChain

def RunRecord.asCreated (record : RunRecord) : RunRecord :=
  { record with status := .created, output := none, error := none, updatedAt := record.createdAt }

def RegistryCall.created? (registry : Registry) : RegistryCall → Option RunRecord
  | create request now => some (registry.create request now).1
  | _ => none

namespace Registry

def created (calls : List RegistryCall) : List RunRecord :=
  (List.range calls.length).filterMap fun place => calls[place]?.bind (·.created? (before calls place))

section Created

theorem created_next (calls : List RegistryCall) (call : RegistryCall) :
    created (calls ++ [call]) = created calls ++ (call.created? (after calls)).toList := by
  have earlier : (List.range calls.length).filterMap (fun place =>
      (calls ++ [call])[place]?.bind (·.created? (before (calls ++ [call]) place))) = created calls := by
    refine List.filterMap_congr fun place among => ?_
    have within := List.mem_range.mp among
    rw [List.getElem?_append_left within, before, List.take_append_of_le_length (Nat.le_of_lt within), before]
  have last : before (calls ++ [call]) calls.length = after calls := by
    rw [before, List.take_left]
  rw [created, List.length_append, List.length_singleton, List.range_succ, List.filterMap_append, earlier]
  simp only [List.filterMap_cons, List.filterMap_nil, List.getElem?_concat_length, Option.bind_some, last]
  cases call.created? (after calls) <;> rfl

theorem created_length (calls : List RegistryCall) :
    (created calls).length = calls.countP RegistryCall.isCreate := by
  induction calls using List.reverseRecOn with
  | nil => rfl
  | append_singleton calls call ih =>
      rw [created_next, List.length_append, List.countP_append, ih]
      cases call <;> rfl

theorem after_numbered (calls : List RegistryCall) : (after calls).Numbered (created calls).length := by
  have numbered := before_numbered calls calls.length
  rwa [before, List.take_length, ← created_length] at numbered

theorem created_ids (calls : List RegistryCall) :
    ∀ (place : Nat) (record : RunRecord), (created calls)[place]? = some record →
      record.runId = runId (.ofNat (place + 1)) := by
  induction calls using List.reverseRecOn with
  | nil =>
      intro place record found
      cases found
  | append_singleton calls call ih =>
      intro place record found
      rw [created_next, List.getElem?_append] at found
      split at found
      · exact ih place record found
      · rename_i beyond
        cases call with
        | create request now =>
            have isLast : place - (created calls).length = 0 := by
              by_contra further
              rw [List.getElem?_eq_none (by simp [RegistryCall.created?]; omega)] at found
              cases found
            rw [isLast] at found
            cases found
            rw [show place = (created calls).length by omega]
            exact congrArg runId (after_numbered calls).next
        | _ => simp [RegistryCall.created?] at found

theorem created_distinct (calls : List RegistryCall) (room : (created calls).length < UInt64.size) :
    ((created calls).map RunRecord.runId).Nodup := by
  rw [List.Nodup, List.pairwise_map, List.pairwise_iff_getElem]
  intro first second isFirst isSecond less same
  rw [created_ids calls first _ (List.getElem?_eq_getElem isFirst),
    created_ids calls second _ (List.getElem?_eq_getElem isSecond)] at same
  have numbers := congrArg UInt64.toNat (run_id_injective _ _ same)
  rw [UInt64.toNat_ofNat_of_lt' (by omega), UInt64.toNat_ofNat_of_lt' (by omega)] at numbers
  omega

end Created

theorem transition_keeps_creations (registry after : Registry) (runId : String) (status : RunStatus)
    (change : RunRecord → RunRecord) (now : Timestamp) (record : RunRecord)
    (keeps : ∀ record, (change record).asCreated = record.asCreated)
    (made : registry.transition runId status change now = .ok (record, after)) :
    after.records.values.map RunRecord.asCreated = registry.records.values.map RunRecord.asCreated := by
  obtain ⟨old, found, -, same, -⟩ := transition_made registry after runId status change now record made
  obtain ⟨-, written, -⟩ := transition_writes registry after runId status change now record made
  have alike : record.asCreated = old.asCreated := by
    rw [same]
    exact keeps old
  rw [written]
  exact Table.values_insert_known RunRecord.asCreated registry.records runId record old found alike

theorem answer_keeps_creations (registry : Registry) (runId : String) (status : RunStatus)
    (change : RunRecord → RunRecord) (now : Timestamp)
    (keeps : ∀ record, (change record).asCreated = record.asCreated) :
    (registry.answer (registry.transition runId status change now)).2.records.values.map RunRecord.asCreated =
      registry.records.values.map RunRecord.asCreated := by
  cases made : registry.transition runId status change now with
  | error error => rfl
  | ok result => exact transition_keeps_creations registry _ runId status change now _ keeps made

theorem call_lists (registry : Registry) (call : RegistryCall) (noRestore : ∀ snapshot, call ≠ .restore snapshot)
    (fresh : registry.get? (runId registry.nextSequence) = none) :
    ((registry.perform call).2.records.values.map RunRecord.asCreated).Perm
      ((call.created? registry).toList ++ registry.records.values.map RunRecord.asCreated) := by
  cases call with
  | create request now =>
      exact (Table.values_insert_fresh registry.records _ (registry.create request now).1 fresh).map _
  | start runId now => exact .of_eq (answer_keeps_creations registry runId .running _ now fun _ => rfl)
  | complete runId output now => exact .of_eq (answer_keeps_creations registry runId .completed _ now fun _ => rfl)
  | fail runId error now => exact .of_eq (answer_keeps_creations registry runId .failed _ now fun _ => rfl)
  | cancel runId reason now =>
      refine .of_eq (answer_keeps_creations registry runId .cancelled _ now fun record => ?_)
      cases reason <;> rfl
  | restore snapshot => exact (noRestore snapshot rfl).elim

-- By induction on the history; each number is given out once.
theorem records_created (calls : List RegistryCall) (noRestore : ∀ snapshot, .restore snapshot ∉ calls)
    (room : (created calls).length < UInt64.size) :
    ((after calls).records.values.map RunRecord.asCreated).Perm (created calls) := by
  induction calls using List.reverseRecOn with
  | nil => exact .refl _
  | append_singleton calls call ih =>
      rw [created_next, List.length_append] at room
      have earlier := ih (fun snapshot among => noRestore snapshot (List.mem_append_left _ among)) (by omega)
      have fresh := numbered_fresh _ _ (after_numbered calls) (by omega)
      have last (snapshot : RunRecord) : call ≠ .restore snapshot := by
        rintro rfl
        exact noRestore snapshot (by simp)
      rw [after_call, created_next]
      exact (call_lists (after calls) call last fresh).trans ((earlier.append_left _).trans List.perm_append_comm)

end Registry

namespace Timestamp

theorem at_most_refl (a : Timestamp) : a.atMost a = true := by
  simp [atMost]

theorem at_most_total (a b : Timestamp) : a.atMost b = true ∨ b.atMost a = true := by
  simp only [atMost, Bool.or_eq_true, Bool.and_eq_true, decide_eq_true_eq]
  omega

theorem at_most_trans (a b c : Timestamp) (first : a.atMost b = true) (second : b.atMost c = true) :
    a.atMost c = true := by
  simp only [atMost, Bool.or_eq_true, Bool.and_eq_true, decide_eq_true_eq] at *
  omega

theorem at_most_antisymm (a b : Timestamp) (first : a.atMost b = true) (second : b.atMost a = true) : a = b := by
  obtain ⟨aSeconds, aNanoseconds⟩ := a
  obtain ⟨bSeconds, bNanoseconds⟩ := b
  simp only [atMost, Bool.or_eq_true, Bool.and_eq_true, decide_eq_true_eq, Timestamp.mk.injEq] at *
  omega

end Timestamp

namespace Registry

theorem listed_before_iff (a b : RunRecord) :
    listedBefore a b = true ↔
      a.createdAt.atMost b.createdAt = true ∧ (a.createdAt = b.createdAt → a.runId ≤ b.runId) := by
  rw [listedBefore]
  by_cases same : a.createdAt = b.createdAt
  · simp [same, b.createdAt.at_most_refl]
  · simp [same]

theorem listed_before_total (a b : RunRecord) : (listedBefore a b || listedBefore b a) = true := by
  simp only [listedBefore, eq_comm (a := b.createdAt)]
  by_cases same : a.createdAt = b.createdAt
  · simpa [same] using String.le_total a.runId b.runId
  · simpa [same] using a.createdAt.at_most_total b.createdAt

theorem listed_before_trans (a b c : RunRecord) (first : listedBefore a b = true) (second : listedBefore b c = true) :
    listedBefore a c = true := by
  rw [listed_before_iff] at *
  refine ⟨Timestamp.at_most_trans _ _ _ first.1 second.1, fun same => ?_⟩
  have middle : a.createdAt = b.createdAt := Timestamp.at_most_antisymm _ _ first.1 (same ▸ second.1)
  exact String.le_trans (first.2 middle) (second.2 (middle ▸ same))

theorem listed_before_antisymm (a b : RunRecord) (first : listedBefore a b = true)
    (second : listedBefore b a = true) : a.runId = b.runId := by
  rw [listed_before_iff] at *
  have same := Timestamp.at_most_antisymm _ _ first.1 second.1
  exact String.le_antisymm (first.2 same) (second.2 same.symm)

theorem list_sorted (registry : Registry) : registry.list.Pairwise fun a b => listedBefore a b = true :=
  List.pairwise_mergeSort listed_before_trans listed_before_total _

-- What was created between two runs of one reading is of that reading too.
theorem one_reading_between (records : List RunRecord)
    (steady : records.Pairwise fun a b => a.createdAt.atMost b.createdAt = true) (first earlier later second : Nat)
    (inside : second < records.length) (start : first ≤ earlier) (between : earlier ≤ later) (stop : later ≤ second)
    (same : records[first].createdAt = records[second].createdAt) :
    records[earlier].createdAt = records[later].createdAt := by
  have upTo (a b : Nat) (isA : a < records.length) (isB : b < records.length) (follows : a ≤ b) :
      records[a].createdAt.atMost records[b].createdAt = true := by
    rcases Nat.eq_or_lt_of_le follows with rfl | before
    · exact Timestamp.at_most_refl _
    · exact List.pairwise_iff_getElem.mp steady a b isA isB before
  refine Timestamp.at_most_antisymm _ _ (upTo earlier later (by omega) (by omega) between) ?_
  have onward := upTo later second (by omega) inside stop
  rw [← same] at onward
  exact Timestamp.at_most_trans _ _ _ onward (upTo first earlier (by omega) (by omega) start)

section History

variable (calls : List RegistryCall) (room : (created calls).length < UInt64.size)

include room

theorem list_created (noRestore : ∀ snapshot, .restore snapshot ∉ calls) :
    ((after calls).list.map RunRecord.asCreated).Perm (created calls) :=
  ((List.mergeSort_perm _ _).map _).trans (records_created calls noRestore room)

theorem list_in_order_iff (noRestore : ∀ snapshot, .restore snapshot ∉ calls) :
    (after calls).list.map RunRecord.runId = (created calls).map RunRecord.runId ↔
      (created calls).Pairwise fun a b => listedBefore a b = true := by
  have listed := list_created calls room noRestore
  have distinct := created_distinct calls room
  have sorted : ((after calls).list.map RunRecord.asCreated).Pairwise fun a b => listedBefore a b = true :=
    List.pairwise_map.mpr (after calls).list_sorted
  have sameIds : ((after calls).list.map RunRecord.asCreated).map RunRecord.runId =
      (after calls).list.map RunRecord.runId := by
    rw [List.map_map]
    rfl
  constructor
  · intro same
    rw [← sameIds] at same
    have inOrder : (after calls).list.map RunRecord.asCreated = created calls := by
      refine List.ext_getElem listed.length_eq fun place inListed inCreated => ?_
      refine List.inj_on_of_nodup_map distinct (listed.subset (List.getElem_mem _)) (List.getElem_mem _) ?_
      have ids := congrArg (fun ids => ids[place]?) same
      simp only [List.getElem?_map, List.getElem?_eq_getElem inListed, List.getElem?_eq_getElem inCreated] at ids
      exact Option.some.inj ids
    rwa [inOrder] at sorted
  · intro mayBeListed
    have inOrder : (after calls).list.map RunRecord.asCreated = created calls := by
      refine List.Perm.eq_of_pairwise (fun a b isListed isCreated first second => ?_) sorted mayBeListed listed
      exact List.inj_on_of_nodup_map distinct (listed.subset isListed) isCreated
        (listed_before_antisymm a b first second)
    rw [← sameIds, inOrder]

-- Runs may be listed in the order of their creation when no reading lasts from the last run with ids of one length to
-- the first run with longer ones. Runs of one reading with such a number between them would include these two.
theorem created_in_order_iff
    (steady : (created calls).Pairwise fun a b => a.createdAt.atMost b.createdAt = true) :
    ((created calls).Pairwise fun a b => listedBefore a b = true) ↔
      ∀ k, 6 ≤ k → ∀ last first, (created calls)[10 ^ k - 2]? = some last → (created calls)[10 ^ k - 1]? = some first →
        last.createdAt ≠ first.createdAt := by
  constructor
  · intro mayBeListed k long last first isLast isFirst same
    have large : 10 ^ 6 ≤ 10 ^ k := Nat.pow_le_pow_right (by decide) long
    obtain ⟨isLast', rfl⟩ := List.getElem?_eq_some_iff.mp isLast
    obtain ⟨isFirst', rfl⟩ := List.getElem?_eq_some_iff.mp isFirst
    have listed := List.pairwise_iff_getElem.mp mayBeListed _ _ isLast' isFirst' (by omega)
    have ids := ((listed_before_iff _ _).mp listed).2 same
    rw [created_ids calls _ _ isLast, created_ids calls _ _ isFirst, show 10 ^ k - 2 + 1 = 10 ^ k - 1 by omega,
      show 10 ^ k - 1 + 1 = 10 ^ k by omega] at ids
    exact String.not_le.mpr (run_id_jumps_back k long (by omega)) ids
  · intro apart
    rw [List.pairwise_iff_getElem]
    intro first second isFirst isSecond less
    have steadily := List.pairwise_iff_getElem.mp steady first second isFirst isSecond less
    refine (listed_before_iff _ _).mpr ⟨steadily, fun same => ?_⟩
    rw [created_ids calls first _ (List.getElem?_eq_getElem isFirst),
      created_ids calls second _ (List.getElem?_eq_getElem isSecond)]
    refine String.not_lt.mp (String.lt_asymm (run_ids_in_order (first + 1) (second + 1) (by omega) (by omega) ?_))
    intro k long above below
    have large : 10 ^ 6 ≤ 10 ^ k := Nat.pow_le_pow_right (by decide) long
    have isLast : 10 ^ k - 2 < (created calls).length := by omega
    have isNext : 10 ^ k - 1 < (created calls).length := by omega
    exact apart k long _ _ (List.getElem?_eq_getElem isLast) (List.getElem?_eq_getElem isNext)
      (one_reading_between (created calls) steady first (10 ^ k - 2) (10 ^ k - 1) second isSecond (by omega) (by omega)
        (by omega) same)

end History

-- Every created run is listed once, with what it was created with, by reading and then by the text of its id. That is
-- the order of creation just when at each number from which on the ids are longer, from the millionth run on, the
-- clock had moved on since the run before.
theorem list_in_order_of_creation_iff (calls : List RegistryCall) (noRestore : ∀ snapshot, .restore snapshot ∉ calls)
    (room : calls.countP RegistryCall.isCreate < UInt64.size)
    (steady : (created calls).Pairwise fun a b => a.createdAt.atMost b.createdAt = true) :
    let listed := (after calls).list
    (listed.map RunRecord.asCreated).Perm (created calls) ∧ ((created calls).map RunRecord.runId).Nodup ∧
      (listed.Pairwise fun a b =>
        a.createdAt.atMost b.createdAt = true ∧ (a.createdAt = b.createdAt → a.runId ≤ b.runId)) ∧
      (listed.map RunRecord.runId = (created calls).map RunRecord.runId ↔
        ∀ k, 6 ≤ k → ∀ last first, (created calls)[10 ^ k - 2]? = some last →
          (created calls)[10 ^ k - 1]? = some first → last.createdAt ≠ first.createdAt) := by
  intro listed
  rw [← created_length] at room
  exact ⟨list_created calls room noRestore, created_distinct calls room,
    (after calls).list_sorted.imp fun before => (listed_before_iff _ _).mp before,
    (list_in_order_iff calls room noRestore).trans (created_in_order_iff calls room steady)⟩

theorem three_runs_listed_in_order :
    let create (seconds : Int) : RegistryCall := .create { agentId := "agent" } ⟨seconds, 0⟩
    let calls := [create 0, .start "run_000001" ⟨1, 0⟩, create 0, .cancel "run_000001" none ⟨2, 0⟩, create 3]
    (∀ snapshot, .restore snapshot ∉ calls) ∧ calls.countP RegistryCall.isCreate < UInt64.size ∧
      ((created calls).Pairwise fun a b => a.createdAt.atMost b.createdAt = true) ∧
      (after calls).list.map RunRecord.runId = (created calls).map RunRecord.runId := by
  intro create calls
  have noRestore (snapshot : RunRecord) : .restore snapshot ∉ calls := by simp [calls, create]
  have steady : (created calls).Pairwise fun a b => a.createdAt.atMost b.createdAt = true := by decide +kernel
  refine ⟨noRestore, by decide, steady, ?_⟩
  refine (list_in_order_of_creation_iff calls noRestore (by decide) steady).2.2.2.mpr ?_
  intro k long last first _ isFirst
  have large : 10 ^ 6 ≤ 10 ^ k := Nat.pow_le_pow_right (by decide) long
  obtain ⟨within, -⟩ := List.getElem?_eq_some_iff.mp isFirst
  have three : (created calls).length = 3 := created_length calls
  omega

theorem created_reading (calls : List RegistryCall) (record : RunRecord) (isCreated : record ∈ created calls) :
    ∃ request, .create request record.createdAt ∈ calls := by
  obtain ⟨place, -, made⟩ := List.mem_filterMap.mp isCreated
  obtain ⟨call, found, answered⟩ := Option.bind_eq_some_iff.mp made
  cases call with
  | create request now =>
      cases answered
      exact ⟨request, List.mem_of_getElem? found⟩
  | _ => cases answered

def atOnce (count : Nat) : List RegistryCall := List.replicate count (.create { agentId := "agent" } ⟨0, 0⟩)

section AtOnce

variable (count : Nat)

theorem at_once_restores_none (snapshot : RunRecord) : .restore snapshot ∉ atOnce count := by
  simp [atOnce, List.mem_replicate]

theorem at_once_count : (atOnce count).countP RegistryCall.isCreate = count := by
  simp [atOnce, List.countP_replicate, RegistryCall.isCreate]

theorem at_once_reading (record : RunRecord) (isCreated : record ∈ created (atOnce count)) :
    record.createdAt = ⟨0, 0⟩ := by
  obtain ⟨request, among⟩ := created_reading (atOnce count) record isCreated
  injection List.eq_of_mem_replicate among

theorem at_once_steady : (created (atOnce count)).Pairwise fun a b => a.createdAt.atMost b.createdAt = true := by
  rw [List.pairwise_iff_getElem]
  intro first second isFirst isSecond _
  rw [at_once_reading count _ (List.getElem_mem isFirst), at_once_reading count _ (List.getElem_mem isSecond)]
  rfl

theorem at_once_out_of_order (many : 10 ^ 6 ≤ count) (room : count < UInt64.size) :
    (after (atOnce count)).list.map RunRecord.runId ≠ (created (atOnce count)).map RunRecord.runId := by
  intro inOrder
  have length : (created (atOnce count)).length = count := by rw [created_length, at_once_count]
  have fewer : (created (atOnce count)).length < UInt64.size := by rwa [length]
  rw [list_in_order_iff _ fewer (at_once_restores_none count), created_in_order_iff _ fewer (at_once_steady count)]
    at inOrder
  have isLast : 10 ^ 6 - 2 < (created (atOnce count)).length := by omega
  have isFirst : 10 ^ 6 - 1 < (created (atOnce count)).length := by omega
  refine inOrder 6 (Nat.le_refl 6) _ _ (List.getElem?_eq_getElem isLast) (List.getElem?_eq_getElem isFirst) ?_
  rw [at_once_reading count _ (List.getElem_mem isLast), at_once_reading count _ (List.getElem_mem isFirst)]

end AtOnce

-- Runs are not always listed in the order of their creation: a million of them, created at one reading, are not.
theorem million_runs_not_listed_in_order :
    (∀ snapshot, .restore snapshot ∉ atOnce 1000000) ∧
      (atOnce 1000000).countP RegistryCall.isCreate < UInt64.size ∧
      ((created (atOnce 1000000)).Pairwise fun a b => a.createdAt.atMost b.createdAt = true) ∧
      (after (atOnce 1000000)).list.map RunRecord.runId ≠ (created (atOnce 1000000)).map RunRecord.runId := by
  have room : 1000000 < UInt64.size := by decide
  exact ⟨at_once_restores_none 1000000, by rwa [at_once_count], at_once_steady 1000000,
    at_once_out_of_order 1000000 (by decide) room⟩

end Registry

end PlanChain
