import Mathlib.Data.List.Perm.Subperm
import PlanChain.Proofs.Run.Listing

set_option autoImplicit false

namespace PlanChain

namespace Registry

theorem undone_creates_none (registry : Registry) (call : RegistryCall)
    (notDone : ∀ record, (registry.perform call).1 ≠ .done record) : call.isCreate = false := by
  cases call with
  | create request now => exact (notDone _ rfl).elim
  | _ => rfl

theorem held_step (registry : Registry) (call : RegistryCall) (id : String) :
    ((registry.perform call).2.get? id).isSome = true ↔
      (registry.get? id).isSome = true ∨ (call.isCreate = true ∧ call.target registry = id) := by
  rcases call_performs registry call with ⟨notDone, same⟩ | ⟨record, -, writes⟩
  · simp [same, undone_creates_none registry call notDone]
  · by_cases own : id = call.target registry
    · subst own
      rw [writes_target registry _ call record writes]
      cases isCreate : call.isCreate with
      | true => simp
      | false =>
          obtain ⟨old, found, -⟩ := writes.active isCreate
          simp [found]
    · rw [writes_elsewhere registry _ call record writes id own]
      simp [Ne.symm own]

theorem size_step (registry : Registry) (call : RegistryCall)
    (fresh : call.isCreate = true → registry.get? (call.target registry) = none) :
    (registry.perform call).2.size = registry.size + if call.isCreate then 1 else 0 := by
  rcases call_performs registry call with ⟨notDone, same⟩ | ⟨record, -, writes⟩
  · rw [same, undone_creates_none registry call notDone]
    rfl
  · have known : registry.records.contains (call.target registry) = !call.isCreate := by
      change (registry.get? (call.target registry)).isSome = !call.isCreate
      cases isCreate : call.isCreate with
      | true => simp [fresh isCreate]
      | false =>
          obtain ⟨old, found, -⟩ := writes.active isCreate
          simp [found]
    rw [size, size, writes.records, Table.size_insert, known]
    cases call.isCreate <;> rfl

theorem size_bounded (registry : Registry) (count : Nat) (numbered : registry.Numbered count) :
    registry.size ≤ UInt64.size := by
  have among : registry.records.keys ⊆ (List.range UInt64.size).map fun number => runId (.ofNat number) := by
    intro id isKey
    obtain ⟨record, found⟩ := Option.isSome_iff_exists.mp ((Table.mem_keys_iff _ id).mp isKey)
    obtain ⟨number, -, same⟩ := numbered.given id record found
    have word := (UInt64.ofNat (number + 1)).toNat_lt
    refine List.mem_map.mpr ⟨(UInt64.ofNat (number + 1)).toNat, List.mem_range.mpr word, ?_⟩
    rw [same, UInt64.ofNat_toNat]
  have fewer := (registry.records.names_distinct.subperm among).length_le
  rwa [List.length_map, List.length_map, List.length_range] at fewer

section History

variable (calls : List RegistryCall)

def Gives (id : String) (place : Nat) : Prop :=
  ∃ request now record, calls[place]? = some (.create request now) ∧
    ((before calls place).perform (.create request now)).1 = .done record ∧ record.runId = id

theorem gives_iff (id : String) (place : Nat) : Gives calls id place ↔ Creates calls id place := by
  constructor
  · rintro ⟨request, now, record, made, answered, rfl⟩
    cases answered
    exact ⟨_, made, rfl, rfl⟩
  · rintro ⟨call, made, isCreate, rfl⟩
    cases call with
    | create request now => exact ⟨request, now, _, made, rfl, rfl⟩
    | _ => cases isCreate

-- By induction on the calls made so far.
theorem held_iff (place : Nat) (id : String) :
    ((before calls place).get? id).isSome = true ↔ ∃ earlier, earlier < place ∧ Gives calls id earlier := by
  simp only [gives_iff]
  induction place with
  | zero => simp [before, after, get?, empty]
  | succ place ih =>
      simp only [Nat.lt_succ_iff_lt_or_eq, or_and_right, exists_or, exists_eq_left]
      cases made : calls[place]? with
      | none =>
          have quiet : ¬ Creates calls id place := by simp [Creates, made]
          rw [before_past calls place made, ih, or_iff_left quiet]
      | some call =>
          have creates : Creates calls id place ↔ call.isCreate = true ∧ call.target (before calls place) = id := by
            simp [Creates, made]
          rw [before_next calls place call made, held_step, ih, creates]

theorem given_once (room : calls.countP RegistryCall.isCreate ≤ UInt64.size) (first second : Nat) (id : String)
    (gives : Gives calls id first) (again : Gives calls id second) : first = second := by
  have notAfter (first second : Nat) (gives : Gives calls id first) (again : Gives calls id second) :
      ¬ first < second := by
    intro follows
    have held := (held_iff calls second id).mpr ⟨first, follows, gives⟩
    obtain ⟨record, stored⟩ := Option.isSome_iff_exists.mp held
    exact stored_not_created calls room second id record stored ((gives_iff calls id second).mp again)
  have notBefore := notAfter first second gives again
  have notBehind := notAfter second first again gives
  omega

theorem size_counted (room : calls.countP RegistryCall.isCreate ≤ UInt64.size) (place : Nat) :
    (before calls place).size = (calls.take place).countP RegistryCall.isCreate := by
  induction place with
  | zero => rfl
  | succ place ih =>
      cases made : calls[place]? with
      | none => rw [before_past calls place made, ih, List.take_add_one, made, Option.toList_none, List.append_nil]
      | some call =>
          rw [before_next calls place call made, size_step _ call (created_fresh calls room place call made), ih,
            List.take_add_one, made, Option.toList_some, List.countP_append, List.countP_singleton]

structure KeepsRuns : Prop where
  held : ∀ place id, ((before calls place).get? id).isSome = true ↔ ∃ earlier, earlier < place ∧ Gives calls id earlier
  own : ∀ place id record, (before calls place).get? id = some record → record.runId = id

structure KeepsRunsApart : Prop where
  distinct : ∀ first second id, Gives calls id first → Gives calls id second → first = second
  counted : ∀ place, (before calls place).size = (calls.take place).countP RegistryCall.isCreate

theorem kept_apart_iff : KeepsRunsApart calls ↔ calls.countP RegistryCall.isCreate ≤ UInt64.size := by
  constructor
  · intro apart
    have bounded := size_bounded _ _ (before_numbered calls calls.length)
    rwa [apart.counted, List.take_length] at bounded
  · intro room
    exact ⟨given_once calls room, size_counted calls room⟩

-- No run is ever lost. No two are taken for one either, and that just as long as the numbers of runs have not come
-- round.
theorem runs_neither_lost_nor_aliased :
    KeepsRuns calls ∧ (KeepsRunsApart calls ↔ calls.countP RegistryCall.isCreate ≤ UInt64.size) :=
  ⟨⟨held_iff calls, fun place => after_filed (calls.take place)⟩, kept_apart_iff calls⟩

end History

theorem two_runs_on_file :
    let create : RegistryCall := .create { agentId := "agent" } ⟨0, 0⟩
    let snapshot : RunRecord := ⟨"run_000002", "other", .failed, none, none, none, ⟨1, 0⟩, ⟨1, 0⟩⟩
    let calls := [create, .restore snapshot, .start "run_000002" ⟨2, 0⟩, create, .restore snapshot]
    calls.countP RegistryCall.isCreate ≤ UInt64.size ∧ (before calls 5).size = 2 ∧
      ∀ id, ((before calls 5).get? id).isSome = true ↔ ∃ earlier, earlier < 5 ∧ Gives calls id earlier := by
  intro create snapshot calls
  have room : calls.countP RegistryCall.isCreate ≤ UInt64.size := by decide
  obtain ⟨kept, apart⟩ := runs_neither_lost_nor_aliased calls
  exact ⟨room, (apart.mpr room).counted 5, kept.held 5⟩

end Registry

end PlanChain
