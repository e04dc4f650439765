import Mathlib.Data.List.Infix
import PlanChain.Proofs.Execution.Integrity

/-! Each entry states its place, so of all lists made of the entries of a trace only its prefixes pass the
check: whatever is moved, repeated, put in or left out before the end is found, and a tail that was cut off is
not. -/

set_option autoImplicit false

namespace PlanChain.Trace

theorem checked_place (first : Nat) (previous : String) (entries : List TraceEntry)
    (checked : checkFrom first previous entries = .ok ()) (place : Nat) (entry : TraceEntry)
    (found : entries[place]? = some entry) : entry.stepIndex.toNat = first + place := by
  induction entries generalizing first previous place with
  | nil => cases found
  | cons head rest ih =>
      obtain ⟨index, -, -, later⟩ := (check_from_cons_iff first previous head rest).mp checked
      cases place with
      | zero =>
          cases found
          exact index
      | succ place =>
          have behind := ih (first + 1) head.link later place found
          omega

theorem checked_front (first : Nat) (previous : String) (front rest : List TraceEntry)
    (checked : checkFrom first previous (front ++ rest) = .ok ()) : checkFrom first previous front = .ok () := by
  induction front generalizing first previous with
  | nil => rfl
  | cons head front ih =>
      rw [List.cons_append] at checked
      obtain ⟨index, version, linked, later⟩ := (check_from_cons_iff first previous head _).mp checked
      exact (check_from_cons_iff first previous head front).mpr ⟨index, version, linked, ih _ _ later⟩

section

variable (recorded : List TraceEntry) (verified : check recorded = .ok ())

include verified

theorem initial_verified (front : List TraceEntry) (isFront : front <+: recorded) : check front = .ok () := by
  obtain ⟨rest, rfl⟩ := isFront
  exact checked_front 0 genesis front rest verified

theorem entry_place (place : Nat) (entry : TraceEntry) (found : recorded[place]? = some entry) :
    entry.stepIndex.toNat = place := by
  rw [checked_place 0 genesis recorded verified place entry found, Nat.zero_add]

-- An entry stands in a list that passes where it stood in the trace, for it states its place in both.
theorem verified_iff_initial (chosen : List TraceEntry) (among : ∀ entry ∈ chosen, entry ∈ recorded) :
    check chosen = .ok () ↔ chosen <+: recorded := by
  refine ⟨fun passes => ?_, initial_verified recorded verified chosen⟩
  refine List.prefix_iff_getElem?.mpr fun place inside => ?_
  have found : chosen[place]? = some chosen[place] := List.getElem?_eq_getElem inside
  obtain ⟨home, atHome⟩ := List.mem_iff_getElem?.mp (among chosen[place] (List.getElem_mem inside))
  have same : home = place := by
    rw [← entry_place recorded verified home _ atHome, entry_place chosen passes place _ found]
  rwa [same] at atHome

theorem swapped_detected (i j : Nat) (a b : TraceEntry) (before : i < j) (atI : recorded[i]? = some a)
    (atJ : recorded[j]? = some b) : check ((recorded.set i b).set j a) ≠ .ok () := by
  intro passes
  have inside : i < recorded.length := (List.getElem?_eq_some_iff.mp atI).1
  have moved : ((recorded.set i b).set j a)[i]? = some b := by
    rw [List.getElem?_set_ne (by omega), List.getElem?_set_self inside]
  have statesI := entry_place _ passes i b moved
  have statesJ := entry_place recorded verified j b atJ
  omega

theorem inserted_detected (place : Nat) (entry : TraceEntry) (inside : place ≤ recorded.length)
    (present : entry ∈ recorded) : check (recorded.insertIdx place entry) ≠ .ok () := by
  intro passes
  have among : ∀ other ∈ recorded.insertIdx place entry, other ∈ recorded := by
    intro other found
    rcases (List.mem_insertIdx inside).mp found with rfl | kept
    · exact present
    · exact kept
  have short := ((verified_iff_initial recorded verified _ among).mp passes).length_le
  rw [List.length_insertIdx_of_le_length inside] at short
  omega

theorem dropped_iff_last (place : Nat) (inside : place < recorded.length) :
    check (recorded.eraseIdx place) = .ok () ↔ place + 1 = recorded.length := by
  constructor
  · intro passes
    by_contra early
    have next : place + 1 < recorded.length := by omega
    have atNext : recorded[place + 1]? = some recorded[place + 1] := List.getElem?_eq_getElem next
    have moved : (recorded.eraseIdx place)[place]? = some recorded[place + 1] := by
      rw [List.getElem?_eraseIdx_of_ge (Nat.le_refl place), atNext]
    have statesPlace := entry_place _ passes place _ moved
    have statesNext := entry_place recorded verified (place + 1) _ atNext
    omega
  · intro last
    rw [List.eraseIdx_eq_take_drop_succ, List.drop_eq_nil_of_le (by omega), List.append_nil]
    exact initial_verified recorded verified _ (List.take_prefix place recorded)

end

theorem rearranged_traces_are_detected (recorded : List TraceEntry) (verified : check recorded = .ok ()) :
    (∀ chosen : List TraceEntry, (∀ entry ∈ chosen, entry ∈ recorded) →
        (check chosen = .ok () ↔ chosen <+: recorded)) ∧
      (∀ i j a b, i < j → recorded[i]? = some a → recorded[j]? = some b →
        check ((recorded.set i b).set j a) ≠ .ok ()) ∧
      (∀ place entry, place ≤ recorded.length → entry ∈ recorded → check (recorded.insertIdx place entry) ≠ .ok ()) ∧
      (∀ place, place < recorded.length →
        (check (recorded.eraseIdx place) = .ok () ↔ place + 1 = recorded.length)) ∧
      ∀ count, check (recorded.take count) = .ok () :=
  ⟨verified_iff_initial recorded verified, swapped_detected recorded verified, inserted_detected recorded verified,
    dropped_iff_last recorded verified,
    fun count => initial_verified recorded verified _ (List.take_prefix count recorded)⟩

def linked : List TraceEntry :=
  [⟨1, 0, "a", .set, "h0", "h1", genesis, "tl1", true⟩,
    ⟨1, 1, "b", .increment, "h1", "h2", "tl1", "tl2", true⟩,
    ⟨1, 2, "c", .appendLog, "h2", "h3", "tl2", "tl3", true⟩]

theorem linked_rearrangements_detected :
    check linked = .ok () ∧ (∀ entry ∈ linked.reverse, entry ∈ linked) ∧ check linked.reverse ≠ .ok () ∧
      (∀ a b, linked[0]? = some a → linked[1]? = some b → check ((linked.set 0 b).set 1 a) ≠ .ok ()) ∧
      (∀ entry ∈ linked, check (linked.insertIdx 3 entry) ≠ .ok ()) ∧
      check (linked.eraseIdx 1) ≠ .ok () ∧ check (linked.take 2) = .ok () := by
  have verified : check linked = .ok () := by decide
  have among : ∀ entry ∈ linked.reverse, entry ∈ linked := fun _ => List.mem_reverse.mp
  obtain ⟨chosen, swapped, inserted, dropped, cut⟩ := rearranged_traces_are_detected linked verified
  refine ⟨verified, among, fun passes => ?_, fun a b => swapped 0 1 a b (by decide),
    fun entry => inserted 3 entry (by decide), fun passes => ?_, cut 2⟩
  · exact absurd ((chosen linked.reverse among).mp passes) (by decide)
  · exact absurd ((dropped 1 (by decide)).mp passes) (by decide)

end PlanChain.Trace
