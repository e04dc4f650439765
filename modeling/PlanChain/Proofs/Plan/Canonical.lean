import PlanChain.Proofs.Plan.Grammar

/-! A checked value reads a form when it is free of issues just for the values of that form; every check of a
plan is put together from checks that read the forms of its parts. -/

set_option autoImplicit false

namespace PlanChain

open Grammar Canonical

variable {α β γ : Type}

structure Checked.Reads (checked : Checked α) (form : α → Prop) : Prop where
  sound : checked.issues = [] → ∃ value, checked.value = some value ∧ form value
  complete : ∀ value, form value → checked.issues = [] ∧ checked.value = some value

namespace Checked

theorem accept_reads (value : α) (form : α → Prop) (holds : form value)
    (only : ∀ other, form other → other = value) : (accept value).Reads form :=
  ⟨fun _ => ⟨value, rfl, holds⟩, fun other otherHolds => ⟨rfl, congrArg some (only other otherHolds).symm⟩⟩

theorem reject_reads (code : IssueCode) (path message : String) (form : α → Prop)
    (none : ∀ value, ¬ form value) : (reject code path message).Reads form :=
  ⟨fun clean => by simp [reject] at clean, fun value holds => (none value holds).elim⟩

theorem both_reads (combine : α → β → γ) (first : Checked α) (second : Checked β) (p : α → Prop)
    (q : β → Prop) (firstReads : first.Reads p) (secondReads : second.Reads q) :
    (both combine first second).Reads fun value => ∃ a b, p a ∧ q b ∧ combine a b = value := by
  constructor
  · intro clean
    obtain ⟨cleanFirst, cleanSecond⟩ := List.append_eq_nil_iff.mp clean
    obtain ⟨a, foundA, holdsA⟩ := firstReads.sound cleanFirst
    obtain ⟨b, foundB, holdsB⟩ := secondReads.sound cleanSecond
    exact ⟨combine a b, by simp [both, foundA, foundB], a, b, holdsA, holdsB, rfl⟩
  · rintro value ⟨a, b, holdsA, holdsB, rfl⟩
    obtain ⟨cleanFirst, foundA⟩ := firstReads.complete a holdsA
    obtain ⟨cleanSecond, foundB⟩ := secondReads.complete b holdsB
    simp [both, cleanFirst, cleanSecond, foundA, foundB]

theorem map_reads (change : α → β) (checked : Checked α) (form : α → Prop)
    (reads : checked.Reads form) :
    (map change checked).Reads fun value => ∃ a, form a ∧ change a = value := by
  constructor
  · intro clean
    obtain ⟨a, found, holds⟩ := reads.sound clean
    exact ⟨change a, by simp [map, found], a, holds, rfl⟩
  · rintro value ⟨a, holds, rfl⟩
    obtain ⟨clean, found⟩ := reads.complete a holds
    exact ⟨clean, by simp [map, found]⟩

theorem following_reads (issues : List Issue) (checked : Checked α) (form : α → Prop)
    (reads : checked.Reads form) :
    (following issues checked).Reads fun value => issues = [] ∧ form value := by
  constructor
  · intro clean
    obtain ⟨cleanBefore, cleanAfter⟩ := List.append_eq_nil_iff.mp clean
    obtain ⟨value, found, holds⟩ := reads.sound cleanAfter
    exact ⟨value, found, cleanBefore, holds⟩
  · rintro value ⟨cleanBefore, holds⟩
    obtain ⟨cleanAfter, found⟩ := reads.complete value holds
    exact ⟨by simp [following, cleanBefore, cleanAfter], found⟩

theorem withheld_reads (checked : Checked α) (form : α → Prop) (reads : checked.Reads form) :
    Reads ⟨checked.issues, if checked.issues.isEmpty then checked.value else none⟩ form := by
  constructor
  · intro clean
    obtain ⟨value, found, holds⟩ := reads.sound clean
    exact ⟨value, by simp [show checked.issues = [] from clean, found], holds⟩
  · intro value holds
    obtain ⟨clean, found⟩ := reads.complete value holds
    exact ⟨clean, by simp [clean, found]⟩

theorem reads_congr (checked : Checked α) (p q : α → Prop) (reads : checked.Reads p)
    (same : ∀ value, p value ↔ q value) : checked.Reads q := by
  rw [show q = p from funext fun value => propext (same value).symm]
  exact reads

end Checked

namespace Canonical

theorem text_reads (path name : String) (limit : Nat) (members : Members) :
    (text path limit (members.get? name)).Reads (TextField members name limit) := by
  unfold text
  split
  · rename_i raw found
    dsimp only
    split
    · rename_i empty
      apply Checked.reject_reads
      rintro value ⟨other, read, rfl, positive, -⟩
      rw [found] at read
      cases read
      simp [empty] at positive
    · rename_i filled
      split
      · rename_i long
        apply Checked.reject_reads
        rintro value ⟨other, read, rfl, -, bound⟩
        rw [found] at read
        cases read
        omega
      · rename_i short
        have positive : 1 ≤ (Text.normalize raw).length :=
          Nat.one_le_iff_ne_zero.mpr fun zero => filled (String.length_eq_zero_iff.mp zero)
        have field : TextField members name limit (Text.normalize raw) :=
          ⟨raw, found, rfl, positive, Nat.not_lt.mp short⟩
        exact Checked.accept_reads _ _ field fun other otherField =>
          text_field_unique members name limit other _ otherField field
  · rename_i noText
    apply Checked.reject_reads
    rintro value ⟨raw, read, -⟩
    exact noText raw read

theorem is_http_iff (address : String) : Policy.isHttp address = true ↔ IsHttp address := by
  simp only [Policy.isHttp, IsHttp, Bool.or_eq_true, String.startsWith_string_iff]

theorem url_reads (path : String) (members : Members) :
    (url path (members.get? "url")).Reads fun address =>
      TextField members "url" 2048 address ∧ IsHttp address := by
  have reads := text_reads path "url" urlLimit members
  unfold url
  dsimp only
  split
  · rename_i address found
    split
    · rename_i http
      constructor
      · intro clean
        obtain ⟨other, same, field⟩ := reads.sound clean
        rw [found] at same
        cases same
        exact ⟨address, found, field, (is_http_iff address).mp http⟩
      · rintro value ⟨field, -⟩
        exact reads.complete value field
    · rename_i noHttp
      apply Checked.reject_reads
      rintro value ⟨field, http⟩
      rw [(reads.complete value field).2] at found
      cases found
      exact noHttp ((is_http_iff address).mpr http)
  · rename_i missing
    constructor
    · intro clean
      obtain ⟨value, found, -⟩ := reads.sound clean
      rw [missing] at found
      cases found
    · rintro value ⟨field, -⟩
      exact reads.complete value field

theorem whole_field_iff (members : Members) (name : String) (whole : Int) :
    ((members.get? name).bind Json.number?).bind Number.toInt? = some whole ↔
      WholeField members name whole := by
  constructor
  · intro found
    obtain ⟨number, numberFound, wholeFound⟩ := Option.bind_eq_some_iff.mp found
    obtain ⟨value, valueFound, isNumber⟩ := Option.bind_eq_some_iff.mp numberFound
    cases value with
    | num other =>
        cases isNumber
        exact ⟨number, valueFound, wholeFound⟩
    | _ => cases isNumber
  · rintro ⟨number, read, wholeFound⟩
    rw [read]
    exact wholeFound

theorem safe_integer_reads (path : String) (members : Members) :
    (safeInteger path (members.get? "value")).Reads fun amount =>
      WholeField members "value" amount.toInt ∧ amount.toInt.natAbs ≤ 9007199254740991 := by
  unfold safeInteger
  split
  · rename_i missing
    apply Checked.reject_reads
    rintro value ⟨field, -⟩
    rw [(whole_field_iff members "value" _).mpr field] at missing
    cases missing
  · rename_i whole found
    have field := (whole_field_iff members "value" whole).mp found
    split
    · rename_i bound
      have exactly := safe_amount whole bound
      refine Checked.accept_reads _ _ ⟨by rwa [exactly], by rwa [exactly]⟩ ?_
      rintro other ⟨otherField, -⟩
      rw [← whole_field_unique members "value" _ _ otherField field, Int64.ofInt_toInt]
    · rename_i tooLarge
      apply Checked.reject_reads
      rintro value ⟨valueField, bound⟩
      rw [whole_field_unique members "value" _ _ valueField field] at bound
      exact tooLarge bound

theorem unsupported_nil_iff (path : String) (known : List String) (members : Members) :
    unsupported path known members = [] ↔ Only known members := by
  simp [unsupported, Only]

theorem contains_iff (members : Members) (name : String) :
    members.contains name = true ↔ ∃ member ∈ members, member.1 = name := by
  induction members with
  | nil => simp [Members.contains, Members.get?]
  | cons head rest ih =>
      obtain ⟨key, value⟩ := head
      by_cases hit : key = name
      · simp [Members.contains, Members.get?, hit]
      · simpa [Members.contains, Members.get?, hit] using ih

theorem unused_nil_iff (path : String) (kind : StepKind) (names : List String) (members : Members) :
    unused path kind names members = [] ↔ ∀ member ∈ members, member.1 ∉ names := by
  simp only [unused, List.map_eq_nil_iff, List.filter_eq_nil_iff, contains_iff]
  constructor
  · intro absent member present named
    exact absent member.1 named ⟨member, present, rfl⟩
  · rintro absent name named ⟨member, present, rfl⟩
    exact absent member present named

def knownFields (kind : StepKind) : List String := if kind.isSandbox then sandboxFields else coreFields

theorem known_not_unused (kind : StepKind) :
    (knownFields kind).filter (fun name => !(unusedFields kind).contains name) = usedFields kind := by
  cases kind <;> decide

theorem only_used_iff (kind : StepKind) (members : Members) :
    Only (knownFields kind) members ∧ (∀ member ∈ members, member.1 ∉ unusedFields kind) ↔
      Only (usedFields kind) members := by
  rw [← known_not_unused]
  simp only [Only, List.mem_filter, Bool.not_eq_true', List.contains_eq_mem, decide_eq_false_iff_not]
  exact forall₂_and.symm

theorem action_of_kind (found : Action) :
    match found.kind with
    | .set => ∃ key value, found = .set key value
    | .increment => ∃ key amount, found = .increment key amount
    | .appendLog => ∃ line, found = .appendLog line
    | .sandboxOpen => ∃ session url, found = .sandbox session (.visit url)
    | .sandboxClick => ∃ session selector, found = .sandbox session (.click selector)
    | .sandboxType => ∃ session selector text, found = .sandbox session (.enter selector text)
    | .sandboxExtract => ∃ session selector key, found = .sandbox session (.extract selector key) := by
  cases found with
  | set key value => exact ⟨key, value, rfl⟩
  | increment key amount => exact ⟨key, amount, rfl⟩
  | appendLog line => exact ⟨line, rfl⟩
  | sandbox session call =>
      cases call with
      | visit url => exact ⟨session, url, rfl⟩
      | click selector => exact ⟨session, selector, rfl⟩
      | enter selector text => exact ⟨session, selector, text, rfl⟩
      | extract selector key => exact ⟨session, selector, key, rfl⟩

theorem action_reads (path : String) (kind : StepKind) (members : Members) :
    (action path kind members).Reads fun found =>
      (∀ member ∈ members, member.1 ∉ unusedFields kind) ∧ found.kind = kind ∧ ReadsAction members found := by
  have field (name : String) (limit : Nat) := text_reads (path ++ "." ++ name) name limit members
  have used (checked : Checked Action)
      (reads : checked.Reads fun found => found.kind = kind ∧ ReadsAction members found) :=
    Checked.following_reads (unused path kind (unusedFields kind) members) checked _ reads
  refine Checked.reads_congr _ _ _ (used _ ?_) fun found => by rw [unused_nil_iff]
  have shape := action_of_kind
  cases kind with
  | set =>
      refine Checked.reads_congr _ _ _
        (Checked.both_reads _ _ _ _ _ (field "key" idLimit) (field "value" textLimit)) fun found => ⟨?_, ?_⟩
      · rintro ⟨key, value, keyReads, valueReads, rfl⟩
        exact ⟨rfl, keyReads, valueReads⟩
      · rintro ⟨isKind, reads⟩
        specialize shape found
        rw [isKind] at shape
        obtain ⟨key, value, rfl⟩ := shape
        exact ⟨key, value, reads.1, reads.2, rfl⟩
  | increment =>
      refine Checked.reads_congr _ _ _
        (Checked.both_reads _ _ _ _ _ (field "key" idLimit) (safe_integer_reads _ members)) fun found => ⟨?_, ?_⟩
      · rintro ⟨key, amount, keyReads, amountReads, rfl⟩
        exact ⟨rfl, keyReads, amountReads⟩
      · rintro ⟨isKind, reads⟩
        specialize shape found
        rw [isKind] at shape
        obtain ⟨key, amount, rfl⟩ := shape
        exact ⟨key, amount, reads.1, reads.2, rfl⟩
  | appendLog =>
      refine Checked.reads_congr _ _ _ (Checked.map_reads _ _ _ (field "value" textLimit)) fun found => ⟨?_, ?_⟩
      · rintro ⟨line, lineReads, rfl⟩
        exact ⟨rfl, lineReads⟩
      · rintro ⟨isKind, reads⟩
        specialize shape found
        rw [isKind] at shape
        obtain ⟨line, rfl⟩ := shape
        exact ⟨line, reads, rfl⟩
  | sandboxOpen =>
      refine Checked.reads_congr _ _ _ (Checked.both_reads _ _ _ _ _ (field "sessionId" idLimit)
        (Checked.map_reads _ _ _ (url_reads _ members))) fun found => ⟨?_, ?_⟩
      · rintro ⟨session, _, sessionReads, ⟨url, urlReads, rfl⟩, rfl⟩
        exact ⟨rfl, sessionReads, urlReads⟩
      · rintro ⟨isKind, reads⟩
        specialize shape found
        rw [isKind] at shape
        obtain ⟨session, url, rfl⟩ := shape
        exact ⟨session, _, reads.1, ⟨url, reads.2, rfl⟩, rfl⟩
  | sandboxClick =>
      refine Checked.reads_congr _ _ _ (Checked.both_reads _ _ _ _ _ (field "sessionId" idLimit)
        (Checked.map_reads _ _ _ (field "selector" selectorLimit))) fun found => ⟨?_, ?_⟩
      · rintro ⟨session, _, sessionReads, ⟨selector, selectorReads, rfl⟩, rfl⟩
        exact ⟨rfl, sessionReads, selectorReads⟩
      · rintro ⟨isKind, reads⟩
        specialize shape found
        rw [isKind] at shape
        obtain ⟨session, selector, rfl⟩ := shape
        exact ⟨session, _, reads.1, ⟨selector, reads.2, rfl⟩, rfl⟩
  | sandboxType =>
      refine Checked.reads_congr _ _ _ (Checked.both_reads _ _ _ _ _ (field "sessionId" idLimit)
        (Checked.both_reads _ _ _ _ _ (field "selector" selectorLimit) (field "text" textLimit)))
        fun found => ⟨?_, ?_⟩
      · rintro ⟨session, _, sessionReads, ⟨selector, text, selectorReads, textReads, rfl⟩, rfl⟩
        exact ⟨rfl, sessionReads, selectorReads, textReads⟩
      · rintro ⟨isKind, reads⟩
        specialize shape found
        rw [isKind] at shape
        obtain ⟨session, selector, text, rfl⟩ := shape
        exact ⟨session, _, reads.1, ⟨selector, text, reads.2.1, reads.2.2, rfl⟩, rfl⟩
  | sandboxExtract =>
      refine Checked.reads_congr _ _ _ (Checked.both_reads _ _ _ _ _ (field "sessionId" idLimit)
        (Checked.both_reads _ _ _ _ _ (field "selector" selectorLimit) (field "outputKey" idLimit)))
        fun found => ⟨?_, ?_⟩
      · rintro ⟨session, _, sessionReads, ⟨selector, key, selectorReads, keyReads, rfl⟩, rfl⟩
        exact ⟨rfl, sessionReads, selectorReads, keyReads⟩
      · rintro ⟨isKind, reads⟩
        specialize shape found
        rw [isKind] at shape
        obtain ⟨session, selector, key, rfl⟩ := shape
        exact ⟨session, _, reads.1, ⟨selector, key, reads.2.1, reads.2.2, rfl⟩, rfl⟩

theorem of_name_iff (name : String) (kind : StepKind) : StepKind.ofName? name = some kind ↔ name = kind.name := by
  constructor
  · intro found
    have named := List.find?_some found
    exact (of_decide_eq_true named).symm
  · rintro rfl
    cases kind <;> decide

theorem kind_of_iff (members : Members) (kind : StepKind) :
    Policy.kindOf members = some kind ↔ members.get? "kind" = some (.str kind.name) := by
  constructor
  · intro found
    obtain ⟨name, isName, named⟩ := Option.bind_eq_some_iff.mp found
    obtain ⟨value, read, isString⟩ := Option.bind_eq_some_iff.mp isName
    cases value with
    | str other =>
        cases isString
        rw [read, (of_name_iff _ kind).mp named]
    | _ => cases isString
  · intro read
    simp [Policy.kindOf, read, Json.string?, of_name_iff]

theorem step_reads (index : Nat) (raw : Json) : (step index raw).Reads (ReadsItem raw) := by
  unfold step
  dsimp only
  split
  · rename_i noObject
    apply Checked.reject_reads
    rintro value ⟨members, rfl, -⟩
    cases noObject
  · rename_i members isObject
    cases raw with
    | obj given =>
        cases isObject
        split
        · rename_i unknown
          apply Checked.reject_reads
          rintro value ⟨members, same, reads⟩
          cases same
          rw [(kind_of_iff _ value.kind).mpr reads.tag] at unknown
          cases unknown
        · rename_i kind isKind
          have tag := (kind_of_iff _ kind).mp isKind
          refine Checked.reads_congr _ _ _ (Checked.withheld_reads _ _ (Checked.both_reads _ _ _ _ _
            (text_reads _ "id" idLimit members)
            (Checked.following_reads _ _ _ (action_reads _ kind members)))) fun value => ?_
          rw [unsupported_nil_iff]
          constructor
          · rintro ⟨id, found, idReads, ⟨known, notUnused, rfl, reads⟩, rfl⟩
            exact ⟨members, rfl, tag, (only_used_iff _ members).mp ⟨known, notUnused⟩, idReads, reads⟩
          · rintro ⟨other, same, reads⟩
            cases same
            have sameKind : kind = value.kind :=
              Option.some.inj (isKind.symm.trans ((kind_of_iff _ value.kind).mpr reads.tag))
            subst sameKind
            obtain ⟨known, notUnused⟩ := (only_used_iff _ members).mpr reads.fields
            exact ⟨value.id, value.action, reads.id, ⟨known, notUnused, rfl, reads.action⟩, rfl⟩
    | _ => cases isObject

theorem steps_read (items : List Json) (index : Nat) (found : List Step) :
    (steps index items).flatMap (·.issues) = [] ∧ (steps index items).filterMap (·.value) = found ↔
      List.Forall₂ ReadsItem items found := by
  induction items generalizing index found with
  | nil => simp [steps, eq_comm]
  | cons item rest ih =>
      have reads := step_reads index item
      rw [steps, List.flatMap_cons, List.append_eq_nil_iff]
      constructor
      · rintro ⟨⟨cleanHead, cleanRest⟩, values⟩
        obtain ⟨head, foundHead, readsHead⟩ := reads.sound cleanHead
        rw [List.filterMap_cons_some foundHead] at values
        subst values
        exact .cons readsHead ((ih (index + 1) _).mp ⟨cleanRest, rfl⟩)
      · rintro (_ | ⟨readsHead, readsRest⟩)
        obtain ⟨cleanHead, foundHead⟩ := reads.complete _ readsHead
        obtain ⟨cleanRest, values⟩ := (ih (index + 1) _).mpr readsRest
        exact ⟨⟨cleanHead, cleanRest⟩, by rw [List.filterMap_cons_some foundHead, values]⟩

theorem duplicates_nil_iff (seen : List String) (found : List Step) :
    duplicates seen found = [] ↔ (found.map Step.id).Nodup ∧ ∀ id ∈ found.map Step.id, id ∉ seen := by
  induction found generalizing seen with
  | nil => simp [duplicates]
  | cons step rest ih =>
      by_cases repeated : step.id ∈ seen
      · simp [duplicates, repeated]
      · rw [duplicates, if_neg repeated, ih, List.map_cons, List.nodup_cons, List.forall_mem_cons]
        simp only [List.mem_cons, not_or]
        constructor
        · rintro ⟨distinct, apart⟩
          exact ⟨⟨fun present => (apart _ present).1 rfl, distinct⟩, repeated, fun id present => (apart id present).2⟩
        · rintro ⟨⟨absent, distinct⟩, -, apart⟩
          exact ⟨distinct, fun id present => ⟨fun same => absent (same ▸ present), apart id present⟩⟩

theorem version_nil_iff (members : Members) :
    version (members.get? "version") = [] ↔ WholeField members "version" 1 := by
  rw [← whole_field_iff]
  simp [version]

theorem step_list_iff (members : Members) (found : List Step) :
    stepList (members.get? "steps") = ([], found) ↔
      ∃ items, members.get? "steps" = some (.arr items) ∧ List.Forall₂ ReadsItem items found := by
  unfold stepList
  cases read : members.get? "steps" with
  | none => simp
  | some value =>
      cases value with
      | arr items => simp [Json.items?, ← steps_read items 0 found]
      | _ => simp [Json.items?]

end Canonical

theorem canonical_ok_iff (raw : Json) (plan : Plan) :
    Plan.canonical raw = .ok plan ↔ ∃ members, raw = .obj members ∧ ReadsPlan members plan := by
  unfold Plan.canonical
  cases raw with
  | obj members =>
      have planId := text_reads "plan.planId" "planId" idLimit members
      dsimp only [Json.members?]
      generalize stepsFound : stepList (Members.get? members "steps") = stepsRead
      obtain ⟨stepIssues, steps⟩ := stepsRead
      simp only [List.isEmpty_iff, List.append_eq_nil_iff]
      constructor
      · intro accepted
        split at accepted
        · rename_i clean
          obtain ⟨⟨⟨⟨known, cleanId⟩, isVersion⟩, rfl⟩, distinct⟩ := clean
          obtain ⟨id, found, idReads⟩ := planId.sound cleanId
          rw [found] at accepted
          cases accepted
          exact ⟨members, rfl, (unsupported_nil_iff _ _ _).mp known, idReads,
            ⟨(version_nil_iff members).mp isVersion, rfl⟩, (step_list_iff members steps).mp stepsFound,
            ((duplicates_nil_iff [] steps).mp distinct).1⟩
        · cases accepted
      · rintro ⟨other, same, reads⟩
        cases same
        obtain ⟨cleanId, found⟩ := planId.complete _ reads.planId
        have stepsClean := (step_list_iff members plan.steps).mpr reads.steps
        rw [stepsFound] at stepsClean
        cases stepsClean
        rw [if_pos, found]
        · obtain ⟨id, version, steps⟩ := plan
          have current : version = 1 := reads.version.2
          rw [current]
          rfl
        · exact ⟨⟨⟨⟨(unsupported_nil_iff _ _ _).mpr reads.fields, cleanId⟩,
            (version_nil_iff members).mpr reads.version.1⟩, rfl⟩,
            (duplicates_nil_iff [] plan.steps).mpr ⟨reads.distinct, by simp⟩⟩
  | _ => simp [Json.members?]

-- The canonical form accepts exactly the objects that the grammar admits, and keeps everything: the plan
-- has the normal form of every text, the exact number of every amount, and a step for every item.
theorem canonical_accepts_exactly_its_grammar (raw : Json) :
    ((∃ plan, Plan.canonical raw = .ok plan) ↔ ∃ members, raw = .obj members ∧ AdmitsPlan members) ∧
      ∀ plan, Plan.canonical raw = .ok plan ↔ ∃ members, raw = .obj members ∧ ReadsPlan members plan := by
  refine ⟨?_, canonical_ok_iff raw⟩
  simp only [canonical_ok_iff, admits_plan_iff]
  constructor
  · rintro ⟨plan, members, same, reads⟩
    exact ⟨members, same, plan, reads⟩
  · rintro ⟨members, same, plan, reads⟩
    exact ⟨plan, members, same, reads⟩

end PlanChain
