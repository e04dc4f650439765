import Mathlib.Data.List.DropRight
import PlanChain.Proofs.Text.Mappings
import PlanChain.Proofs.Text.Normal

set_option autoImplicit false

namespace PlanChain.Text

def recompose (text : List Char) : List Char := composeAll (orderMarks (text.flatMap decompose))

def Stands (text : List Char) : Prop := ∀ c ∈ text, decompose c = [c]

theorem stands_decompose (text : List Char) (stands : Stands text) : text.flatMap decompose = text := by
  induction text with
  | nil => rfl
  | cons c rest ih =>
      rw [List.flatMap_cons, stands c List.mem_cons_self,
        ih fun d present => stands d (List.mem_cons_of_mem c present)]
      rfl

def InOrder (first second : Char) : Prop :=
  combiningClass second = 0 ∨ combiningClass first ≤ combiningClass second

section Order

theorem place_stays (c : Char) (text : List Char) (ordered : (c :: text).IsChain InOrder) :
    placeMark c text = c :: text := by
  cases text with
  | nil => rfl
  | cons d rest =>
      have inOrder : InOrder c d := (List.isChain_cons_cons.mp ordered).1
      have stays : ¬ (0 < combiningClass d ∧ combiningClass d < combiningClass c) := by
        unfold InOrder at inOrder
        omega
      rw [placeMark, if_neg stays]

theorem place_ordered (c : Char) (text : List Char) (ordered : text.IsChain InOrder) :
    (placeMark c text).IsChain InOrder ∧
      ∀ before, InOrder before c → (before :: text).IsChain InOrder →
        (before :: placeMark c text).IsChain InOrder := by
  induction text with
  | nil => simp [placeMark]
  | cons d rest ih =>
      obtain ⟨restPlaced, restBehind⟩ := ih ordered.tail
      by_cases passes : 0 < combiningClass d ∧ combiningClass d < combiningClass c
      · have behind : (d :: placeMark c rest).IsChain InOrder :=
          restBehind d (Or.inr (Nat.le_of_lt passes.2)) ordered
        rw [placeMark, if_pos passes]
        exact ⟨behind, fun before _ front =>
          List.isChain_cons_cons.mpr ⟨(List.isChain_cons_cons.mp front).1, behind⟩⟩
      · have inOrder : InOrder c d := by
          unfold InOrder
          omega
        have here : (c :: d :: rest).IsChain InOrder := List.isChain_cons_cons.mpr ⟨inOrder, ordered⟩
        rw [placeMark, if_neg passes]
        exact ⟨here, fun before first _ => List.isChain_cons_cons.mpr ⟨first, here⟩⟩

theorem order_ordered (text : List Char) : (orderMarks text).IsChain InOrder := by
  induction text with
  | nil => exact List.isChain_nil
  | cons c rest ih => exact (place_ordered c (orderMarks rest) ih).1

theorem ordered_stays (text : List Char) (ordered : text.IsChain InOrder) : orderMarks text = text := by
  induction text with
  | nil => rfl
  | cons c rest ih =>
      rw [orderMarks, List.foldr_cons, ← orderMarks, ih ordered.tail, place_stays c rest ordered]

theorem place_perm (c : Char) (text : List Char) : List.Perm (placeMark c text) (c :: text) := by
  induction text with
  | nil => exact List.Perm.refl _
  | cons d rest ih =>
      by_cases passes : 0 < combiningClass d ∧ combiningClass d < combiningClass c
      · rw [placeMark, if_pos passes]
        exact (ih.cons d).trans (List.Perm.swap c d rest)
      · rw [placeMark, if_neg passes]

theorem order_perm (text : List Char) : List.Perm (orderMarks text) text := by
  induction text with
  | nil => exact List.Perm.refl _
  | cons c rest ih => exact (place_perm c (orderMarks rest)).trans (ih.cons c)

theorem order_append (front back : List Char) :
    orderMarks (front ++ back) = front.foldr placeMark (orderMarks back) := List.foldr_append

theorem order_behind (front first second : List Char) (same : orderMarks first = orderMarks second) :
    orderMarks (front ++ first) = orderMarks (front ++ second) := by
  rw [order_append, order_append, same]

theorem place_commutes (mark c : Char) (text : List Char) (lower : 0 < combiningClass mark)
    (higher : combiningClass mark < combiningClass c) :
    placeMark c (placeMark mark text) = placeMark mark (placeMark c text) := by
  have passes : 0 < combiningClass mark ∧ combiningClass mark < combiningClass c := ⟨lower, higher⟩
  have stays : ¬ (0 < combiningClass c ∧ combiningClass c < combiningClass mark) := by omega
  induction text with
  | nil => simp only [placeMark, if_pos passes, if_neg stays]
  | cons d rest ih =>
      by_cases markPasses : 0 < combiningClass d ∧ combiningClass d < combiningClass mark
      · have bothPass : 0 < combiningClass d ∧ combiningClass d < combiningClass c := by omega
        simp only [placeMark, if_pos markPasses, if_pos bothPass, ih]
      · by_cases cPasses : 0 < combiningClass d ∧ combiningClass d < combiningClass c
        · simp only [placeMark, if_neg markPasses, if_pos passes, if_pos cPasses]
        · simp only [placeMark, if_neg markPasses, if_pos passes, if_neg cPasses, if_neg stays]

theorem order_past (c : Char) (marks rest : List Char)
    (lower : ∀ mark ∈ marks, 0 < combiningClass mark ∧ combiningClass mark < combiningClass c) :
    orderMarks (c :: (marks ++ rest)) = orderMarks (marks ++ c :: rest) := by
  induction marks with
  | nil => rfl
  | cons mark marks ih =>
      have ⟨positive, below⟩ := lower mark List.mem_cons_self
      have restPast := ih fun other present => lower other (List.mem_cons_of_mem mark present)
      calc orderMarks (c :: mark :: (marks ++ rest))
          = placeMark c (placeMark mark (orderMarks (marks ++ rest))) := rfl
        _ = placeMark mark (placeMark c (orderMarks (marks ++ rest))) :=
            place_commutes mark c _ positive below
        _ = placeMark mark (orderMarks (marks ++ c :: rest)) := by rw [← restPast]; rfl

end Order

-- The marks that wait behind a starter: real marks, in order, and what follows continues the order.
structure Waiting (marks rest : List Char) : Prop where
  positive : ∀ mark ∈ marks, 0 < combiningClass mark
  sorted : marks.Pairwise fun later earlier => combiningClass earlier ≤ combiningClass later
  continues : (marks.head?.toList ++ rest).IsChain InOrder

theorem Waiting.none (rest : List Char) (ordered : rest.IsChain InOrder) : Waiting [] rest :=
  ⟨by simp, List.Pairwise.nil, ordered⟩

theorem Waiting.latest {marks rest : List Char} (waiting : Waiting marks rest) :
    ∀ mark ∈ marks, ∀ latest ∈ marks.head?, combiningClass mark ≤ combiningClass latest := by
  intro mark present latest last
  cases marks with
  | nil => cases present
  | cons head others =>
      cases last
      rcases List.mem_cons.mp present with rfl | earlier
      · exact Nat.le_refl _
      · exact List.rel_of_pairwise_cons waiting.sorted earlier

theorem Waiting.push {c : Char} {marks rest : List Char} (waiting : Waiting marks (c :: rest))
    (mark : combiningClass c ≠ 0) : Waiting (c :: marks) rest where
  positive := by
    intro other present
    rcases List.mem_cons.mp present with rfl | before
    · exact Nat.pos_of_ne_zero mark
    · exact waiting.positive other before
  sorted := by
    refine List.pairwise_cons.mpr ⟨fun other present => ?_, waiting.sorted⟩
    cases marks with
    | nil => cases present
    | cons latest others =>
        have below := waiting.latest other present latest rfl
        have inOrder : InOrder latest c := (List.isChain_cons_cons.mp waiting.continues).1
        unfold InOrder at inOrder
        omega
  continues := by
    cases marks with
    | nil => exact waiting.continues
    | cons latest others => exact waiting.continues.tail

theorem Waiting.take {c : Char} {marks rest : List Char} (waiting : Waiting marks (c :: rest))
    (past : ∀ latest ∈ marks.head?, combiningClass latest < combiningClass c) : Waiting marks rest where
  positive := waiting.positive
  sorted := waiting.sorted
  continues := by
    cases marks with
    | nil => exact waiting.continues.tail
    | cons latest others =>
        have behind : (c :: rest).IsChain InOrder := waiting.continues.tail
        cases rest with
        | nil => exact List.isChain_singleton latest
        | cons d rest =>
            obtain ⟨inOrder, ordered⟩ := List.isChain_cons_cons.mp behind
            have below := past latest rfl
            refine List.isChain_cons_cons.mpr ⟨?_, ordered⟩
            unfold InOrder at inOrder ⊢
            omega

-- Decomposing what has been composed gives back what was there, in another order at most. The induction is on
-- what is still to be composed; the waiting marks say what a composing character has passed.
theorem compose_from_decomposes (starter : Char) (marks text : List Char) (waiting : Waiting marks text)
    (marksStand : Stands marks) (textStands : Stands text) :
    orderMarks ((composeFrom starter marks text).flatMap decompose) =
      orderMarks (decompose starter ++ (marks.reverse ++ text)) := by
  induction text generalizing starter marks with
  | nil =>
      have marksDecompose : marks.reverse.flatMap decompose = marks.reverse :=
        stands_decompose _ fun c present => marksStand c (List.mem_reverse.mp present)
      rw [composeFrom, List.flatMap_cons, marksDecompose, List.append_nil]
  | cons c rest ih =>
      have restStands : Stands rest := fun d present => textStands d (List.mem_cons_of_mem c present)
      rcases compose_step starter c marks rest with ⟨composite, found, past, same⟩ | ⟨takes, same⟩ | ⟨mark, same⟩
      · have lower : ∀ mark ∈ marks.reverse,
            0 < combiningClass mark ∧ combiningClass mark < combiningClass c := by
          intro mark present
          have member := List.mem_reverse.mp present
          refine ⟨waiting.positive mark member, ?_⟩
          cases marks with
          | nil => cases member
          | cons latest others =>
              exact Nat.lt_of_le_of_lt (waiting.latest mark member latest rfl) (past latest rfl)
        have moved := order_behind (decompose starter) _ _ (order_past c marks.reverse rest lower)
        rw [same, ih composite marks (waiting.take past) marksStand restStands,
          (composite_splits starter c composite found).1, List.append_assoc, List.singleton_append, moved]
      · have behind := ih c [] (Waiting.none rest waiting.continues.right_of_append.tail)
          (fun d absent => absurd absent List.not_mem_nil) restStands
        rw [textStands c List.mem_cons_self] at behind
        have marksDecompose : marks.reverse.flatMap decompose = marks.reverse :=
          stands_decompose _ fun d present => marksStand d (List.mem_reverse.mp present)
        have joined := order_behind (decompose starter ++ marks.reverse) _ _ behind
        simpa [same, marksDecompose] using joined
      · have pushed := ih starter (c :: marks) (waiting.push mark)
          (fun d present => by
            rcases List.mem_cons.mp present with rfl | before
            · exact textStands d List.mem_cons_self
            · exact marksStand d before) restStands
        rw [same, pushed, List.reverse_cons, List.append_assoc, List.singleton_append]

theorem compose_all_decomposes (text : List Char) (ordered : text.IsChain InOrder) (stands : Stands text) :
    orderMarks ((composeAll text).flatMap decompose) = orderMarks text := by
  induction text with
  | nil => rfl
  | cons c rest ih =>
      have restStands : Stands rest := fun d present => stands d (List.mem_cons_of_mem c present)
      have stand := stands c List.mem_cons_self
      by_cases starter : combiningClass c = 0
      · have composed := compose_from_decomposes c [] rest (Waiting.none rest ordered.tail)
          (fun d absent => absurd absent List.not_mem_nil) restStands
        rw [composeAll, if_pos starter, composed, stand]
        rfl
      · have behind := order_behind [c] _ _ (ih ordered.tail restStands)
        rw [composeAll, if_neg starter, List.flatMap_cons, stand]
        exact behind

theorem recompose_idempotent (text : List Char) : recompose (recompose text) = recompose text := by
  have ordered := order_ordered (text.flatMap decompose)
  have stands : Stands (orderMarks (text.flatMap decompose)) := by
    intro d present
    obtain ⟨c, -, part⟩ := List.mem_flatMap.mp ((order_perm _).mem_iff.mp present)
    exact parts_stand c d part
  have back := compose_all_decomposes _ ordered stands
  rw [recompose, recompose, back, ordered_stays _ ordered]

theorem recompose_of_long (text : List Char) (long : ¬ text.all (·.toNat < 0x300) = true) :
    nfcChars text = recompose text := by
  rw [nfcChars, if_neg long, recompose]

theorem nfc_idempotent (text : List Char) : nfcChars (nfcChars text) = nfcChars text := by
  by_cases short : text.all (·.toNat < 0x300) = true
  · have same : nfcChars text = text := by rw [nfcChars, if_pos short]
    rw [same, same]
  · rw [recompose_of_long text short]
    by_cases shortNow : (recompose text).all (·.toNat < 0x300) = true
    · rw [nfcChars, if_pos shortNow]
    · rw [recompose_of_long _ shortNow, recompose_idempotent]

section Trim

def Blanks (text : List Char) : Prop := ∀ c ∈ text, isBlank c = true

-- No composite starts with a blank: decomposing the composite would give the blank back.
theorem blank_compose (c second : Char) (blank : isBlank c = true) : compose? c second = none := by
  cases composed : compose? c second with
  | none => rfl
  | some composite =>
      obtain ⟨part, single, partBlank⟩ := blank_decompose c blank
      have split := (composite_splits c second composite composed).1
      rw [single, List.singleton_append] at split
      rcases decompose_keeps_fixed composite with same | keeps
      · rw [same] at split
        cases split
      · rw [split] at keeps
        rw [keeps.2.2.1] at partBlank
        cases partBlank

theorem compose_from_blank (c : Char) (marks text : List Char) (blank : isBlank c = true) :
    composeFrom c marks text = c :: (marks.reverse ++ composeAll text) := by
  induction text generalizing marks with
  | nil => simp [composeFrom, composeAll]
  | cons d rest ih =>
      rcases compose_step c d marks rest with ⟨composite, found, -⟩ | ⟨starter, same⟩ | ⟨mark, same⟩
      · rw [blank_compose c d blank] at found
        cases found
      · rw [same, composeAll, if_pos starter]
      · rw [same, ih (d :: marks), composeAll, if_neg mark]
        simp

theorem compose_from_append (starter : Char) (marks text blanks : List Char) (areBlank : Blanks blanks) :
    composeFrom starter marks (text ++ blanks) = composeFrom starter marks text ++ blanks := by
  induction text generalizing starter marks with
  | nil =>
      cases blanks with
      | nil => simp
      | cons b others =>
          have blank := areBlank b List.mem_cons_self
          have othersComposed := compose_blanks b others fun d present =>
            areBlank d (List.mem_cons_of_mem b present)
          rcases compose_step starter b marks others with ⟨composite, found, -⟩ | ⟨-, same⟩ | ⟨mark, -⟩
          · rw [compose_blank starter b blank] at found
            cases found
          · rw [List.nil_append, same, othersComposed, composeFrom, List.cons_append]
          · exact (mark (blank_starter b blank)).elim
  | cons c rest ih =>
      simp only [List.cons_append, composeFrom]
      split
      · exact ih _ marks
      · by_cases takes : combiningClass c = 0
        · simp [if_pos takes, ih c []]
        · simp only [if_neg takes, ih starter (c :: marks)]

theorem compose_all_append (text blanks : List Char) (areBlank : Blanks blanks) :
    composeAll (text ++ blanks) = composeAll text ++ blanks := by
  induction text with
  | nil =>
      cases blanks with
      | nil => rfl
      | cons b others =>
          have starts : composeAll (b :: others) = composeFrom b [] others :=
            if_pos (blank_starter b (areBlank b List.mem_cons_self))
          have othersComposed := compose_blanks b others fun d present =>
            areBlank d (List.mem_cons_of_mem b present)
          exact starts.trans othersComposed
  | cons c rest ih =>
      by_cases starter : combiningClass c = 0
      · simp only [List.cons_append, composeAll, if_pos starter, compose_from_append c [] rest blanks areBlank]
      · simp only [List.cons_append, composeAll, if_neg starter, ih]

theorem order_append_blanks (text blanks : List Char) (areBlank : Blanks blanks) :
    orderMarks (text ++ blanks) = orderMarks text ++ blanks := by
  have placed : ∀ c rest, placeMark c (rest ++ blanks) = placeMark c rest ++ blanks := by
    intro c rest
    induction rest with
    | nil =>
        cases blanks with
        | nil => rfl
        | cons b others => simp [placeMark, blank_starter b (areBlank b List.mem_cons_self)]
    | cons d rest ih =>
        by_cases passes : 0 < combiningClass d ∧ combiningClass d < combiningClass c
        · simp only [List.cons_append, placeMark, if_pos passes, ih]
        · simp only [List.cons_append, placeMark, if_neg passes]
  induction text with
  | nil => exact order_starters blanks fun c present => blank_starter c (areBlank c present)
  | cons c rest ih =>
      calc orderMarks (c :: (rest ++ blanks))
          = placeMark c (orderMarks (rest ++ blanks)) := rfl
        _ = placeMark c (orderMarks rest) ++ blanks := by rw [ih, placed]

theorem blanks_kept (blanks : List Char) (areBlank : Blanks blanks) :
    (blanks.flatMap decompose).length = blanks.length ∧ Blanks (blanks.flatMap decompose) := by
  refine ⟨?_, decompose_blanks blanks areBlank⟩
  induction blanks with
  | nil => rfl
  | cons b rest ih =>
      obtain ⟨part, single, -⟩ := blank_decompose b (areBlank b List.mem_cons_self)
      rw [List.flatMap_cons, single, List.length_append,
        ih fun c present => areBlank c (List.mem_cons_of_mem b present)]
      simp [Nat.add_comm]

theorem compose_blanks_front (blanks text : List Char) (areBlank : Blanks blanks) :
    composeAll (orderMarks (blanks ++ text)) = blanks ++ composeAll (orderMarks text) := by
  induction blanks with
  | nil => rfl
  | cons b rest ih =>
      have blank := areBlank b List.mem_cons_self
      have restComposed := ih fun c present => areBlank c (List.mem_cons_of_mem b present)
      have placed : orderMarks (b :: (rest ++ text)) = b :: orderMarks (rest ++ text) :=
        place_starter b _ (blank_starter b blank)
      rw [List.cons_append, placed, composeAll, if_pos (blank_starter b blank), compose_from_blank b [] _ blank,
        restComposed]
      rfl

theorem recompose_between (before text after : List Char) (beforeBlank : Blanks before)
    (afterBlank : Blanks after) :
    recompose (before ++ (text ++ after)) =
      before.flatMap decompose ++ (recompose text ++ after.flatMap decompose) := by
  rw [recompose, List.flatMap_append, compose_blanks_front _ _ (blanks_kept before beforeBlank).2,
    List.flatMap_append, order_append_blanks _ _ (blanks_kept after afterBlank).2,
    compose_all_append _ _ (blanks_kept after afterBlank).2, recompose]

theorem trim_splits (text : List Char) :
    ∃ before after, text = before ++ (trim text ++ after) ∧ Blanks before ∧ Blanks after := by
  refine ⟨text.takeWhile isBlank, ((trimStart text).reverse.takeWhile isBlank).reverse, ?_,
    fun c present => List.mem_takeWhile_imp present,
    fun c present => List.mem_takeWhile_imp (List.mem_reverse.mp present)⟩
  have ending : trimStart text =
      trim text ++ ((trimStart text).reverse.takeWhile isBlank).reverse := by
    rw [trim, trimEnd, ← List.reverse_append, List.takeWhile_append_dropWhile, List.reverse_reverse]
  rw [← ending, trimStart, List.takeWhile_append_dropWhile]

theorem trim_idempotent (text : List Char) : trim (trim text) = trim text := by
  have starts : trimStart (trim text) = trim text := by
    cases shape : trim text with
    | nil => rfl
    | cons c rest =>
        have front : trim text <+: trimStart text := List.rdropWhile_prefix isBlank _
        rw [shape] at front
        obtain ⟨after, whole⟩ := front
        have started : text.dropWhile isBlank = c :: (rest ++ after) := whole.symm
        have visible := List.head_dropWhile_not isBlank (l := text) (by simp [started])
        simp only [started, List.head_cons] at visible
        exact List.dropWhile_cons_of_neg (by simp [visible])
  rw [trim, starts]
  exact List.rdropWhile_idempotent isBlank (trimStart text)

theorem trimmed_nfc (text : List Char) : nfcChars (trim (nfcChars text)) = trim (nfcChars text) := by
  obtain ⟨before, after, whole, beforeBlank, afterBlank⟩ := trim_splits (nfcChars text)
  by_cases short : (trim (nfcChars text)).all (·.toNat < 0x300) = true
  · rw [nfcChars, if_pos short]
  · have long : ¬ (nfcChars text).all (·.toNat < 0x300) = true := by
      intro allShort
      rw [whole, List.all_append, List.all_append, Bool.and_eq_true, Bool.and_eq_true] at allShort
      exact short allShort.2.1
    have stable := nfc_idempotent text
    rw [recompose_of_long _ long] at stable
    rw [recompose_of_long _ short]
    have around := recompose_between before (trim (nfcChars text)) after beforeBlank afterBlank
    rw [← whole, stable] at around
    have parts := List.append_inj (whole.symm.trans around) (blanks_kept before beforeBlank).1.symm
    exact (List.append_inj' parts.2 (blanks_kept after afterBlank).1.symm).1.symm

theorem trim_visible (text : List Char) (visible : ∀ c ∈ text, isBlank c = false) : trim text = text := by
  have keeps : ∀ chars : List Char, (∀ c ∈ chars, isBlank c = false) → chars.dropWhile isBlank = chars := by
    intro chars allVisible
    cases chars with
    | nil => rfl
    | cons c rest => exact List.dropWhile_cons_of_neg (by simp [allVisible c List.mem_cons_self])
  have reversed : ∀ c ∈ text.reverse, isBlank c = false := fun c present => visible c (List.mem_reverse.mp present)
  rw [trim, trimStart, keeps text visible, trimEnd, keeps text.reverse reversed, List.reverse_reverse]

theorem normalize_plain (text : String) (plain : ∀ c ∈ text.toList, c.toNat < 0x300 ∧ isBlank c = false) :
    normalize text = text := by
  have short : text.toList.all (·.toNat < 0x300) = true :=
    List.all_eq_true.mpr fun c present => decide_eq_true (plain c present).1
  rw [normalize, nfcChars, if_pos short, trim_visible _ fun c present => (plain c present).2, String.ofList_toList]

theorem normalize_idempotent (text : String) : normalize (normalize text) = normalize text := by
  rw [normalize, normalize, String.toList_ofList, trimmed_nfc, trim_idempotent]

end Trim

end PlanChain.Text
