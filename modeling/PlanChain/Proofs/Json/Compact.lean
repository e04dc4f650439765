import Mathlib.Data.List.Infix
import PlanChain.Json.Parser
import PlanChain.Json.Printer
import PlanChain.Proofs.Text.Digits

/-! A written string ends where its reader stops, a whole number where its digits stop, and brackets and
commas part the rest; so two documents of whole numbers with one text are the same. -/

set_option autoImplicit false

namespace PlanChain

open Text

namespace Json

-- A control that has no letter of its own is written with four digits, the first two of them zeros.
theorem control_escape : ∀ code < 0x20,
    padded 4 (hexadecimal code) = ['0', '0', digitChar (code / 16), digitChar (code % 16)] ∧
      codeUnit '0' '0' (digitChar (code / 16)) (digitChar (code % 16)) = some code := by
  decide +kernel

theorem escape_read (c : Char) (rest : List Char) :
    stringBody (escapeChar c ++ rest) = prepend c (stringBody rest) := by
  unfold escapeChar
  split
  · rfl
  · rfl
  · rfl
  · rfl
  · rfl
  · rfl
  · rfl
  · rename_i noQuote noBackslash _ _ _ _ _
    by_cases control : c.toNat < 0x20
    · obtain ⟨written, read⟩ := control_escape c.toNat control
      have noTrail : isTrailSurrogate c.toNat = false := by
        simp only [isTrailSurrogate, Bool.and_eq_false_iff, decide_eq_false_iff_not]
        omega
      have noLead : isLeadSurrogate c.toNat = false := by
        simp only [isLeadSurrogate, Bool.and_eq_false_iff, decide_eq_false_iff_not]
        omega
      rw [if_pos control, written]
      simp [stringBody, read, noTrail, noLead]
    · have plain : c ≠ '\\' := noBackslash
      rw [if_neg control, List.singleton_append, stringBody]
      · simp [control, plain]
      · exact noQuote
      · intro a b d e text same
        exact absurd same plain
      · intro letter text same
        exact absurd same plain

theorem body_read (value rest : List Char) :
    stringBody (value.flatMap escapeChar ++ '"' :: rest) = some (value, rest) := by
  induction value with
  | nil => rfl
  | cons c value ih =>
      rw [List.flatMap_cons, List.append_assoc, escape_read, ih]
      rfl

theorem string_read (value : String) (rest : List Char) :
    ∃ body, stringChars value ++ rest = '"' :: body ∧ stringTail body = some (value, rest) := by
  refine ⟨value.toList.flatMap escapeChar ++ '"' :: rest, ?_, ?_⟩
  · simp [stringChars]
  · simp [stringTail, body_read]

theorem string_unique (a b : String) (r s : List Char) (same : stringChars a ++ r = stringChars b ++ s) :
    a = b ∧ r = s := by
  obtain ⟨bodyA, writtenA, readA⟩ := string_read a r
  obtain ⟨bodyB, writtenB, readB⟩ := string_read b s
  rw [writtenA, writtenB] at same
  rw [(List.cons.inj same).2, readB] at readA
  obtain ⟨sameText, sameRest⟩ := Prod.mk.inj (Option.some.inj readA)
  exact ⟨sameText.symm, sameRest.symm⟩

def NoDigit (text : List Char) : Prop := ∀ c ∈ text.head?, isDecimalDigit c = false

theorem no_digit_cons (c : Char) (text : List Char) (apart : isDecimalDigit c = false) : NoDigit (c :: text) := by
  intro d first
  cases first
  exact apart

theorem decimal_front (n : Nat) (rest : List Char) (apart : NoDigit rest) :
    (decimal n ++ rest).takeWhile isDecimalDigit = decimal n := by
  rw [List.takeWhile_append_of_pos (decimal_all_digits n)]
  cases rest with
  | nil => simp
  | cons c rest =>
      have noDigit := apart c rfl
      simp [noDigit]

theorem decimal_unique (a b : Nat) (r s : List Char) (apartR : NoDigit r) (apartS : NoDigit s)
    (same : decimal a ++ r = decimal b ++ s) : a = b ∧ r = s := by
  have digits : decimal a = decimal b := by
    rw [← decimal_front a r apartR, same, decimal_front b s apartS]
  rw [digits] at same
  exact ⟨decimal_injective a b digits, List.append_cancel_left same⟩

theorem signed_head (value : Int) :
    ∃ c rest, signedDecimal value = c :: rest ∧ (isDecimalDigit c = true ∨ c = '-') := by
  cases value with
  | ofNat n =>
      cases shape : decimal n with
      | nil => exact absurd shape (decimal_nonempty n)
      | cons c rest =>
          have digit := decimal_all_digits n c (by simp [shape])
          exact ⟨c, rest, shape, Or.inl digit⟩
  | negSucc n => exact ⟨'-', decimal (n + 1), rfl, Or.inr rfl⟩

theorem signed_unique (a b : Int) (r s : List Char) (apartR : NoDigit r) (apartS : NoDigit s)
    (same : signedDecimal a ++ r = signedDecimal b ++ s) : a = b ∧ r = s := by
  have signApart : ∀ n text other, decimal n ++ text ≠ '-' :: other := by
    intro n text other equal
    cases shape : decimal n with
    | nil => exact absurd shape (decimal_nonempty n)
    | cons c rest =>
        have digit := decimal_all_digits n c (by simp [shape])
        rw [shape] at equal
        rw [(List.cons.inj equal).1] at digit
        exact absurd digit (by decide)
  cases a with
  | ofNat m =>
      cases b with
      | ofNat n =>
          obtain ⟨number, rest⟩ := decimal_unique m n r s apartR apartS same
          exact ⟨congrArg Int.ofNat number, rest⟩
      | negSucc n => exact absurd same (signApart m r _)
  | negSucc m =>
      cases b with
      | ofNat n => exact absurd same.symm (signApart n s _)
      | negSucc n =>
          obtain ⟨number, rest⟩ :=
            decimal_unique (m + 1) (n + 1) r s apartR apartS (List.cons.inj same).2
          exact ⟨congrArg Int.negSucc (Nat.succ.inj number), rest⟩

mutual
def Whole : Json → Prop
  | .num (.int _) => True
  | .num (.float _) => False
  | .arr items => WholeItems items
  | .obj members => WholeMembers members
  | .null | .bool _ | .str _ => True

def WholeItems : List Json → Prop
  | [] => True
  | item :: rest => item.Whole ∧ WholeItems rest

def WholeMembers : List (String × Json) → Prop
  | [] => True
  | (_, value) :: rest => value.Whole ∧ WholeMembers rest
end

theorem whole_items_iff (items : List Json) : WholeItems items ↔ ∀ item ∈ items, item.Whole := by
  induction items with
  | nil => simp [WholeItems]
  | cons item rest ih => simp [WholeItems, ih]

theorem whole_members_iff (members : List (String × Json)) :
    WholeMembers members ↔ ∀ member ∈ members, member.2.Whole := by
  induction members with
  | nil => simp [WholeMembers]
  | cons member rest ih => simp [WholeMembers, ih]

-- What the first character of a text says about the document: its form, or that there is none.
def form? (c : Char) : Option Nat :=
  if isDecimalDigit c ∨ c = '-' then some 0
  else if c = 'n' then some 1
  else if c = 't' then some 2
  else if c = 'f' then some 3
  else if c = '"' then some 4
  else if c = '[' then some 5
  else if c = '\x7b' then some 6
  else none

def form : Json → Nat
  | .num _ => 0
  | .null => 1
  | .bool true => 2
  | .bool false => 3
  | .str _ => 4
  | .arr _ => 5
  | .obj _ => 6

theorem chars_form (json : Json) (whole : json.Whole) :
    ∃ c rest, json.chars = c :: rest ∧ form? c = some json.form := by
  cases json with
  | null => exact ⟨'n', _, rfl, by decide⟩
  | bool value =>
      cases value with
      | true => exact ⟨'t', _, rfl, by decide⟩
      | false => exact ⟨'f', _, rfl, by decide⟩
  | num number =>
      cases number with
      | int value =>
          obtain ⟨c, rest, written, first⟩ := signed_head value
          exact ⟨c, rest, written, if_pos first⟩
      | float value => exact whole.elim
  | str value => exact ⟨'"', _, rfl, rfl⟩
  | arr items => exact ⟨'[', _, rfl, rfl⟩
  | obj members => exact ⟨'\x7b', _, rfl, rfl⟩

theorem form_unique (a b : Json) (r s : List Char) (wholeA : a.Whole) (wholeB : b.Whole)
    (same : a.chars ++ r = b.chars ++ s) : a.form = b.form := by
  obtain ⟨c, restA, writtenA, formA⟩ := chars_form a wholeA
  obtain ⟨d, restB, writtenB, formB⟩ := chars_form b wholeB
  rw [writtenA, writtenB] at same
  rw [(List.cons.inj same).1, formB] at formA
  exact (Option.some.inj formA).symm

def separated (pieces : List (List Char)) : List Char := pieces.flatMap fun piece => ',' :: piece

theorem intercalate_cons (piece : List Char) (pieces : List (List Char)) :
    [','].intercalate (piece :: pieces) = piece ++ separated pieces := by
  induction pieces generalizing piece with
  | nil => simp [separated]
  | cons next rest ih =>
      rw [List.intercalate_cons_cons, ih next]
      simp [separated]

theorem enclosed (close : Char) (pieces others : List (List Char)) (r s : List Char)
    (starts : ∀ piece ∈ pieces, ∃ c rest, piece = c :: rest ∧ c ≠ close)
    (othersStart : ∀ piece ∈ others, ∃ c rest, piece = c :: rest ∧ c ≠ close)
    (same : [','].intercalate pieces ++ close :: r = [','].intercalate others ++ close :: s) :
    separated pieces ++ close :: r = separated others ++ close :: s := by
  have closedFirst : ∀ piece rest tail, (∃ c rest, piece = c :: rest ∧ c ≠ close) → ∀ text,
      close :: text ≠ piece ++ separated rest ++ tail := by
    intro piece rest tail start text equal
    obtain ⟨c, more, shape, apart⟩ := start
    rw [shape, List.cons_append, List.cons_append] at equal
    exact apart (List.cons.inj equal).1.symm
  cases pieces with
  | nil =>
      cases others with
      | nil => exact same
      | cons other more =>
          rw [intercalate_cons] at same
          exact absurd same (closedFirst other more _ (othersStart other List.mem_cons_self) r)
  | cons piece rest =>
      cases others with
      | nil =>
          rw [intercalate_cons] at same
          exact absurd same.symm (closedFirst piece rest _ (starts piece List.mem_cons_self) s)
      | cons other more =>
          rw [intercalate_cons, intercalate_cons] at same
          simpa [separated] using same

theorem item_starts (items : List Json) (whole : WholeItems items) :
    ∀ piece ∈ itemChars items, ∃ c rest, piece = c :: rest ∧ c ≠ ']' := by
  induction items with
  | nil => simp [itemChars]
  | cons item rest ih =>
      intro piece present
      rcases List.mem_cons.mp present with here | later
      · obtain ⟨c, text, written, first⟩ := chars_form item whole.1
        refine ⟨c, text, here.trans written, fun closed => ?_⟩
        rw [closed] at first
        cases first
      · exact ih whole.2 piece later

theorem member_starts (members : List (String × Json)) :
    ∀ piece ∈ memberChars members, ∃ c rest, piece = c :: rest ∧ c ≠ '\x7d' := by
  induction members with
  | nil => simp [memberChars]
  | cons member rest ih =>
      intro piece present
      rcases List.mem_cons.mp present with here | later
      · exact ⟨'"', _, here, by decide⟩
      · exact ih piece later

theorem separated_cons (piece : List Char) (pieces : List (List Char)) (rest : List Char) :
    separated (piece :: pieces) ++ rest = ',' :: (piece ++ (separated pieces ++ rest)) := by
  simp [separated]

theorem separated_no_digit (pieces : List (List Char)) (close : Char) (rest : List Char)
    (apart : isDecimalDigit close = false) : NoDigit (separated pieces ++ close :: rest) := by
  cases pieces with
  | nil => exact no_digit_cons close rest apart
  | cons piece more =>
      rw [separated_cons]
      exact no_digit_cons ',' _ (by decide)

-- A text is the text of at most one document, and shows where that document ends. Items and members are read
-- behind their commas.
mutual
theorem chars_unique (a b : Json) (r s : List Char) (wholeA : a.Whole) (wholeB : b.Whole)
    (apartR : NoDigit r) (apartS : NoDigit s) (same : a.chars ++ r = b.chars ++ s) : a = b ∧ r = s := by
  have sameForm := form_unique a b r s wholeA wholeB same
  cases a with
  | null =>
      cases b with
      | null => exact ⟨rfl, List.append_cancel_left same⟩
      | bool value => cases value <;> cases sameForm
      | _ => cases sameForm
  | bool value =>
      cases b with
      | bool other =>
          cases value <;> cases other
          case false.false => exact ⟨rfl, List.append_cancel_left same⟩
          case true.true => exact ⟨rfl, List.append_cancel_left same⟩
          all_goals cases sameForm
      | _ => cases value <;> cases sameForm
  | num number =>
      cases b with
      | num other =>
          cases number with
          | float value => exact wholeA.elim
          | int value =>
              cases other with
              | float value => exact wholeB.elim
              | int otherValue =>
                  obtain ⟨sameValue, rest⟩ := signed_unique value otherValue r s apartR apartS same
                  exact ⟨by rw [sameValue], rest⟩
      | bool value => cases value <;> cases sameForm
      | _ => cases sameForm
  | str value =>
      cases b with
      | str other =>
          obtain ⟨sameValue, rest⟩ := string_unique value other r s same
          exact ⟨by rw [sameValue], rest⟩
      | bool value => cases value <;> cases sameForm
      | _ => cases sameForm
  | arr items =>
      cases b with
      | arr others =>
          simp only [chars, List.cons_append, List.append_assoc, List.nil_append, List.cons.injEq, true_and] at same
          have behind := enclosed ']' _ _ r s (item_starts items wholeA) (item_starts others wholeB) same
          obtain ⟨sameItems, rest⟩ := items_unique items others r s wholeA wholeB behind
          exact ⟨by rw [sameItems], rest⟩
      | bool value => cases value <;> cases sameForm
      | _ => cases sameForm
  | obj members =>
      cases b with
      | obj others =>
          simp only [chars, List.cons_append, List.append_assoc, List.nil_append, List.cons.injEq, true_and] at same
          have behind := enclosed '\x7d' _ _ r s (member_starts members) (member_starts others) same
          obtain ⟨sameMembers, rest⟩ := members_unique members others r s wholeA wholeB behind
          exact ⟨by rw [sameMembers], rest⟩
      | bool value => cases value <;> cases sameForm
      | _ => cases sameForm

theorem items_unique (a b : List Json) (r s : List Char) (wholeA : WholeItems a) (wholeB : WholeItems b)
    (same : separated (itemChars a) ++ ']' :: r = separated (itemChars b) ++ ']' :: s) : a = b ∧ r = s := by
  cases a with
  | nil =>
      cases b with
      | nil => exact ⟨rfl, (List.cons.inj same).2⟩
      | cons y ys => cases (List.cons.inj same).1
  | cons x xs =>
      cases b with
      | nil => cases (List.cons.inj same).1
      | cons y ys =>
          rw [itemChars, itemChars, separated_cons, separated_cons] at same
          obtain ⟨sameItem, behind⟩ := chars_unique x y _ _ wholeA.1 wholeB.1
            (separated_no_digit _ ']' r (by decide)) (separated_no_digit _ ']' s (by decide)) (List.cons.inj same).2
          obtain ⟨sameItems, rest⟩ := items_unique xs ys r s wholeA.2 wholeB.2 behind
          exact ⟨by rw [sameItem, sameItems], rest⟩

theorem members_unique (a b : List (String × Json)) (r s : List Char) (wholeA : WholeMembers a)
    (wholeB : WholeMembers b)
    (same : separated (memberChars a) ++ '\x7d' :: r = separated (memberChars b) ++ '\x7d' :: s) :
    a = b ∧ r = s := by
  cases a with
  | nil =>
      cases b with
      | nil => exact ⟨rfl, (List.cons.inj same).2⟩
      | cons y ys => cases (List.cons.inj same).1
  | cons x xs =>
      cases b with
      | nil => cases (List.cons.inj same).1
      | cons y ys =>
          obtain ⟨name, value⟩ := x
          obtain ⟨otherName, other⟩ := y
          rw [memberChars, memberChars, separated_cons, separated_cons, List.append_assoc, List.append_assoc] at same
          obtain ⟨sameName, colon⟩ := string_unique name otherName _ _ (List.cons.inj same).2
          obtain ⟨sameValue, behind⟩ := chars_unique value other _ _ wholeA.1 wholeB.1
            (separated_no_digit _ '\x7d' r (by decide)) (separated_no_digit _ '\x7d' s (by decide))
            (List.cons.inj colon).2
          obtain ⟨sameMembers, rest⟩ := members_unique xs ys r s wholeA.2 wholeB.2 behind
          exact ⟨by rw [sameName, sameValue, sameMembers], rest⟩
end

theorem compact_injective (a b : Json) (wholeA : a.Whole) (wholeB : b.Whole) (same : a.compact = b.compact) :
    a = b := by
  have chars : a.chars ++ [] = b.chars ++ [] := by
    rw [List.append_nil, List.append_nil]
    exact String.ofList_inj.mp same
  have nothing : NoDigit [] := fun c first => by cases first
  exact (chars_unique a b [] [] wholeA wholeB nothing nothing chars).1

end Json

end PlanChain
