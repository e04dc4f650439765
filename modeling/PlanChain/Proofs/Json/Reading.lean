import PlanChain.Json.Parser
import PlanChain.Proofs.Json.Survival

set_option autoImplicit false

namespace PlanChain

open Text

namespace Json

def Gap (text : List Char) : Prop := ∀ c ∈ text, isSpace c = true

def isBreak (c : Char) : Bool := isSpace c || c = ',' || c = ']' || c = '\x7d'

def Broken (rest : List Char) : Prop := ∀ c ∈ rest.head?, isBreak c = true

theorem broken_cons (c : Char) (rest : List Char) (breaks : isBreak c = true) : Broken (c :: rest) := by
  intro d first
  cases first
  exact breaks

theorem break_no_digit (c : Char) (breaks : isBreak c = true) : isDecimalDigit c = false := by
  simp only [isBreak, isSpace, Bool.or_eq_true, decide_eq_true_eq] at breaks
  rcases breaks with (((((rfl | rfl) | rfl) | rfl) | rfl) | rfl) | rfl <;> decide

theorem broken_no_digit (rest : List Char) (broken : Broken rest) : NoDigit rest :=
  fun c first => break_no_digit c (broken c first)

theorem skip_gap (gap rest : List Char) (isGap : Gap gap) : skipSpaces (gap ++ rest) = skipSpaces rest :=
  List.dropWhile_append_of_pos isGap

theorem skip_none (c : Char) (rest : List Char) (noSpace : isSpace c = false) : skipSpaces (c :: rest) = c :: rest := by
  rw [skipSpaces, List.dropWhile_cons_of_neg (by simp [noSpace])]

theorem gap_broken (gap : List Char) (c : Char) (rest : List Char) (isGap : Gap gap) (breaks : isBreak c = true) :
    Broken (gap ++ c :: rest) := by
  cases gap with
  | nil => exact broken_cons c rest breaks
  | cons d gap => exact broken_cons d _ (by simp [isBreak, isGap d List.mem_cons_self])

section Numbers

theorem digits_read (text : List Char) (found : List Nat) (rest : List Char)
    (read : text.mapM decimalDigit? = some found) (apart : NoDigit rest) : digits (text ++ rest) = (found, rest) := by
  induction text generalizing found with
  | nil =>
      cases read
      cases rest with
      | nil => rfl
      | cons c rest =>
          have noDigit : decimalDigit? c = none := by
            simpa [isDecimalDigit] using apart c rfl
          simp [digits, noDigit]
  | cons c text ih =>
      simp only [List.mapM_cons, Option.bind_eq_bind, Option.bind_eq_some_iff] at read
      obtain ⟨digit, isDigit, more, others, same⟩ := read
      cases same
      simp [digits, isDigit, ih more others]

theorem decimal_front_digit (n : Nat) :
    ∃ found, (decimal n).mapM decimalDigit? = some found ∧ ofDigits 10 found = n ∧
      (found = [0] ∨ ∃ digit more, found = digit :: more ∧ digit ≠ 0) := by
  induction n using decimal.induct with
  | case1 n small =>
      have digit := digit_of_char n small
      refine ⟨[n], by simp [decimal, small, digit], by simp [ofDigits], ?_⟩
      by_cases zero : n = 0
      · exact Or.inl (by rw [zero])
      · exact Or.inr ⟨n, [], rfl, zero⟩
  | case2 n large ih =>
      obtain ⟨found, read, value, front⟩ := ih
      have digit := digit_of_char (n % 10) (Nat.mod_lt n (by decide))
      refine ⟨found ++ [n % 10], ?_, ?_, Or.inr ?_⟩
      · rw [decimal, if_neg large, List.mapM_append, read]
        simp [digit]
      · rw [of_digits_append, value]
        omega
      · rcases front with rfl | ⟨head, more, rfl, nonzero⟩
        · have zero : n / 10 = 0 := value.symm
          omega
        · exact ⟨head, more ++ [n % 10], rfl, nonzero⟩

theorem number_read (negative : Bool) (n : Nat) (number : Number) (rest : List Char) (broken : Broken rest)
    (isNumber : ∀ found, ofDigits 10 found = n →
      Number.Parts.number? ⟨negative, found, [], none⟩ = some number) :
    Json.number negative (decimal n ++ rest) = some (number, rest) := by
  obtain ⟨found, read, value, front⟩ := decimal_front_digit n
  have whole : wholeDigits (decimal n ++ rest) = some (found, rest) := by
    rw [wholeDigits, digits_read _ found rest read (broken_no_digit rest broken)]
    rcases front with rfl | ⟨digit, more, rfl, nonzero⟩
    · rfl
    · cases digit with
      | zero => exact (nonzero rfl).elim
      | succ digit => rfl
  have noFraction : fractionDigits rest = some ([], rest) := by
    unfold fractionDigits
    split
    · exact absurd (broken '.' rfl) (by decide)
    · rfl
  have noExponent : exponentPart rest = some (none, rest) := by
    unfold exponentPart
    dsimp only
    split
    case h_7 => rfl
    case h_1 | h_3 | h_5 => exact absurd (broken 'e' rfl) (by decide)
    all_goals exact absurd (broken 'E' rfl) (by decide)
  simp [Json.number, whole, noFraction, noExponent, isNumber found value]

def IsWord (value : Int) : Prop := Int64.minValue.toInt ≤ value ∧ value < UInt64.size

theorem whole_number (found : List Nat) (n : Nat) (stands : ofDigits 10 found = n) (small : n < UInt64.size) :
    Number.Parts.number? ⟨false, found, [], none⟩ = some (.int n) := by
  simp [Number.Parts.number?, stands, small]

theorem negative_number (found : List Nat) (n : Nat) (stands : ofDigits 10 found = n + 1)
    (least : Int64.minValue.toInt ≤ Int.negSucc n) :
    Number.Parts.number? ⟨true, found, [], none⟩ = some (.int (Int.negSucc n)) := by
  have greatest : Int64.maxValue.toInt = 9223372036854775807 := rfl
  have inRange : (Word.int64? (-((n + 1 : Nat) : Int))).isSome = true := by
    rw [Word.int64?, if_pos ⟨least, by omega⟩]
    rfl
  rw [Number.Parts.number?]
  dsimp only
  rw [stands, if_neg fun unsigned => unsigned.2.1 rfl, if_pos ⟨⟨rfl, rfl⟩, rfl, Nat.succ_pos n, inRange⟩]
  rfl

end Numbers

-- A text that reads, at a depth, as a document but for the order of its members, whatever stands behind it.
structure Spells (depth : Nat) (text : List Char) (json : Json) : Prop where
  starts : ∃ c rest, text = c :: rest ∧ isSpace c = false ∧ c ≠ ']'
  reads : ∀ limit rest, text.length ≤ limit → Broken rest →
    ∃ found, value limit depth (text ++ rest) = some (found, rest) ∧ found.Reordered json

theorem Spells.opens {depth : Nat} {text : List Char} {json : Json} (spells : Spells depth text json) :
    ∃ c rest, text = c :: rest ∧ isSpace c = false := by
  obtain ⟨c, rest, written, noSpace, -⟩ := spells.starts
  exact ⟨c, rest, written, noSpace⟩

theorem null_spelled (depth : Nat) : Spells depth (chars .null) .null where
  starts := ⟨'n', _, rfl, by decide, by decide⟩
  reads limit rest _ _ := ⟨.null, by simp [chars, value.eq_def, after?], rfl⟩

theorem bool_spelled (depth : Nat) (content : Bool) : Spells depth (chars (.bool content)) (.bool content) := by
  cases content with
  | false =>
      exact ⟨⟨'f', _, rfl, by decide, by decide⟩, fun limit rest _ _ =>
        ⟨.bool false, by simp [chars, value.eq_def, after?], rfl⟩⟩
  | true =>
      exact ⟨⟨'t', _, rfl, by decide, by decide⟩, fun limit rest _ _ =>
        ⟨.bool true, by simp [chars, value.eq_def, after?], rfl⟩⟩

theorem string_spelled (depth : Nat) (content : String) : Spells depth (chars (.str content)) (.str content) where
  starts := ⟨'"', _, rfl, by decide, by decide⟩
  reads limit rest _ _ := by
    obtain ⟨body, written, read⟩ := string_read content rest
    exact ⟨.str content, by rw [chars, written, value.eq_def]; simp [read], rfl⟩

theorem digit_value (limit depth : Nat) (c : Char) (rest : List Char) (digit : isDecimalDigit c = true) :
    value limit depth (c :: rest) = (number false (c :: rest)).map fun (found, rest) => (.num found, rest) := by
  rw [value.eq_def]
  dsimp only
  split
  case h_8 => rfl
  all_goals
    next same =>
      rw [(List.cons.inj same).1] at digit
      exact absurd digit (by decide)

theorem minus_value (limit depth : Nat) (rest : List Char) :
    value limit depth ('-' :: rest) = (number true rest).map fun (found, rest) => (.num found, rest) := by
  rw [value.eq_def]
  rfl

theorem digit_starts (c : Char) (digit : isDecimalDigit c = true) : isSpace c = false ∧ c ≠ ']' := by
  constructor
  · cases space : isSpace c with
    | false => rfl
    | true => exact absurd digit (by simp [break_no_digit c (by simp [isBreak, space])])
  · rintro rfl
    exact absurd digit (by decide)

theorem int_spelled (depth : Nat) (content : Int) (word : IsWord content) :
    Spells depth (chars (.num (.int content))) (.num (.int content)) := by
  cases content with
  | ofNat n =>
      have small : n < UInt64.size := Int.ofNat_lt.mp word.2
      cases shape : decimal n with
      | nil => exact absurd shape (decimal_nonempty n)
      | cons c text =>
          have digit := decimal_all_digits n c (by simp [shape])
          have written : chars (.num (.int (Int.ofNat n))) = c :: text := shape
          refine ⟨⟨c, text, written, digit_starts c digit⟩, fun limit rest _ broken => ?_⟩
          refine ⟨.num (.int (Int.ofNat n)), ?_, rfl⟩
          have read := number_read false n _ rest broken fun found stands => whole_number found n stands small
          rw [shape, List.cons_append] at read
          rw [written, List.cons_append, digit_value limit depth c _ digit, read]
          rfl
  | negSucc n =>
      refine ⟨⟨'-', _, rfl, by decide, by decide⟩, fun limit rest _ broken => ⟨.num (.int (.negSucc n)), ?_, rfl⟩⟩
      have read := number_read true (n + 1) _ rest broken fun found stands => negative_number found n stands word.1
      have written : chars (.num (.int (.negSucc n))) = '-' :: decimal (n + 1) := rfl
      rw [written, List.cons_append, minus_value, read]
      rfl

section Objects

theorem place_ascending (member : String × Json) (members : Members) (ascending : Ascending members)
    (fresh : member.1 ∉ members.map (·.1)) : Ascending (placeMember member members) := by
  induction members with
  | nil => exact List.pairwise_singleton _ _
  | cons head rest ih =>
      obtain ⟨below, restAscending⟩ := List.pairwise_cons.mp ascending
      rw [List.map_cons, List.mem_cons, not_or] at fresh
      by_cases less : head.1 < member.1
      · rw [placeMember, if_pos less]
        refine List.pairwise_cons.mpr ⟨fun other present => ?_, ih restAscending fresh.2⟩
        rcases (place_mem member other rest).mp present with rfl | inRest
        · exact less
        · exact below other inRest
      · rw [placeMember, if_neg less]
        have above : member.1 < head.1 := Table.lt_of_not_lt_of_ne less (Ne.symm fresh.1)
        refine List.pairwise_cons.mpr ⟨fun other present => ?_, ascending⟩
        rcases List.mem_cons.mp present with rfl | inRest
        · exact above
        · exact String.lt_trans above (below other inRest)

theorem sorted_ascending (members : Members) (distinct : (members.map (·.1)).Nodup) :
    Ascending (sortEach members) := by
  induction members with
  | nil => exact List.Pairwise.nil
  | cons head rest ih =>
      obtain ⟨fresh, restDistinct⟩ := List.nodup_cons.mp distinct
      refine place_ascending (head.1, head.2.sortMembers) (sortEach rest) (ih restDistinct) fun present => ?_
      obtain ⟨placed, isPlaced, named⟩ := List.mem_map.mp present
      obtain ⟨original, isOriginal, rfl⟩ := (sort_mem placed rest).mp isPlaced
      exact fresh (List.mem_map.mpr ⟨original, isOriginal, named⟩)

theorem reordered_of_look_ups (a b : Members) (distinctA : (a.map (·.1)).Nodup) (distinctB : (b.map (·.1)).Nodup)
    (same : ∀ name, (a.get? name).map sortMembers = (b.get? name).map sortMembers) : a.Reordered b := by
  refine Table.entries_eq_of_find? (sorted_ascending a distinctA) (sorted_ascending b distinctB) fun name => ?_
  rw [← members_get?, ← members_get?, sort_get?, sort_get?, same]

theorem made_reordered (found written : Members) (distinct : (written.map (·.1)).Nodup)
    (same : found.map (fun each => (each.1, each.2.sortMembers)) =
      written.map fun each => (each.1, each.2.sortMembers)) : (ofMembers found).Reordered (.obj written) := by
  have names : found.map (·.1) = written.map (·.1) := by
    have firsts := congrArg (List.map (·.1)) same
    rwa [List.map_map, List.map_map] at firsts
  refine congrArg obj (reordered_of_look_ups _ written ?_ distinct fun name => ?_)
  · exact Table.names_distinct (Table.ofList found)
  · have kept : Members.get? (Table.ofList found).entries name = found.get? name := by
      rw [members_get?, members_get?]
      exact Table.of_list_get? found (names ▸ distinct) name
    rw [kept, members_get?, members_get?, ← Table.find?_map, ← Table.find?_map, same]

end Objects

section Sequences

def spaced (gap : List Char) (pieces : List (List Char)) : List Char :=
  pieces.flatMap fun piece => ',' :: (gap ++ piece)

theorem intercalate_spaced (gap piece : List Char) (pieces : List (List Char)) :
    (',' :: gap).intercalate (piece :: pieces) = piece ++ spaced gap pieces := by
  induction pieces generalizing piece with
  | nil => simp [spaced]
  | cons next rest ih =>
      rw [List.intercalate_cons_cons, ih next]
      simp [spaced]

theorem spaced_cons (gap piece : List Char) (pieces : List (List Char)) (rest : List Char) :
    spaced gap (piece :: pieces) ++ rest = ',' :: (gap ++ (piece ++ (spaced gap pieces ++ rest))) := by
  simp [spaced]

theorem spaced_broken (gap closeGap : List Char) (pieces : List (List Char)) (close : Char) (rest : List Char)
    (isCloseGap : Gap closeGap) (breaks : isBreak close = true) :
    Broken (spaced gap pieces ++ (closeGap ++ close :: rest)) := by
  cases pieces with
  | nil => exact gap_broken closeGap close rest isCloseGap breaks
  | cons piece pieces =>
      rw [spaced_cons]
      exact broken_cons ',' _ (by decide)

theorem start_reached (front text rest : List Char) (isFront : Gap front)
    (starts : ∃ c more, text = c :: more ∧ isSpace c = false) :
    skipSpaces (front ++ (text ++ rest)) = text ++ rest := by
  obtain ⟨c, more, rfl, noSpace⟩ := starts
  rw [skip_gap _ _ isFront, List.cons_append, skip_none _ _ noSpace]

variable (limit : Nat) {depth : Nat} {gap closeGap : List Char} (write : Json → List Char)

theorem items_read (isGap : Gap gap) (isCloseGap : Gap closeGap) (item : Json) (others : List Json) (front : List Char)
    (isFront : Gap front) (spelled : ∀ each ∈ item :: others, Spells depth (write each) each)
    (fits : ∀ each ∈ item :: others, (write each).length ≤ limit) (fuel : Nat) (enough : others.length < fuel)
    (rest : List Char) :
    ∃ found, items (value limit depth) fuel
        (front ++ (write item ++ (spaced gap (others.map write) ++ (closeGap ++ ']' :: rest)))) = some (found, rest) ∧
      found.map sortMembers = (item :: others).map sortMembers := by
  induction others generalizing item front fuel with
  | nil =>
      obtain ⟨fuel, rfl⟩ := Nat.exists_eq_succ_of_ne_zero (Nat.ne_zero_of_lt enough)
      have head := spelled item List.mem_cons_self
      obtain ⟨found, read, same⟩ := head.reads limit (closeGap ++ ']' :: rest) (fits item List.mem_cons_self)
        (spaced_broken gap closeGap [] ']' rest isCloseGap (by decide))
      refine ⟨[found], ?_, by rw [List.map_singleton, List.map_singleton, same]⟩
      have stop : skipSpaces (closeGap ++ ']' :: rest) = ']' :: rest := by
        rw [skip_gap _ _ isCloseGap, skip_none _ _ (by decide)]
      simp [items, spaced, start_reached front _ _ isFront head.opens, read, stop]
  | cons next others ih =>
      obtain ⟨fuel, rfl⟩ := Nat.exists_eq_succ_of_ne_zero (Nat.ne_zero_of_lt enough)
      have head := spelled item List.mem_cons_self
      obtain ⟨found, read, same⟩ := head.reads limit _ (fits item List.mem_cons_self)
        (spaced_broken gap closeGap ((next :: others).map write) ']' rest isCloseGap (by decide))
      obtain ⟨more, restRead, restSame⟩ := ih next gap isGap
        (fun each present => spelled each (List.mem_cons_of_mem _ present))
        (fun each present => fits each (List.mem_cons_of_mem _ present)) fuel (Nat.lt_of_succ_lt_succ enough)
      refine ⟨found :: more, ?_, by rw [List.map_cons, List.map_cons, same, restSame]⟩
      rw [List.map_cons, spaced_cons] at read ⊢
      have stop : ∀ text, skipSpaces (',' :: text) = ',' :: text := fun text => skip_none _ _ (by decide)
      simp [items, start_reached front _ _ isFront head.opens, read, stop, restRead]

def memberText (colonGap : List Char) (member : String × Json) : List Char :=
  stringChars member.1 ++ ':' :: (colonGap ++ write member.2)

theorem member_read {colonGap : List Char} (isColonGap : Gap colonGap) (member : String × Json)
    (spelled : Spells depth (write member.2) member.2) (fits : (write member.2).length ≤ limit) (front rest : List Char)
    (isFront : Gap front) (broken : Broken rest) :
    ∃ found body colon, after? ['"'] (skipSpaces (front ++ (memberText write colonGap member ++ rest))) = some body ∧
      stringTail body = some (member.1, colon) ∧ (∃ content, after? [':'] (skipSpaces colon) = some content ∧
        value limit depth (skipSpaces content) = some (found, rest)) ∧ found.Reordered member.2 := by
  obtain ⟨found, read, same⟩ := spelled.reads limit rest fits broken
  obtain ⟨body, written, nameRead⟩ := string_read member.1 (':' :: (colonGap ++ (write member.2 ++ rest)))
  refine ⟨found, body, ':' :: (colonGap ++ (write member.2 ++ rest)), ?_, nameRead, ?_, same⟩
  · rw [memberText, List.append_assoc, List.cons_append, List.append_assoc, written, skip_gap _ _ isFront,
      skip_none _ _ (by decide)]
    rfl
  · refine ⟨colonGap ++ (write member.2 ++ rest), ?_, ?_⟩
    · rw [skip_none _ _ (by decide)]
      rfl
    · rw [start_reached colonGap _ _ isColonGap spelled.opens, read]

theorem members_read {colonGap : List Char} (isGap : Gap gap) (isCloseGap : Gap closeGap) (isColonGap : Gap colonGap)
    (member : String × Json) (others : Members) (front : List Char) (isFront : Gap front)
    (spelled : ∀ each ∈ member :: others, Spells depth (write each.2) each.2)
    (fits : ∀ each ∈ member :: others, (write each.2).length ≤ limit) (fuel : Nat) (enough : others.length < fuel)
    (rest : List Char) :
    ∃ found : Members, members (value limit depth) fuel
        (front ++ (memberText write colonGap member ++
          (spaced gap (others.map (memberText write colonGap)) ++ (closeGap ++ '\x7d' :: rest)))) = some (found, rest) ∧
      found.map (fun each => (each.1, each.2.sortMembers)) =
        (member :: others).map fun each => (each.1, each.2.sortMembers) := by
  induction others generalizing member front fuel with
  | nil =>
      obtain ⟨fuel, rfl⟩ := Nat.exists_eq_succ_of_ne_zero (Nat.ne_zero_of_lt enough)
      obtain ⟨found, body, colon, opens, named, ⟨content, colonRead, read⟩, same⟩ :=
        member_read limit write isColonGap member (spelled member List.mem_cons_self)
          (fits member List.mem_cons_self) front (closeGap ++ '\x7d' :: rest) isFront
          (spaced_broken gap closeGap [] '\x7d' rest isCloseGap (by decide))
      refine ⟨[(member.1, found)], ?_, by rw [List.map_singleton, List.map_singleton, same]⟩
      have stop : skipSpaces (closeGap ++ '\x7d' :: rest) = '\x7d' :: rest := by
        rw [skip_gap _ _ isCloseGap, skip_none _ _ (by decide)]
      simp [members, spaced, opens, named, colonRead, read, stop]
  | cons next others ih =>
      obtain ⟨fuel, rfl⟩ := Nat.exists_eq_succ_of_ne_zero (Nat.ne_zero_of_lt enough)
      obtain ⟨found, body, colon, opens, named, ⟨content, colonRead, read⟩, same⟩ :=
        member_read limit write isColonGap member (spelled member List.mem_cons_self)
          (fits member List.mem_cons_self) front _ isFront
          (spaced_broken gap closeGap ((next :: others).map (memberText write colonGap)) '\x7d' rest isCloseGap
            (by decide))
      obtain ⟨more, restRead, restSame⟩ := ih next gap isGap
        (fun each present => spelled each (List.mem_cons_of_mem _ present))
        (fun each present => fits each (List.mem_cons_of_mem _ present)) fuel (Nat.lt_of_succ_lt_succ enough)
      refine ⟨(member.1, found) :: more, ?_, by rw [List.map_cons, List.map_cons, same, restSame]⟩
      rw [List.map_cons, spaced_cons] at read opens ⊢
      have stop : ∀ text, skipSpaces (',' :: text) = ',' :: text := fun text => skip_none _ _ (by decide)
      simp [members, opens, named, colonRead, read, stop, restRead]

theorem spaced_length (gap : List Char) (pieces : List (List Char)) : pieces.length ≤ (spaced gap pieces).length := by
  induction pieces with
  | nil => simp
  | cons piece pieces ih =>
      simp only [spaced, List.flatMap_cons, List.length_append, List.length_cons] at ih ⊢
      omega

theorem spaced_piece (gap piece : List Char) (pieces : List (List Char)) (present : piece ∈ pieces) :
    piece.length ≤ (spaced gap pieces).length := by
  obtain ⟨before, after, rfl⟩ := List.append_of_mem present
  simp only [spaced, List.flatMap_append, List.flatMap_cons, List.length_append, List.length_cons]
  omega

theorem array_value (rest : List Char) (c : Char) (inner : List Char) (reached : skipSpaces rest = c :: inner)
    (apart : c ≠ ']') :
    value limit (depth + 1) ('[' :: rest) =
      (items (value limit depth) limit (c :: inner)).map fun (found, rest) => (.arr found, rest) := by
  simp only [value.eq_def, reached]
  split
  · next same => exact absurd (List.cons.inj same).1 apart
  · rfl

theorem object_value (rest : List Char) (c : Char) (inner : List Char) (reached : skipSpaces rest = c :: inner)
    (apart : c ≠ '\x7d') :
    value limit (depth + 1) ('\x7b' :: rest) =
      (members (value limit depth) limit (c :: inner)).map fun (found, rest) => (ofMembers found, rest) := by
  simp only [value.eq_def, reached]
  split
  · next same => exact absurd (List.cons.inj same).1 apart
  · rfl

theorem array_spelled (isGap : Gap gap) (isCloseGap : Gap closeGap) (list : List Json)
    (spelled : ∀ each ∈ list, Spells depth (write each) each) (nonempty : list ≠ []) :
    Spells (depth + 1)
      ('[' :: (gap ++ ((',' :: gap).intercalate (list.map write) ++ (closeGap ++ [']'])))) (.arr list) := by
  refine ⟨⟨'[', _, rfl, by decide, by decide⟩, fun limit rest room broken => ?_⟩
  cases list with
  | nil => exact (nonempty rfl).elim
  | cons item others =>
      rw [List.map_cons, intercalate_spaced] at room ⊢
      simp only [List.length_cons, List.length_append] at room
      have enough : others.length < limit := by
        have count := spaced_length gap (others.map write)
        rw [List.length_map] at count
        omega
      have fits : ∀ each ∈ item :: others, (write each).length ≤ limit := by
        intro each present
        rcases List.mem_cons.mp present with rfl | later
        · omega
        · have part := spaced_piece gap (write each) (others.map write) (List.mem_map_of_mem later)
          omega
      obtain ⟨found, read, same⟩ := items_read limit write isGap isCloseGap item others [] nofun spelled fits
        limit enough rest
      obtain ⟨c, text, written, noSpace, apart⟩ := (spelled item List.mem_cons_self).starts
      refine ⟨.arr found, ?_, ?_⟩
      · have reached := start_reached gap (write item)
          (spaced gap (others.map write) ++ (closeGap ++ ']' :: rest)) isGap ⟨c, text, written, noSpace⟩
        rw [List.nil_append] at read
        simp only [List.cons_append, List.append_assoc, List.nil_append]
        rw [written, List.cons_append] at reached read ⊢
        rw [array_value limit _ c _ reached apart, read]
        rfl
      · rw [Reordered, sortMembers, sort_items_map, same, sortMembers, sort_items_map]

theorem object_spelled {colonGap : List Char} (isGap : Gap gap) (isCloseGap : Gap closeGap)
    (isColonGap : Gap colonGap) (list : Members) (distinct : (list.map (·.1)).Nodup)
    (spelled : ∀ each ∈ list, Spells depth (write each.2) each.2) (nonempty : list ≠ []) :
    Spells (depth + 1) ('\x7b' ::
      (gap ++ ((',' :: gap).intercalate (list.map (memberText write colonGap)) ++ (closeGap ++ ['\x7d']))))
      (.obj list) := by
  refine ⟨⟨'\x7b', _, rfl, by decide, by decide⟩, fun limit rest room broken => ?_⟩
  cases list with
  | nil => exact (nonempty rfl).elim
  | cons member others =>
      rw [List.map_cons, intercalate_spaced] at room ⊢
      simp only [List.length_cons, List.length_append] at room
      have longer : ∀ each : String × Json, (write each.2).length ≤ (memberText write colonGap each).length := by
        intro each
        simp only [memberText, List.length_append, List.length_cons]
        omega
      have enough : others.length < limit := by
        have count := spaced_length gap (others.map (memberText write colonGap))
        rw [List.length_map] at count
        omega
      have fits : ∀ each ∈ member :: others, (write each.2).length ≤ limit := by
        intro each present
        have part := longer each
        rcases List.mem_cons.mp present with rfl | later
        · omega
        · have piece := spaced_piece gap _ (others.map (memberText write colonGap)) (List.mem_map_of_mem later)
          omega
      obtain ⟨found, read, same⟩ := members_read limit write isGap isCloseGap isColonGap member others []
        nofun spelled fits limit enough rest
      refine ⟨ofMembers found, ?_, made_reordered found _ distinct same⟩
      have opens : ∃ text, memberText write colonGap member = '"' :: text := ⟨_, rfl⟩
      obtain ⟨text, written⟩ := opens
      have reached := start_reached gap _
        (spaced gap (others.map (memberText write colonGap)) ++ (closeGap ++ '\x7d' :: rest)) isGap
        ⟨'"', text, written, by decide⟩
      simp only [List.cons_append, List.append_assoc, List.nil_append] at read ⊢
      rw [written, List.cons_append] at reached read ⊢
      rw [object_value limit _ '"' _ reached (by decide), read]
      rfl

end Sequences

-- A document that is read back from its text: with whole numbers that are words, members of different names, and
-- no more levels than the depth.
inductive Writable : Nat → Json → Prop where
  | null (depth : Nat) : Writable depth .null
  | bool (depth : Nat) (content : Bool) : Writable depth (.bool content)
  | int (depth : Nat) (content : Int) (word : IsWord content) : Writable depth (.num (.int content))
  | str (depth : Nat) (content : String) : Writable depth (.str content)
  | arr (depth : Nat) (list : List Json) (each : ∀ item ∈ list, Writable depth item) : Writable (depth + 1) (.arr list)
  | obj (depth : Nat) (list : Members) (distinct : (list.map (·.1)).Nodup)
      (each : ∀ member ∈ list, Writable depth member.2) : Writable (depth + 1) (.obj list)

section Orders

theorem sorted_names (members : Members) : ((sortEach members).map (·.1)).Perm (members.map (·.1)) := by
  have names := (sort_perm members).map (·.1)
  rwa [List.map_map] at names

theorem reordered_writable (depth : Nat) (json written : Json) (same : json.Reordered written)
    (writable : Writable depth written) : Writable depth json := by
  induction writable generalizing json with
  | null depth =>
      rw [reordered_plain json .null trivial same]
      exact .null depth
  | bool depth content =>
      rw [reordered_plain json (.bool content) trivial same]
      exact .bool depth content
  | int depth content word =>
      rw [reordered_plain json (.num (.int content)) trivial same]
      exact .int depth content word
  | str depth content =>
      rw [reordered_plain json (.str content) trivial same]
      exact .str depth content
  | arr depth list _ ih =>
      obtain ⟨items, rfl, sorted⟩ := reordered_array json list same
      refine .arr depth items fun item present => ?_
      have listed : item.sortMembers ∈ list.map sortMembers := sorted ▸ List.mem_map_of_mem present
      obtain ⟨original, isOriginal, equal⟩ := List.mem_map.mp listed
      exact ih original isOriginal item equal.symm
  | obj depth list distinct _ ih =>
      obtain ⟨members, rfl, reordered⟩ := reordered_object json list same
      have names : (members.map (·.1)).Perm (list.map (·.1)) := by
        have sorted := (sorted_names members).symm
        rw [reordered] at sorted
        exact sorted.trans (sorted_names list)
      refine .obj depth members (names.nodup_iff.mpr distinct) fun member present => ?_
      have listed : (member.1, member.2.sortMembers) ∈ sortEach list :=
        reordered ▸ (sort_mem _ members).mpr ⟨member, present, rfl⟩
      obtain ⟨original, isOriginal, equal⟩ := (sort_mem _ list).mp listed
      exact ih original isOriginal member.2 (Prod.mk.inj equal).2

end Orders

theorem int64_writable (depth : Nat) (content : Int64) : Writable depth (.ofInt64 content) := by
  have below : content.toInt < UInt64.size := by
    have most := Int64.toInt_le content
    have greatest : Int64.maxValue.toInt = 9223372036854775807 := rfl
    have size : UInt64.size = 18446744073709551616 := rfl
    omega
  exact .int depth content.toInt ⟨Int64.le_toInt content, below⟩

theorem nat_writable (depth content : Nat) (small : content < UInt64.size) : Writable depth (.ofNat content) := by
  have least : Int64.minValue.toInt = -9223372036854775808 := rfl
  exact .int depth content ⟨by omega, by omega⟩

theorem uint64_writable (depth : Nat) (content : UInt64) : Writable depth (.ofUInt64 content) :=
  nat_writable depth content.toNat content.toNat_lt_size

theorem uint32_writable (depth : Nat) (content : UInt32) : Writable depth (.ofUInt32 content) :=
  nat_writable depth content.toNat (Nat.lt_of_lt_of_le content.toNat_lt_size (by decide))

theorem list_writable {α : Type} (encode : α → Json) (depth : Nat) (each : ∀ value, Writable depth (encode value))
    (values : List α) : Writable (depth + 1) (.arr (values.map encode)) := by
  refine .arr depth _ fun item present => ?_
  obtain ⟨value, -, rfl⟩ := List.mem_map.mp present
  exact each value

theorem table_writable {α : Type} (encode : α → Json) (depth : Nat) (each : ∀ value, Writable depth (encode value))
    (table : Table α) : Writable (depth + 1) (.ofTable encode table) := by
  refine .obj depth _ (Table.names_distinct (table.map encode)) fun member present => ?_
  obtain ⟨entry, -, rfl⟩ := List.mem_map.mp present
  exact each entry.2

theorem empty_array_spelled (depth : Nat) : Spells (depth + 1) ['[', ']'] (.arr []) where
  starts := ⟨'[', _, rfl, by decide, by decide⟩
  reads limit rest _ _ := ⟨.arr [], by
    rw [value.eq_def]
    rfl, rfl⟩

theorem empty_object_spelled (depth : Nat) : Spells (depth + 1) ['\x7b', '\x7d'] (.obj []) where
  starts := ⟨'\x7b', _, rfl, by decide, by decide⟩
  reads limit rest _ _ := ⟨.obj [], by
    rw [value.eq_def]
    rfl, rfl⟩

theorem item_chars_map (list : List Json) : itemChars list = list.map chars := by
  induction list with
  | nil => rfl
  | cons item rest ih => rw [itemChars, ih, List.map_cons]

theorem member_chars_map (list : Members) : memberChars list = list.map (memberText chars []) := by
  induction list with
  | nil => rfl
  | cons member rest ih =>
      rw [memberChars, ih, List.map_cons]
      rfl

theorem pretty_items_map (level : Nat) (list : List Json) : prettyItems level list = list.map (prettyChars level) := by
  induction list with
  | nil => rfl
  | cons item rest ih => rw [prettyItems, ih, List.map_cons]

theorem pretty_members_map (level : Nat) (list : Members) :
    prettyMembers level list = list.map (memberText (prettyChars level) [' ']) := by
  induction list with
  | nil => rfl
  | cons member rest ih =>
      rw [prettyMembers, ih, List.map_cons]
      rfl

theorem no_gap : Gap [] := nofun

theorem blank_gap : Gap [' '] := by
  intro c present
  rw [List.mem_singleton.mp present]
  rfl

theorem line_gap (level : Nat) : Gap (lineBreak level) := by
  intro c present
  rcases List.mem_cons.mp present with rfl | blank
  · rfl
  · rw [List.eq_of_mem_replicate blank]
    rfl

theorem compact_spelled (depth : Nat) (json : Json) (writable : Writable depth json) :
    Spells depth json.chars json := by
  induction writable with
  | null depth => exact null_spelled depth
  | bool depth content => exact bool_spelled depth content
  | int depth content word => exact int_spelled depth content word
  | str depth content => exact string_spelled depth content
  | arr depth list _ ih =>
      by_cases nonempty : list = []
      · rw [nonempty]
        exact empty_array_spelled depth
      · have spelled := array_spelled chars no_gap no_gap list ih nonempty
        rwa [chars, item_chars_map]
  | obj depth list distinct _ ih =>
      by_cases nonempty : list = []
      · rw [nonempty]
        exact empty_object_spelled depth
      · have spelled := object_spelled chars no_gap no_gap no_gap list distinct ih nonempty
        rwa [chars, member_chars_map]

theorem pretty_spelled (depth : Nat) (json : Json) (writable : Writable depth json) (level : Nat) :
    Spells depth (prettyChars level json) json := by
  induction writable generalizing level with
  | null depth => exact null_spelled depth
  | bool depth content => exact bool_spelled depth content
  | int depth content word => exact int_spelled depth content word
  | str depth content => exact string_spelled depth content
  | arr depth list _ ih =>
      by_cases nonempty : list = []
      · rw [nonempty]
        exact empty_array_spelled depth
      · have spelled := array_spelled (prettyChars (level + 1)) (line_gap (level + 1)) (line_gap level) list
          (fun item present => ih item present (level + 1)) nonempty
        rw [prettyChars, pretty_items_map, block]
        simpa [nonempty] using spelled
  | obj depth list distinct _ ih =>
      by_cases nonempty : list = []
      · rw [nonempty]
        exact empty_object_spelled depth
      · have spelled := object_spelled (prettyChars (level + 1)) (line_gap (level + 1)) (line_gap level) blank_gap list
          distinct (fun member present => ih member present (level + 1)) nonempty
        rw [prettyChars, pretty_members_map, block]
        simpa [nonempty] using spelled

-- A text that stands for a document: compact or over several lines, with the members in any order and spaces
-- around.
def WrittenAs (json : Json) (text : String) : Prop :=
  ∃ (ordered : Json) (front back : List Char), ordered.Reordered json ∧ Gap front ∧ Gap back ∧
    ∃ body ∈ [ordered.compact, ordered.pretty], text = String.ofList (front ++ (body.toList ++ back))

theorem text_parses (json : Json) (writable : Writable depthLimit json) (text : String) (stands : json.WrittenAs text) :
    ∃ found, parse? text = some found ∧ found.Reordered json := by
  obtain ⟨ordered, front, back, same, isFront, isBack, body, written, rfl⟩ := stands
  have orderedWritable := reordered_writable depthLimit ordered json same writable
  have spells : Spells depthLimit body.toList ordered := by
    rcases List.mem_pair.mp written with rfl | rfl
    · rw [compact, String.toList_ofList]
      exact compact_spelled depthLimit ordered orderedWritable
    · rw [pretty, String.toList_ofList]
      exact pretty_spelled depthLimit ordered orderedWritable 0
  have broken : Broken back := by
    intro c first
    simp [isBreak, isBack c (List.mem_of_mem_head? first)]
  have room : body.toList.length ≤ (front ++ (body.toList ++ back)).length := by
    simp only [List.length_append]
    omega
  have nothingLeft : skipSpaces back = [] := by
    have skipped := skip_gap back [] isBack
    rwa [List.append_nil] at skipped
  obtain ⟨found, read, foundSame⟩ := spells.reads _ back room broken
  refine ⟨found, ?_, foundSame.trans same⟩
  rw [parse?, String.length_ofList, String.toList_ofList, start_reached front _ back isFront spells.opens, read]
  dsimp only
  rw [nothingLeft]
  rfl

end Json
end PlanChain
