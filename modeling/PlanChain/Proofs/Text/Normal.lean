import Mathlib.Data.List.TakeWhile
import PlanChain.Proofs.Text.Tables

set_option autoImplicit false

namespace PlanChain.Text

theorem place_starter (c : Char) (text : List Char) (starter : combiningClass c = 0) :
    placeMark c text = c :: text := by
  cases text with
  | nil => rfl
  | cons d rest => simp [placeMark, starter]

theorem order_starters (text : List Char) (starters : ∀ c ∈ text, combiningClass c = 0) :
    orderMarks text = text := by
  induction text with
  | nil => rfl
  | cons c rest ih =>
      have restOrdered := ih fun d present => starters d (List.mem_cons_of_mem c present)
      have placed := place_starter c rest (starters c List.mem_cons_self)
      rw [orderMarks, List.foldr_cons, ← orderMarks, restOrdered, placed]

theorem place_front (c d : Char) (text out : List Char) (starter : combiningClass d = 0)
    (placed : placeMark c text = d :: out) : c = d ∧ text = out := by
  cases text with
  | nil =>
      cases placed
      exact ⟨rfl, rfl⟩
  | cons e rest =>
      unfold placeMark at placed
      split at placed
      · rename_i behind
        cases placed
        omega
      · cases placed
        exact ⟨rfl, rfl⟩

theorem order_front (word text : List Char) (starters : ∀ c ∈ word, combiningClass c = 0)
    (front : word <+: orderMarks text) : word <+: text := by
  induction word generalizing text with
  | nil => exact List.nil_prefix
  | cons d word ih =>
      obtain ⟨after, ordered⟩ := front
      cases text with
      | nil => cases ordered
      | cons c rest =>
          have placed : placeMark c (orderMarks rest) = d :: (word ++ after) := ordered.symm
          obtain ⟨rfl, same⟩ := place_front c d _ _ (starters d List.mem_cons_self) placed
          have restFront := ih rest (fun e present => starters e (List.mem_cons_of_mem c present))
            ⟨after, same.symm⟩
          exact List.cons_prefix_cons.mpr ⟨rfl, restFront⟩

-- What one character does to the starter before it: it composes, past marks of lower class only, it takes
-- over, or it waits as a mark.
theorem compose_step (starter c : Char) (marks rest : List Char) :
    (∃ composite, compose? starter c = some composite ∧
        (∀ latest ∈ marks.head?, combiningClass latest < combiningClass c) ∧
        composeFrom starter marks (c :: rest) = composeFrom composite marks rest) ∨
      (combiningClass c = 0 ∧
        composeFrom starter marks (c :: rest) = starter :: (marks.reverse ++ composeFrom c [] rest)) ∨
      (combiningClass c ≠ 0 ∧
        composeFrom starter marks (c :: rest) = composeFrom starter (c :: marks) rest) := by
  rw [composeFrom]
  split
  · rename_i composite found
    obtain ⟨reaches, composed⟩ := Option.ite_none_right_eq_some.mp found
    have past : ∀ latest ∈ marks.head?, combiningClass latest < combiningClass c := by
      intro latest last
      rw [Option.mem_def.mp last] at reaches
      simpa using reaches
    exact Or.inl ⟨composite, composed, past, rfl⟩
  · by_cases takes : combiningClass c = 0
    · rw [if_pos takes]
      exact Or.inr (Or.inl ⟨takes, rfl⟩)
    · rw [if_neg takes]
      exact Or.inr (Or.inr ⟨takes, rfl⟩)

theorem composite_never_fixed (first second composite : Char) (fixed : isFixed composite = true)
    (composed : compose? first second = some composite) : False := by
  have := composite_not_fixed first second composite composed
  rw [fixed] at this
  cases this

-- Composing replaces a starter only by a composite, so a fixed character in front was there before,
-- and the marks that did not compose still follow it.
theorem compose_head (starter c : Char) (marks text out : List Char) (fixed : isFixed c = true)
    (composed : composeFrom starter marks text = c :: out) : starter = c ∧ marks.reverse <+: out := by
  induction text generalizing starter marks with
  | nil =>
      cases composed
      exact ⟨rfl, List.prefix_rfl⟩
  | cons d rest ih =>
      rcases compose_step starter d marks rest with ⟨composite, found, -, same⟩ | ⟨-, same⟩ | ⟨-, same⟩
      · rw [same] at composed
        obtain ⟨rfl, -⟩ := ih composite marks composed
        exact (composite_never_fixed starter d composite fixed found).elim
      · rw [same] at composed
        cases composed
        exact ⟨rfl, List.prefix_append _ _⟩
      · rw [same] at composed
        obtain ⟨sameStarter, marksFollow⟩ := ih starter (d :: marks) composed
        rw [List.reverse_cons] at marksFollow
        exact ⟨sameStarter, (List.prefix_append _ _).trans marksFollow⟩

theorem compose_next (c d : Char) (text out : List Char) (fixed : isFixed c = true)
    (fixedNext : isFixed d = true) (composed : composeFrom c [] text = c :: d :: out) :
    ∃ rest, text = d :: rest ∧ composeFrom d [] rest = d :: out := by
  cases text with
  | nil => cases composed
  | cons e rest =>
      rcases compose_step c e [] rest with ⟨composite, found, -, same⟩ | ⟨-, same⟩ | ⟨mark, same⟩
      · rw [same] at composed
        obtain ⟨rfl, -⟩ := compose_head composite c [] rest _ fixed composed
        exact (composite_never_fixed composite e composite fixed found).elim
      · rw [same] at composed
        have next : composeFrom e [] rest = d :: out := (List.cons.inj composed).2
        obtain ⟨rfl, -⟩ := compose_head e d [] rest out fixedNext next
        exact ⟨rest, rfl, next⟩
      · rw [same] at composed
        obtain ⟨-, follow⟩ := compose_head c c [e] rest _ fixed composed
        obtain ⟨rfl, -⟩ := List.cons_prefix_cons.mp follow
        exact (mark (fixed_starter e fixedNext)).elim

theorem compose_from_front (c : Char) (word text : List Char) (fixed : isFixed c = true)
    (wordFixed : ∀ d ∈ word, isFixed d = true) (front : c :: word <+: composeFrom c [] text) :
    word <+: text := by
  induction word generalizing c text with
  | nil => exact List.nil_prefix
  | cons d word ih =>
      obtain ⟨after, composed⟩ := front
      have fixedNext := wordFixed d List.mem_cons_self
      obtain ⟨rest, rfl, composedNext⟩ := compose_next c d text (word ++ after) fixed fixedNext composed.symm
      have restFront := ih d rest fixedNext (fun e present => wordFixed e (List.mem_cons_of_mem d present))
        ⟨after, composedNext.symm⟩
      exact List.cons_prefix_cons.mpr ⟨rfl, restFront⟩

theorem compose_front (word text : List Char) (fixed : ∀ c ∈ word, isFixed c = true)
    (front : word <+: composeAll text) : word <+: text := by
  cases word with
  | nil => exact List.nil_prefix
  | cons c word =>
      have fixedHead := fixed c List.mem_cons_self
      cases text with
      | nil => exact front
      | cons d rest =>
          unfold composeAll at front
          split at front
          · obtain ⟨after, composed⟩ := front
            obtain ⟨rfl, -⟩ := compose_head d c [] rest _ fixedHead composed.symm
            have wordFront := compose_from_front d word rest fixedHead
              (fun e present => fixed e (List.mem_cons_of_mem d present)) ⟨after, composed⟩
            exact List.cons_prefix_cons.mpr ⟨rfl, wordFront⟩
          · rename_i mark
            obtain ⟨rfl, -⟩ := List.cons_prefix_cons.mp front
            exact (mark (fixed_starter c fixedHead)).elim

theorem blank_starter (c : Char) (blank : isBlank c = true) : combiningClass c = 0 :=
  fixed_starter c (Bool.or_eq_true_iff.mpr (Or.inl blank))

theorem blank_decompose (c : Char) (blank : isBlank c = true) :
    ∃ part, decompose c = [part] ∧ isBlank part = true := by
  rcases decompose_keeps_fixed c with same | keeps
  · exact ⟨c, same, blank⟩
  · cases shape : decompose c with
    | nil => simp [shape, KeepsFixed] at keeps
    | cons first others =>
        cases others with
        | nil =>
            rw [shape] at keeps
            exact ⟨first, rfl, keeps.2.trans blank⟩
        | cons next rest =>
            rw [shape] at keeps
            rw [keeps.2.2.2] at blank
            cases blank

theorem compose_blanks (starter : Char) (text : List Char) (blanks : ∀ c ∈ text, isBlank c = true) :
    composeFrom starter [] text = starter :: text := by
  induction text generalizing starter with
  | nil => rfl
  | cons c rest ih =>
      have blank := blanks c List.mem_cons_self
      have restComposed := ih c fun d present => blanks d (List.mem_cons_of_mem c present)
      rcases compose_step starter c [] rest with ⟨composite, found, -⟩ | ⟨-, same⟩ | ⟨mark, -⟩
      · rw [compose_blank starter c blank] at found
        cases found
      · rw [same, restComposed]
        rfl
      · exact (mark (blank_starter c blank)).elim

theorem decompose_blanks (text : List Char) (blanks : ∀ c ∈ text, isBlank c = true) :
    ∀ d ∈ text.flatMap decompose, isBlank d = true := by
  intro d present
  obtain ⟨c, source, inParts⟩ := List.mem_flatMap.mp present
  obtain ⟨part, single, partBlank⟩ := blank_decompose c (blanks c source)
  rw [single, List.mem_singleton] at inParts
  rw [inParts, partBlank]

theorem nfc_blanks (text : List Char) (blanks : ∀ c ∈ text, isBlank c = true) :
    ∀ c ∈ nfcChars text, isBlank c = true := by
  unfold nfcChars
  split
  · exact blanks
  · have partsBlank := decompose_blanks text blanks
    have starters : ∀ c ∈ text.flatMap decompose, combiningClass c = 0 := fun c present =>
      blank_starter c (partsBlank c present)
    rw [order_starters _ starters]
    cases shape : text.flatMap decompose with
    | nil => simp [composeAll]
    | cons c rest =>
        rw [shape] at partsBlank starters
        rw [composeAll, if_pos (starters c List.mem_cons_self),
          compose_blanks c rest fun d present => partsBlank d (List.mem_cons_of_mem c present)]
        exact partsBlank

theorem normal_has_content (raw : String) (filled : normalize raw ≠ "") : hasContent raw = true := by
  cases content : hasContent raw with
  | true => rfl
  | false =>
      have blanks : ∀ c ∈ raw.toList, isBlank c = true := by simpa [hasContent] using content
      have trimmed : trim (nfcChars raw.toList) = [] := by
        rw [trim, trimStart, List.dropWhile_eq_nil_iff.mpr (nfc_blanks raw.toList blanks)]
        rfl
      rw [normalize, trimmed] at filled
      exact (filled rfl).elim

theorem decompose_front (c e : Char) (rest out : List Char) (front : decompose c ++ rest = e :: out) :
    (c = e ∧ rest = out) ∨ (isSchemeLetter e = false ∧ isBlank e = isBlank c) ∨
      (e ≠ '/' ∧ isBlank e = false ∧ ∃ next after, out = next :: after ∧ isSchemeLetter next = false) := by
  rcases decompose_keeps_fixed c with same | keeps
  · rw [same] at front
    cases front
    exact Or.inl ⟨rfl, rfl⟩
  · cases shape : decompose c with
    | nil =>
        rw [shape] at keeps
        exact keeps.elim
    | cons first others =>
        rw [shape] at keeps front
        cases front
        cases others with
        | nil => exact Or.inr (Or.inl keeps)
        | cons next after =>
            exact Or.inr (Or.inr ⟨keeps.1, keeps.2.2.1, next, after ++ rest, rfl, keeps.2.1⟩)

theorem decomposed_blank (text out : List Char) (b : Char) (blank : isBlank b = true)
    (decomposed : text.flatMap decompose = b :: out) : ∃ c rest, text = c :: rest ∧ isBlank c = true := by
  cases text with
  | nil => cases decomposed
  | cons c rest =>
      refine ⟨c, rest, rfl, ?_⟩
      rw [List.flatMap_cons] at decomposed
      rcases decompose_front c b _ out decomposed with ⟨rfl, -⟩ | ⟨-, same⟩ | ⟨-, visible, -⟩
      · exact blank
      · rw [← same, blank]
      · rw [visible] at blank
        cases blank

-- The slash at the end keeps the last letter from being the first part of a composite.
theorem decomposed_letters (word text : List Char) (letters : ∀ c ∈ word, isSchemeLetter c = true)
    (front : word ++ ['/'] <+: text.flatMap decompose) : word ++ ['/'] <+: text := by
  induction word generalizing text with
  | nil =>
      obtain ⟨after, decomposed⟩ := front
      cases text with
      | nil => cases decomposed
      | cons c rest =>
          rw [List.flatMap_cons] at decomposed
          rcases decompose_front c '/' _ after decomposed.symm with ⟨rfl, -⟩ | ⟨noLetter, -⟩ | ⟨noSlash, -⟩
          · exact List.cons_prefix_cons.mpr ⟨rfl, List.nil_prefix⟩
          · exact absurd noLetter (by decide)
          · exact (noSlash rfl).elim
  | cons e word ih =>
      have letter := letters e List.mem_cons_self
      have wordLetters := fun d present => letters d (List.mem_cons_of_mem e present)
      obtain ⟨after, decomposed⟩ := front
      cases text with
      | nil => cases decomposed
      | cons c rest =>
          rw [List.flatMap_cons] at decomposed
          rcases decompose_front c e _ _ decomposed.symm with
            ⟨rfl, restFront⟩ | ⟨noLetter, -⟩ | ⟨-, -, next, others, follow, noLetter⟩
          · have restWord := ih rest wordLetters ⟨after, restFront.symm⟩
            exact List.cons_prefix_cons.mpr ⟨rfl, restWord⟩
          · rw [letter] at noLetter
            cases noLetter
          · have nextLetter : isSchemeLetter next = true := by
              cases word with
              | nil =>
                  cases follow
                  decide
              | cons f word =>
                  cases follow
                  exact wordLetters next List.mem_cons_self
            rw [nextLetter] at noLetter
            cases noLetter

theorem nfc_front (word text : List Char) (fixed : ∀ c ∈ word, isFixed c = true)
    (front : word <+: nfcChars text) : word <+: text ∨ word <+: text.flatMap decompose := by
  unfold nfcChars at front
  split at front
  · exact Or.inl front
  · have ordered := compose_front word _ fixed front
    exact Or.inr (order_front word _ (fun c present => fixed_starter c (fixed c present)) ordered)

theorem trim_front (word text : List Char) (front : word <+: trim text) :
    ∃ blanks, (∀ c ∈ blanks, isBlank c = true) ∧ blanks ++ word <+: text := by
  have ended : trimEnd (trimStart text) <+: trimStart text := by
    have suffix := List.dropWhile_suffix (l := (trimStart text).reverse) isBlank
    simpa [trimEnd] using List.reverse_prefix.mpr suffix
  refine ⟨text.takeWhile isBlank, fun c present => List.mem_takeWhile_imp present, ?_⟩
  have whole := List.takeWhile_append_dropWhile (p := isBlank) (l := text)
  have behind := (List.prefix_append_right_inj (text.takeWhile isBlank)).mpr (front.trans ended)
  rwa [trimStart, whole] at behind

def startsBlank (text : String) : Bool := text.toList.head?.any isBlank

theorem written_front (word : List Char) (raw : String) (letters : ∀ c ∈ word, isSchemeLetter c = true)
    (front : word ++ ['/'] <+: (normalize raw).toList) (visible : startsBlank raw = false) :
    word ++ ['/'] <+: raw.toList := by
  rw [normalize, String.toList_ofList] at front
  obtain ⟨blanks, areBlank, nfcFront⟩ := trim_front _ _ front
  have wordFixed : ∀ c ∈ word ++ ['/'], isFixed c = true := by
    intro c present
    rcases List.mem_append.mp present with inWord | slash
    · exact Bool.or_eq_true_iff.mpr (Or.inr (letters c inWord))
    · rw [List.mem_singleton.mp slash]
      decide
  have fixed : ∀ c ∈ blanks ++ (word ++ ['/']), isFixed c = true := by
    intro c present
    rcases List.mem_append.mp present with inBlanks | inWord
    · exact Bool.or_eq_true_iff.mpr (Or.inl (areBlank c inBlanks))
    · exact wordFixed c inWord
  have noBlank : ∀ c rest, raw.toList = c :: rest → isBlank c = false := by
    intro c rest same
    simpa [startsBlank, same] using visible
  rcases nfc_front _ _ fixed nfcFront with written | decomposed
  · cases blanks with
    | nil => exact written
    | cons b blanks =>
        obtain ⟨after, same⟩ := written
        exact absurd (areBlank b List.mem_cons_self) (Bool.eq_false_iff.mp (noBlank b _ same.symm))
  · cases blanks with
    | nil => exact decomposed_letters word _ letters decomposed
    | cons b blanks =>
        obtain ⟨after, same⟩ := decomposed
        obtain ⟨c, rest, source, blank⟩ := decomposed_blank _ _ b (areBlank b List.mem_cons_self) same.symm
        exact absurd blank (Bool.eq_false_iff.mp (noBlank c rest source))

end PlanChain.Text
