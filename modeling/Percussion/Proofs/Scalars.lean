import Mathlib.Data.List.Basic
import Mathlib.Tactic.Ring
import Percussion.Yaml.Writing

/-!
# Scalars on one line, read back

A plain scalar is read up to what ends it (`Plain.read?_append`), and what is written between quotes
is read back up to the quote that closes it (`Quoted.single?_append`, `Quoted.double?_append`). The
readers pass over spaces and breaks before they know what these are for, so the induction for single
quotes carries what has been passed over along as `Gap.After`. Between double quotes every character
is read back on its own, since no break is written there as it is. At the end, the conditions under
which a style is chosen for a text are shown to be those under which the text is read back.
-/

namespace Percussion.Yaml

/-! ## Neighbours -/

section Neighbours

variable {p q : Char → Bool}

theorem hasPair_cons_cons (a b : Char) (text : List Char) :
    hasPair p q (a :: b :: text) = (p a && q b || hasPair p q (b :: text)) := by
  simp [hasPair]

theorem hasPair_of_cons {a : Char} {text : List Char} (h : hasPair p q (a :: text) = false) :
    hasPair p q text = false := by
  cases text with
  | nil => rfl
  | cons b text =>
    rw [hasPair_cons_cons, Bool.or_eq_false_iff] at h
    exact h.2

/-- What follows a character in `p` is not in `q`. -/
theorem head?_of_hasPair {a : Char} {text : List Char} (h : hasPair p q (a :: text) = false)
    (ha : p a = true) : ∀ b ∈ text.head?, q b = false := by
  cases text with
  | nil => nofun
  | cons b text =>
    rw [hasPair_cons_cons, ha, Bool.true_and, Bool.or_eq_false_iff] at h
    rintro _ ⟨⟩
    exact h.1

/-- Two texts have no pair if neither has one and the second begins with nothing that ends one. -/
theorem hasPair_append {text more : List Char} (h : hasPair p q text = false)
    (h' : hasPair p q more = false) (begins : ∀ c ∈ more.head?, q c = false) :
    hasPair p q (text ++ more) = false := by
  induction text with
  | nil => exact h'
  | cons a text ih =>
    cases text with
    | nil =>
      cases more with
      | nil => rfl
      | cons b more =>
        rw [List.singleton_append, hasPair_cons_cons, begins b rfl, Bool.and_false, h']
        rfl
    | cons b text =>
      rw [hasPair_cons_cons, Bool.or_eq_false_iff] at h
      rw [List.cons_append, List.cons_append, hasPair_cons_cons, h.1]
      exact ih h.2

/-- Where nothing begins a pair, only what follows can have one. -/
theorem hasPair_append_of_forall {text : List Char} (h : ∀ c ∈ text, p c = false)
    (more : List Char) : hasPair p q (text ++ more) = hasPair p q more := by
  induction text with
  | nil => rfl
  | cons a text ih =>
    rw [List.forall_mem_cons] at h
    rw [List.cons_append, ← ih h.2]
    cases text ++ more with
    | nil => rfl
    | cons b more => rw [hasPair_cons_cons, h.1, Bool.false_and, Bool.false_or]

/-- A character that does not occur in a text begins no pair there. -/
theorem forall_mem_beq_eq_false {c : Char} {text : List Char} (h : c ∉ text) :
    ∀ d ∈ text, (d == c) = false := by
  intro d hd
  rw [beq_eq_false_iff_ne]
  rintro rfl
  exact h hd

end Neighbours

/-! ## Positions -/

/-- A character that ends no line takes one column. -/
theorem Mark.column_after {c : Char} (h : isBreak c = false) (mark : Mark) :
    (mark.after c).column = mark.column + 1 := by
  simp [after, h]

theorem isBreak_of_isSpaceOrTab {c : Char} (h : isSpaceOrTab c = true) : isBreak c = false := by
  simp only [isSpaceOrTab, Bool.or_eq_true, beq_iff_eq] at h
  rcases h with rfl | rfl <;> rfl

/-- Only at the beginning of a line are there indicators that separate documents. -/
theorem atDocumentIndicator_eq_false {mark : Mark} (h : 0 < mark.column) (rest : List Char) :
    atDocumentIndicator mark rest = false := by
  simp [atDocumentIndicator, atIndicator, Nat.ne_of_gt h]

/-- At the beginning of a line there is something that is not white space, or the text ends. -/
def BeginsLine (rest : List Char) : Prop :=
  ∀ c ∈ rest.head?, isSpaceOrTab c = false ∧ isBreak c = false

/-! ## Plain scalars -/

/-- Text of which a plain scalar can consist: it stays on its line, does not end at a space or at a
colon, and has neither a colon that ends a word nor the beginning of a comment. -/
structure IsPlain (text : List Char) : Prop where
  line : ∀ c ∈ text, isBreak c = false
  last : ∀ c ∈ text.getLast?, isSpaceOrTab c = false ∧ c ≠ ':'
  colon : hasPair (· == ':') separates text = false
  comment : hasPair separates (· == '#') text = false

namespace IsPlain

variable {c : Char} {text : List Char}

theorem of_cons (h : IsPlain (c :: text)) : IsPlain text where
  line := fun d hd => h.line d (List.mem_cons_of_mem _ hd)
  last := by
    intro d hd
    apply h.last
    cases text with
    | nil => cases hd
    | cons => exact hd
  colon := hasPair_of_cons h.colon
  comment := hasPair_of_cons h.comment

/-- A space in it is not the end, nor does a comment begin after it. -/
theorem of_cons_space (h : IsPlain (c :: text)) (space : isSpaceOrTab c = true) :
    text ≠ [] ∧ text.head? ≠ some '#' := by
  constructor
  · rintro rfl
    have last := (h.last c rfl).1
    rw [space] at last
    cases last
  · intro comment
    have next := head?_of_hasPair h.comment (by simp [separates, space]) '#' comment
    cases next

/-- No colon in it ends a word. -/
theorem not_endsWord (h : IsPlain (c :: text)) (stop : List Char) :
    (c == ':' && endsWord (text ++ stop)) = false := by
  cases text with
  | nil => simp [(h.last c rfl).2]
  | cons d text =>
    by_cases colon : c = ':'
    · have next := head?_of_hasPair h.colon (by simp [colon]) d rfl
      simp only [separates, isAnyBreak, Bool.or_eq_false_iff] at next
      simp [endsWord, next]
    · simp [colon]

end IsPlain

namespace Plain

/-- Reading passes over text of which a plain scalar can consist. -/
theorem readFrom_append {margin : Nat} (low : margin ≤ 1) {text : List Char} (h : IsPlain text)
    (stop : List Char) (mark : Mark) {spaces : List Char} (before : List Char)
    (gap : spaces ≠ [] → 0 < mark.column ∧ text ≠ [] ∧ text.head? ≠ some '#') :
    readFrom false margin (text ++ stop) mark { spaces } before =
      readFrom false margin stop (mark.afterAll text) Gap.none
        (text.reverse ++ spaces ++ before) := by
  -- the spaces passed over wait in the gap until a word joins them to the text
  induction text generalizing mark spaces before with
  | nil =>
    have none : spaces = [] := by
      by_contra ne
      exact (gap ne).2.1 rfl
    subst none
    rfl
  | cons c text ih =>
    have here := h.line c (List.mem_cons_self ..)
    rw [List.cons_append, readFrom]
    by_cases space : isSpaceOrTab c = true
    · have step := @ih h.of_cons (mark.after c) (c :: spaces) before
        fun _ => ⟨by simp [Mark.column_after here], h.of_cons_space space⟩
      have added : ({ spaces } : Gap).addSpace c = { spaces := c :: spaces } := rfl
      rw [if_pos space, if_neg (by simp), added, step]
      simp [Mark.afterAll]
    · -- after a space neither a comment nor a further line begins here
      have joined : (!({ spaces } : Gap).isNone && (mark.column < margin || c == '#' ||
          atDocumentIndicator mark (c :: (text ++ stop)))) = false := by
        by_cases none : spaces = []
        · simp [Gap.isNone, none]
        · obtain ⟨right, _, comment⟩ := gap none
          have same : c ≠ '#' := by
            rintro rfl
            exact comment rfl
          simp [atDocumentIndicator_eq_false right, same]
          omega
      have word := h.not_endsWord stop
      have step := @ih h.of_cons (mark.after c) [] (c :: (spaces ++ before)) (absurd rfl)
      have folded : Gap.folded { spaces } = spaces := rfl
      have fresh : Gap.none = { spaces := [] } := rfl
      rw [if_neg space, if_neg (by simp [here])]
      simp only [Bool.not_false, Bool.true_and, joined, Bool.false_eq_true, if_false,
        Bool.false_and, word, Bool.or_false, folded, fresh, step]
      simp [Mark.afterAll]

/-- A plain text is taken in before whatever follows it. -/
theorem read?_append {margin : Nat} (low : margin ≤ 1) {text : List Char} (h : IsPlain text)
    (stop : List Char) (mark : Mark) :
    read? false margin ⟨text ++ stop, mark⟩ =
      readFrom false margin stop (mark.afterAll text) Gap.none text.reverse := by
  have passed := @readFrom_append margin low text h stop mark [] [] (absurd rfl)
  rw [List.append_nil, List.append_nil] at passed
  exact passed

/-- A plain scalar ends at a colon that ends a word. -/
theorem read?_colon {margin : Nat} (low : margin ≤ 1) {text rest : List Char} (h : IsPlain text)
    (word : endsWord rest = true) (mark : Mark) :
    read? false margin ⟨text ++ ':' :: rest, mark⟩ =
      some (text, ⟨':' :: rest, mark.afterAll text⟩, false) := by
  rw [read?_append low h, readFrom, if_neg (by decide), if_neg (by decide)]
  simp [Gap.isNone, Gap.none, word]

/-- A plain scalar ends with the text. -/
theorem read?_end {text : List Char} (h : IsPlain text) (mark : Mark) :
    read? false 1 ⟨text ++ [], mark⟩ = some (text, ⟨[], mark.afterAll text⟩, false) := by
  rw [read?_append (Nat.le_refl 1) h, readFrom, List.reverse_reverse]
  rfl

/-- A plain scalar ends with its line if the next one begins further left. -/
theorem read?_line {text rest : List Char} (h : IsPlain text) (line : BeginsLine rest)
    (mark : Mark) :
    read? false 1 ⟨text ++ '\n' :: rest, mark⟩ =
      some (text, ⟨rest, (mark.afterAll text).nextLine⟩, true) := by
  have feed : isBreak '\n' = true := rfl
  rw [read?_append (Nat.le_refl 1) h, readFrom, if_neg (by decide), if_pos feed]
  cases rest with
  | nil => simp [readFrom, Gap.addBreak, Gap.none, Mark.after, feed]
  | cons c rest =>
    obtain ⟨space, ends⟩ := line c rfl
    simp [readFrom, Gap.addBreak, Gap.none, Gap.isNone, Mark.after, Mark.nextLine, space, feed,
      ends]

end Plain

/-! ## Scalars between single quotes -/

/-- Text that can be written between single quotes after the character `previous`: without tabs and
line feeds, and without spaces beside breaks. -/
structure IsSingleQuotable (previous : Char) (text : List Char) : Prop where
  kept : ∀ c ∈ text, c ≠ '\t' ∧ (isAnyBreak c = true → isBreak c = true ∧ c ≠ '\n')
  before : hasPair (· == ' ') isAnyBreak (previous :: text) = false
  after : hasPair isAnyBreak (· == ' ') (previous :: text) = false

theorem IsSingleQuotable.of_cons {previous c : Char} {text : List Char}
    (h : IsSingleQuotable previous (c :: text)) : IsSingleQuotable c text where
  kept := fun d hd => h.kept d (List.mem_cons_of_mem _ hd)
  before := hasPair_of_cons h.before
  after := hasPair_of_cons h.after

namespace Gap

/-- What has been passed over after the character `previous`: spaces on its line, or breaks, none
of which is a line feed at the end of the line. -/
structure After (previous : Char) (gap : Gap) : Prop where
  broken : gap.broken = isAnyBreak previous
  spaces : gap.spaces ≠ [] → previous = ' '
  first : gap.first ≠ ['\n']

variable {previous c : Char} {gap : Gap}

theorem after_none (h : isAnyBreak c = false) : After c Gap.none where
  broken := h.symm
  spaces := absurd rfl
  first := nofun

theorem broken_addSpace (gap : Gap) (c : Char) : (gap.addSpace c).broken = gap.broken := by
  rw [Gap.addSpace]
  split <;> rfl

theorem broken_addBreak (gap : Gap) (c : Char) : (gap.addBreak c).broken = true := by
  rw [Gap.addBreak]
  split
  · assumption
  · rfl

/-- A space after a character that is no break is kept. -/
theorem After.addSpace (h : gap.After previous) (word : isAnyBreak previous = false) :
    (gap.addSpace ' ').After ' ' ∧ (gap.addSpace ' ').folded = ' ' :: gap.folded := by
  have broken := h.broken.trans word
  simp only [Gap.addSpace, Gap.folded, broken, Bool.false_eq_true, if_false, and_true]
  exact ⟨rfl, fun _ => rfl, h.first⟩

/-- A break after a character that is no space is kept, unless it is a line feed, which would be
folded. -/
theorem After.addBreak (h : gap.After previous) (word : previous ≠ ' ') (ends : isAnyBreak c = true)
    (feed : c ≠ '\n') :
    (gap.addBreak c).After c ∧ (gap.addBreak c).folded = c :: gap.folded := by
  have none : gap.spaces = [] := by
    by_contra ne
    exact word (h.spaces ne)
  by_cases broken : gap.broken = true
  · simp only [Gap.addBreak, Gap.folded, broken, if_true, if_neg h.first, List.cons_append,
      and_true]
    exact ⟨ends.symm, absurd none, h.first⟩
  · simp only [Gap.addBreak, Gap.folded, broken, Bool.false_eq_true, if_false, if_true, none]
    refine ⟨⟨ends.symm, absurd rfl, by simpa using feed⟩, by simp [feed]⟩

end Gap

namespace Quoted

variable {c : Char} {mark : Mark} {gap : Gap}

theorem singleFrom_space (rest before : List Char) (mark : Mark) (gap : Gap) :
    singleFrom (' ' :: rest) mark gap before =
      singleFrom rest (mark.after ' ') (gap.addSpace ' ') before := by
  have space : isSpaceOrTab ' ' = true := rfl
  rw [singleFrom.eq_def]
  simp only [space, if_true]

theorem singleFrom_break (ends : isBreak c = true) (rest before : List Char) (mark : Mark)
    (gap : Gap) :
    singleFrom (c :: rest) mark gap before =
      singleFrom rest (mark.after c) (gap.addBreak c) before := by
  have word : isSpaceOrTab c = false := by
    by_contra space
    rw [Bool.not_eq_false] at space
    rw [isBreak_of_isSpaceOrTab space] at ends
    cases ends
  rw [singleFrom.eq_def]
  simp only [word, ends, Bool.false_eq_true, if_false, if_true]

/-- The indentation of a line does not count. -/
theorem singleFrom_indentation (right : gap.broken = false → 0 < mark.column)
    (rest before : List Char) :
    ∃ mark' : Mark, 0 < mark'.column ∧
      singleFrom ((if gap.broken then indentation else []) ++ rest) mark gap before =
        singleFrom rest mark' gap before := by
  by_cases broken : gap.broken = true
  · refine ⟨(mark.after ' ').after ' ', Nat.succ_pos _, ?_⟩
    have same : gap.addSpace ' ' = gap := by rw [Gap.addSpace, if_pos broken]
    rw [if_pos broken, indentation, List.cons_append, singleFrom_space, List.cons_append,
      singleFrom_space, same, same, List.nil_append]
  · rw [Bool.not_eq_true] at broken
    exact ⟨mark, right broken, by simp [broken]⟩

/-- A character that is not passed over is read as it is; a quote is written twice. -/
theorem singleFrom_word (space : isSpaceOrTab c = false) (ends : isBreak c = false)
    (right : 0 < mark.column) (rest before : List Char) (gap : Gap) :
    ∃ mark' : Mark, 0 < mark'.column ∧
      singleFrom ((if c == '\'' then ['\'', '\''] else [c]) ++ rest) mark gap before =
        singleFrom rest mark' Gap.none (c :: (gap.folded ++ before)) := by
  have inside := atDocumentIndicator_eq_false right
  by_cases quote : c = '\''
  · subst quote
    refine ⟨mark.right 2, Nat.succ_pos _, ?_⟩
    simp [singleFrom, space, ends, inside]
  · refine ⟨mark.after c, by simp [Mark.column_after ends], ?_⟩
    rw [if_neg (by simpa using quote), List.singleton_append, singleFrom.eq_def]
    simp [space, ends, inside, quote]

/-- A quote that is not followed by another one is the end. -/
theorem singleFrom_end (right : 0 < mark.column) {rest : List Char}
    (closes : rest.head? ≠ some '\'') (gap : Gap) (before : List Char) :
    singleFrom ('\'' :: rest) mark gap before =
      some ((gap.folded ++ before).reverse, ⟨rest, mark.right 1⟩) := by
  have inside := atDocumentIndicator_eq_false right
  have alone : ∀ later, rest = '\'' :: later → False := by
    rintro later rfl
    exact closes rfl
  rw [singleFrom, if_neg (by decide), if_neg (by decide), if_neg (by simp [inside]),
    if_pos (by decide)]
  exact alone

/-- Each character is read back, and the next one is written as it has to be after it. -/
theorem exists_singleFrom_char {previous : Char} {text : List Char}
    (h : IsSingleQuotable previous (c :: text)) (passed : gap.After previous)
    (right : gap.broken = false → 0 < mark.column) (rest before : List Char) :
    ∃ (mark' : Mark) (gap' : Gap) (before' : List Char), gap'.After c ∧
      (gap'.broken = false → 0 < mark'.column) ∧
      gap'.folded ++ before' = c :: (gap.folded ++ before) ∧
      singleFrom (singleQuotedFrom gap.broken (c :: text) ++ rest) mark gap before =
        singleFrom (singleQuotedFrom gap'.broken text ++ rest) mark' gap' before' := by
  rw [singleQuotedFrom]
  by_cases space : c = ' '
  · subst space
    -- after a break the space would be taken for indentation
    have word : isAnyBreak previous = false := by
      by_contra ends
      rw [Bool.not_eq_false] at ends
      have next := head?_of_hasPair h.after ends ' ' rfl
      cases next
    obtain ⟨passed, folded⟩ := passed.addSpace word
    refine ⟨mark.after ' ', gap.addSpace ' ', before, passed, fun _ => Nat.succ_pos _, ?_, ?_⟩
    · rw [folded, List.cons_append]
    · rw [if_pos (by decide), List.cons_append, singleFrom_space, Gap.broken_addSpace]
  · have word : isSpaceOrTab c = false := by
      simp [isSpaceOrTab, space, (h.kept c (List.mem_cons_self ..)).1]
    by_cases ends : isAnyBreak c = true
    · -- before a break the space would be dropped
      have apart : previous ≠ ' ' := by
        rintro rfl
        have next := head?_of_hasPair h.before (by decide) c rfl
        rw [ends] at next
        cases next
      obtain ⟨ends', feed⟩ := (h.kept c (List.mem_cons_self ..)).2 ends
      obtain ⟨passed, folded⟩ := passed.addBreak apart ends feed
      refine ⟨mark.after c, gap.addBreak c, before, passed, by simp [Gap.broken_addBreak], ?_, ?_⟩
      · rw [folded, List.cons_append]
      · rw [if_neg (by simpa using space), if_pos ends, List.cons_append, singleFrom_break ends',
          Gap.broken_addBreak]
    · rw [Bool.not_eq_true] at ends
      have ends' : isBreak c = false := by
        simp only [isAnyBreak, Bool.or_eq_false_iff] at ends
        exact ends.1.1
      obtain ⟨mark₁, right, indented⟩ := singleFrom_indentation right
        ((if c == '\'' then ['\'', '\''] else [c]) ++ (singleQuotedFrom false text ++ rest)) before
      obtain ⟨mark₂, right, written⟩ := singleFrom_word word ends' right
        (singleQuotedFrom false text ++ rest) before gap
      refine ⟨mark₂, Gap.none, c :: (gap.folded ++ before), Gap.after_none ends, fun _ => right,
        rfl, ?_⟩
      rw [if_neg (by simpa using space), if_neg (by simp [ends]), List.append_assoc,
        List.append_assoc, indented, written]
      rfl

/-- What is written between single quotes is read back. -/
theorem singleFrom_append {previous : Char} {text rest : List Char}
    (h : IsSingleQuotable previous text) (closes : rest.head? ≠ some '\'')
    (passed : gap.After previous) (right : gap.broken = false → 0 < mark.column)
    (before : List Char) :
    ∃ mark', singleFrom (singleQuotedFrom gap.broken text ++ '\'' :: rest) mark gap before =
      some ((gap.folded ++ before).reverse ++ text, ⟨rest, mark'⟩) := by
  induction text generalizing previous mark gap before with
  | nil =>
    obtain ⟨mark, right, read⟩ := singleFrom_indentation right ('\'' :: rest) before
    refine ⟨mark.right 1, ?_⟩
    rw [singleQuotedFrom, read, singleFrom_end right closes, List.append_nil]
  | cons c text ih =>
    obtain ⟨mark', gap', before', passed', right', kept, read⟩ :=
      exists_singleFrom_char h passed right ('\'' :: rest) before
    obtain ⟨mark'', later⟩ := ih h.of_cons passed' right' before'
    refine ⟨mark'', ?_⟩
    rw [read, later, kept]
    simp

/-! ## Scalars between double quotes -/

theorem doubleFrom_space (rest before : List Char) (mark : Mark) (gap : Gap) :
    doubleFrom (' ' :: rest) mark gap none before =
      doubleFrom rest (mark.after ' ') (gap.addSpace ' ') none before := by
  have space : isSpaceOrTab ' ' = true := rfl
  rw [doubleFrom.eq_def]
  simp only [space, if_true]

/-- A character that has no meaning of its own is read as it is. -/
theorem doubleFrom_word (space : isSpaceOrTab c = false) (ends : isBreak c = false)
    (quote : c ≠ '"') (escape : c ≠ '\\') (right : 0 < mark.column) (rest before : List Char)
    (gap : Gap) :
    doubleFrom (c :: rest) mark gap none before =
      doubleFrom rest (mark.after c) Gap.none none (c :: (gap.folded ++ before)) := by
  have inside := atDocumentIndicator_eq_false right
  rw [doubleFrom.eq_def]
  simp [space, ends, inside, quote, escape]

/-- The quote at the end gives what has been read, and the spaces before it. -/
theorem doubleFrom_end (right : 0 < mark.column) (rest : List Char) (gap : Gap)
    (before : List Char) :
    doubleFrom ('"' :: rest) mark gap none before =
      some ((gap.folded ++ before).reverse, ⟨rest, mark.right 1⟩) := by
  have inside := atDocumentIndicator_eq_false right
  rw [doubleFrom.eq_def]
  simp [inside, isSpaceOrTab, isBreak]

theorem of_escapeLetter? {letter : Char} (h : escapeLetter? c = some letter) :
    isBreak letter = false ∧ codeLength? letter = none ∧ escaped? letter = some c := by
  unfold escapeLetter? at h
  split at h <;> cases h <;> exact ⟨rfl, rfl, rfl⟩

theorem isBreak_of_codeLength? {letter : Char} {width : Nat}
    (h : codeLength? letter = some width) : isBreak letter = false := by
  unfold codeLength? at h
  split at h <;> cases h <;> rfl

/-- A backslash and a letter for a character. -/
theorem doubleFrom_letter {letter : Char} (h : escapeLetter? c = some letter)
    (right : 0 < mark.column) (rest before : List Char) (gap : Gap) :
    doubleFrom ('\\' :: letter :: rest) mark gap none before =
      doubleFrom rest ((mark.right 1).after letter) Gap.none none
        (c :: (gap.folded ++ before)) := by
  obtain ⟨ends, noCode, back⟩ := of_escapeLetter? h
  have inside := atDocumentIndicator_eq_false right
  rw [doubleFrom.eq_def]
  simp [inside, isSpaceOrTab, show isBreak '\\' = false from rfl, ends, noCode, back]

/-- A backslash and a letter for the number of digits of a code. -/
theorem doubleFrom_code {letter : Char} {width : Nat} (h : codeLength? letter = some width)
    (right : 0 < mark.column) (rest before : List Char) (gap : Gap) :
    doubleFrom ('\\' :: letter :: rest) mark gap none before =
      doubleFrom rest ((mark.right 1).after letter) Gap.none (some (width, 0))
        (gap.folded ++ before) := by
  have ends := isBreak_of_codeLength? h
  have inside := atDocumentIndicator_eq_false right
  rw [doubleFrom.eq_def]
  simp [inside, isSpaceOrTab, show isBreak '\\' = false from rfl, ends, h]

theorem digitValue?_hexDigit {n : Nat} (h : n < 16) :
    Number.digitValue? (hexDigit n) = some n ∧ isBreak (hexDigit n) = false := by
  have all : ∀ n < 16,
      Number.digitValue? (hexDigit n) = some n ∧ isBreak (hexDigit n) = false := by decide
  exact all n h

/-- Digits of a code that are not the last add up to its value. -/
theorem doubleFrom_hexDigits (width more n value : Nat) (pos : 0 < more) (mark : Mark)
    (gap : Gap) (rest before : List Char) :
    ∃ mark', doubleFrom (hexDigits width n ++ rest) mark gap (some (width + more, value)) before =
      doubleFrom rest mark' gap (some (more, value * 16 ^ width + n % 16 ^ width)) before := by
  induction width generalizing more n rest with
  | zero => exact ⟨mark, by simp [hexDigits, Nat.mod_one]⟩
  | succ width ih =>
    -- the digit that is read last is written last, so the induction is for any digits after it
    obtain ⟨mark', read⟩ := ih (more + 1) (n / 16) (Nat.succ_pos more) (hexDigit (n % 16) :: rest)
    have digit := (digitValue?_hexDigit (Nat.mod_lt n (by decide : 0 < 16))).1
    have split : n % 16 ^ (width + 1) = n % 16 + 16 * (n / 16 % 16 ^ width) := by
      rw [Nat.pow_succ', Nat.mod_mul]
    have sum : (value * 16 ^ width + n / 16 % 16 ^ width) * 16 + n % 16 =
        value * 16 ^ (width + 1) + n % 16 ^ (width + 1) := by
      rw [split, Nat.pow_succ']
      ring
    have left : width + 1 + more = width + (more + 1) := by omega
    have goesOn : ¬ more + 1 ≤ 1 := by omega
    refine ⟨mark'.after (hexDigit (n % 16)), ?_⟩
    rw [hexDigits, List.append_assoc, List.singleton_append, left, read, doubleFrom, digit]
    simp only [Option.bind_eq_bind, Option.bind_some, if_neg goesOn, Nat.add_sub_cancel, sum]

/-- The digits of the code of a character are read as the character. -/
theorem doubleFrom_hexCode {width : Nat} (h : c.toNat < 16 ^ (width + 1)) (mark : Mark)
    (gap : Gap) (rest before : List Char) :
    ∃ mark' : Mark, 0 < mark'.column ∧
      doubleFrom (hexDigits (width + 1) c.toNat ++ rest) mark gap (some (width + 1, 0)) before =
        doubleFrom rest mark' gap none (c :: before) := by
  obtain ⟨mark', read⟩ := doubleFrom_hexDigits width 1 (c.toNat / 16) 0 Nat.one_pos
    mark gap (hexDigit (c.toNat % 16) :: rest) before
  have digit := digitValue?_hexDigit (Nat.mod_lt c.toNat (by decide : 0 < 16))
  have upper : c.toNat / 16 % 16 ^ width = c.toNat / 16 := by
    apply Nat.mod_eq_of_lt
    rw [Nat.pow_succ] at h
    omega
  have sum : (0 * 16 ^ width + c.toNat / 16 % 16 ^ width) * 16 + c.toNat % 16 = c.toNat := by
    omega
  have char : ofCode? c.toNat = some c := by
    have valid : c.toNat.isValidChar := c.valid
    rw [ofCode?, if_pos valid, Char.ofNat_toNat]
  refine ⟨mark'.after (hexDigit (c.toNat % 16)), by simp [Mark.column_after digit.2], ?_⟩
  rw [hexDigits, List.append_assoc, List.singleton_append, read, doubleFrom, digit.1]
  simp only [Option.bind_eq_bind, Option.bind_some, if_pos (Nat.le_refl 1), sum, char]

/-- A character stands for itself, has a letter, or is written by its code. -/
theorem doubleQuotedChar_cases (c : Char) :
    (isPrintable c && !isAnyBreak c && c != '"' && c != '\\') ∧ doubleQuotedChar c = [c] ∨
    (∃ letter, escapeLetter? c = some letter ∧ doubleQuotedChar c = ['\\', letter]) ∨
    ∃ letter width, codeLength? letter = some (width + 1) ∧ c.toNat < 16 ^ (width + 1) ∧
      doubleQuotedChar c = '\\' :: letter :: hexDigits (width + 1) c.toNat := by
  by_cases plain : isPrintable c && !isAnyBreak c && c != '"' && c != '\\'
  · exact .inl ⟨plain, by rw [doubleQuotedChar, if_pos plain]⟩
  · rw [doubleQuotedChar, if_neg plain]
    cases h : escapeLetter? c with
    | some letter => exact .inr (.inl ⟨letter, rfl, rfl⟩)
    | none =>
      have valid : c.toNat.isValidChar := c.valid
      rw [Nat.isValidChar] at valid
      by_cases short : c.toNat ≤ 0xFF
      · exact .inr (.inr ⟨'x', 1, rfl, by omega, if_pos short⟩)
      · by_cases middle : c.toNat ≤ 0xFFFF
        · exact .inr (.inr ⟨'u', 3, rfl, by omega, by simp [short, middle]⟩)
        · exact .inr (.inr ⟨'U', 7, rfl, by omega, by simp [short, middle]⟩)

/-- A character that needs no escape is read back. -/
theorem exists_doubleFrom_unescaped
    (plain : isPrintable c && !isAnyBreak c && c != '"' && c != '\\')
    (right : 0 < mark.column) (line : gap.broken = false) (rest before : List Char) :
    ∃ (mark' : Mark) (gap' : Gap) (before' : List Char), 0 < mark'.column ∧ gap'.broken = false ∧
      gap'.folded ++ before' = c :: (gap.folded ++ before) ∧
      doubleFrom (c :: rest) mark gap none before = doubleFrom rest mark' gap' none before' := by
  simp only [Bool.and_eq_true, Bool.not_eq_true', bne_iff_ne, isPrintable, isAnyBreak,
    Bool.or_eq_false_iff] at plain
  obtain ⟨⟨⟨⟨⟨⟨_, tab⟩, _⟩, _⟩, ⟨ends, _⟩, _⟩, quote⟩, escape⟩ := plain
  by_cases space : c = ' '
  · subst space
    refine ⟨mark.after ' ', gap.addSpace ' ', before, Nat.succ_pos _, ?_, ?_,
      doubleFrom_space rest before mark gap⟩
    · rw [Gap.broken_addSpace, line]
    · simp [Gap.folded, Gap.addSpace, line]
  · have word : isSpaceOrTab c = false := by simp [isSpaceOrTab, space, tab]
    refine ⟨mark.after c, Gap.none, c :: (gap.folded ++ before), ?_, rfl, rfl,
      doubleFrom_word word ends quote escape right rest before gap⟩
    simp [Mark.column_after ends]

/-- Each character is read back. -/
theorem exists_doubleFrom_char (c : Char) (right : 0 < mark.column) (line : gap.broken = false)
    (rest before : List Char) :
    ∃ (mark' : Mark) (gap' : Gap) (before' : List Char), 0 < mark'.column ∧ gap'.broken = false ∧
      gap'.folded ++ before' = c :: (gap.folded ++ before) ∧
      doubleFrom (doubleQuotedChar c ++ rest) mark gap none before =
        doubleFrom rest mark' gap' none before' := by
  rcases doubleQuotedChar_cases c with ⟨plain, written⟩ | ⟨letter, h, written⟩ |
    ⟨letter, width, h, fits, written⟩
  · rw [written]
    exact exists_doubleFrom_unescaped plain right line rest before
  · refine ⟨(mark.right 1).after letter, Gap.none, c :: (gap.folded ++ before), ?_, rfl, rfl, ?_⟩
    · simp [Mark.column_after (of_escapeLetter? h).1]
    · rw [written]
      exact doubleFrom_letter h right rest before gap
  · obtain ⟨mark', right', read⟩ := doubleFrom_hexCode fits ((mark.right 1).after letter) Gap.none
      rest (gap.folded ++ before)
    refine ⟨mark', Gap.none, c :: (gap.folded ++ before), right', rfl, rfl, ?_⟩
    rw [written, List.cons_append, List.cons_append, doubleFrom_code h right, read]

/-- What is written between double quotes is read back. -/
theorem doubleFrom_append (text : List Char) (right : 0 < mark.column) (line : gap.broken = false)
    (rest before : List Char) :
    ∃ mark', doubleFrom (text.flatMap doubleQuotedChar ++ '"' :: rest) mark gap none before =
      some ((gap.folded ++ before).reverse ++ text, ⟨rest, mark'⟩) := by
  induction text generalizing mark gap before with
  | nil =>
    refine ⟨mark.right 1, ?_⟩
    rw [List.flatMap_nil, List.nil_append, doubleFrom_end right, List.append_nil]
  | cons c text ih =>
    obtain ⟨mark', gap', before', right', line', passed, read⟩ :=
      exists_doubleFrom_char c right line (text.flatMap doubleQuotedChar ++ '"' :: rest) before
    obtain ⟨mark'', later⟩ := ih right' line' before'
    refine ⟨mark'', ?_⟩
    rw [List.flatMap_cons, List.append_assoc, read, later, passed]
    simp

/-- Every text is read back from between double quotes. -/
theorem double?_append (text rest : List Char) (mark : Mark) :
    ∃ mark', double? ⟨'"' :: text.flatMap doubleQuotedChar ++ '"' :: rest, mark⟩ =
      some (text, ⟨rest, mark'⟩) :=
  doubleFrom_append text (Nat.succ_pos _) rfl rest []

/-- A text that single quotes can hold is read back from between them. -/
theorem single?_append {text rest : List Char} (h : IsSingleQuotable '\'' text)
    (closes : rest.head? ≠ some '\'') (mark : Mark) :
    ∃ mark', single? ⟨'\'' :: singleQuotedFrom false text ++ '\'' :: rest, mark⟩ =
      some (text, ⟨rest, mark'⟩) :=
  singleFrom_append h closes (Gap.after_none rfl) (fun _ => Nat.succ_pos _) []

end Quoted

/-! ## Texts that allow a style -/

theorem of_isPrintable {c : Char} (h : isPrintable c = true) :
    isAllowed c = true ∧ c ≠ byteOrderMark ∧ c ≠ '\t' ∧ c ≠ '\r' ∧ c ≠ '\u0085' := by
  simpa only [isPrintable, Bool.and_eq_true, bne_iff_ne, and_assoc] using h

/-- Of the characters that can be written as they are, the same end a line in every reading. -/
theorem isAnyBreak_of_isPrintable {c : Char} (h : isPrintable c = true) :
    isAnyBreak c = isBreak c := by
  obtain ⟨_, _, _, ret, next⟩ := of_isPrintable h
  rw [isAnyBreak, beq_false_of_ne ret, beq_false_of_ne next, Bool.or_false, Bool.or_false]

/-- What can be written without double quotes can be written as it is. -/
theorem all_isPrintable {text : List Char} (h : needsDoubleQuotes text = false) :
    ∀ c ∈ text, isPrintable c = true := by
  rw [needsDoubleQuotes, Bool.or_eq_false_iff, Bool.not_eq_false', List.all_eq_true] at h
  exact h.1

/-- What is allowed without quotes is plain. -/
theorem isPlain_of_allowsPlain {text : List Char} (h : allowsPlain text = true) :
    IsPlain text := by
  simp only [allowsPlain, Bool.and_eq_true, Bool.not_eq_true', holdsIndicator,
    Bool.or_eq_false_iff, hasEnd, beq_eq_false_iff_ne] at h
  obtain ⟨⟨⟨⟨printable, line⟩, _, last⟩, _⟩, ⟨colon, lastColon⟩, comment⟩ := h
  have printable := all_isPrintable printable
  constructor
  · intro c hc
    rw [← isAnyBreak_of_isPrintable (printable c hc)]
    simpa using List.any_eq_false.mp line c hc
  · intro c hc
    have tab := (of_isPrintable (printable c (List.mem_of_getLast? hc))).2.2.1
    rw [Option.mem_def] at hc
    simp only [hc, Option.any_some, beq_eq_false_iff_ne, Ne, Option.some.injEq] at last lastColon
    simp [isSpaceOrTab, last, tab, lastColon]
  · exact colon
  · exact comment

/-- The quote in front of the text is neither a space nor a break, so it adds no neighbours that
matter. -/
theorem isSingleQuotable_of_allows {text : List Char} (h : allowsSingleQuotes text = true)
    (line : '\n' ∉ text) : IsSingleQuotable '\'' text := by
  rw [allowsSingleQuotes, Bool.and_eq_true, Bool.not_eq_true', Bool.not_eq_true'] at h
  have printable := all_isPrintable h.1
  have before := h.1
  rw [needsDoubleQuotes, Bool.or_eq_false_iff] at before
  constructor
  · intro c hc
    refine ⟨(of_isPrintable (printable c hc)).2.2.1, fun ends => ⟨?_, ?_⟩⟩
    · rwa [← isAnyBreak_of_isPrintable (printable c hc)]
    · rintro rfl
      exact line hc
  · cases text with
    | nil => rfl
    | cons c text =>
      rw [hasPair_cons_cons]
      exact before.2
  · cases text with
    | nil => rfl
    | cons c text =>
      rw [hasPair_cons_cons]
      exact h.2

end Percussion.Yaml
