import Percussion.Proofs.Scalars

/-!
# Literal blocks, read back

A literal block gives its text back if its header says what cannot be seen from its lines: how far
they are indented, when the first one begins with a space or is empty, and what becomes of the
breaks at the end. All breaks passed over so far are part of the text that `finish .keep` gives, so
that each character of a text adds itself to it (`exists_readFrom_literalFrom`); that the chomping
in the header keeps the same breaks is seen from the last two characters.
-/

namespace Percussion.Yaml.Block

/-! ## Headers -/

/-- The header with a given chomping, and with an indentation of two columns or none. -/
def headerText (indented : Bool) (chomping : Chomping) : List Char :=
  (if indented then ['2'] else []) ++
    match chomping with
    | .strip => ['-']
    | .clip => []
    | .keep => ['+']

theorem header?_headerText (indented : Bool) (chomping : Chomping) (rest : List Char)
    (mark : Mark) :
    ∃ mark' : Mark, mark'.column = 0 ∧
      header? ⟨headerText indented chomping ++ '\n' :: rest, mark⟩ =
        some (⟨chomping, if indented then some 2 else none⟩, ⟨rest, mark'⟩) := by
  cases indented <;> cases chomping <;> exact ⟨_, rfl, rfl⟩

/-- What becomes of the breaks at the end of a text so that all of them are kept. -/
def chompingOf (text : List Char) : Chomping :=
  match text.reverse with
  | [] => .strip
  | [last] => if isAnyBreak last then .keep else .strip
  | last :: previous :: _ =>
    if !isAnyBreak last then .strip else if isAnyBreak previous then .keep else .clip

theorem literalHints_eq (text : List Char) :
    literalHints text =
      headerText (text.head?.any fun c => c == ' ' || isAnyBreak c) (chompingOf text) := by
  unfold literalHints headerText chompingOf
  cases text.reverse with
  | nil => rfl
  | cons last earlier =>
    cases earlier with
    | nil => cases ends : isAnyBreak last <;> simp [ends]
    | cons previous _ =>
      cases ends : isAnyBreak last <;> cases more : isAnyBreak previous <;> simp [ends, more]

/-! ## Lines -/

namespace Progress

/-- Where a block that is indented by two columns has been read to, with all breaks so far part of
its text. `afterBreak` says whether a line has ended and none has begun since. -/
structure Reads (progress : Progress) (mark : Mark) (afterBreak : Bool) : Prop where
  indent : progress.indent = some 2
  inLine : progress.inLine = !afterBreak
  column : afterBreak = true → mark.column = 0
  settled : afterBreak = false → progress.lineBreak = [] ∧ progress.emptyLines = []

variable {progress : Progress} {mark : Mark} {afterBreak : Bool} {c : Char}

theorem Reads.finish (h : progress.Reads mark false) (chomping : Chomping) :
    progress.finish chomping = progress.text.reverse := by
  obtain ⟨lineBreak, emptyLines⟩ := h.settled rfl
  cases chomping <;> simp [Progress.finish, lineBreak, emptyLines]

/-- The break after a line is the only one that waits. -/
theorem Reads.endLine (h : progress.Reads mark false) (ends : isBreak c = true) :
    Reads { progress with inLine := false, lineBreak := [c] } (mark.after c) true where
  indent := h.indent
  inLine := rfl
  column := fun _ => by simp [Mark.after, ends, Mark.nextLine]
  settled := nofun

end Progress

variable {progress : Progress} {mark : Mark} {afterBreak : Bool} {floor : Nat} {c : Char}

/-- A break ends the line, or is an empty one. -/
theorem exists_readFrom_break (h : progress.Reads mark afterBreak) (ends : isBreak c = true)
    (floor : Nat) (rest : List Char) :
    ∃ (progress' : Progress) (mark' : Mark), progress'.Reads mark' true ∧
      progress'.finish .keep = progress.finish .keep ++ [c] ∧
      (afterBreak = false → progress'.emptyLines = []) ∧
      readFrom false floor (c :: rest) mark progress =
        readFrom false floor rest mark' progress' := by
  cases afterBreak with
  | false =>
    have inLine : progress.inLine = true := h.inLine
    refine ⟨_, _, h.endLine ends, ?_, fun _ => (h.settled rfl).2, ?_⟩
    · rw [h.finish]
      simp [Progress.finish, (h.settled rfl).2]
    · rw [readFrom, if_pos inLine, if_pos ends]
  | true =>
    have inLine : progress.inLine = false := h.inLine
    have word : isSpaceOrTab c = false := by
      by_contra space
      rw [Bool.not_eq_false] at space
      rw [isBreak_of_isSpaceOrTab space] at ends
      cases ends
    simp only [isSpaceOrTab, Bool.or_eq_false_iff] at word
    refine ⟨{ progress with emptyLines := c :: progress.emptyLines }, mark.after c,
      ⟨h.indent, h.inLine, fun _ => by simp [Mark.after, ends, Mark.nextLine], ?_⟩, ?_, ?_, ?_⟩
    · intro inside
      cases inside
    · simp [Progress.finish]
    · intro inside
      cases inside
    · simp [readFrom, inLine, word, ends]

/-- After the indentation a character that is not a break begins a line. -/
theorem readFrom_indentation (inLine : progress.inLine = false) (column : mark.column = 0)
    (indent : progress.indent = some 2 ∨
      progress.indent = none ∧ progress.deepest ≤ 2 ∧ isSpaceOrTab c = false)
    (low : floor ≤ 2) (ends : isBreak c = false) (rest : List Char) :
    readFrom false floor (indentation ++ c :: rest) mark progress =
      readFrom false floor rest (((mark.after ' ').after ' ').after c)
        { indent := some 2
          inLine := true
          text := c :: progress.joined false c
          moreIndented := isSpaceOrTab c } := by
  have two : ((mark.after ' ').after ' ').column = 2 := by
    rw [Mark.column_after rfl, Mark.column_after rfl, column]
  have one : (mark.after ' ').column = 1 := by rw [Mark.column_after rfl, column]
  rcases indent with indent | ⟨indent, deepest, word⟩
  · simp [indentation, readFrom, inLine, column, indent, one, two, ends, Progress.joined]
  · simp only [isSpaceOrTab, Bool.or_eq_false_iff] at word
    have deepest : max (max progress.deepest 2) floor = 2 := by omega
    simp [indentation, readFrom, inLine, column, indent, one, two, ends, Progress.joined, word,
      deepest]

/-- The state after a character that begins a line. -/
theorem exists_readFrom_beginLine (inLine : progress.inLine = false) (column : mark.column = 0)
    (indent : progress.indent = some 2 ∨
      progress.indent = none ∧ progress.deepest ≤ 2 ∧ isSpaceOrTab c = false)
    (low : floor ≤ 2) (ends : isBreak c = false) (rest : List Char) :
    ∃ (progress' : Progress) (mark' : Mark), progress'.Reads mark' false ∧
      progress'.finish .keep = progress.finish .keep ++ [c] ∧
      readFrom false floor (indentation ++ c :: rest) mark progress =
        readFrom false floor rest mark' progress' := by
  refine ⟨_, _, ?_, ?_, readFrom_indentation inLine column indent low ends rest⟩
  · exact ⟨rfl, rfl, nofun, fun _ => ⟨rfl, rfl⟩⟩
  · simp [Progress.finish, Progress.joined]

/-- A character that is not a break goes on with the line, or begins one. -/
theorem exists_readFrom_word (h : progress.Reads mark afterBreak) (low : floor ≤ 2)
    (ends : isBreak c = false) (rest : List Char) :
    ∃ (progress' : Progress) (mark' : Mark), progress'.Reads mark' false ∧
      progress'.finish .keep = progress.finish .keep ++ [c] ∧
      readFrom false floor ((if afterBreak then indentation else []) ++ c :: rest) mark progress =
        readFrom false floor rest mark' progress' := by
  cases afterBreak with
  | true => exact exists_readFrom_beginLine h.inLine (h.column rfl) (.inl h.indent) low ends rest
  | false =>
    have inLine : progress.inLine = true := h.inLine
    refine ⟨{ progress with text := c :: progress.text }, mark.after c,
      ⟨h.indent, h.inLine, nofun, h.settled⟩, ?_, ?_⟩
    · simp [Progress.finish, h.settled rfl]
    · simp [readFrom, inLine, ends]

/-- Whether a text ends after a break, if that is so before its first character as `afterBreak`
says. -/
def endsAfterBreak (afterBreak : Bool) (text : List Char) : Bool :=
  text.foldl (fun _ => isBreak) afterBreak

/-- The lines of a literal block are read back. -/
theorem exists_readFrom_literalFrom {text : List Char} (h : progress.Reads mark afterBreak)
    (low : floor ≤ 2) (breaks : ∀ c ∈ text, isAnyBreak c = isBreak c) (rest : List Char) :
    ∃ (progress' : Progress) (mark' : Mark),
      progress'.Reads mark' (endsAfterBreak afterBreak text) ∧
      progress'.finish .keep = progress.finish .keep ++ text ∧
      readFrom false floor (literalFrom afterBreak text ++ rest) mark progress =
        readFrom false floor rest mark' progress' := by
  -- each character leaves a state in which the lines are read on, with itself added to the text
  induction text generalizing progress mark afterBreak with
  | nil => exact ⟨progress, mark, h, by simp, rfl⟩
  | cons c text ih =>
    have same := breaks c (List.mem_cons_self ..)
    have later := fun d hd => breaks d (List.mem_cons_of_mem c hd)
    cases ends : isBreak c with
    | true =>
      obtain ⟨progress₁, mark₁, h₁, text₁, _, read₁⟩ := exists_readFrom_break h ends floor
        (literalFrom true text ++ rest)
      obtain ⟨progress₂, mark₂, h₂, text₂, read₂⟩ := ih h₁ later
      refine ⟨progress₂, mark₂, ?_, ?_, ?_⟩
      · rwa [endsAfterBreak, List.foldl_cons, ends]
      · rw [text₂, text₁, List.append_assoc, List.singleton_append]
      · rw [literalFrom, same, ends, if_pos rfl, List.cons_append, read₁, read₂]
    | false =>
      obtain ⟨progress₁, mark₁, h₁, text₁, read₁⟩ := exists_readFrom_word h low ends
        (literalFrom false text ++ rest)
      obtain ⟨progress₂, mark₂, h₂, text₂, read₂⟩ := ih h₁ later
      refine ⟨progress₂, mark₂, ?_, ?_, ?_⟩
      · rwa [endsAfterBreak, List.foldl_cons, ends]
      · rw [text₂, text₁, List.append_assoc, List.singleton_append]
      · rw [literalFrom, same, ends, if_neg Bool.false_ne_true, List.append_assoc, List.cons_append,
          read₁, read₂]

/-- A block ends before a line that is not indented. -/
theorem readFrom_end (h : progress.Reads mark true) {rest : List Char} (line : BeginsLine rest) :
    readFrom false floor rest mark progress = some (progress, ⟨rest, mark⟩) := by
  have inLine : progress.inLine = false := h.inLine
  cases rest with
  | nil => rw [readFrom]
  | cons c rest =>
    obtain ⟨space, ends⟩ := line c rfl
    simp only [isSpaceOrTab, Bool.or_eq_false_iff] at space
    simp [readFrom, inLine, space, ends, h.indent, h.column rfl]

/-! ## Whole blocks -/

theorem chompingOf_append {text : List Char} {last : Char}
    (breaks : ∀ c ∈ text ++ [last], isAnyBreak c = isBreak c) :
    chompingOf (text ++ [last]) =
      if isBreak last then
        if endsAfterBreak true text then .keep else .clip
      else .strip := by
  have same := breaks last (by simp)
  rcases List.eq_nil_or_concat text with rfl | ⟨earlier, previous, rfl⟩
  · cases ends : isBreak last <;> simp [chompingOf, endsAfterBreak, same, ends]
  · have before := breaks previous (by simp)
    cases ends : isBreak last <;> cases more : isBreak previous <;>
      simp [chompingOf, endsAfterBreak, same, before, ends, more]

theorem literalFrom_append_break {text : List Char} {last : Char} (afterBreak : Bool)
    (ends : isAnyBreak last = true) :
    literalFrom afterBreak (text ++ [last]) = literalFrom afterBreak text ++ [last] := by
  induction text generalizing afterBreak with
  | nil => simp [literalFrom, ends]
  | cons c text ih =>
    rw [List.cons_append, literalFrom, literalFrom]
    split <;> simp [ih]

/-- Whether the indentation is told by the header or seen from the first character, the lines are
read back. -/
theorem exists_readFrom_first {text : List Char} {indented : Bool}
    (shown : indented = false → ∃ c ∈ text.head?, isSpaceOrTab c = false ∧ isBreak c = false)
    (column : mark.column = 0) (low : floor ≤ 2)
    (breaks : ∀ c ∈ text, isAnyBreak c = isBreak c) (rest : List Char) :
    ∃ (progress : Progress) (mark' : Mark), progress.Reads mark' (endsAfterBreak true text) ∧
      progress.finish .keep = text ∧
      readFrom false floor (literalFrom true text ++ rest) mark
          { indent := if indented then some 2 else none } =
        readFrom false floor rest mark' progress := by
  cases indented with
  | true =>
    have start : Progress.Reads { indent := some 2 } mark true :=
      ⟨rfl, rfl, fun _ => column, nofun⟩
    exact exists_readFrom_literalFrom start low breaks rest
  | false =>
    obtain ⟨c, head, space, ends⟩ := shown rfl
    cases text with
    | nil => cases head
    | cons c' text =>
      obtain rfl : c' = c := by simpa using head
      have outside : ({ indent := none } : Progress).inLine = false := rfl
      obtain ⟨progress₁, mark₁, h₁, text₁, read₁⟩ := exists_readFrom_beginLine outside
        column (.inr ⟨rfl, Nat.zero_le 2, space⟩) low ends (literalFrom false text ++ rest)
      obtain ⟨progress₂, mark₂, h₂, text₂, read₂⟩ := exists_readFrom_literalFrom h₁ low
        (fun d hd => breaks d (List.mem_cons_of_mem _ hd)) rest
      refine ⟨progress₂, mark₂, ?_, ?_, ?_⟩
      · rwa [endsAfterBreak, List.foldl_cons, ends]
      · rw [text₂, text₁]
        rfl
      · have same := breaks c' (List.mem_cons_self ..)
        rw [literalFrom, same, ends, if_neg Bool.false_ne_true, if_pos rfl, List.append_assoc,
          List.cons_append]
        exact read₁.trans read₂

/-- A block whose last line is closed is read as its text, whatever that ends with. -/
theorem exists_readFrom_closed {text : List Char} {last : Char} {indented : Bool}
    (shown : indented = false →
      ∃ c ∈ (text ++ [last]).head?, isSpaceOrTab c = false ∧ isBreak c = false)
    (column : mark.column = 0) (low : floor ≤ 2)
    (breaks : ∀ c ∈ text ++ [last], isAnyBreak c = isBreak c) (rest : List Char) :
    ∃ (progress : Progress) (mark' : Mark), progress.Reads mark' true ∧
      progress.finish (chompingOf (text ++ [last])) = text ++ [last] ∧
      readFrom false floor
          (literalFrom true (text ++ [last]) ++ ((if isBreak last then [] else ['\n']) ++ rest))
          mark { indent := if indented then some 2 else none } =
        readFrom false floor rest mark' progress := by
  rw [chompingOf_append breaks]
  cases ends : isBreak last with
  | false =>
    -- the feed that closes the line is not part of the text and is stripped
    obtain ⟨progress, mark', h, whole, read⟩ :=
      exists_readFrom_first shown column low breaks ('\n' :: rest)
    have line : endsAfterBreak true (text ++ [last]) = false := by simp [endsAfterBreak, ends]
    rw [line] at h
    have feed : isBreak '\n' = true := rfl
    have inLine : progress.inLine = true := h.inLine
    refine ⟨_, _, h.endLine feed, ?_, ?_⟩
    · rw [← whole, h.finish]
      rfl
    · rw [if_neg Bool.false_ne_true, List.singleton_append, read, readFrom, if_pos inLine,
        if_pos feed]
  | true =>
    cases line : endsAfterBreak true text with
    | true =>
      -- an empty line at the end counts only if all breaks are kept
      obtain ⟨progress, mark', h, whole, read⟩ := exists_readFrom_first shown column low breaks rest
      refine ⟨progress, mark', ?_, whole, read⟩
      simpa [endsAfterBreak, ends] using h
    | false =>
      have before : ∀ c ∈ text, isAnyBreak c = isBreak c := fun c hc => breaks c (by simp [hc])
      have head : (text ++ [last]).head? = text.head? := by
        cases text with
        | nil => cases line
        | cons => rfl
      rw [head] at shown
      obtain ⟨progress₁, mark₁, h₁, whole₁, read₁⟩ :=
        exists_readFrom_first shown column low before (last :: rest)
      rw [line] at h₁
      obtain ⟨progress₂, mark₂, h₂, whole₂, single, read₂⟩ :=
        exists_readFrom_break h₁ ends floor rest
      have same : progress₂.finish .clip = progress₂.finish .keep := by
        rw [Progress.finish, Progress.finish, single rfl, List.nil_append]
      refine ⟨progress₂, mark₂, h₂, ?_, ?_⟩
      · rw [if_pos rfl, if_neg Bool.false_ne_true, same, whole₂, whole₁]
      · have any : isAnyBreak last = true := (breaks last (by simp)).trans ends
        rw [literalFrom_append_break true any, if_pos rfl, List.nil_append, List.append_assoc,
          List.singleton_append, read₁, read₂]

/-- Where the header does not tell the indentation, the first line shows it. -/
theorem exists_head?_of_not_hinted {text : List Char} (ne : text ≠ [])
    (breaks : ∀ c ∈ text, isAnyBreak c = isBreak c) (tab : '\t' ∉ text)
    (hint : (text.head?.any fun c => c == ' ' || isAnyBreak c) = false) :
    ∃ c ∈ text.head?, isSpaceOrTab c = false ∧ isBreak c = false := by
  cases text with
  | nil => exact absurd rfl ne
  | cons c text =>
    have noTab : c ≠ '\t' := by
      rintro rfl
      exact tab (List.mem_cons_self ..)
    rw [List.head?_cons, Option.any_some, breaks c (List.mem_cons_self ..),
      Bool.or_eq_false_iff] at hint
    exact ⟨c, rfl, by simp [isSpaceOrTab, hint.1, noTab], hint.2⟩

/-- What is written as a literal block is read back, under a key at the beginning of a line. -/
theorem read?_literal {text rest : List Char} (ne : text ≠ [])
    (breaks : ∀ c ∈ text, isAnyBreak c = isBreak c) (tab : '\t' ∉ text) (line : BeginsLine rest)
    (mark : Mark) :
    ∃ mark' : Mark, mark'.column = 0 ∧
      read? false (some 0)
          ⟨'|' :: literalHints text ++ '\n' :: literalFrom true text ++
            (if text.getLast?.any isAnyBreak then [] else ['\n']) ++ rest, mark⟩ =
        some (text, ⟨rest, mark'⟩) := by
  have shown := exists_head?_of_not_hinted ne breaks tab
  rw [literalHints_eq]
  generalize (text.head?.any fun c => c == ' ' || isAnyBreak c) = indented at shown ⊢
  obtain rfl | ⟨earlier, last, rfl⟩ := List.eq_nil_or_concat' text
  · exact absurd rfl ne
  have same : isAnyBreak last = isBreak last := breaks last (by simp)
  obtain ⟨mark₁, column, header⟩ := header?_headerText indented (chompingOf (earlier ++ [last]))
    (literalFrom true (earlier ++ [last]) ++ ((if isBreak last then [] else ['\n']) ++ rest))
    (mark.after '|')
  obtain ⟨progress, mark₂, h, whole, read⟩ :=
    exists_readFrom_closed shown column (show 1 ≤ 2 by decide) breaks rest
  have increment : (if indented then some 2 else none).map (((some 0).getD 0) + ·) =
      if indented then some 2 else none := by
    cases indented <;> rfl
  have low : max ((some 0).elim 0 (· + 1)) 1 = 1 := rfl
  refine ⟨mark₂, h.column rfl, ?_⟩
  simp only [List.cons_append, List.append_assoc, List.getLast?_concat, Option.any_some, same]
    at header read whole ⊢
  rw [read?, Cursor.skip]
  simp only [List.drop_succ_cons, List.drop_zero, List.take_succ_cons, List.take_zero,
    Mark.afterAll, List.foldl_cons, List.foldl_nil, header, Option.bind_eq_bind, Option.bind_some,
    increment, low, read, readFrom_end h line, whole]
  rfl

end Percussion.Yaml.Block
