import Mathlib.Data.List.DropRight
import Percussion.Score.Layout

/-!
# Layouts of rows of tokens

`Layout rows text` says that `text` writes down the rows of tokens `rows`: white space between the
tokens of a row, line breaks between the rows, and blank lines at the end. Rows have infinitely many
layouts, but from each of them the same rows are read (`Layout.tokenRows_eq`), and every text is a
layout of some rows (`exists_layout`).
-/

namespace Percussion

/-! ## The parts of a text -/

/-- A run of white space that stays on its line. -/
def IsGap (gap : List Char) : Prop :=
  ∀ c ∈ gap, Text.isBlank c = true ∧ c ≠ '\n'

instance (gap : List Char) : Decidable (IsGap gap) :=
  List.decidableBAll _ gap

/-- A token is not empty and has no white space. -/
def IsToken (token : String) : Prop :=
  token.toList ≠ [] ∧ ∀ c ∈ token.toList, Text.isBlank c = false

instance (token : String) : Decidable (IsToken token) :=
  @instDecidableAnd _ _ inferInstance (List.decidableBAll _ token.toList)

/-- A line ends with a line feed, which may have a carriage return before it. -/
def IsBreak (ending : List Char) : Prop :=
  ending = ['\n'] ∨ ending = ['\r', '\n']

/-- What stands on a line after a token: more tokens, each after a gap that is not empty, and at
the end a gap that may be. -/
inductive RowRest : List String → List Char → Prop
  | done {gap : List Char} : IsGap gap → RowRest [] gap
  | next {gap line : List Char} {token : String} {row : List String} :
    IsGap gap → gap ≠ [] → IsToken token → RowRest row line →
    RowRest (token :: row) (gap ++ token.toList ++ line)

/-- A line with the tokens of a row. -/
inductive RowLayout : List String → List Char → Prop
  | blank {gap : List Char} : IsGap gap → RowLayout [] gap
  | tokens {gap line : List Char} {token : String} {row : List String} :
    IsGap gap → IsToken token → RowRest row line →
    RowLayout (token :: row) (gap ++ token.toList ++ line)

/-- Any number of lines without tokens, the last of which may be without a break. -/
inductive BlankLines : List Char → Prop
  | last {gap : List Char} : IsGap gap → BlankLines gap
  | line {gap ending text : List Char} :
    IsGap gap → IsBreak ending → BlankLines text → BlankLines (gap ++ ending ++ text)

/-- A text with the given rows, the last of which may be without a break, and with any number of
blank lines after them. -/
inductive Layout : List (List String) → List Char → Prop
  | blank {text : List Char} : BlankLines text → Layout [] text
  | last {row : List String} {line : List Char} : RowLayout row line → Layout [row] line
  | row {row : List String} {line ending : List Char} {rows : List (List String)}
    {text : List Char} :
    RowLayout row line → IsBreak ending → Layout rows text →
    Layout (row :: rows) (line ++ ending ++ text)

/-! ## Cutting texts -/

namespace Text

/-- A text without a cut is one piece. -/
theorem pieces_eq_singleton {cut : Char → Bool} {piece : List Char}
    (h : ∀ c ∈ piece, cut c = false) : pieces cut piece = [piece] := by
  induction piece with
  | nil => rfl
  | cons c piece ih =>
    rw [List.forall_mem_cons] at h
    simp only [pieces_cons_keep h.1, ih h.2, List.head_cons, List.tail_cons]

/-- What stands before a cut and what stands after it are cut on their own. -/
theorem pieces_append_cons {cut : Char → Bool} {c : Char} (hc : cut c = true)
    (before text : List Char) :
    pieces cut (before ++ c :: text) = pieces cut before ++ pieces cut text := by
  induction before with
  | nil => exact pieces_cons_cut hc text
  | cons d before ih =>
    cases hd : cut d with
    | true => rw [List.cons_append, pieces_cons_cut hd, ih, pieces_cons_cut hd, List.cons_append]
    | false =>
      obtain ⟨piece, others, split⟩ : ∃ piece others, pieces cut before = piece :: others :=
        ⟨_, _, rfl⟩
      simp only [List.cons_append, pieces_cons_keep hd, ih, split, List.head_cons, List.tail_cons]

/-- No piece has a cut in it. -/
theorem eq_false_of_mem_pieces {cut : Char → Bool} {text piece : List Char}
    (h : piece ∈ pieces cut text) : ∀ c ∈ piece, cut c = false := by
  induction text generalizing piece with
  | nil =>
    rw [pieces_nil, List.mem_singleton] at h
    subst h
    nofun
  | cons c text ih =>
    obtain ⟨first, others, split⟩ : ∃ first others, pieces cut text = first :: others :=
      ⟨_, _, rfl⟩
    cases hc : cut c with
    | true =>
      rw [pieces_cons_cut hc, List.mem_cons] at h
      rcases h with rfl | h
      · nofun
      · exact ih h
    | false =>
      simp only [pieces_cons_keep hc, split, List.head_cons, List.tail_cons, List.mem_cons] at h
      rcases h with rfl | h
      · rw [List.forall_mem_cons]
        exact ⟨hc, ih (by simp [split])⟩
      · exact ih (by simp [split, h])

/-- A cut ends the piece before it. -/
theorem pieces_append_cut {cut : Char → Bool} {piece : List Char} {c : Char}
    (h : ∀ c ∈ piece, cut c = false) (hc : cut c = true) (text : List Char) :
    pieces cut (piece ++ c :: text) = piece :: pieces cut text := by
  rw [pieces_append_cons hc, pieces_eq_singleton h, List.singleton_append]

theorem words_cons_blank {c : Char} (h : isBlank c = true) (line : List Char) :
    words (c :: line) = words line := by
  rw [words, pieces_cons_cut h, List.filter_cons_of_neg (by decide), words]

/-- A gap in front of a line adds no word to it. -/
theorem words_gap_append {gap : List Char} (h : IsGap gap) (line : List Char) :
    words (gap ++ line) = words line := by
  induction gap with
  | nil => rfl
  | cons c gap ih =>
    rw [IsGap, List.forall_mem_cons] at h
    rw [List.cons_append, words_cons_blank h.1.1, ih h.2]

theorem words_gap {gap : List Char} (h : IsGap gap) : words gap = [] := by
  have alone := words_gap_append h []
  rw [List.append_nil] at alone
  exact alone

/-- A token is a word. -/
theorem words_token {token : String} (h : IsToken token) : words token.toList = [token.toList] := by
  rw [words, pieces_eq_singleton h.2, List.filter_cons_of_pos (by simp [h.1]), List.filter_nil]

/-- A token ends at the blank after it. -/
theorem words_token_append {token : String} (h : IsToken token) {c : Char}
    (hc : isBlank c = true) (line : List Char) :
    words (token.toList ++ c :: line) = token.toList :: words line := by
  rw [words, pieces_append_cut h.2 hc, List.filter_cons_of_pos (by simp [h.1]), words]

theorem lines_eq_singleton {line : List Char} (h : ∀ c ∈ line, c ≠ '\n') :
    lines line = [line] := by
  apply pieces_eq_singleton
  intro c hc
  simpa using h c hc

/-- A line ends at the line feed after it. -/
theorem lines_append_feed {line : List Char} (h : ∀ c ∈ line, c ≠ '\n') (text : List Char) :
    lines (line ++ '\n' :: text) = line :: lines text := by
  apply pieces_append_cut
  · intro c hc
    simpa using h c hc
  · rfl

end Text

open Text

/-! ## The rows of a layout -/

theorem isGap_nil : IsGap [] := nofun

theorem IsGap.append {first second : List Char} (h : IsGap first) (h' : IsGap second) :
    IsGap (first ++ second) := by
  rw [IsGap, List.forall_mem_append]
  exact ⟨h, h'⟩

theorem IsGap.ne_feed {gap : List Char} (h : IsGap gap) : ∀ c ∈ gap, c ≠ '\n' := by
  intro c hc
  exact (h c hc).2

theorem IsToken.ne_feed {token : String} (h : IsToken token) : ∀ c ∈ token.toList, c ≠ '\n' := by
  rintro c hc rfl
  exact absurd (h.2 _ hc) (by decide)

/-- What follows a token in a row are the other tokens of the row. -/
theorem RowRest.words_append {row : List String} {line : List Char} (h : RowRest row line)
    {token : String} (htoken : IsToken token) :
    words (token.toList ++ line) = token.toList :: row.map String.toList := by
  induction h generalizing token with
  | @done gap hgap =>
    cases gap with
    | nil => rw [List.append_nil, words_token htoken, List.map_nil]
    | cons c gap =>
      rw [IsGap, List.forall_mem_cons] at hgap
      rw [words_token_append htoken hgap.1.1, words_gap hgap.2, List.map_nil]
  | @next gap line after row hgap hne hafter _ ih =>
    -- the first character of the gap ends the token before it
    obtain ⟨c, gap, rfl⟩ := List.exists_cons_of_ne_nil hne
    rw [IsGap, List.forall_mem_cons] at hgap
    rw [List.append_assoc, List.cons_append, words_token_append htoken hgap.1.1,
      words_gap_append hgap.2, ih hafter, List.map_cons]

theorem RowRest.ne_feed {row : List String} {line : List Char} (h : RowRest row line) :
    ∀ c ∈ line, c ≠ '\n' := by
  induction h with
  | done hgap => exact hgap.ne_feed
  | next hgap _ htoken _ ih =>
    rw [List.forall_mem_append, List.forall_mem_append]
    exact ⟨⟨hgap.ne_feed, htoken.ne_feed⟩, ih⟩

/-- A row can end in a gap. -/
theorem RowRest.append_gap {row : List String} {line : List Char} (h : RowRest row line)
    {gap : List Char} (hgap : IsGap gap) : RowRest row (line ++ gap) := by
  induction h with
  | done hlast => exact .done (hlast.append hgap)
  | next hfirst hne htoken _ ih =>
    rw [List.append_assoc]
    exact .next hfirst hne htoken ih

namespace RowLayout

variable {row : List String} {line : List Char}

/-- The words of a line are the tokens of its row. -/
theorem words_eq (h : RowLayout row line) : words line = row.map String.toList := by
  cases h with
  | blank hgap => exact words_gap hgap
  | tokens hgap htoken hrest =>
    rw [List.append_assoc, words_gap_append hgap, hrest.words_append htoken, List.map_cons]

theorem ne_feed (h : RowLayout row line) : ∀ c ∈ line, c ≠ '\n' := by
  cases h with
  | blank hgap => exact hgap.ne_feed
  | tokens hgap htoken hrest =>
    rw [List.forall_mem_append, List.forall_mem_append]
    exact ⟨⟨hgap.ne_feed, htoken.ne_feed⟩, hrest.ne_feed⟩

theorem append_gap (h : RowLayout row line) {gap : List Char} (hgap : IsGap gap) :
    RowLayout row (line ++ gap) := by
  cases h with
  | blank hlast => exact .blank (hlast.append hgap)
  | tokens hfirst htoken hrest =>
    rw [List.append_assoc]
    exact .tokens hfirst htoken (hrest.append_gap hgap)

/-- The words of the line before a break, a carriage return included, are the tokens of its row. -/
theorem map_words_lines (h : RowLayout row line) {ending : List Char} (hending : IsBreak ending)
    (text : List Char) :
    (lines (line ++ ending ++ text)).map words =
      row.map String.toList :: (lines text).map words := by
  rcases hending with rfl | rfl
  · rw [List.append_assoc, List.singleton_append, lines_append_feed h.ne_feed, List.map_cons,
      h.words_eq]
  · -- the carriage return widens the gap at the end of the line
    have hgap : IsGap ['\r'] := by decide
    have hreturn := h.append_gap hgap
    have hsplit : line ++ ['\r', '\n'] ++ text = line ++ ['\r'] ++ '\n' :: text := by simp
    rw [hsplit, lines_append_feed hreturn.ne_feed, List.map_cons, hreturn.words_eq]

end RowLayout

/-- Blank lines are lines without words. -/
theorem BlankLines.exists_map_words_lines {text : List Char} (h : BlankLines text) :
    ∃ count, (lines text).map words = List.replicate count [] := by
  induction h with
  | last hgap =>
    use 1
    rw [lines_eq_singleton hgap.ne_feed, List.map_singleton, words_gap hgap]
    rfl
  | line hgap hending _ ih =>
    obtain ⟨count, hcount⟩ := ih
    use count + 1
    rw [(RowLayout.blank hgap).map_words_lines hending, hcount]
    rfl

/-- The lines of a layout have the tokens of its rows, and none after that. -/
theorem Layout.exists_map_words_lines {rows : List (List String)} {text : List Char}
    (h : Layout rows text) :
    ∃ count, (lines text).map words =
      rows.map (·.map String.toList) ++ List.replicate count [] := by
  induction h with
  | blank hblank => exact hblank.exists_map_words_lines
  | last hline =>
    use 0
    rw [lines_eq_singleton hline.ne_feed, List.map_singleton, hline.words_eq]
    rfl
  | row hline hending _ ih =>
    obtain ⟨count, hcount⟩ := ih
    use count
    rw [hline.map_words_lines hending, hcount]
    rfl

/-- Lines without words do not count at the end of a text. -/
theorem rdropWhile_append_replicate {α : Type} (rows : List (List α)) (count : ℕ) :
    (rows ++ List.replicate count []).rdropWhile (·.isEmpty) = rows.rdropWhile (·.isEmpty) := by
  induction count with
  | zero => rw [List.replicate_zero, List.append_nil]
  | succ count ih =>
    rw [List.replicate_succ', ← List.append_assoc, List.rdropWhile_concat_pos _ _ _ rfl, ih]

/-- From every layout the same rows are read. -/
theorem Layout.tokenRows_eq {rows : List (List String)} {text : List Char} (h : Layout rows text) :
    tokenRows text = rows.rdropWhile (·.isEmpty) := by
  obtain ⟨count, hcount⟩ := h.exists_map_words_lines
  have htokens : (lines text).map (fun line => (words line).map String.ofList) =
      rows ++ List.replicate count [] := by
    have hofList := congrArg (List.map (List.map String.ofList)) hcount
    simpa [Function.comp_def] using hofList
  rw [tokenRows, htokens]
  exact rdropWhile_append_replicate rows count

/-! ## Every text is a layout -/

theorem IsGap.cons {c : Char} {gap : List Char} (hblank : isBlank c = true) (hc : c ≠ '\n')
    (h : IsGap gap) : IsGap (c :: gap) :=
  List.forall_mem_cons.mpr ⟨⟨hblank, hc⟩, h⟩

theorem isToken_ofList {token : List Char} (hne : token ≠ [])
    (h : ∀ c ∈ token, isBlank c = false) : IsToken (String.ofList token) := by
  rw [IsToken, String.toList_ofList]
  exact ⟨hne, h⟩

/-- A token in front of the rest of a row begins the row. -/
theorem RowLayout.tokens_ofList {gap token line : List Char} {row : List String}
    (hgap : IsGap gap) (htoken : IsToken (String.ofList token)) (hrest : RowRest row line) :
    RowLayout (String.ofList token :: row) (gap ++ token ++ line) := by
  have h := RowLayout.tokens hgap htoken hrest
  rw [String.toList_ofList] at h
  exact h

/-- A character in front of a line widens its first gap, joins its first token, or is a token of
its own. -/
theorem RowLayout.exists_cons {row : List String} {line : List Char} (h : RowLayout row line)
    {c : Char} (hc : c ≠ '\n') : ∃ row, RowLayout row (c :: line) := by
  by_cases hblank : isBlank c = true
  · cases h with
    | blank hgap => exact ⟨[], .blank (.cons hblank hc hgap)⟩
    | tokens hgap htoken hrest => exact ⟨_, .tokens (.cons hblank hc hgap) htoken hrest⟩
  · rw [Bool.not_eq_true] at hblank
    have halone : IsToken (String.ofList [c]) := isToken_ofList (by simp) (by simp [hblank])
    cases h with
    | blank hgap => exact ⟨_, tokens_ofList isGap_nil halone (.done hgap)⟩
    | @tokens gap line token row hgap htoken hrest =>
      by_cases hne : gap = []
      · subst hne
        have hjoined : IsToken (String.ofList (c :: token.toList)) :=
          isToken_ofList (by simp) (List.forall_mem_cons.mpr ⟨hblank, htoken.2⟩)
        exact ⟨_, tokens_ofList isGap_nil hjoined hrest⟩
      · exact ⟨_, tokens_ofList isGap_nil halone (.next hgap hne htoken hrest)⟩

/-- Every line is a layout of some row. -/
theorem exists_rowLayout {line : List Char} (plain : ∀ c ∈ line, c ≠ '\n') :
    ∃ row, RowLayout row line := by
  induction line with
  | nil => exact ⟨[], .blank isGap_nil⟩
  | cons c line ih =>
    rw [List.forall_mem_cons] at plain
    obtain ⟨row, layout⟩ := ih plain.2
    exact layout.exists_cons plain.1

/-- A text that is laid out in rows stays so with any character in front. -/
theorem Layout.exists_cons {rows : List (List String)} {text : List Char} (h : Layout rows text)
    (c : Char) : ∃ rows, Layout rows (c :: text) := by
  by_cases hc : c = '\n'
  · subst hc
    exact ⟨[] :: rows, .row (.blank isGap_nil) (.inl rfl) h⟩
  · cases h with
    | blank hblank =>
      cases hblank with
      | last hgap =>
        obtain ⟨row, hrow⟩ := (RowLayout.blank hgap).exists_cons hc
        exact ⟨[row], .last hrow⟩
      | line hgap hending htext =>
        obtain ⟨row, hrow⟩ := (RowLayout.blank hgap).exists_cons hc
        exact ⟨[row], .row hrow hending (.blank htext)⟩
    | last hline =>
      obtain ⟨row, hrow⟩ := hline.exists_cons hc
      exact ⟨[row], .last hrow⟩
    | row hline hending htext =>
      obtain ⟨row, hrow⟩ := hline.exists_cons hc
      exact ⟨_, .row hrow hending htext⟩

/-- Every text is laid out in rows. -/
theorem exists_layout (text : List Char) : ∃ rows, Layout rows text := by
  induction text with
  | nil => exact ⟨[], .blank (.last isGap_nil)⟩
  | cons c text ih =>
    obtain ⟨rows, hrows⟩ := ih
    exact hrows.exists_cons c

end Percussion
