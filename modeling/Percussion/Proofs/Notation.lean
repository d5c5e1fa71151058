import Percussion.Proofs.Layout
import Percussion.Proofs.Traversal

/-!
# What notation means

`ReadsAs rows result` says what rows of tokens mean: the score whose beats are their columns, or
why they are none. The rows have to be aligned before any token matters, and tokens are looked up
column by column. Rows are read as what they mean (`Score.ofRows_eq_iff`), and so is a text in any
of the layouts of its rows.
-/

namespace Percussion

/-- Column number `column`, counted from 0, from the first row to the last. -/
def columnAt (rows : List (List String)) (column : ℕ) : List String :=
  rows.filterMap fun row => row[column]?

/-- Whether a token is a rest or the name of a sound. -/
def Resolves (token : String) : Prop :=
  ∃ hit, Hit.ofToken token = .ok hit

instance (token : String) : Decidable (Resolves token) :=
  decidable_of_iff ((Hit.ofToken token).isOk = true) (by
    rw [Resolves]
    cases Hit.ofToken token with
    | ok hit => exact ⟨fun _ => ⟨hit, rfl⟩, fun _ => rfl⟩
    | error error => exact ⟨nofun, nofun⟩)

/-- The hits of a beat are what the tokens of its column stand for, rests left out. -/
def IsBeatOf (column : List String) (beat : Beat) : Prop :=
  List.Forall₂ (fun token hit => Hit.ofToken token = .ok (some hit))
    (column.filter (· ≠ restToken)) beat.hits

/-- What rows of tokens mean. -/
inductive ReadsAs : List (List String) → Except ScoreError Score → Prop
  /-- Without rows there are no beats. -/
  | empty : ReadsAs [] (.ok ⟨[]⟩)
  /-- The first row whose size differs from that of the first row is the error, whatever the tokens
  are. -/
  | misaligned {first row : List String} {later before after : List (List String)} :
    first :: later = before ++ row :: after →
    (∀ earlier ∈ before, earlier.length = first.length) → row.length ≠ first.length →
    ReadsAs (first :: later) (.error (.misaligned first.length row.length (before.length + 1)))
  /-- In aligned rows the first token that is neither a rest nor a sound is the error. Columns are
  searched from left to right, and each from the first row to the last. -/
  | unknown {first : List String} {later : List (List String)} {before after : List String}
    {token : String} :
    (∀ row ∈ later, row.length = first.length) →
    (List.range first.length).flatMap (columnAt (first :: later)) = before ++ token :: after →
    (∀ earlier ∈ before, Resolves earlier) → ¬ Resolves token →
    ReadsAs (first :: later) (.error (.unknownSound token))
  /-- Otherwise each column is a beat. -/
  | score {first : List String} {later : List (List String)} {score : Score} :
    (∀ row ∈ later, row.length = first.length) →
    List.Forall₂ (fun column beat => IsBeatOf (columnAt (first :: later) column) beat)
      (List.range first.length) score.beats →
    ReadsAs (first :: later) (.ok score)

/-! ## Tokens and columns -/

namespace Hit

theorem ofToken_rest : ofToken restToken = .ok none := by
  rw [ofToken, if_pos rfl]

/-- Only the rest stands for no hit. -/
theorem ofToken_of_ne_rest {token : String} (h : token ≠ restToken) :
    (∃ hit, ofToken token = .ok (some hit)) ∨ ofToken token = .error (.unknownSound token) := by
  simp only [ofToken, if_neg h]
  cases Sound.lookup (String.ofList (Text.lowercase token.toList)) with
  | none => exact .inr rfl
  | some sound => exact .inl ⟨_, rfl⟩

/-- A token that does not resolve is reported as it was written. -/
theorem ofToken_eq_error_iff {token : String} {error : ScoreError} :
    ofToken token = .error error ↔ ¬ Resolves token ∧ error = .unknownSound token := by
  by_cases rest : token = restToken
  · subst rest
    simp [Resolves, ofToken_rest]
  · obtain ⟨hit, hhit⟩ | herror := ofToken_of_ne_rest rest
    · simp [Resolves, hhit]
    · simp [Resolves, herror, eq_comm]

end Hit

namespace Beat

variable {column : List String} {beat : Beat}

/-- The hits of a beat are those of its tokens, without the rests. -/
theorem ofTokens_eq_map (column : List String) :
    ofTokens column = (column.mapM Hit.ofToken).map fun hits => ⟨hits.filterMap id⟩ := by
  rw [ofTokens]
  cases column.mapM Hit.ofToken <;> rfl

theorem ofTokens_cons_rest (column : List String) :
    ofTokens (restToken :: column) = ofTokens column := by
  rw [ofTokens_eq_map, ofTokens_eq_map, mapM_cons_of_ok Hit.ofToken_rest]
  cases column.mapM Hit.ofToken <;> rfl

/-- A hit comes before those of the tokens under it. -/
theorem ofTokens_cons_hit {token : String} {hit : Hit} (h : Hit.ofToken token = .ok (some hit))
    (column : List String) :
    ofTokens (token :: column) = (ofTokens column).map fun beat => ⟨hit :: beat.hits⟩ := by
  rw [ofTokens_eq_map, ofTokens_eq_map, mapM_cons_of_ok h]
  cases column.mapM Hit.ofToken <;> rfl

theorem ofTokens_eq_ok_iff : ofTokens column = .ok beat ↔ IsBeatOf column beat := by
  induction column generalizing beat with
  | nil =>
    rw [IsBeatOf, List.filter_nil, List.forall₂_nil_left_iff]
    obtain ⟨hits⟩ := beat
    constructor
    · intro h
      cases h
      rfl
    · rintro rfl
      rfl
  | cons token column ih =>
    by_cases rest : token = restToken
    · subst rest
      rw [ofTokens_cons_rest, ih, IsBeatOf, IsBeatOf, List.filter_cons_of_neg (by simp)]
    · rw [IsBeatOf, List.filter_cons_of_pos (by simp [rest]), List.forall₂_cons_left_iff]
      obtain ⟨hit, hhit⟩ | herror := Hit.ofToken_of_ne_rest rest
      · rw [ofTokens_cons_hit hhit, map_eq_ok_iff]
        constructor
        · rintro ⟨later, hlater, rfl⟩
          exact ⟨hit, later.hits, hhit, ih.mp hlater, rfl⟩
        · rintro ⟨found, hits, hfound, hlater, same⟩
          rw [hhit, Except.ok.injEq, Option.some.injEq] at hfound
          subst hfound
          exact ⟨⟨hits⟩, ih.mpr hlater, by rw [← same]⟩
      · simp [ofTokens_eq_map, mapM_cons_of_error herror, herror, Except.map]

/-- A beat is misread at the first of its tokens that is. -/
theorem ofTokens_eq_error_iff {error : ScoreError} :
    ofTokens column = .error error ↔ column.mapM Hit.ofToken = .error error := by
  rw [ofTokens_eq_map, map_eq_error_iff]

/-- Columns are searched for a token that does not resolve as if they were one list. -/
theorem mapM_ofTokens_eq_error_iff {columns : List (List String)} {error : ScoreError} :
    columns.mapM ofTokens = .error error ↔ columns.flatten.mapM Hit.ofToken = .error error := by
  induction columns with
  | nil => exact ⟨nofun, nofun⟩
  | cons column columns ih =>
    rw [List.flatten_cons]
    cases found : column.mapM Hit.ofToken with
    | error first =>
      rw [mapM_cons_of_error (ofTokens_eq_error_iff.mpr found), mapM_append_of_error found,
        Except.error.injEq, Except.error.injEq]
    | ok hits =>
      have hbeat : ofTokens column = .ok ⟨hits.filterMap id⟩ := by
        rw [ofTokens_eq_map, found]
        rfl
      rw [mapM_cons_of_ok hbeat, mapM_append_of_ok found, map_eq_error_iff, map_eq_error_iff, ih]

end Beat

/-! ## Rows -/

/-- In aligned rows the columns are the entries of the rows at each position. -/
theorem columns_eq_map {width : ℕ} {rows : List (List String)}
    (aligned : ∀ row ∈ rows, row.length = width) :
    columns width rows = (List.range width).map (columnAt rows) := by
  induction rows with
  | nil =>
    have hempty : columnAt [] = fun _ => [] := rfl
    rw [hempty, List.map_const', List.length_range]
    rfl
  | cons row rows ih =>
    rw [List.forall_mem_cons] at aligned
    rw [columns, List.foldr_cons, ← columns, ih aligned.2]
    apply List.ext_getElem
    · simp [aligned.1]
    · intro column _ hcolumn
      have hwidth : column < row.length := by simpa [aligned.1] using hcolumn
      simp [columnAt, List.getElem?_eq_getElem hwidth]

theorem forall_mem_zipIdx {α : Type} {entries : List α} {p : α → Prop} (start : ℕ) :
    (∀ entry ∈ entries.zipIdx start, p entry.1) ↔ ∀ entry ∈ entries, p entry := by
  rw [← List.forall_mem_map (f := Prod.fst) (P := p), List.zipIdx_map_fst]

theorem misalignedRow?_eq_none_iff {width : ℕ} {rows : List (List String)} :
    misalignedRow? width rows = none ↔ ∀ row ∈ rows, row.length = width := by
  rw [misalignedRow?, List.find?_eq_none]
  simp only [bne_iff_ne, Decidable.not_not]
  exact forall_mem_zipIdx (p := fun row : List String => row.length = width) 1

/-- The first row of another length is found, and numbered from 1. -/
theorem misalignedRow?_eq_some_iff {width line : ℕ} {rows : List (List String)}
    {row : List String} :
    misalignedRow? width rows = some (row, line) ↔
      ∃ before after, rows = before ++ row :: after ∧
        (∀ earlier ∈ before, earlier.length = width) ∧ row.length ≠ width ∧
        line = before.length + 1 := by
  rw [misalignedRow?, List.find?_eq_some_iff_append]
  simp only [bne_iff_ne, Bool.not_eq_true', bne_eq_false_iff_eq]
  constructor
  · rintro ⟨hne, numbered, _, hsplit, haligned⟩
    obtain ⟨before, later, rfl, rfl, hlater⟩ := List.zipIdx_eq_append_iff.mp hsplit
    obtain ⟨_, after, rfl, hrow, _⟩ := List.zipIdx_eq_cons_iff.mp hlater.symm
    obtain ⟨rfl, rfl⟩ := Prod.mk.inj hrow
    exact ⟨before, after, rfl, (forall_mem_zipIdx 1).mp haligned, hne, Nat.add_comm _ _⟩
  · rintro ⟨before, after, rfl, haligned, hne, rfl⟩
    refine ⟨hne, before.zipIdx 1, after.zipIdx (before.length + 1 + 1), ?_,
      (forall_mem_zipIdx 1).mpr haligned⟩
    rw [List.zipIdx_append, List.zipIdx_cons, Nat.add_comm 1]

/-! ## The meaning of a text -/

namespace Score

theorem ofColumns_eq_map (columns : List (List String)) :
    ofColumns columns = (columns.mapM Beat.ofTokens).map fun beats => ⟨beats⟩ := by
  rw [ofColumns]
  cases columns.mapM Beat.ofTokens <;> rfl

/-- Aligned rows whose tokens all resolve are a score of one beat for each column. -/
theorem ofColumns_eq_ok_iff {first : List String} {later : List (List String)} {score : Score}
    (aligned : ∀ row ∈ first :: later, row.length = first.length) :
    ofColumns (columns first.length (first :: later)) = .ok score ↔
      List.Forall₂ (fun column beat => IsBeatOf (columnAt (first :: later) column) beat)
        (List.range first.length) score.beats := by
  simp only [ofColumns_eq_map, map_eq_ok_iff, columns_eq_map aligned, mapM_eq_ok_iff,
    List.forall₂_map_left_iff, Beat.ofTokens_eq_ok_iff]
  obtain ⟨beats⟩ := score
  simp only [Score.mk.injEq, exists_eq_right]

/-- A score is misread at the first token that stands for nothing, column by column. -/
theorem ofColumns_eq_error_iff {first : List String} {later : List (List String)}
    {error : ScoreError} (aligned : ∀ row ∈ first :: later, row.length = first.length) :
    ofColumns (columns first.length (first :: later)) = .error error ↔
      ∃ before token after,
        (List.range first.length).flatMap (columnAt (first :: later)) =
          before ++ token :: after ∧
        (∀ earlier ∈ before, Resolves earlier) ∧ ¬ Resolves token ∧
        error = .unknownSound token := by
  rw [ofColumns_eq_map, map_eq_error_iff, Beat.mapM_ofTokens_eq_error_iff, columns_eq_map aligned,
    ← List.flatMap_def, mapM_eq_error_iff]
  simp only [Hit.ofToken_eq_error_iff]
  rfl

/-- The first row is aligned with itself. -/
theorem aligned_cons_iff {first : List String} {later : List (List String)} :
    (∀ row ∈ first :: later, row.length = first.length) ↔
      ∀ row ∈ later, row.length = first.length := by
  rw [List.forall_mem_cons, and_iff_right rfl]

/-- The tokens of misaligned rows do not matter. -/
theorem ofRows_of_misaligned {first row : List String} {later before after : List (List String)}
    (split : first :: later = before ++ row :: after)
    (aligned : ∀ earlier ∈ before, earlier.length = first.length)
    (differs : row.length ≠ first.length) :
    ofRows (first :: later) =
      .error (.misaligned first.length row.length (before.length + 1)) := by
  have found := misalignedRow?_eq_some_iff.mpr ⟨before, after, split, aligned, differs, rfl⟩
  simp only [ofRows, found]

/-- Rows of the same length are read column by column. -/
theorem ofRows_of_aligned {first : List String} {later : List (List String)}
    (aligned : ∀ row ∈ first :: later, row.length = first.length) :
    ofRows (first :: later) = ofColumns (columns first.length (first :: later)) := by
  simp only [ofRows, misalignedRow?_eq_none_iff.mpr aligned]

/-- Rows are read as what they mean. -/
theorem ofRows_eq_iff {rows : List (List String)} {result : Except ScoreError Score} :
    ofRows rows = result ↔ ReadsAs rows result := by
  constructor
  -- what is read is decided in the order of the checks: the rows, their lengths, their tokens
  · rintro rfl
    cases rows with
    | nil => exact .empty
    | cons first later =>
      cases misaligned : misalignedRow? first.length (first :: later) with
      | some found =>
        obtain ⟨row, line⟩ := found
        rw [misalignedRow?_eq_some_iff] at misaligned
        obtain ⟨before, after, split, aligned, differs, rfl⟩ := misaligned
        rw [ofRows_of_misaligned split aligned differs]
        exact .misaligned split aligned differs
      | none =>
        rw [misalignedRow?_eq_none_iff] at misaligned
        have aligned := aligned_cons_iff.mp misaligned
        rw [ofRows_of_aligned misaligned]
        cases outcome : ofColumns (columns first.length (first :: later)) with
        | ok score =>
          rw [ofColumns_eq_ok_iff misaligned] at outcome
          exact .score aligned outcome
        | error error =>
          rw [ofColumns_eq_error_iff misaligned] at outcome
          obtain ⟨before, token, after, split, resolve, unknown, rfl⟩ := outcome
          exact .unknown aligned split resolve unknown
  · intro h
    cases h with
    | empty => rfl
    | misaligned split aligned differs => exact ofRows_of_misaligned split aligned differs
    | unknown aligned split resolve unknown =>
      have aligned := aligned_cons_iff.mpr aligned
      rw [ofRows_of_aligned aligned, ofColumns_eq_error_iff aligned]
      exact ⟨_, _, _, split, resolve, unknown, rfl⟩
    | score aligned beats =>
      have aligned := aligned_cons_iff.mpr aligned
      rw [ofRows_of_aligned aligned, ofColumns_eq_ok_iff aligned]
      exact beats

/-- Aligned rows of tokens that all resolve are a score with a beat for each column. -/
theorem exists_ofRows_eq_ok {first : List String} {later : List (List String)}
    (aligned : ∀ row ∈ first :: later, row.length = first.length)
    (resolve : ∀ row ∈ first :: later, ∀ token ∈ row, Resolves token) :
    ∃ score, ofRows (first :: later) = .ok score ∧ score.size = first.length := by
  rw [ofRows_of_aligned aligned]
  cases outcome : ofColumns (columns first.length (first :: later)) with
  | error error =>
    rw [ofColumns_eq_error_iff aligned] at outcome
    obtain ⟨before, token, after, split, _, unknown, _⟩ := outcome
    have mem : token ∈ (List.range first.length).flatMap (columnAt (first :: later)) := by
      rw [split]
      exact List.mem_append_right _ (List.mem_cons_self ..)
    simp only [List.mem_flatMap, columnAt, List.mem_filterMap] at mem
    obtain ⟨column, _, row, hrow, htoken⟩ := mem
    exact absurd (resolve row hrow token (List.mem_of_getElem? htoken)) unknown
  | ok score =>
    rw [ofColumns_eq_ok_iff aligned] at outcome
    have beats := outcome.length_eq
    rw [List.length_range] at beats
    exact ⟨score, rfl, beats.symm⟩

/-- **A text means what its rows mean.** Every text is a layout of some rows, and in whatever way
rows are laid out, the text is read as what the rows mean once the empty ones at the end are left
out. -/
theorem ofText_eq_iff (text : String) :
    (∃ rows, Layout rows text.toList) ∧
    ∀ rows, Layout rows text.toList → ∀ result,
      ofText text = result ↔ ReadsAs (rows.rdropWhile (·.isEmpty)) result := by
  constructor
  · exact exists_layout text.toList
  · intro rows layout result
    rw [ofText, layout.tokenRows_eq, ofRows_eq_iff]

/-- Two voices with gaps of several kinds, a carriage return in a break, and a blank line. -/
theorem ofText_eq_iff_two_voices :
    Layout [["boom", "."], ["KAH", "tik"]] "boom\t.\r\n KAH  tik\n\n".toList ∧
    ofText "boom\t.\r\n KAH  tik\n\n" =
      .ok ⟨[⟨[⟨.boom, .normal⟩, ⟨.kah, .accented⟩]⟩, ⟨[⟨.tik, .normal⟩]⟩]⟩ := by
  have hfirst : RowLayout ["boom", "."] ([] ++ "boom".toList ++ (['\t'] ++ ".".toList ++ [])) :=
    .tokens (by decide) (by decide)
      (.next (by decide) (by decide) (by decide) (.done (by decide)))
  have hsecond : RowLayout ["KAH", "tik"]
      ([' '] ++ "KAH".toList ++ ([' ', ' '] ++ "tik".toList ++ [])) :=
    .tokens (by decide) (by decide)
      (.next (by decide) (by decide) (by decide) (.done (by decide)))
  have hblank : BlankLines ([] ++ ['\n'] ++ []) :=
    .line (by decide) (.inl rfl) (.last (by decide))
  have hlayout : Layout [["boom", "."], ["KAH", "tik"]] "boom\t.\r\n KAH  tik\n\n".toList :=
    .row hfirst (.inr rfl) (.row hsecond (.inl rfl) (.blank hblank))
  refine ⟨hlayout, ((ofText_eq_iff _).2 _ hlayout _).mpr (.score (by decide) ?_)⟩
  refine .cons ?_ (.cons ?_ .nil)
  · exact .cons (by decide) (.cons (by decide) .nil)
  · exact .cons (by decide) .nil

end Score

end Percussion
