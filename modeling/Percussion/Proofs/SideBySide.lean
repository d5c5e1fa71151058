import Mathlib.Data.List.DropRight
import Percussion.Proofs.FileCompilation
import Percussion.Proofs.Notation
import Percussion.Proofs.Passages

/-!
# Texts side by side

Two texts of as many voices can be written side by side: each line of the one continues the same
line of the other. As the columns of the lines then stand after each other
(`columns_zipWith_append`), so do the beats of the scores (`Score.ofText_beside`), and so does the
music. To play a score again is the same as to write its text out once more on each line
(`compile_beside`).
-/

namespace Percussion

/-- One score after the other. -/
instance : Append Score := ⟨fun score later => ⟨score.beats ++ later.beats⟩⟩

/-- The lines of a text, up to the last one that has tokens. -/
def writtenLines (text : List Char) : List (List Char) :=
  (Text.lines text).rdropWhile fun line => (Text.words line).isEmpty

/-- The text whose lines are those of two texts side by side, with a space in between. -/
def beside (text later : String) : String :=
  String.ofList (['\n'].intercalate (List.zipWith (fun line line' => line ++ ' ' :: line')
    (writtenLines text.toList) (writtenLines later.toList)))

/-- The text with `more` copies of each line after the line itself. -/
def copies (text : String) : (more : ℕ) → String
  | 0 => text
  | more + 1 => beside (copies text more) text

/-! ## Lines side by side -/

namespace Text

/-- The words on both sides of a space are words on their own. -/
theorem words_append_space (line later : List Char) :
    words (line ++ ' ' :: later) = words line ++ words later := by
  rw [words, pieces_append_cons (by decide), List.filter_append, words, words]

/-- Lines are read back from the text that they are joined to. -/
theorem lines_intercalate {rows : List (List Char)}
    (plain : ∀ line ∈ rows, ∀ c ∈ line, c ≠ '\n') (ne : rows ≠ []) :
    lines (['\n'].intercalate rows) = rows := by
  induction rows with
  | nil => exact absurd rfl ne
  | cons line later ih =>
    rw [List.forall_mem_cons] at plain
    cases later with
    | nil => rw [List.intercalate_singleton, lines_eq_singleton plain.1]
    | cons next later =>
      rw [List.intercalate_cons_cons, List.append_assoc, List.singleton_append,
        lines_append_feed plain.1, ih plain.2 (List.cons_ne_nil _ _)]

theorem ne_feed_of_mem_lines {text line : List Char} (h : line ∈ lines text) :
    ∀ c ∈ line, c ≠ '\n' := by
  intro c hc
  simpa using eq_false_of_mem_pieces h c hc

end Text

theorem ne_feed_of_mem_writtenLines {text line : List Char} (h : line ∈ writtenLines text) :
    ∀ c ∈ line, c ≠ '\n' :=
  Text.ne_feed_of_mem_lines ((List.rdropWhile_prefix _ _).subset h)

/-- The last of the lines has tokens, if there is one. -/
theorem writtenLines_cases (text : List Char) :
    writtenLines text = [] ∨
      ∃ before last, writtenLines text = before ++ [last] ∧ Text.words last ≠ [] := by
  by_cases empty : writtenLines text = []
  · exact .inl empty
  · have words := List.rdropWhile_last_not _ _ empty
    rw [List.isEmpty_iff] at words
    exact .inr ⟨_, _, (List.dropLast_append_getLast empty).symm, words⟩

/-- The rows of a text are the words of the lines that are written on. -/
theorem tokenRows_eq_map (text : List Char) :
    tokenRows text = (writtenLines text).map fun line => (Text.words line).map String.ofList := by
  have empty : (List.isEmpty ∘ fun line => (Text.words line).map String.ofList) =
      fun line => (Text.words line).isEmpty := by
    funext line
    simp
  rw [tokenRows, ← List.map_reverse, List.dropWhile_map, empty, ← List.map_reverse]
  rfl

theorem length_tokenRows (text : List Char) :
    (tokenRows text).length = (writtenLines text).length := by
  rw [tokenRows_eq_map, List.length_map]

/-- Of two texts with as many lines, every line is found again side by side. -/
theorem writtenLines_beside {text later : String}
    (length : (writtenLines text.toList).length = (writtenLines later.toList).length) :
    writtenLines (beside text later).toList =
      List.zipWith (fun line line' => line ++ ' ' :: line')
        (writtenLines text.toList) (writtenLines later.toList) := by
  have plain : ∀ line ∈ List.zipWith (fun line line' => line ++ ' ' :: line')
      (writtenLines text.toList) (writtenLines later.toList), ∀ c ∈ line, c ≠ '\n' := by
    rw [← List.map_uncurry_zip_eq_zipWith, List.forall_mem_map]
    rintro ⟨line, line'⟩ pair
    obtain ⟨mem, mem'⟩ := List.of_mem_zip pair
    rw [Function.uncurry_apply_pair, List.forall_mem_append, List.forall_mem_cons]
    exact ⟨ne_feed_of_mem_writtenLines mem, by decide, ne_feed_of_mem_writtenLines mem'⟩
  rw [beside, String.toList_ofList]
  rcases writtenLines_cases text.toList with none | ⟨before, last, some, words⟩
  · rw [none, List.zipWith_nil_left]
    rfl
  rcases writtenLines_cases later.toList with none' | ⟨before', last', some', _⟩
  · rw [none', some] at length
    simp at length
  rw [some, some', List.length_append, List.length_append, List.length_singleton,
    List.length_singleton, Nat.add_right_cancel_iff] at length
  rw [writtenLines, Text.lines_intercalate plain (by simp [some, some']), some, some',
    List.zipWith_append length, List.zipWith_cons_cons, List.zipWith_nil_left,
    List.rdropWhile_concat_neg]
  simp [Text.words_append_space, words]

/-- Texts side by side have their rows side by side. -/
theorem tokenRows_beside {text later : String}
    (length : (tokenRows text.toList).length = (tokenRows later.toList).length) :
    tokenRows (beside text later).toList =
      List.zipWith (· ++ ·) (tokenRows text.toList) (tokenRows later.toList) := by
  rw [length_tokenRows, length_tokenRows] at length
  rw [tokenRows_eq_map, writtenLines_beside length, tokenRows_eq_map, tokenRows_eq_map,
    List.map_zipWith, List.zipWith_map]
  simp only [Text.words_append_space, List.map_append]

/-! ## Columns after each other -/

theorem length_columns {width : ℕ} {rows : List (List String)}
    (aligned : ∀ row ∈ rows, row.length = width) : (columns width rows).length = width := by
  rw [columns_eq_map aligned, List.length_map, List.length_range]

/-- The columns of rows side by side are those of the first and then those of the second. -/
theorem columns_zipWith_append {width width' : ℕ} {rows rows' : List (List String)}
    (aligned : ∀ row ∈ rows, row.length = width) (length : rows.length = rows'.length) :
    columns (width + width') (List.zipWith (· ++ ·) rows rows') =
      columns width rows ++ columns width' rows' := by
  induction rows generalizing rows' with
  | nil =>
    obtain rfl := List.eq_nil_of_length_eq_zero length.symm
    exact (List.replicate_append_replicate ..).symm
  | cons row rows ih =>
    obtain ⟨row', rows', rfl⟩ := List.exists_cons_of_length_eq_add_one length.symm
    rw [List.forall_mem_cons] at aligned
    have later := ih aligned.2 (Nat.succ.inj length)
    have width_eq : row.length = (columns width rows).length := by
      rw [aligned.1, length_columns aligned.2]
    rw [columns] at later width_eq
    rw [columns, columns, columns, List.zipWith_cons_cons, List.foldr_cons, later, List.foldr_cons,
      List.foldr_cons]
    exact List.zipWith_append width_eq

namespace Score

variable {score score' : Score} {rows rows' : List (List String)}

/-- Rows side by side are one score after the other. -/
theorem ofRows_zipWith_append (read : ofRows rows = .ok score) (read' : ofRows rows' = .ok score')
    (length : rows.length = rows'.length) :
    ofRows (List.zipWith (· ++ ·) rows rows') = .ok (score ++ score') := by
  have means := ofRows_eq_iff.mp read
  have means' := ofRows_eq_iff.mp read'
  cases means with
  | empty =>
    obtain rfl := List.eq_nil_of_length_eq_zero length.symm
    cases means'
    rfl
  | @score first others _ aligned _ =>
    cases means' with
    | empty => cases length
    | @score first' others' _ aligned' _ =>
      have aligned := aligned_cons_iff.mpr aligned
      have aligned' := aligned_cons_iff.mpr aligned'
      -- rows that are glued are as long as both together, wherever they are
      have both : ∀ row ∈ (first ++ first') :: List.zipWith (· ++ ·) others others',
          row.length = (first ++ first').length := by
        rw [← List.zipWith_cons_cons, ← List.map_uncurry_zip_eq_zipWith, List.forall_mem_map]
        rintro ⟨row, row'⟩ pair
        obtain ⟨mem, mem'⟩ := List.of_mem_zip pair
        rw [Function.uncurry_apply_pair, List.length_append, aligned row mem, aligned' row' mem',
          List.length_append]
      rw [ofRows_of_aligned aligned, ofColumns_eq_map, map_eq_ok_iff] at read
      rw [ofRows_of_aligned aligned', ofColumns_eq_map, map_eq_ok_iff] at read'
      obtain ⟨beats, hbeats, rfl⟩ := read
      obtain ⟨beats', hbeats', rfl⟩ := read'
      rw [List.zipWith_cons_cons, ofRows_of_aligned both, ← List.zipWith_cons_cons,
        List.length_append, columns_zipWith_append aligned length, ofColumns_eq_map,
        mapM_append_of_ok hbeats, hbeats']
      rfl

/-- Texts side by side are one score after the other. -/
theorem ofText_beside {text later : String} (read : ofText text = .ok score)
    (read' : ofText later = .ok score')
    (length : (tokenRows text.toList).length = (tokenRows later.toList).length) :
    ofText (beside text later) = .ok (score ++ score') := by
  rw [ofText, tokenRows_beside length]
  exact ofRows_zipWith_append read read' length

/-- Copies side by side have as many rows as one. -/
theorem length_tokenRows_copies (text : String) (more : ℕ) :
    (tokenRows (copies text more).toList).length = (tokenRows text.toList).length := by
  induction more with
  | zero => rfl
  | succ more ih => rw [copies, tokenRows_beside ih, List.length_zipWith, ih, Nat.min_self]

/-- Copies of a text side by side are its score again and again. -/
theorem ofText_copies {text : String} (read : ofText text = .ok score) (more : ℕ) :
    ofText (copies text more) = .ok ⟨(List.replicate (more + 1) score.beats).flatten⟩ := by
  induction more with
  | zero => simpa [copies] using read
  | succ more ih =>
    have last : List.replicate (more + 2) score.beats =
        List.replicate (more + 1) score.beats ++ [score.beats] := List.replicate_succ'
    rw [copies, ofText_beside ih read (length_tokenRows_copies text more), last,
      List.flatten_append, List.flatten_singleton]
    rfl

end Score

/-! ## Music after each other -/

/-- What is played if beats of an eighth note are played once, one after the other. -/
def Sequence.ofBeats (tempo : UInt32) (beats : List Beat) : Sequence where
  tempo := tempo
  resolution := .eighth
  length := Tick.ofBeats beats.length 240
  events := passage 240 beats

/-- The events of later beats are moved by the ticks of those before them. -/
theorem Sequence.events_ofBeats_append (tempo : UInt32) (beats later : List Beat) :
    (ofBeats tempo (beats ++ later)).events =
      (ofBeats tempo beats).events ++
        (ofBeats tempo later).events.map (·.later (beats.length * 240)) :=
  passage_append 240 beats later

/-- The lengths add up, as far as there are positions. -/
theorem Sequence.length_ofBeats_append (tempo : UInt32) (beats later : List Beat) :
    (ofBeats tempo (beats ++ later)).length =
      (ofBeats tempo beats).length.later (ofBeats tempo later).length.toNat := by
  ext
  simp only [ofBeats, Tick.ofBeats, List.length_append, Tick.toNat_later, Tick.toNat_ofNat]
  omega

section Compiling

variable {text later : String} {score score' : Score} {tempo : UInt32}

/-- Played several times, a score is its beats several times over. -/
theorem compile_eq_ofBeats (read : Score.ofText text = .ok score) (ne : tempo ≠ 0)
    (repeats : UInt32) :
    compile text tempo repeats =
      .ok (.ofBeats tempo (List.replicate repeats.toNat score.beats).flatten) := by
  have length : (List.replicate repeats.toNat score.beats).flatten.length =
      score.size * repeats.toNat := by
    rw [List.length_flatten, List.map_replicate, List.sum_replicate_nat, Nat.mul_comm, Score.size]
  rw [compile_eq_ok read ne, Score.schedule_eq_passage, Sequence.ofBeats, length]

theorem compile_once (read : Score.ofText text = .ok score) (ne : tempo ≠ 0) :
    compile text tempo 1 = .ok (.ofBeats tempo score.beats) := by
  have once : (List.replicate (1 : UInt32).toNat score.beats).flatten = score.beats :=
    List.append_nil _
  rw [compile_eq_ofBeats read ne, once]

/-- **Side by side is one after the other.** Two texts of as many voices are compiled, side by side,
to the events of the first and then those of the second, later by the length of the first; and to
the sum of their lengths. To play a text again and again is the same as to play the text with as
many copies side by side once. -/
theorem compile_beside (read : Score.ofText text = .ok score)
    (read' : Score.ofText later = .ok score')
    (voices : (tokenRows text.toList).length = (tokenRows later.toList).length) (ne : tempo ≠ 0) :
    (∃ first second both, compile text tempo 1 = .ok first ∧ compile later tempo 1 = .ok second ∧
      compile (beside text later) tempo 1 = .ok both ∧
      both.events = first.events ++ second.events.map (·.later (score.size * 240)) ∧
      both.length = first.length.later second.length.toNat) ∧
    ∀ repeats : UInt32, repeats ≠ 0 → ∃ sequence, compile text tempo repeats = .ok sequence ∧
      compile (copies text (repeats.toNat - 1)) tempo 1 = .ok sequence := by
  constructor
  · refine ⟨_, _, _, compile_once read ne, compile_once read' ne,
      compile_once (Score.ofText_beside read read' voices) ne, ?_, ?_⟩
    · exact Sequence.events_ofBeats_append tempo score.beats score'.beats
    · exact Sequence.length_ofBeats_append tempo score.beats score'.beats
  · intro repeats hrepeats
    have pos : repeats.toNat ≠ 0 := by
      rwa [Ne, ← UInt32.toNat_inj] at hrepeats
    have count : repeats.toNat - 1 + 1 = repeats.toNat := by omega
    refine ⟨_, compile_eq_ofBeats read ne repeats, ?_⟩
    rw [compile_once (Score.ofText_copies read _) ne, count]

/-- Two voices of two beats, the second of which is silent, and one beat after them; and the two
beats three times. -/
theorem compile_beside_two_voices :
    (∃ both, compile (beside "boom .\r\n. .\n\n" "tik\nKAH") 120 1 = .ok both ∧
      both.events.map (fun event => (event.kind, event.hit.sound, event.tick.toNat)) = [
        (.start, .boom, 0), (.stop, .boom, 240), (.start, .tik, 480), (.start, .kah, 480),
        (.stop, .tik, 600), (.stop, .kah, 720)] ∧
      both.length.toNat = 720) ∧
    beside "boom .\r\n. .\n\n" "tik\nKAH" = "boom .\r tik\n. . KAH" ∧
    ∃ sequence, compile "boom .\r\n. .\n\n" 120 3 = .ok sequence ∧
      compile (copies "boom .\r\n. .\n\n" 2) 120 1 = .ok sequence := by
  have read : Score.ofText "boom .\r\n. .\n\n" = .ok ⟨[⟨[⟨.boom, .normal⟩]⟩, ⟨[]⟩]⟩ := by
    decide +kernel
  have read' : Score.ofText "tik\nKAH" = .ok ⟨[⟨[⟨.tik, .normal⟩, ⟨.kah, .accented⟩]⟩]⟩ := by
    decide +kernel
  obtain ⟨⟨first, second, both, compiled, compiled', together, events, length⟩, again⟩ :=
    @compile_beside _ _ _ _ 120 read read' (by decide +kernel) (by decide)
  rw [compile_once read (by decide), Except.ok.injEq] at compiled
  rw [compile_once read' (by decide), Except.ok.injEq] at compiled'
  subst compiled compiled'
  refine ⟨⟨both, together, ?_, ?_⟩, by decide +kernel, again 3 (by decide)⟩
  · rw [events]
    decide
  · rw [length]
    decide

end Compiling

end Percussion
