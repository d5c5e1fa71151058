import Percussion.Proofs.Drawing
import Percussion.Proofs.FileCompilation
import Percussion.Proofs.Notation

/-!
# Random rhythms

Which texts are drawn as rhythms, and what they compile to. Whatever the words are, a rhythm has two
to four different lines of one set, and each such text is drawn with some words
(`exists_isRhythm_draw`, `IsPick.exists_drawLines_eq`). As the lines of a set are aligned, and no
set has long lines, every rhythm is a score that is compiled at every tempo but 0, and has a file
(`IsRhythm.exists_compile_eq`).
-/

namespace Percussion

/-! ## Texts of aligned lines -/

/-- The tokens of a line. -/
def tokensOf (line : String) : List String := (Text.words line.toList).map String.ofList

/-- A line of `width` tokens, each of which is a rest or the name of a sound. -/
structure IsVoice (width : ℕ) (line : List Char) : Prop where
  plain : ∀ c ∈ line, c ≠ '\n'
  length : (Text.words line).length = width
  resolves : ∀ word ∈ Text.words line, Resolves (String.ofList word)

instance (width : ℕ) (line : List Char) : Decidable (IsVoice width line) :=
  match List.decidableBAll (fun c => c ≠ '\n') line,
    Nat.decEq (Text.words line).length width,
    List.decidableBAll (fun word => Resolves (String.ofList word)) (Text.words line) with
  | isTrue plain, isTrue length, isTrue resolves => isTrue ⟨plain, length, resolves⟩
  | isFalse h, _, _ => isFalse fun voice => h voice.plain
  | _, isFalse h, _ => isFalse fun voice => h voice.length
  | _, _, isFalse h => isFalse fun voice => h voice.resolves

/-- It is slow to evaluate the characters of a text, so they are read off a literal instead. -/
theorem isVoice_ofList {width : ℕ} {line : List Char} (h : IsVoice width line) :
    IsVoice width (String.ofList line).toList := by
  rwa [String.toList_ofList]

theorem rowLayout_tokensOf {line : String} (plain : ∀ c ∈ line.toList, c ≠ '\n') :
    RowLayout (tokensOf line) line.toList := by
  obtain ⟨row, layout⟩ := exists_rowLayout plain
  have tokens : tokensOf line = row := by
    rw [tokensOf, layout.words_eq, List.map_map]
    simp
  rwa [tokens]

/-- Lines, one under the other, are laid out as the rows of their tokens. -/
theorem layout_textOfLines {lines : List String}
    (plain : ∀ line ∈ lines, ∀ c ∈ line.toList, c ≠ '\n') :
    Layout (lines.map tokensOf) (Rhythm.textOfLines lines).toList := by
  rw [Rhythm.textOfLines, String.toList_join, List.flatMap_map]
  induction lines with
  | nil => exact .blank (.last isGap_nil)
  | cons line lines ih =>
    rw [List.forall_mem_cons] at plain
    rw [List.map_cons, List.flatMap_cons, String.toList_append]
    exact .row (rowLayout_tokensOf plain.1) (.inl rfl) (ih plain.2)

/-- Voices of the same width are a score of as many beats. -/
theorem exists_ofText_textOfLines {width : ℕ} (pos : 0 < width) {lines : List String}
    (ne_nil : lines ≠ []) (voices : ∀ line ∈ lines, IsVoice width line.toList) :
    ∃ score, Score.ofText (Rhythm.textOfLines lines) = .ok score ∧ score.size = width := by
  have lengths : ∀ row ∈ lines.map tokensOf, row.length = width := by
    rw [List.forall_mem_map]
    intro line hline
    rw [tokensOf, List.length_map]
    exact (voices line hline).length
  have resolve : ∀ row ∈ lines.map tokensOf, ∀ token ∈ row, Resolves token := by
    rw [List.forall_mem_map]
    intro line hline
    rw [tokensOf, List.forall_mem_map]
    exact (voices line hline).resolves
  -- no row is empty, so none at the end is left out
  have kept : (lines.map tokensOf).rdropWhile (·.isEmpty) = lines.map tokensOf := by
    rw [List.rdropWhile_eq_self_iff]
    intro some empty
    have last := lengths _ (List.getLast_mem some)
    rw [List.isEmpty_iff.mp empty, List.length_nil] at last
    omega
  have layout := layout_textOfLines fun line hline => (voices line hline).plain
  rw [Score.ofText, layout.tokenRows_eq, kept]
  obtain ⟨first, later, rows⟩ : ∃ first later, lines.map tokensOf = first :: later :=
    List.exists_cons_of_ne_nil (by simpa using ne_nil)
  rw [rows] at lengths resolve ⊢
  have width_eq : first.length = width := lengths first (List.mem_cons_self ..)
  rw [← width_eq] at lengths ⊢
  exact Score.exists_ofRows_eq_ok lengths resolve

namespace Rhythm

/-! ## Sets and rhythms -/

/-- The sets from which lines are drawn, with the number of beats of their lines. -/
inductive IsSet : List String → ℕ → Prop
  | eight : IsSet eightBeat 8
  | sixteen : IsSet sixteenBeat 16

/-- Two to four different lines of a set, in some order. -/
structure IsPick (set lines : List String) : Prop where
  few : 2 ≤ lines.length
  many : lines.length ≤ 4
  nodup : lines.Nodup
  subset : ∀ line ∈ lines, line ∈ set

/-- A text of lines picked from a set, each with a line feed after it. -/
def IsRhythm (set : List String) (text : String) : Prop :=
  ∃ lines, IsPick set lines ∧ text = textOfLines lines

variable {set lines : List String} {beats count : ℕ}

namespace IsSet

theorem length (h : IsSet set beats) : set.length = 8 := by
  cases h <;> rfl

theorem nodup (h : IsSet set beats) : set.Nodup := by
  cases h <;> decide

theorem getD_inj (h : IsSet set beats) {i j : ℕ} (hi : i < 8) (hj : j < 8)
    (same : set.getD i "" = set.getD j "") : i = j := by
  rw [← h.length] at hi hj
  rw [List.getD_eq_getElem _ _ hi, List.getD_eq_getElem _ _ hj] at same
  exact (List.Nodup.getElem_inj_iff h.nodup).mp same

/-- All lines of a set are voices of the same width. -/
theorem isVoice (h : IsSet set beats) : ∀ line ∈ set, IsVoice beats line.toList := by
  cases h
  all_goals
    simp only [eightBeat, sixteenBeat, List.forall_mem_cons]
    and_intros
    any_goals exact isVoice_ofList (by decide +kernel)
    exact List.forall_mem_nil _

end IsSet

/-! ## From indexes to lines and back -/

/-- Indexes that are chosen pick the lines at them. -/
theorem IsChoice.isPick {indexes : List ℕ} (choice : IsChoice count 8 indexes)
    (hset : IsSet set beats) (few : 2 ≤ count) (many : count ≤ 4) :
    IsPick set (indexes.map fun index => set.getD index "") := by
  obtain ⟨length, nodup, lt⟩ := choice
  constructor
  · rwa [List.length_map, length]
  · rwa [List.length_map, length]
  · apply List.Nodup.map_on _ nodup
    intro i hi j hj same
    exact hset.getD_inj (lt i hi) (lt j hj) same
  · rw [List.forall_mem_map]
    intro index hindex
    have inside : index < set.length := by
      rw [hset.length]
      exact lt index hindex
    rw [List.getD_eq_getElem _ _ inside]
    exact List.getElem_mem inside

/-- Lines that are picked have been chosen by their indexes. -/
theorem IsPick.exists_isChoice (pick : IsPick set lines) (hset : IsSet set beats) :
    ∃ indexes, IsChoice lines.length 8 indexes ∧
      (indexes.map fun index => set.getD index "") = lines := by
  have found : ∀ line ∈ lines, set.getD (set.idxOf line) "" = line := by
    intro line hline
    have inside := List.idxOf_lt_length_of_mem (pick.subset line hline)
    rw [List.getD_eq_getElem _ _ inside, List.getElem_idxOf]
  refine ⟨lines.map set.idxOf, ⟨List.length_map _, ?_, ?_⟩, ?_⟩
  · apply List.Nodup.map_on _ pick.nodup
    intro line hline line' hline' same
    rw [← found line hline, same, found line' hline']
  · rw [List.forall_mem_map]
    intro line hline
    rw [← hset.length]
    exact List.idxOf_lt_length_of_mem (pick.subset line hline)
  · rw [List.map_map]
    exact (List.map_congr_left found).trans (List.map_id lines)

/-! ## Drawing rhythms -/

/-- The set that a coin decides on. -/
def setOfCoin (coin : ℕ) : List String :=
  if coin < 0x8000000000000000 then eightBeat else sixteenBeat

theorem exists_isSet_setOfCoin (coin : ℕ) : ∃ beats, IsSet (setOfCoin coin) beats := by
  unfold setOfCoin
  split
  · exact ⟨8, .eight⟩
  · exact ⟨16, .sixteen⟩

section Source

variable {σ : Type} [WordSource σ]

/-- The number of lines, which is drawn after the coin. -/
def drawCount (s : σ) : ℕ × σ :=
  let extra := drawBelow .double 3 (WordSource.draw .double s).2
  (2 + extra.1, extra.2)

/-- Two to four lines are drawn. -/
theorem drawCount_mem (sized : WordSource.Sized σ) (s : σ) :
    2 ≤ (drawCount s).1 ∧ (drawCount s).1 ≤ 4 := by
  have extra : (drawBelow .double 3 (WordSource.draw .double s).2).1 < 3 :=
    drawBelow_lt sized (by decide) _
  have count : (drawCount s).1 = 2 + (drawBelow .double 3 (WordSource.draw .double s).2).1 := rfl
  omega

/-- The lines are those at the indexes that are drawn, of the set that the coin decides on. -/
theorem drawLines_eq (sized : WordSource.Sized σ) (s : σ) :
    drawLines s =
      let set := setOfCoin (WordSource.draw .double s).1
      let indexes := drawFrom (8 - (drawCount s).1) (drawCount s).1 (drawCount s).2
      (indexes.1.map fun index => set.getD index "", indexes.2) := by
  have unfolded : drawLines s =
      let set := setOfCoin (WordSource.draw .double s).1
      let indexes := drawIndexes set.length (drawCount s).1 (drawCount s).2
      (indexes.1.map fun index => set.getD index "", indexes.2) := rfl
  obtain ⟨beats, hset⟩ := exists_isSet_setOfCoin (WordSource.draw .double s).1
  have range := drawCount_mem sized s
  have enough : (drawCount s).1 ≤ 8 := by omega
  rw [unfolded]
  simp only [hset.length, drawIndexes_eq enough]

/-- Whatever the words are, two to four different lines of one set are drawn. -/
theorem exists_isPick_drawLines (sized : WordSource.Sized σ) (s : σ) :
    ∃ set beats, IsSet set beats ∧ IsPick set (drawLines s).1 := by
  obtain ⟨beats, hset⟩ := exists_isSet_setOfCoin (WordSource.draw .double s).1
  have range := drawCount_mem sized s
  have choice := isChoice_drawFrom sized (8 - (drawCount s).1) (drawCount s).1 (drawCount s).2
  rw [Nat.sub_add_cancel (by omega)] at choice
  rw [drawLines_eq sized]
  exact ⟨_, beats, hset, choice.isPick hset range.1 range.2⟩

/-- Whatever the words are, a rhythm is drawn. -/
theorem exists_isRhythm_draw (sized : WordSource.Sized σ) (s : σ) :
    ∃ set beats, IsSet set beats ∧ IsRhythm set (draw s).1 := by
  obtain ⟨set, beats, hset, pick⟩ := exists_isPick_drawLines sized s
  exact ⟨set, beats, hset, _, pick, rfl⟩

end Source

/-- Every seed has a rhythm. -/
theorem exists_isRhythm_ofSeed (seed : UInt64) :
    ∃ set beats, IsSet set beats ∧ IsRhythm set (ofSeed seed) := by
  -- equal as functions; on a seed, both sides would be evaluated to compare them
  have unfolded : ofSeed = fun seed => (draw (Keystream.ofSeed seed)).1 := rfl
  rw [unfolded]
  exact exists_isRhythm_draw Keystream.sized (Keystream.ofSeed seed)

/-- Six draws make a rhythm, apart from the words that are passed over. -/
theorem spent_draw_le (script : Script) : (draw script).2.spent ≤ script.spent + 6 := by
  have coin : (WordSource.draw .double script).2.spent ≤ script.spent + 1 :=
    Script.spent_draw_le .double script
  have count : (drawCount script).2.spent ≤ (WordSource.draw .double script).2.spent + 1 :=
    Script.spent_drawBelow_le .double 3 _
  have indexes := Script.spent_drawFrom_le (8 - (drawCount script).1) (drawCount script).1
    (drawCount script).2
  have range := drawCount_mem Script.sized script
  have final : (draw script).2 = (drawLines script).2 := rfl
  rw [final, drawLines_eq Script.sized]
  dsimp only
  omega

theorem IsSet.exists_coin (h : IsSet set beats) :
    ∃ coin : UInt64, setOfCoin (coin.toNat % WordSize.double.count) = set := by
  cases h with
  | eight => exact ⟨0, if_pos (by decide)⟩
  | sixteen => exact ⟨0x8000000000000000, if_neg (by decide)⟩

/-- Every number of lines is drawn with some word after the coin. -/
theorem exists_drawCount_eq (few : 2 ≤ count) (many : count ≤ 4) :
    ∃ word : UInt64, ∀ coin words, ∃ drawn,
      drawCount (⟨coin :: word :: words, []⟩ : Script) = (count, ⟨words, drawn⟩) := by
  obtain ⟨word, hword⟩ := @Script.exists_drawBelow_eq .double 3 (count - 2) (by omega) (by decide)
  refine ⟨word, fun coin words => ⟨[.double, .double], ?_⟩⟩
  have coin_drawn : (WordSource.draw .double (⟨coin :: word :: words, []⟩ : Script)).2 =
      ⟨word :: words, [.double]⟩ := rfl
  rw [drawCount, coin_drawn, hword]
  dsimp only
  rw [Nat.add_sub_cancel' few]

/-- Lines that are picked from a set are drawn with some words. -/
theorem IsPick.exists_drawLines_eq (pick : IsPick set lines) (hset : IsSet set beats) :
    ∃ words, (drawLines (⟨words, []⟩ : Script)).1 = lines := by
  have fits : lines.length ≤ 8 := Nat.le_trans pick.many (by decide)
  obtain ⟨indexes, choice, hlines⟩ := pick.exists_isChoice hset
  rw [← Nat.sub_add_cancel fits] at choice
  obtain ⟨coin, hcoin⟩ := hset.exists_coin
  obtain ⟨word, hword⟩ := exists_drawCount_eq pick.few pick.many
  obtain ⟨words, hwords⟩ := choice.exists_drawFrom_eq (by omega)
  obtain ⟨drawn, hcount⟩ := hword coin words
  obtain ⟨later, hindexes⟩ := hwords [] drawn
  rw [List.append_nil] at hindexes
  have coin_drawn : (WordSource.draw .double (⟨coin :: word :: words, []⟩ : Script)).1 =
      coin.toNat % WordSize.double.count := rfl
  refine ⟨coin :: word :: words, ?_⟩
  rw [drawLines_eq Script.sized]
  simp only [coin_drawn, hcoin, hcount, hindexes, hlines]

/-! ## Compiling rhythms -/

/-- A rhythm is a score of as many beats as the lines of its set. -/
theorem IsRhythm.exists_ofText {text : String} (h : IsRhythm set text) (hset : IsSet set beats) :
    ∃ score, Score.ofText text = .ok score ∧ score.size = beats := by
  obtain ⟨lines, pick, rfl⟩ := h
  have few := pick.few
  have pos : 0 < beats := by cases hset <;> decide
  apply exists_ofText_textOfLines pos
  · apply List.ne_nil_of_length_pos
    omega
  · intro line hline
    exact hset.isVoice line (pick.subset line hline)

/-- A rhythm is compiled at every tempo but 0, and has a file whatever the names are. -/
theorem IsRhythm.exists_compile_eq {text : String} (h : IsRhythm set text) (hset : IsSet set beats)
    {tempo : UInt32} (ne : tempo ≠ 0) (repeats : UInt32) :
    ∃ sequence, compile text tempo repeats = .ok sequence ∧
      sequence.length.toNat = beats * 240 * repeats.toNat ∧
      ∀ names, ∃ bytes, sequence.encode names = .ok bytes := by
  obtain ⟨score, read, size⟩ := h.exists_ofText hset
  have small : beats ≤ 16 := by cases hset <;> decide
  refine ⟨_, compile_eq_ok read ne repeats, ?_, ?_⟩
  · have often := repeats.toNat_lt
    have ticks : score.size * repeats.toNat * 240 = beats * 240 * repeats.toNat := by
      rw [size, Nat.mul_right_comm]
    have early : beats * 240 * repeats.toNat ≤ Tick.last :=
      calc beats * 240 * repeats.toNat
          ≤ 16 * 240 * repeats.toNat :=
            Nat.mul_le_mul_right _ (Nat.mul_le_mul_right _ small)
        _ ≤ Tick.last := by
            unfold Tick.last
            omega
    show (Tick.ofNat (score.size * repeats.toNat * 240)).toNat = _
    rw [ticks, Tick.toNat_ofNat_of_le early]
  · intro names
    -- no silence is longer than the score, and sixteen beats are no wide gap
    have short : score.size * 240 ≤ Midi.maxQuantity := by
      unfold Midi.maxQuantity
      omega
    have narrow := @Score.wideGap?_schedule score 240 (by decide) short
      (repeats.toNat * score.size)
    rw [Sequence.encode_eq, narrow]
    exact ⟨_, rfl⟩

/-- **What is drawn as a rhythm.** With words that are written down in advance, after which there
are zeros, those texts are drawn that have two to four different lines of one set, in any order and
each with a line feed after it, and no others; and drawing ends no later than six draws after the
last word. Every such text is compiled at every tempo but 0: the sequence has the beats of the set,
and it has a file. -/
theorem drawn_iff_isRhythm :
    (∀ text, (∃ words, (draw (⟨words, []⟩ : Script)).1 = text) ↔
      ∃ set beats, IsSet set beats ∧ IsRhythm set text) ∧
    (∀ words, (draw (⟨words, []⟩ : Script)).2.drawn.length ≤ words.length + 6) ∧
    ∀ set beats, IsSet set beats → ∀ text, IsRhythm set text →
      ∀ tempo repeats : UInt32, tempo ≠ 0 →
        ∃ sequence, compile text tempo repeats = .ok sequence ∧
          sequence.length.toNat = beats * 240 * repeats.toNat ∧
          ∀ names, ∃ bytes, sequence.encode names = .ok bytes := by
  refine ⟨?_, ?_, ?_⟩
  · intro text
    constructor
    · rintro ⟨words, rfl⟩
      exact exists_isRhythm_draw Script.sized _
    · rintro ⟨set, beats, hset, lines, pick, rfl⟩
      obtain ⟨words, hlines⟩ := pick.exists_drawLines_eq hset
      exact ⟨words, congrArg textOfLines hlines⟩
  · intro words
    have few := spent_draw_le ⟨words, []⟩
    have start : (⟨words, []⟩ : Script).spent = words.length := Nat.zero_add _
    unfold Script.spent at few start
    omega
  · intro set beats hset text h tempo repeats ne
    exact h.exists_compile_eq hset ne repeats

/-- Two lines in the other order than in their set, played three times. -/
theorem drawn_iff_isRhythm_two_lines :
    let text := textOfLines
      ["dang .    .    pss  pss  .    dang .", "tik  .    tik  tik  .    tik  tik  tik"]
    (∃ words, (draw (⟨words, []⟩ : Script)).1 = text) ∧
      ∃ sequence, compile text 120 3 = .ok sequence ∧ sequence.length.toNat = 8 * 240 * 3 ∧
        ∃ bytes, sequence.encode {} = .ok bytes := by
  intro text
  have rhythm : IsRhythm eightBeat text :=
    ⟨_, ⟨by decide, by decide, by decide, by decide⟩, rfl⟩
  obtain ⟨drawn, _, compiled⟩ := drawn_iff_isRhythm
  obtain ⟨sequence, eq, length, encoded⟩ := compiled _ _ .eight text rhythm 120 3 (by decide)
  exact ⟨(drawn text).mpr ⟨_, _, .eight, rhythm⟩, sequence, eq, length, encoded {}⟩

end Rhythm

end Percussion
