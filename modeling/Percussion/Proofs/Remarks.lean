import Percussion.Proofs.Listings
import Percussion.Proofs.Rhythms
import Percussion.Proofs.Settings

/-!
# Remarks and answers

A command that compiles remarks on what it does: it announces a compilation, and says what has been
written. What it prints besides, and what the other commands print, are answers, and no line of an
answer can be taken for a remark (`Unremarked`). Of most answers the lines are known. A configuration
has lines of the user's own, in the literal blocks of names, but each of them is indented: after a
line feed there is never the letter with which a remark begins (`unremarked_of_hasPair`).

* `not_unremarked_announcement`, `not_unremarked_conclusion`: remarks are remarks;
* `unremarked_ofSeed`, `unremarked_inspection`, `unremarked_soundTable`, `unremarked_configText`:
  answers are not.
-/

namespace Percussion

open Text

/-- The beginning of a line that announces a compilation. -/
def announcing : List Char := ['c', 'o', 'm', 'p', 'i', 'l', 'i', 'n', 'g', ' ']

/-- The beginning of a line about a file that has been written. -/
def concluding : List Char := ['w', 'r', 'o', 't', 'e', ' ']

/-- Whether a line begins as a remark does. -/
def IsRemark (line : List Char) : Prop := announcing <+: line ∨ concluding <+: line

instance (line : List Char) : Decidable (IsRemark line) := inferInstanceAs (Decidable (_ ∨ _))

/-- No line of a text is a remark. -/
def Unremarked (text : List Char) : Prop := ∀ line ∈ lines text, ¬ IsRemark line

instance (text : List Char) : Decidable (Unremarked text) :=
  List.decidableBAll (fun line => ¬ IsRemark line) (lines text)

/-- A text is over where a line is, so that another line can follow. -/
def IsClosed (text : List Char) : Prop := ∀ c ∈ text.getLast?, c = '\n'

/-- The letters with which remarks begin. -/
def opensRemark (c : Char) : Bool := c == 'c' || c == 'w'

/-- A text begins with another letter than a remark, if it has one. -/
def BeginsOtherwise (text : List Char) : Prop := ∀ c ∈ text.head?, opensRemark c = false

instance : DecidablePred BeginsOtherwise
  | [] => isTrue nofun
  | c :: _ => decidable_of_iff (opensRemark c = false) (by simp [BeginsOtherwise])

/-! ## Lines -/

/-- A line that begins with another letter is no remark. -/
theorem not_isRemark {line : List Char} (h : BeginsOtherwise line) : ¬ IsRemark line := by
  intro remark
  rcases remark with announces | concludes
  · obtain ⟨rest, rfl⟩ := announces
    exact absurd (h 'c' rfl) (by decide)
  · obtain ⟨rest, rfl⟩ := concludes
    exact absurd (h 'w' rfl) (by decide)

theorem lines_cons_feed (text : List Char) : lines ('\n' :: text) = [] :: lines text :=
  pieces_cons_cut rfl text

theorem lines_cons_keep {c : Char} (h : c ≠ '\n') (text : List Char) :
    ∃ first later, lines text = first :: later ∧ lines (c :: text) = (c :: first) :: later := by
  have keep : (c == '\n') = false := beq_false_of_ne h
  refine ⟨(lines text).head (by simp [lines, pieces]), (lines text).tail, ?_, ?_⟩
  · rw [List.cons_head_tail]
  · exact @pieces_cons_keep (· == '\n') c keep text

/-- The first line of a text begins as the text does. -/
theorem exists_lines_eq_cons (text : List Char) :
    ∃ first later, lines text = first :: later ∧ ∀ c ∈ first.head?, c ∈ text.head? := by
  cases text with
  | nil => exact ⟨[], [], rfl, nofun⟩
  | cons c text =>
    by_cases feed : c = '\n'
    · subst feed
      exact ⟨[], lines text, lines_cons_feed text, nofun⟩
    · obtain ⟨first, later, _, written⟩ := lines_cons_keep feed text
      exact ⟨c :: first, later, written, fun d hd => hd⟩

/-- Where no line feed is followed by the letter of a remark, no line but the first begins with
one. -/
theorem opensRemark_of_mem_tail {text : List Char}
    (h : Yaml.hasPair (· == '\n') opensRemark text = false) :
    ∀ line ∈ (lines text).tail, BeginsOtherwise line := by
  induction text with
  | nil => nofun
  | cons c text ih =>
    have later := ih (Yaml.hasPair_of_cons h)
    by_cases feed : c = '\n'
    · -- the lines after the feed are those of the rest, and the first of them begins with it
      subst feed
      obtain ⟨first, more, rest, begins⟩ := exists_lines_eq_cons text
      rw [lines_cons_feed, List.tail_cons, rest, List.forall_mem_cons]
      rw [rest] at later
      refine ⟨fun c hc => ?_, later⟩
      exact Yaml.head?_of_hasPair h rfl c (begins c hc)
    · obtain ⟨first, more, rest, written⟩ := lines_cons_keep feed text
      rw [written]
      rwa [rest] at later

theorem unremarked_of_hasPair {text : List Char} (begins : BeginsOtherwise text)
    (h : Yaml.hasPair (· == '\n') opensRemark text = false) : Unremarked text := by
  obtain ⟨first, later, written, first_begins⟩ := exists_lines_eq_cons text
  have tail := opensRemark_of_mem_tail h
  rw [written] at tail
  unfold Unremarked
  rw [written, List.forall_mem_cons]
  refine ⟨not_isRemark fun c hc => begins c (first_begins c hc), fun line hline => ?_⟩
  exact not_isRemark (tail line hline)

/-- A text of lines is free of remarks if its lines are. -/
theorem unremarked_written {written : List String} (plain : ∀ line ∈ written, IsLine line)
    (h : ∀ line ∈ written, ¬ IsRemark line.toList) :
    Unremarked (String.join (written.map (· ++ "\n"))).toList := by
  unfold Unremarked
  rw [lines_written plain, List.forall_mem_append, List.forall_mem_map]
  exact ⟨h, by decide⟩

/-- What follows a text that is closed has lines of its own. -/
theorem IsClosed.unremarked_append_iff {text : List Char} (closed : IsClosed text)
    (more : List Char) : Unremarked (text ++ more) ↔ Unremarked text ∧ Unremarked more := by
  have cut (before after : List Char) :
      Unremarked (before ++ '\n' :: after) ↔ Unremarked before ∧ Unremarked after := by
    unfold Unremarked
    rw [lines, pieces_append_cons rfl, List.forall_mem_append]
    rfl
  have empty : Unremarked [] := by decide
  rcases List.eq_nil_or_concat' text with rfl | ⟨before, last, rfl⟩
  · rw [List.nil_append, and_iff_right empty]
  · obtain rfl : last = '\n' := closed last List.getLast?_concat
    rw [List.append_assoc, List.singleton_append, cut, cut, and_iff_left empty]

theorem isClosed_written (written : List String) :
    IsClosed (String.join (written.map (· ++ "\n"))).toList := by
  rcases List.eq_nil_or_concat' written with rfl | ⟨before, last, rfl⟩
  · nofun
  · intro c hc
    have feed : "\n".toList = ['\n'] := by decide
    rw [String.toList_join, List.flatMap_map, List.flatMap_append, List.flatMap_singleton,
      String.toList_append, feed, ← List.append_assoc, List.getLast?_concat] at hc
    exact (Option.some.inj hc).symm

/-! ## Remarks -/

/-- A text that begins with a word on a line of its own has a first line that does. -/
theorem exists_lines_append {word : List Char} (plain : '\n' ∉ word) (text : List Char) :
    ∃ rest later, lines (word ++ text) = (word ++ rest) :: later := by
  induction word with
  | nil =>
    obtain ⟨first, later, written, _⟩ := exists_lines_eq_cons text
    exact ⟨first, later, written⟩
  | cons c word ih =>
    rw [List.mem_cons, not_or] at plain
    obtain ⟨rest, later, written⟩ := ih plain.2
    obtain ⟨first, more, same, kept⟩ := lines_cons_keep (Ne.symm plain.1) (word ++ text)
    rw [written] at same
    obtain ⟨rfl, rfl⟩ := List.cons.inj same
    exact ⟨rest, later, kept⟩

/-- A text that begins as a remark does is not free of remarks. -/
theorem not_unremarked_append {word : List Char} (plain : '\n' ∉ word)
    (remark : ∀ rest, IsRemark (word ++ rest)) (text : List Char) : ¬ Unremarked (word ++ text) := by
  intro bare
  obtain ⟨rest, later, written⟩ := exists_lines_append plain text
  rw [Unremarked, written, List.forall_mem_cons] at bare
  exact bare.1 (remark rest)

theorem not_unremarked_announcement (input rest : String) :
    ¬ Unremarked (announcement input ++ rest).toList := by
  have written : announcement input ++ rest = "compiling " ++ (input ++ "...\n" ++ rest) := by
    unfold announcement
    simp only [toString, String.append_assoc]
  have word : "compiling ".toList = announcing := by decide
  rw [written, String.toList_append, word]
  exact not_unremarked_append (by decide) (fun rest => .inl (List.prefix_append announcing rest)) _

theorem not_unremarked_conclusion (sequence : Sequence) (output : String) :
    ¬ Unremarked (conclusion sequence output).toList := by
  obtain ⟨rest, written⟩ : ∃ rest, conclusion sequence output = "wrote " ++ rest := by
    unfold conclusion
    simp only [toString, String.append_assoc]
    exact ⟨_, rfl⟩
  have word : "wrote ".toList = concluding := by decide
  rw [written, String.toList_append, word]
  exact not_unremarked_append (by decide) (fun rest => .inr (List.prefix_append concluding rest)) _

/-! ## Answers -/

theorem isClosed_empty : IsClosed "".toList := nofun

theorem unremarked_empty : Unremarked "".toList := by decide

/-- It is slow to evaluate the characters of a text, so they are read off a literal instead. -/
theorem not_isRemark_ofList {line : List Char} (h : ¬ IsRemark line) :
    ¬ IsRemark (String.ofList line).toList := by
  rwa [String.toList_ofList]

/-- A line of the table of sounds. -/
def soundRow (sound : Sound) : String :=
  sound.name ++ String.ofList (List.replicate (6 - sound.name.length) ' ') ++ " " ++
    toString sound.key.toNat

theorem soundTable_eq : soundTable = String.join ((Sound.all.map soundRow).map (· ++ "\n")) := by
  rw [List.map_map]
  rfl

/-- The first two letters of its name tell a sound from a remark. -/
theorem not_isRemark_soundRow (sound : Sound) : ¬ IsRemark (soundRow sound).toList := by
  have letters : sound.name.toList.take 2 ≠ ['c', 'o'] ∧ sound.name.toList.take 2 ≠ ['w', 'r'] ∧
      2 ≤ sound.name.toList.length := by
    cases sound <;> decide
  obtain ⟨announces, concludes, long⟩ := letters
  unfold soundRow
  rw [String.append_assoc, String.append_assoc, String.toList_append]
  rintro (⟨rest, same⟩ | ⟨rest, same⟩)
  · apply announces
    rw [← List.take_append_of_le_length long, ← same]
    rfl
  · apply concludes
    rw [← List.take_append_of_le_length long, ← same]
    rfl

theorem isLine_soundRow (sound : Sound) : IsLine (soundRow sound) := by
  have name : IsLine sound.name := by cases sound <;> decide
  have padding : IsLine (String.ofList (List.replicate (6 - sound.name.length) ' ')) := by
    unfold IsLine
    rw [String.toList_ofList]
    exact fun feed => absurd (List.eq_of_mem_replicate feed) (by decide)
  exact ((name.append padding).append (by decide)).append (isLine_toString _)

theorem unremarked_soundTable : Unremarked soundTable.toList := by
  rw [soundTable_eq]
  apply unremarked_written
  · rw [List.forall_mem_map]
    exact fun sound _ => isLine_soundRow sound
  · rw [List.forall_mem_map]
    exact fun sound _ => not_isRemark_soundRow sound

/-- A line of a set is notation. -/
theorem Rhythm.IsSet.not_isRemark {set : List String} {beats : ℕ} (h : Rhythm.IsSet set beats) :
    ∀ line ∈ set, ¬ IsRemark line.toList := by
  cases h
  all_goals
    simp only [Rhythm.eightBeat, Rhythm.sixteenBeat, List.forall_mem_cons]
    refine ⟨?_, ?_, ?_, ?_, ?_, ?_, ?_, ?_, List.forall_mem_nil _⟩
    all_goals exact not_isRemark_ofList (by decide)

/-- A rhythm is notation on each of its lines. -/
theorem unremarked_ofSeed (seed : UInt64) :
    IsClosed (Rhythm.ofSeed seed).toList ∧ Unremarked (Rhythm.ofSeed seed).toList := by
  obtain ⟨set, beats, hset, lines, pick, text⟩ := Rhythm.exists_isRhythm_ofSeed seed
  rw [text]
  refine ⟨isClosed_written lines, unremarked_written ?_ ?_⟩
  · intro line hline feed
    exact (hset.isVoice line (pick.subset line hline)).plain '\n' feed rfl
  · intro line hline
    exact hset.not_isRemark line (pick.subset line hline)

/-- The lines of a list begin with its key, a dash or a space. -/
theorem Yaml.mem_keyedList_cases {key : String} {items : List (List String)} {line : String}
    (mem : line ∈ Yaml.keyedList key items) :
    ∃ text, line = key ++ text ∨ line = "- " ++ text ∨ line = "  " ++ text := by
  unfold keyedList at mem
  split at mem
  · exact ⟨_, .inl (List.mem_singleton.mp mem)⟩
  · rw [List.mem_cons, List.mem_flatMap] at mem
    rcases mem with rfl | ⟨item, _, inside⟩
    · exact ⟨_, .inl rfl⟩
    · cases item with
      | nil => cases inside
      | cons first rest =>
        rw [listItem, List.mem_cons, List.mem_map] at inside
        rcases inside with rfl | ⟨text, _, rfl⟩
        · exact ⟨first, .inr (.inl rfl)⟩
        · exact ⟨text, .inr (.inr rfl)⟩

/-- A text with a word in front begins as the word does. -/
theorem BeginsOtherwise.append {word : List Char} (begins : BeginsOtherwise word) (ne : word ≠ [])
    (text : List Char) : BeginsOtherwise (word ++ text) := by
  unfold BeginsOtherwise
  rwa [List.head?_append_of_ne_nil _ ne]

/-- A list under a key is free of remarks if the key begins with another letter. -/
theorem not_isRemark_of_mem_keyedList {key : String} {items : List (List String)}
    (begins : BeginsOtherwise key.toList) (ne : key.toList ≠ []) :
    ∀ line ∈ Yaml.keyedList key items, ¬ IsRemark line.toList := by
  intro line mem
  apply not_isRemark
  obtain ⟨text, rfl | rfl | rfl⟩ := Yaml.mem_keyedList_cases mem
  all_goals rw [String.toList_append]
  · exact begins.append ne _
  · exact BeginsOtherwise.append (by decide) (by decide) _
  · exact BeginsOtherwise.append (by decide) (by decide) _

theorem unremarked_inspection (score : Score) (sequence : Sequence) :
    Unremarked (inspection score sequence).toList := by
  rw [inspection_eq]
  apply unremarked_written isLine_of_mem_inspectionLines
  unfold inspectionLines
  rw [List.forall_mem_cons, List.forall_mem_append]
  refine ⟨not_isRemark ?_, ?_, ?_⟩
  · rw [String.toList_append]
    exact BeginsOtherwise.append (by decide) (by decide) _
  · exact not_isRemark_of_mem_keyedList (by decide) (by decide)
  · exact not_isRemark_of_mem_keyedList (by decide) (by decide)

/-! ## Configurations -/

namespace Yaml

/-- A break does not begin a remark. -/
theorem opensRemark_of_isAnyBreak {c : Char} (h : isAnyBreak c = true) : opensRemark c = false := by
  have ne : ∀ d ∈ ['c', 'w'], c ≠ d := ne_of_any h (by decide)
  simp only [List.forall_mem_cons] at ne
  simp [opensRemark, ne]

/-- After a break a literal block goes on with another break or is indented. -/
theorem beginsOtherwise_literalFrom (text : List Char) :
    BeginsOtherwise (literalFrom true text) := by
  cases text with
  | nil => nofun
  | cons c text =>
    rw [literalFrom]
    split
    · next ends =>
      rintro _ ⟨⟩
      exact opensRemark_of_isAnyBreak ends
    · rintro _ ⟨⟩
      decide

/-- No line of a literal block but the first begins with the letter of a remark. -/
theorem hasPair_literalFrom (afterBreak : Bool) (text : List Char) :
    hasPair (· == '\n') opensRemark (literalFrom afterBreak text) = false := by
  induction text generalizing afterBreak with
  | nil => rfl
  | cons c text ih =>
    rw [literalFrom]
    split
    · exact @hasPair_append _ _ [c] _ rfl (ih true) (beginsOtherwise_literalFrom text)
    · next ends =>
      have feed : '\n' ≠ c := by
        rintro rfl
        exact ends rfl
      have plain : '\n' ∉ (if afterBreak then indentation else []) ++ [c] := by
        rw [List.mem_append, List.mem_singleton, not_or]
        exact ⟨by cases afterBreak <;> decide, feed⟩
      rw [← List.singleton_append, ← List.append_assoc,
        hasPair_append_of_forall (forall_mem_beq_eq_false plain)]
      exact ih false

/-- In the value of a key no line but the first begins with the letter of a remark. -/
theorem hasPair_writeValue (text : List Char) :
    hasPair (· == '\n') opensRemark (writeValue text) = false := by
  have closing (closed : Bool) :
      hasPair (· == '\n') opensRemark (if closed then [] else ['\n']) = false ∧
        BeginsOtherwise (if closed then [] else ['\n']) := by
    cases closed <;> decide
  rw [writeValue]
  by_cases style : styleOf text = .literal
  · -- the header ends with the first feed, and what follows it are the lines of the block
    have header : '\n' ∉ ' ' :: '|' :: literalHints text := by
      simp [feed_not_mem_of_isInline (all_isInline_literalHints text)]
    have block : hasPair (· == '\n') opensRemark ('\n' :: literalFrom true text) = false :=
      @hasPair_append _ _ ['\n'] _ rfl (hasPair_literalFrom true text)
        (beginsOtherwise_literalFrom text)
    rw [style, writeAs]
    apply hasPair_append _ (closing _).1 (closing _).2
    rw [← List.cons_append]
    rwa [hasPair_append_of_forall (forall_mem_beq_eq_false header)]
  · have line : '\n' ∉ ' ' :: writeAs (styleOf text) text := by
      simp [feed_not_mem_of_isInline (all_isInline_writeAs style)]
    rw [hasPair_append_of_forall (forall_mem_beq_eq_false line)]
    exact (closing _).1

end Yaml

/-- Where the value of a setting goes on in another line, that line begins with no letter. -/
theorem Config.hasPair_fieldValue (config : Config) (field : Field) :
    Yaml.hasPair (· == '\n') opensRemark (config.fieldValue field) = false := by
  have numeral (n : ℕ) : Yaml.hasPair (· == '\n') opensRemark
      ((' ' :: Nat.toDigits 10 n) ++ ['\n']) = false := by
    have line : '\n' ∉ ' ' :: Nat.toDigits 10 n := by
      rw [List.mem_cons, not_or]
      exact ⟨by decide, fun feed => absurd (isAlphanum_toDigits n '\n' feed) (by decide)⟩
    rw [Yaml.hasPair_append_of_forall (Yaml.forall_mem_beq_eq_false line)]
    rfl
  cases field with
  | tempo => exact numeral config.tempo.toNat
  | repeats => exact numeral config.repeats.toNat
  | sequenceName => exact Yaml.hasPair_writeValue _
  | trackName => exact Yaml.hasPair_writeValue _
  | instrumentName => exact Yaml.hasPair_writeValue _

/-- The entry of a setting begins with its key, and has no line that begins as a remark does. -/
theorem Config.hasPair_entry (config : Config) (field : Field) :
    BeginsOtherwise (config.entry field).lines ∧
      Yaml.hasPair (· == '\n') opensRemark (config.entry field).lines = false := by
  rw [lines_entry]
  constructor
  · exact BeginsOtherwise.append (by cases field <;> decide) (by cases field <;> decide) _
  · have key : '\n' ∉ field.key.toList ++ [':'] := by cases field <;> decide
    rw [← List.singleton_append, ← List.append_assoc,
      Yaml.hasPair_append_of_forall (Yaml.forall_mem_beq_eq_false key)]
    exact config.hasPair_fieldValue field

/-- Whatever the names in a configuration are, no line of theirs can be taken for a remark. -/
theorem unremarked_configText (config : Config) : Unremarked config.text.toList := by
  have entries (fields : List Config.Field) :
      BeginsOtherwise ((fields.map config.entry).flatMap Yaml.Entry.lines) ∧
        Yaml.hasPair (· == '\n') opensRemark
          ((fields.map config.entry).flatMap Yaml.Entry.lines) = false := by
    induction fields with
    | nil => exact ⟨nofun, rfl⟩
    | cons field fields ih =>
      obtain ⟨begins, entry⟩ := config.hasPair_entry field
      have ne : (config.entry field).lines ≠ [] := by simp [Yaml.Entry.lines]
      rw [List.map_cons, List.flatMap_cons]
      exact ⟨begins.append ne _, Yaml.hasPair_append entry ih.2 ih.1⟩
  rw [Config.text_eq]
  exact unremarked_of_hasPair (entries Config.Field.all).1 (entries Config.Field.all).2

end Percussion
