import Mathlib.Data.List.Induction
import Percussion.Proofs.Settings

/-!
# Configurations, line by line

A configuration that a user writes is lines `key: value` in any order, with settings left out and
keys that are no settings in between. What the lines say together does not mention an order
(`Describes`): each setting that has a line has the value there, and each other one its default.

A line is read by itself (`readFields_line`), and the draft after it holds what the line says and
nothing else that is new (`Line.holds_putIn`, `Line.sameAt_putIn`). So a reader that has come to
the end without meeting a setting twice holds what all lines say (`describes_draftOf`), and one
that meets a setting again stops there (`readFields_twice`), whatever comes later.

A key is recognised only if its colon follows within 1024 octets, so a longer word is no key.
-/

namespace Percussion.Config

open Yaml

/-! ## Lines -/

/-- A name that needs no quotes: a letter, and letters and digits after it. -/
structure Word where
  text : List Char
  begins : text.head?.any Char.isAlpha = true
  letters : text.all Char.isAlphanum = true

/-- A key of letters that is no setting. -/
structure OtherKey where
  text : List Char
  ne : text ≠ []
  letters : text.all Char.isAlpha = true
  other : ∀ field : Field, text ≠ field.key.toList

/-- A line of a configuration. -/
inductive Line where
  | tempo (n : UInt32)
  | repeats (n : UInt32)
  | sequenceName (name : Word)
  | trackName (name : Word)
  | instrumentName (name : Word)
  | other (key : OtherKey) (value : Word)

namespace Line

/-- The setting that a line is about. -/
def field? : Line → Option Field
  | tempo _ => some .tempo
  | repeats _ => some .repeats
  | sequenceName _ => some .sequenceName
  | trackName _ => some .trackName
  | instrumentName _ => some .instrumentName
  | other _ _ => none

/-- What stands before the colon. -/
def key : Line → List Char
  | tempo _ => Field.tempo.key.toList
  | repeats _ => Field.repeats.key.toList
  | sequenceName _ => Field.sequenceName.key.toList
  | trackName _ => Field.trackName.key.toList
  | instrumentName _ => Field.instrumentName.key.toList
  | other key _ => key.text

/-- What stands after the colon and a space. -/
def value : Line → List Char
  | tempo n | repeats n => Nat.toDigits 10 n.toNat
  | sequenceName name | trackName name | instrumentName name => name.text
  | other _ value => value.text

/-- A line without its break. -/
def chars (line : Line) : List Char := line.key ++ ':' :: ' ' :: line.value

/-- Whether a configuration is as a line says. -/
def Holds (config : Config) : Line → Prop
  | tempo n => config.tempo = n
  | repeats n => config.repeats = n
  | sequenceName name => config.names.sequence = String.ofList name.text
  | trackName name => config.names.track = String.ofList name.text
  | instrumentName name => config.names.instrument = String.ofList name.text
  | other _ _ => True

end Line

/-- Whether two configurations have a setting in common. -/
def SameAt (config other : Config) : Field → Prop
  | .tempo => config.tempo = other.tempo
  | .repeats => config.repeats = other.repeats
  | .sequenceName => config.names.sequence = other.names.sequence
  | .trackName => config.names.track = other.names.track
  | .instrumentName => config.names.instrument = other.names.instrument

/-- What lines say together: each of them holds, and a setting without a line has its default. -/
structure Describes (lines : List Line) (config : Config) : Prop where
  given : ∀ line ∈ lines, line.Holds config
  dflt : ∀ field, (∀ line ∈ lines, line.field? ≠ some field) → config.SameAt {} field

/-- A text has certain lines: each ends with a break, or a break stands between any two. -/
def HasLines (text : String) (lines : List Line) : Prop :=
  text.toList = lines.flatMap (fun line => line.chars ++ ['\n']) ∨
    text.toList = ['\n'].intercalate (lines.map Line.chars)

/-- The settings that lines are about, in their order. -/
def settingsOf (lines : List Line) : List Field := lines.filterMap Line.field?

/-! ## Lines as entries -/

theorem Word.ne_nil (word : Word) : word.text ≠ [] := by
  intro nil
  have begins := word.begins
  rw [nil] at begins
  cases begins

theorem OtherKey.isAlphanum (key : OtherKey) : ∀ c ∈ key.text, c.isAlphanum = true := by
  intro c hc
  rw [Char.isAlphanum, List.all_eq_true.mp key.letters c hc, Bool.true_or]

/-- A key of up to 1024 letters is recognised. -/
theorem OtherKey.isKey (key : OtherKey) (short : key.text.length ≤ 1024) : IsKey key.text where
  plain := isPlain_of_isNameChar fun c hc => by simp [isNameChar, key.isAlphanum c hc]
  begins := by
    obtain ⟨c, text, same⟩ := List.exists_cons_of_ne_nil key.ne
    refine ⟨c, congrArg List.head? same, List.all_eq_true.mp key.letters c ?_⟩
    rw [same]
    exact List.mem_cons_self ..
  short := (octetsOf_word key.isAlphanum).le.trans short

namespace Line

theorem value_ne_nil (line : Line) : line.value ≠ [] := by
  cases line with
  | tempo n | repeats n => exact Nat.toDigits_ne_nil
  | sequenceName name | trackName name | instrumentName name => exact name.ne_nil
  | other _ value => exact value.ne_nil

theorem isAlphanum_value (line : Line) : ∀ c ∈ line.value, c.isAlphanum = true := by
  cases line with
  | tempo n | repeats n => exact isAlphanum_toDigits n.toNat
  | sequenceName name | trackName name | instrumentName name =>
    exact List.all_eq_true.mp name.letters
  | other _ value => exact List.all_eq_true.mp value.letters

theorem isPlainValue_value (line : Line) : IsPlainValue line.value :=
  isPlainValue_word line.value_ne_nil line.isAlphanum_value

/-- The key of a line can be read as a key, if it is short enough for one. -/
theorem isKey_key (line : Line) (short : line.key.length ≤ 1024) : IsKey line.key := by
  cases line with
  | other key _ => exact key.isKey short
  | _ => exact Config.isKey_key _

theorem all_isVerbatim_chars (line : Line) : line.chars.all isVerbatim = true := by
  have key : line.key.all isVerbatim = true := by
    cases line with
    | other key _ => exact all_isVerbatim_word key.isAlphanum
    | _ => exact all_isVerbatim_key _
  have value : line.value.all isVerbatim = true := all_isVerbatim_word line.isAlphanum_value
  rw [chars, List.all_append, List.all_cons, List.all_cons, key, value]
  decide

/-- The nodes that a line gives. -/
def nodes (line : Line) : List Node :=
  [.scalar none .plain line.key, .scalar none .plain line.value]

end Line

/-- What a reader has to know of a text that has certain lines. -/
structure IsRead (text : List Char) (lines : List Line) : Prop where
  verbatim : text.all isVerbatim = true
  listing : ∃ entries, IsListing entries text ∧
    entries.flatMap Entry.nodes = lines.flatMap Line.nodes ∧ entries.length = lines.length

namespace IsRead

variable {text : List Char} {lines : List Line}

theorem nil : IsRead [] [] := ⟨rfl, [], .nil, rfl, rfl⟩

/-- The last line need not end in a line feed. -/
theorem last (line : Line) (short : line.key.length ≤ 1024) : IsRead line.chars [line] where
  verbatim := line.all_isVerbatim_chars
  listing := ⟨_, .last (line.isKey_key short) line.isPlainValue_value, rfl, rfl⟩

/-- A line can be added in front, with the line feed that ends it. -/
theorem cons (line : Line) (short : line.key.length ≤ 1024) (h : IsRead text lines) :
    IsRead (line.chars ++ ['\n'] ++ text) (line :: lines) where
  verbatim := by
    rw [List.all_append, List.all_append, line.all_isVerbatim_chars, h.verbatim]
    decide
  listing := by
    obtain ⟨entries, listing, nodes, length⟩ := h.listing
    have written : line.chars ++ ['\n'] =
        (Entry.plain (line.isKey_key short) line.isPlainValue_value).lines := by
      simp [Entry.plain, Entry.lines, Line.chars]
    rw [written]
    refine ⟨_, .cons _ listing, ?_, by rw [List.length_cons, List.length_cons, length]⟩
    rw [List.flatMap_cons, List.flatMap_cons, nodes]
    rfl

end IsRead

/-- A text of lines is read line by line. -/
theorem HasLines.isRead {text : String} {lines : List Line} (h : HasLines text lines)
    (short : ∀ line ∈ lines, line.key.length ≤ 1024) : IsRead text.toList lines := by
  rcases h with ended | between
  · rw [ended]
    clear ended
    induction lines with
    | nil => exact .nil
    | cons line lines ih =>
      rw [List.forall_mem_cons] at short
      exact .cons line short.1 (ih short.2)
  · -- the last line is read up to the end of the text, and each one before it up to its break
    rw [between]
    clear between
    induction lines with
    | nil => exact .nil
    | cons line lines ih =>
      rw [List.forall_mem_cons] at short
      cases lines with
      | nil =>
        rw [List.map_singleton, List.intercalate_singleton]
        exact .last line short.1
      | cons next lines =>
        rw [List.map_cons, List.map_cons, List.intercalate_cons_cons]
        exact .cons line short.1 (ih short.2)

/-- The nodes of a text that has lines. -/
theorem IsRead.exists_ofText {text : List Char} {lines : List Line} (h : IsRead text lines)
    (ne : lines ≠ []) :
    ∃ nodes : List (Located Node),
      nodes.map (·.item) = lines.flatMap Line.nodes ++ [.mappingEnd] ∧
      Document.ofText text = ⟨⟨.mappingStart, Mark.start⟩ :: nodes, [], true⟩ := by
  obtain ⟨verbatim, entries, listing, nodes, length⟩ := h
  have ne' : entries ≠ [] := by
    rw [← List.length_pos_iff, length]
    exact List.length_pos_iff.mpr ne
  rw [← nodes]
  exact Document.exists_ofText_entries (source?_eq verbatim) listing ne'

/-! ## What lines say -/

section SameAt

variable {config other third : Config} {field : Field}

theorem SameAt.symm (h : config.SameAt other field) : other.SameAt config field := by
  cases field <;> exact Eq.symm h

theorem SameAt.trans (h : config.SameAt other field) (h' : other.SameAt third field) :
    config.SameAt third field := by
  cases field <;> exact Eq.trans h h'

/-- A configuration is the same as another if all its settings are. -/
theorem eq_of_sameAt (h : ∀ field, config.SameAt other field) : config = other := by
  obtain ⟨tempo, repeats, sequence, track, instrument⟩ := config
  obtain ⟨tempo', repeats', sequence', track', instrument'⟩ := other
  obtain rfl : tempo = tempo' := h .tempo
  obtain rfl : repeats = repeats' := h .repeats
  obtain rfl : sequence = sequence' := h .sequenceName
  obtain rfl : track = track' := h .trackName
  obtain rfl : instrument = instrument' := h .instrumentName
  rfl

end SameAt

namespace Line

/-- A line about a setting holds of configurations that have it in common, or of none of them. -/
theorem Holds.congr {line : Line} {field : Field} {config other : Config}
    (h : line.field? = some field) (same : config.SameAt other field) (holds : line.Holds config) :
    line.Holds other := by
  cases line <;> cases h <;> exact Eq.trans (Eq.symm same) holds

/-- Configurations of which a line holds have its setting in common. -/
theorem Holds.sameAt {line : Line} {field : Field} {config other : Config}
    (h : line.field? = some field) (holds : line.Holds config) (holds' : line.Holds other) :
    config.SameAt other field := by
  cases line <;> cases h <;> exact Eq.trans holds (Eq.symm holds')

theorem holds_of_field?_eq_none {line : Line} (h : line.field? = none) (config : Config) :
    line.Holds config := by
  cases line with
  | other _ _ => trivial
  | _ => cases h

end Line

namespace Describes

variable {lines lines' : List Line} {config other : Config}

/-- What lines say leaves no choice. -/
theorem unique (h : Describes lines config) (h' : Describes lines other) : config = other := by
  refine eq_of_sameAt fun field => ?_
  by_cases given : ∃ line ∈ lines, line.field? = some field
  · obtain ⟨line, mem, setting⟩ := given
    exact (h.given line mem).sameAt setting (h'.given line mem)
  · have absent : ∀ line ∈ lines, line.field? ≠ some field :=
      fun line mem setting => given ⟨line, mem, setting⟩
    exact (h.dflt field absent).trans (h'.dflt field absent).symm

/-- What lines say depends on the lines about settings alone, in whatever order. -/
theorem perm (h : Describes lines config)
    (same : (lines'.filter (·.field?.isSome)).Perm (lines.filter (·.field?.isSome))) :
    Describes lines' config := by
  -- lines about settings are in both, or in neither
  have mem_iff : ∀ line field, line.field? = some field → (line ∈ lines' ↔ line ∈ lines) := by
    intro line field setting
    have mem := same.mem_iff (a := line)
    simpa [List.mem_filter, setting] using mem
  constructor
  · intro line mem
    cases setting : line.field? with
    | none => exact Line.holds_of_field?_eq_none setting config
    | some field => exact h.given line ((mem_iff line field setting).mp mem)
  · intro field absent
    refine h.dflt field fun line mem setting => ?_
    exact absent line ((mem_iff line field setting).mpr mem) setting

end Describes

theorem settingsOf_append (lines more : List Line) :
    settingsOf (lines ++ more) = settingsOf lines ++ settingsOf more :=
  List.filterMap_append

theorem mem_settingsOf {lines : List Line} {field : Field} :
    field ∈ settingsOf lines ↔ ∃ line ∈ lines, line.field? = some field :=
  List.mem_filterMap

theorem settingsOf_filter (lines : List Line) :
    settingsOf (lines.filter (·.field?.isSome)) = settingsOf lines := by
  rw [settingsOf, settingsOf, List.filterMap_filter]
  congr 1
  funext line
  cases line.field? <;> rfl

/-- One more line is about a setting that has not come yet, or about none. -/
theorem nodup_settingsOf_concat {lines : List Line} {line : Line} :
    (settingsOf (lines ++ [line])).Nodup ↔
      (settingsOf lines).Nodup ∧ ∀ field, line.field? = some field → field ∉ settingsOf lines := by
  rw [settingsOf_append]
  cases setting : line.field? with
  | none =>
    have nothing : settingsOf [line] = [] := by simp [settingsOf, setting]
    simp [nothing]
  | some field =>
    have one : settingsOf [line] = [field] := by simp [settingsOf, setting]
    rw [one, ← List.perm_append_comm.nodup_iff, List.singleton_append, List.nodup_cons]
    simp [and_comm]

/-- A setting is the first to come twice: it has come, and no other has come twice before. -/
def ComesAgain (lines : List Line) (field : Field) : Prop :=
  ∃ before line after, lines = before ++ line :: after ∧ line.field? = some field ∧
    field ∈ settingsOf before ∧ (settingsOf before).Nodup

/-- Either no setting comes twice, or there is a first one that does. -/
theorem exists_comesAgain {lines : List Line} (twice : ¬ (settingsOf lines).Nodup) :
    ∃ field, ComesAgain lines field := by
  -- from the end: the last line matters only if none before it has come twice
  induction lines using List.reverseRecOn with
  | nil => exact absurd List.nodup_nil twice
  | append_singleton lines line ih =>
    by_cases once : (settingsOf lines).Nodup
    · rw [nodup_settingsOf_concat] at twice
      push Not at twice
      obtain ⟨field, setting, mem⟩ := twice once
      exact ⟨field, lines, line, [], rfl, setting, mem, once⟩
    · obtain ⟨field, before, next, after, rfl, again⟩ := ih once
      exact ⟨field, before, next, after ++ [line], by simp, again⟩

/-! ## Drafts -/

namespace Line

/-- The draft with what a line says. -/
def putIn (draft : Draft) : Line → Draft
  | tempo n => { draft with tempo := some n }
  | repeats n => { draft with repeats := some n }
  | sequenceName name => { draft with sequenceName := some (String.ofList name.text) }
  | trackName name => { draft with trackName := some (String.ofList name.text) }
  | instrumentName name => { draft with instrumentName := some (String.ofList name.text) }
  | other _ _ => draft

/-- A line puts in its own setting, and leaves the others as they are. -/
theorem has_putIn (line : Line) (draft : Draft) (field : Field) :
    (line.putIn draft).has field = (line.field? == some field || draft.has field) := by
  cases line <;> cases field <;> rfl

/-- What a line says holds once it has been put in. -/
theorem holds_putIn (line : Line) (draft : Draft) : line.Holds (line.putIn draft).finish := by
  cases line with
  | other _ _ => trivial
  | _ => rfl

/-- A line changes the setting that it is about and no other. -/
theorem sameAt_putIn {line : Line} {field : Field} (h : line.field? ≠ some field) (draft : Draft) :
    draft.finish.SameAt (line.putIn draft).finish field := by
  cases line <;> cases field <;> first | rfl | exact absurd rfl h

end Line

/-- The draft after lines. -/
def draftOf (lines : List Line) : Draft := lines.foldl Line.putIn {}

theorem draftOf_concat (lines : List Line) (line : Line) :
    draftOf (lines ++ [line]) = line.putIn (draftOf lines) :=
  List.foldl_concat ..

/-- A draft has the settings that its lines are for. -/
theorem has_draftOf (lines : List Line) (field : Field) :
    (draftOf lines).has field = true ↔ field ∈ settingsOf lines := by
  induction lines using List.reverseRecOn with
  | nil => cases field <;> simp [draftOf, settingsOf, Draft.has]
  | append_singleton lines line ih =>
    rw [draftOf_concat, Line.has_putIn, Bool.or_eq_true, beq_iff_eq, ih, settingsOf_append,
      List.mem_append, or_comm]
    simp [settingsOf]

/-- Lines about different settings are kept in the draft, all of them. -/
theorem describes_draftOf {lines : List Line} (once : (settingsOf lines).Nodup) :
    Describes lines (draftOf lines).finish := by
  induction lines using List.reverseRecOn with
  | nil =>
    refine ⟨fun line mem => absurd mem List.not_mem_nil, fun field _ => ?_⟩
    cases field <;> rfl
  | append_singleton lines line ih =>
    obtain ⟨before, new⟩ := nodup_settingsOf_concat.mp once
    rw [draftOf_concat]
    constructor
    · intro other mem
      rw [List.mem_append, List.mem_singleton] at mem
      rcases mem with earlier | rfl
      · have holds := (ih before).given other earlier
        cases setting : other.field? with
        | none => exact Line.holds_of_field?_eq_none setting _
        | some field =>
          -- the last line is about another setting than an earlier one
          have ne : line.field? ≠ some field := by
            intro same
            exact new field same (mem_settingsOf.mpr ⟨other, earlier, setting⟩)
          exact holds.congr setting (Line.sameAt_putIn ne _)
      · exact other.holds_putIn _
    · intro field absent
      have here := absent line (by simp)
      have dflt := (ih before).dflt field fun other mem => absent other (by simp [mem])
      exact (Line.sameAt_putIn here (draftOf lines)).symm.trans dflt

/-! ## Reading lines -/

namespace Line

theorem key_eq {line : Line} {field : Field} (h : line.field? = some field) :
    line.key = field.key.toList := by
  cases line <;> cases h <;> rfl

/-- The value of a line is read as the line says. -/
theorem read_value {line : Line} {field : Field} (h : line.field? = some field) (draft : Draft)
    (path : String) (mark : Mark) :
    draft.read field path ⟨.scalar none .plain line.value, mark⟩ = .ok (line.putIn draft) := by
  cases line <;> cases h <;>
    simp [Draft.read, readNumber_toDigits, readText, value, Except.map, putIn]

end Line

/-- A key of another kind names no setting. -/
theorem OtherKey.ofKey?_text (key : OtherKey) : Field.ofKey? key.text = none := by
  rw [Field.ofKey?, List.find?_eq_none]
  intro field _
  simpa using (key.other field).symm

section Reading

variable (doc : Document) (start : Mark)

/-- A line about a setting that has not been read yet, or about none, adds what it says. -/
theorem readFields_line {line : Line} {draft : Draft}
    (fresh : ∀ field, line.field? = some field → draft.has field = false) (m₁ m₂ : Mark)
    (rest : List (Located Node)) :
    readFields doc start
        (⟨.scalar none .plain line.key, m₁⟩ :: ⟨.scalar none .plain line.value, m₂⟩ :: rest)
        .key draft =
      readFields doc start rest .key (line.putIn draft) := by
  cases setting : line.field? with
  | none =>
    cases line with
    | other key value =>
      -- the value is passed over, and the draft stays as it is
      show readFields doc start (⟨.scalar none .plain key.text, m₁⟩ ::
        ⟨.scalar none .plain value.text, m₂⟩ :: rest) .key draft =
          readFields doc start rest .key draft
      simp [readFields, readKey, readText, Document.resolve, key.ofKey?_text, beginsCollection,
        endsCollection, bind, Except.bind, pure, Except.pure]
    | _ => cases setting
  | some field =>
    rw [Line.key_eq setting]
    exact readFields_setting doc start (fresh field setting)
      (Line.read_value setting draft field.key m₂) m₁ rest

/-- A line about a setting that has been read is a fault. -/
theorem readFields_twice {line : Line} {draft : Draft} {field : Field}
    (setting : line.field? = some field) (read : draft.has field = true) (mark : Mark)
    (rest : List (Located Node)) :
    readFields doc start (⟨.scalar none .plain line.key, mark⟩ :: rest) .key draft =
      .error (.unfit "" s!"duplicate field `{field.key}`" start) := by
  rw [Line.key_eq setting]
  simp [readFields, readKey_key, read, bind, Except.bind]

/-- Lines about different settings are read one after the other. -/
theorem exists_readFields_lines (before : List Line) {lines : List Line}
    (once : (settingsOf (before ++ lines)).Nodup) {nodes : List (Located Node)} {more : List Node}
    (h : nodes.map (·.item) = lines.flatMap Line.nodes ++ more) :
    ∃ rest : List (Located Node), rest.map (·.item) = more ∧
      readFields doc start nodes .key (draftOf before) =
        readFields doc start rest .key (draftOf (before ++ lines)) := by
  induction lines generalizing before nodes with
  | nil => exact ⟨nodes, h, by rw [List.append_nil]⟩
  | cons line lines ih =>
    obtain ⟨m₁, _, rfl, h₁⟩ := exists_eq_cons_of_map_item h
    obtain ⟨m₂, nodes, rfl, h₂⟩ := exists_eq_cons_of_map_item h₁
    -- what the draft has are the settings of the lines before this one
    have fresh : ∀ field, line.field? = some field → (draftOf before).has field = false := by
      intro field setting
      have here : field ∈ settingsOf (line :: lines) :=
        mem_settingsOf.mpr ⟨line, List.mem_cons_self .., setting⟩
      rw [settingsOf_append, List.nodup_append] at once
      rw [← Bool.not_eq_true, has_draftOf]
      exact fun earlier => once.2.2 field earlier field here rfl
    rw [List.append_cons] at once ⊢
    rw [readFields_line doc start fresh, ← draftOf_concat]
    exact ih _ once h₂

end Reading

/-! ## Texts that have lines -/

section OfText

variable {text : String} {lines : List Line}

/-- Lines about different settings give what they say. -/
theorem IsRead.ofText_eq_ok (h : IsRead text.toList lines) (once : (settingsOf lines).Nodup) :
    ofText text = .ok (draftOf lines).finish := by
  by_cases none : lines = []
  · -- a text that says nothing is no mapping, and gives the defaults
    obtain ⟨entries, listing, _, length⟩ := h.listing
    rw [none] at length ⊢
    rw [List.length_nil, List.length_eq_zero_iff] at length
    rw [length] at listing
    rw [ofText, listing.eq_nil]
    rfl
  · obtain ⟨nodes, items, document⟩ := h.exists_ofText none
    obtain ⟨rest, last, read⟩ := exists_readFields_lines
      (Document.ofText text.toList) Mark.start [] once items
    obtain ⟨mark, _, rfl, _⟩ := exists_eq_cons_of_map_item last
    have finished : readFields (Document.ofText text.toList) Mark.start nodes .key {} =
        .ok (draftOf lines) := read
    rw [document] at finished
    simp [ofText, ofDocument, document, finished, bind, Except.bind]

/-- Of lines about the same setting the first that comes again is a fault. -/
theorem IsRead.ofText_eq_error {field : Field} (h : IsRead text.toList lines)
    (again : ComesAgain lines field) :
    ofText text = .error (.unfit "" s!"duplicate field `{field.key}`" Mark.start) := by
  obtain ⟨before, line, after, rfl, setting, earlier, once⟩ := again
  obtain ⟨nodes, items, document⟩ := h.exists_ofText (by simp)
  rw [List.flatMap_append, List.append_assoc] at items
  obtain ⟨rest, left, read⟩ := exists_readFields_lines
    (Document.ofText text.toList) Mark.start [] once items
  obtain ⟨mark, rest, rfl, _⟩ := exists_eq_cons_of_map_item left
  rw [List.nil_append, readFields_twice _ _ setting ((has_draftOf before field).mpr earlier)] at read
  have stopped : readFields (Document.ofText text.toList) Mark.start nodes .key {} =
      .error (.unfit "" s!"duplicate field `{field.key}`" Mark.start) := read
  rw [document] at stopped
  simp [ofText, ofDocument, document, stopped, bind, Except.bind]

end OfText

/-! ## Files -/

open Storage

/-- A file of lines is understood if no setting has two lines. The configuration is then what the
lines say together, also if the lines stand in another order and lines with other keys come or go.
Otherwise the first setting that comes again is named. -/
theorem ofFile_lines {lines : List Line} (short : ∀ line ∈ lines, line.key.length ≤ 1024) :
    ((settingsOf lines).Nodup →
      ∃ config, Describes lines config ∧
        ∀ (lines' : List Line) (text path : String) (store : Store),
          (∀ line ∈ lines', line.key.length ≤ 1024) →
          (lines'.filter (·.field?.isSome)).Perm (lines.filter (·.field?.isSome)) →
          HasLines text lines' → store.Holds path text →
          (ofFile path : StateM Store _).run store = (.ok config, store)) ∧
    (¬ (settingsOf lines).Nodup →
      (∃ field, ComesAgain lines field) ∧
        ∀ field, ComesAgain lines field →
          ∀ (text path : String) (store : Store), HasLines text lines → store.Holds path text →
            (ofFile path : StateM Store _).run store =
              (.error (.config s!"duplicate field `{field.key}`"), store)) := by
  constructor
  · intro once
    refine ⟨_, describes_draftOf once, fun lines' text path store short' same has holds => ?_⟩
    have once' : (settingsOf lines').Nodup := by
      rw [← settingsOf_filter] at once ⊢
      exact (same.filterMap Line.field?).nodup_iff.mpr once
    -- both say the same, and what they say leaves no choice
    have config : (draftOf lines').finish = (draftOf lines).finish :=
      (describes_draftOf once').unique ((describes_draftOf once).perm same)
    rw [run_ofFile_of_holds holds, (has.isRead short').ofText_eq_ok once', config]
    rfl
  · intro twice
    refine ⟨exists_comesAgain twice, fun field again text path store has holds => ?_⟩
    rw [run_ofFile_of_holds holds, (has.isRead short).ofText_eq_error again]
    cases field <;> rfl

/-- A folder with a text. -/
private def desk (text : String) : Store where
  entries := [(["desk"], .folder), (["desk", "lines"], .file text.toUTF8.data.toList)]
  current := ["desk"]

/-- A line with a key that is no setting. -/
private def colour : Line :=
  .other ⟨['c', 'o', 'l', 'o', 'u', 'r'], by decide, by decide,
    fun field => by cases field <;> decide⟩ ⟨['r', 'e', 'd'], by decide, by decide⟩

/-- A line with a name. -/
private def kit : Line := .trackName ⟨['K', 'i', 't', '2'], by decide, by decide⟩

/-- The same lines the other way round, with more that do not count and without a break at the end;
and lines of which two settings come twice. -/
theorem ofFile_lines_out_of_order :
    (ofFile "lines" : StateM Store _).run (desk "colour: red\ntrack_name: Kit2\ntempo: 98\n") =
      (.ok ⟨98, 1, { track := "Kit2" }⟩, desk "colour: red\ntrack_name: Kit2\ntempo: 98\n") ∧
    (ofFile "lines" : StateM Store _).run
        (desk "tempo: 98\ncolour: red\ncolour: red\ntrack_name: Kit2") =
      (.ok ⟨98, 1, { track := "Kit2" }⟩,
        desk "tempo: 98\ncolour: red\ncolour: red\ntrack_name: Kit2") ∧
    (ofFile "lines" : StateM Store _).run (desk "tempo: 1\nrepeat: 3\nrepeat: 4\ntempo: 1") =
      (.error (.config "duplicate field `repeat`"),
        desk "tempo: 1\nrepeat: 3\nrepeat: 4\ntempo: 1") := by
  have holds (text : String) : (desk text).Holds "lines" text := rfl
  have short : ∀ line ∈ [colour, kit, .tempo 98], line.key.length ≤ 1024 := by decide
  have short' : ∀ line ∈ [.tempo 98, colour, colour, kit], line.key.length ≤ 1024 := by decide
  have shortTwice : ∀ line ∈ [Line.tempo 1, .repeats 3, .repeats 4, .tempo 1],
      line.key.length ≤ 1024 := by decide
  have once : (settingsOf [colour, kit, .tempo 98]).Nodup := by decide
  obtain ⟨config, describes, reads⟩ := (ofFile_lines short).1 once
  have same : config = ⟨98, 1, { track := "Kit2" }⟩ := describes.unique (describes_draftOf once)
  rw [same] at reads
  refine ⟨?_, ?_, ?_⟩
  · exact reads _ _ _ _ short (.refl _) (.inl (by decide +kernel)) (holds _)
  · exact reads _ _ _ _ short' (.swap ..) (.inr (by decide +kernel)) (holds _)
  · have again : ComesAgain [.tempo 1, .repeats 3, .repeats 4, .tempo 1] .repeats :=
      ⟨[.tempo 1, .repeats 3], .repeats 4, [.tempo 1], rfl, rfl, by decide, by decide⟩
    exact ((ofFile_lines shortTwice).2 (by decide)).2 _ again _ _ _ (.inr (by decide +kernel))
      (holds _)

/-- A word of 1025 letters, and a line with it. -/
private def longLine : Line :=
  .other ⟨List.replicate 1025 'a', by decide, by decide +kernel,
    fun field => by cases field <;> decide +kernel⟩ ⟨['x'], by decide, by decide⟩

/-- The line with its break. -/
private def longText : String := String.ofList (longLine.chars ++ ['\n'])

/-- A line with a key of more than 1024 letters is not understood, although it is about no
setting. -/
theorem ofFile_lines_long_key :
    (settingsOf [longLine]).Nodup ∧
    HasLines longText [longLine] ∧
    (desk longText).Holds "lines" longText ∧
    ∀ config, ((ofFile "lines" : StateM Store _).run (desk longText)).1 ≠ .ok config := by
  have holds (text : String) : (desk text).Holds "lines" text := rfl
  have chars : longText.toList = longLine.chars ++ ['\n'] := String.toList_ofList
  have fails : (ofDocument (Document.ofText (longLine.chars ++ ['\n']))).isOk = false := by
    decide +kernel
  refine ⟨by decide, .inl ?_, holds _, fun config ok => ?_⟩
  · rw [chars, List.flatMap_singleton]
  · rw [run_ofFile_of_holds (holds _), ofText, chars] at ok
    cases read : ofDocument (Document.ofText (longLine.chars ++ ['\n'])) with
    | ok other =>
      rw [read] at fails
      cases fails
    | error fault =>
      rw [read] at ok
      cases ok

end Percussion.Config
