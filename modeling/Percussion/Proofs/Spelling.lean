import Percussion.Proofs.Notation

/-!
# Texts that differ in the case of letters

The case of ASCII letters does not matter for where the lines and the words of a text are, nor for
which sounds its tokens name: lower-casing takes it away, and what decides on the form of a sigma
does not see it. So two texts that differ in nothing else are read alike (`Score.readAlike_ofText`):
as scores of the same sounds, or with errors at the same place.
-/

namespace Percussion

namespace Text

/-! ## Characters -/

/-- A character is an ASCII capital letter, or it is its own lower-case form in ASCII. -/
theorem toLower_cases (c : Char) :
    (∃ n < 26, c = Char.ofNat (65 + n) ∧ c.toLower = Char.ofNat (97 + n)) ∨ c.toLower = c := by
  by_cases capital : c.val ≥ 'A'.val ∧ c.val ≤ 'Z'.val
  · have small : ∀ n < 26, (Char.ofNat (65 + n)).toLower = Char.ofNat (97 + n) := by decide
    have lower : 65 ≤ c.toNat := capital.1
    have upper : c.toNat ≤ 90 := capital.2
    have same : c = Char.ofNat (65 + (c.toNat - 65)) := by
      rw [Nat.add_sub_cancel' lower, Char.ofNat_toNat]
    refine .inl ⟨c.toNat - 65, by omega, same, ?_⟩
    rw [← small _ (by omega), ← same]
  · exact .inr (dif_neg capital)

/-- What does not tell the capital letters of ASCII from the small ones does not see case. -/
theorem apply_toLower {α : Type} {f : Char → α}
    (h : ∀ n < 26, f (Char.ofNat (97 + n)) = f (Char.ofNat (65 + n))) (c : Char) :
    f c.toLower = f c := by
  obtain ⟨n, hn, capital, small⟩ | same := toLower_cases c
  · rw [small, capital, h n hn]
  · rw [same]

@[simp] theorem isBlank_toLower (c : Char) : isBlank c.toLower = isBlank c :=
  apply_toLower (by decide) c

@[simp] theorem isCased_toLower (c : Char) : isCased c.toLower = isCased c :=
  apply_toLower (by decide) c

@[simp] theorem isCaseIgnorable_toLower (c : Char) :
    isCaseIgnorable c.toLower = isCaseIgnorable c :=
  apply_toLower (by decide +kernel) c

@[simp] theorem lowerChar_toLower (c : Char) : lowerChar c.toLower = lowerChar c :=
  apply_toLower (by decide) c

/-- What is no letter is no other character's small form. -/
theorem toLower_eq_iff {c d : Char} (h : d.isAlpha = false) : c.toLower = d ↔ c = d := by
  obtain ⟨n, hn, capital, small⟩ | same := toLower_cases c
  · have letters : ∀ n < 26, (Char.ofNat (65 + n)).isAlpha = true ∧
        (Char.ofNat (97 + n)).isAlpha = true := by decide
    obtain ⟨upper, lower⟩ := letters n hn
    rw [small, capital]
    constructor
    · rintro rfl
      rw [lower] at h
      cases h
    · rintro rfl
      rw [upper] at h
      cases h
  · rw [same]

/-! ## Lower-casing -/

theorem meetsCased_map_toLower (cs : List Char) :
    meetsCased (cs.map Char.toLower) = meetsCased cs := by
  induction cs with
  | nil => rfl
  | cons c cs ih =>
    rw [meetsCased, meetsCased, List.map_cons, List.dropWhile_cons, List.dropWhile_cons,
      isCaseIgnorable_toLower]
    split
    · exact ih
    · simp

/-- No other character becomes a capital sigma, and a sigma stays one. -/
theorem toNat_toLower_eq_sigma_iff (c : Char) : c.toLower.toNat = 0x3A3 ↔ c.toNat = 0x3A3 := by
  have same := @apply_toLower Bool (fun c => decide (c.toNat = 0x3A3)) (by decide) c
  simpa using same

/-- The lower case of a text is that of its ASCII lower case, a final sigma included. -/
theorem lowerAfter_map_toLower (before text : List Char) :
    lowerAfter (before.map Char.toLower) (text.map Char.toLower) = lowerAfter before text := by
  -- what stands on either side of a sigma decides on its form, so both sides are lowered
  induction text generalizing before with
  | nil => rfl
  | cons c text ih =>
    have later := ih (c :: before)
    rw [List.map_cons] at later
    simp only [lowerAfter, List.map_cons, toNat_toLower_eq_sigma_iff, meetsCased_map_toLower,
      lowerChar_toLower, later]

/-- Lower-casing does not see the case of ASCII letters. -/
theorem lowercase_map_toLower (text : List Char) :
    lowercase (text.map Char.toLower) = lowercase text :=
  lowerAfter_map_toLower [] text

/-! ## Words and lines -/

/-- A text is cut in the same places if the cuts stay what they are. -/
theorem pieces_map {cut : Char → Bool} {f : Char → Char} (h : ∀ c, cut (f c) = cut c)
    (text : List Char) : pieces cut (text.map f) = (pieces cut text).map (List.map f) := by
  induction text with
  | nil => rfl
  | cons c text ih =>
    cases here : cut c with
    | true =>
      rw [List.map_cons, pieces_cons_cut ((h c).trans here), pieces_cons_cut here, ih]
      rfl
    | false =>
      rw [List.map_cons, pieces_cons_keep ((h c).trans here), pieces_cons_keep here]
      simp [ih]

theorem words_map_toLower (line : List Char) :
    words (line.map Char.toLower) = (words line).map (List.map Char.toLower) := by
  rw [words, words, pieces_map isBlank_toLower, List.filter_map]
  congr 1
  apply List.filter_congr
  intro word _
  simp

theorem lines_map_toLower (text : List Char) :
    lines (text.map Char.toLower) = (lines text).map (List.map Char.toLower) :=
  pieces_map (fun c => by simp [toLower_eq_iff]) text

end Text

/-! ## Tokens -/

/-- A text with all capital letters of ASCII made small. -/
def asciiLower (text : String) : String := String.ofList (text.toList.map Char.toLower)

/-- Two texts differ at most in the case of ASCII letters. -/
def EqUpToCase (text text' : String) : Prop := asciiLower text = asciiLower text'

/-- In lower case a text has the same rows, in lower case. -/
theorem tokenRows_map_toLower (text : List Char) :
    tokenRows (text.map Char.toLower) = (tokenRows text).map (List.map asciiLower) := by
  have row (line : List Char) : (Text.words (line.map Char.toLower)).map String.ofList =
      ((Text.words line).map String.ofList).map asciiLower := by
    simp [Text.words_map_toLower, asciiLower]
  have rows : (Text.lines (text.map Char.toLower)).map
        (fun line => (Text.words line).map String.ofList) =
      ((Text.lines text).map fun line => (Text.words line).map String.ofList).map
        (List.map asciiLower) := by
    rw [Text.lines_map_toLower, List.map_map, List.map_map]
    exact List.map_congr_left fun line _ => row line
  have empty : (List.isEmpty ∘ List.map asciiLower) = List.isEmpty := by
    funext row
    simp
  rw [tokenRows, tokenRows, rows, ← List.map_reverse, List.dropWhile_map, empty, List.map_reverse]

/-- The rows of texts that differ in the case of letters have tokens that do so. -/
theorem EqUpToCase.map_tokenRows {text text' : String} (h : EqUpToCase text text') :
    (tokenRows text.toList).map (List.map asciiLower) =
      (tokenRows text'.toList).map (List.map asciiLower) := by
  have same : text.toList.map Char.toLower = text'.toList.map Char.toLower :=
    String.ofList_injective h
  rw [← tokenRows_map_toLower, same, tokenRows_map_toLower]

/-! ## Loudness taken away -/

/-- The hit at normal volume. -/
def Hit.plain (hit : Hit) : Hit := { hit with volume := .normal }

/-- The beat with all its hits at normal volume. -/
def Beat.plain (beat : Beat) : Beat := ⟨beat.hits.map Hit.plain⟩

/-- The score with all its hits at normal volume. -/
def Score.plain (score : Score) : Score := ⟨score.beats.map Beat.plain⟩

/-- A rest has no case. -/
theorem asciiLower_eq_rest_iff (token : String) :
    asciiLower token = restToken ↔ token = restToken := by
  have dot : restToken = String.ofList ['.'] := rfl
  rw [← String.toList_inj, ← String.toList_inj, asciiLower, dot, String.toList_ofList,
    String.toList_ofList, List.map_eq_singleton_iff]
  simp [Text.toLower_eq_iff]

/-- What a token stands for, loudness aside, does not depend on its case. -/
theorem Hit.plain_ofToken_asciiLower (token : String) :
    (ofToken (asciiLower token)).toOption.map (Option.map plain) =
      (ofToken token).toOption.map (Option.map plain) := by
  have lowered : Text.lowercase (asciiLower token).toList = Text.lowercase token.toList := by
    rw [asciiLower, String.toList_ofList, Text.lowercase_map_toLower]
  rw [ofToken, ofToken]
  simp only [asciiLower_eq_rest_iff, lowered]
  split
  · rfl
  · cases Sound.lookup (String.ofList (Text.lowercase token.toList)) <;> rfl

/-- Taking a list through a step that can fail, with a change to each result. -/
theorem toOption_mapM {α β γ ε : Type} (step : α → Except ε β) (f : β → γ) (entries : List α) :
    (entries.mapM step).toOption.map (List.map f) =
      entries.mapM fun entry => (step entry).toOption.map f := by
  induction entries with
  | nil => rfl
  | cons entry later ih =>
    cases first : step entry with
    | error error =>
      rw [mapM_cons_of_error first, List.mapM_cons, first]
      rfl
    | ok result =>
      rw [mapM_cons_of_ok first, List.mapM_cons, first, ← ih]
      cases later.mapM step <;> rfl

/-- Steps that are alike for entries and for their lower-case forms take lists of them alike. -/
theorem toOption_mapM_congr {α β γ ε : Type} {step : α → Except ε β} {f : β → γ} {g : α → α}
    (h : ∀ entry, (step (g entry)).toOption.map f = (step entry).toOption.map f)
    (entries : List α) :
    ((entries.map g).mapM step).toOption.map (List.map f) =
      (entries.mapM step).toOption.map (List.map f) := by
  rw [toOption_mapM, toOption_mapM, List.mapM_map]
  exact congrArg entries.mapM (funext h)

/-- Up to accents a beat is the same in lower case. -/
theorem Beat.plain_ofTokens_map_asciiLower (column : List String) :
    (ofTokens (column.map asciiLower)).toOption.map plain =
      (ofTokens column).toOption.map plain := by
  have read (tokens : List String) : (ofTokens tokens).toOption.map plain =
      ((tokens.mapM Hit.ofToken).toOption.map (List.map (Option.map Hit.plain))).map
        fun hits => ⟨hits.filterMap id⟩ := by
    rw [ofTokens_eq_map]
    cases tokens.mapM Hit.ofToken with
    | error error => rfl
    | ok hits => simp [Except.map, Except.toOption, plain, List.map_filterMap, List.filterMap_map]
  rw [read, read, toOption_mapM_congr Hit.plain_ofToken_asciiLower]

theorem Score.plain_ofColumns_map_asciiLower (columns : List (List String)) :
    (ofColumns (columns.map (List.map asciiLower))).toOption.map plain =
      (ofColumns columns).toOption.map plain := by
  have read (columns : List (List String)) : (ofColumns columns).toOption.map plain =
      ((columns.mapM Beat.ofTokens).toOption.map (List.map Beat.plain)).map Score.mk := by
    rw [ofColumns_eq_map]
    cases columns.mapM Beat.ofTokens <;> rfl
  rw [read, read, toOption_mapM_congr Beat.plain_ofTokens_map_asciiLower]

theorem columns_map {α β : Type} (f : α → β) (width : ℕ) (rows : List (List α)) :
    columns width (rows.map (List.map f)) = (columns width rows).map (List.map f) := by
  induction rows with
  | nil => simp [columns]
  | cons row rows ih =>
    rw [columns, columns] at ih
    rw [columns, columns, List.map_cons, List.foldr_cons, List.foldr_cons, ih, List.zipWith_map,
      List.map_zipWith]
    rfl

/-- Which row is misaligned does not depend on the tokens in it. -/
theorem misalignedRow?_map {α β : Type} (f : α → β) (width : ℕ) (rows : List (List α)) :
    misalignedRow? width (rows.map (List.map f)) =
      (misalignedRow? width rows).map (Prod.map (List.map f) id) := by
  have lengths : (fun row : List β × ℕ => row.1.length != width) ∘ Prod.map (List.map f) id =
      fun row : List α × ℕ => row.1.length != width := by
    funext row
    simp
  rw [misalignedRow?, misalignedRow?, List.zipIdx_map, List.find?_map, lengths]

/-- Up to accents rows are read as the same score in lower case. -/
theorem Score.plain_ofRows_map_asciiLower (rows : List (List String)) :
    (ofRows (rows.map (List.map asciiLower))).toOption.map plain =
      (ofRows rows).toOption.map plain := by
  cases rows with
  | nil => rfl
  | cons first later =>
    have width : (first.map asciiLower).length = first.length := List.length_map _
    have rows : first.map asciiLower :: later.map (List.map asciiLower) =
        (first :: later).map (List.map asciiLower) := rfl
    rw [List.map_cons, ofRows, ofRows, width, rows, misalignedRow?_map, columns_map]
    cases misalignedRow? first.length (first :: later) with
    | some found => rfl
    | none => exact plain_ofColumns_map_asciiLower _

/-! ## The place of an error -/

/-- The token in row number `row` and column number `column`, counted from 0. -/
def tokenAt? (rows : List (List String)) (row column : ℕ) : Option String :=
  rows[row]?.bind fun tokens => tokens[column]?

theorem tokenAt?_map (f : String → String) (rows : List (List String)) (row column : ℕ) :
    tokenAt? (rows.map (List.map f)) row column = (tokenAt? rows row column).map f := by
  rw [tokenAt?, tokenAt?, List.getElem?_map]
  cases rows[row]? with
  | none => rfl
  | some tokens => exact List.getElem?_map

/-- The token at a place does not resolve, and all those do that are searched before it: the ones
in columns further left, and the ones above it in its own column. -/
structure FirstUnknown (rows : List (List String)) (row column : ℕ) (token : String) : Prop where
  here : tokenAt? rows row column = some token
  unknown : ¬ Resolves token
  earlier : ∀ {row' column' : ℕ} {token' : String}, tokenAt? rows row' column' = some token' →
    (column' < column ∨ column' = column ∧ row' < row) → Resolves token'

/-- There is only one such place. -/
theorem FirstUnknown.unique {rows : List (List String)} {row column row' column' : ℕ}
    {token token' : String} (h : FirstUnknown rows row column token)
    (h' : FirstUnknown rows row' column' token') :
    row = row' ∧ column = column' ∧ token = token' := by
  have notBefore : ¬ (column' < column ∨ column' = column ∧ row' < row) :=
    fun before => h'.unknown (h.earlier h'.here before)
  have notAfter : ¬ (column < column' ∨ column = column' ∧ row < row') :=
    fun after => h.unknown (h'.earlier h.here after)
  obtain rfl : column = column' := by omega
  obtain rfl : row = row' := by omega
  exact ⟨rfl, rfl, Option.some.inj (h.here.symm.trans h'.here)⟩

theorem resolves_asciiLower (token : String) : Resolves (asciiLower token) ↔ Resolves token := by
  have read (token : String) :
      Resolves token ↔ ((Hit.ofToken token).toOption.map (Option.map Hit.plain)).isSome := by
    rw [Resolves]
    cases Hit.ofToken token <;> simp [Except.toOption]
  rw [read, read, Hit.plain_ofToken_asciiLower]

/-- The first unknown token is in the same place in lower case. -/
theorem FirstUnknown.map_asciiLower {rows : List (List String)} {row column : ℕ} {token : String}
    (h : FirstUnknown rows row column token) :
    FirstUnknown (rows.map (List.map asciiLower)) row column (asciiLower token) where
  here := by
    rw [tokenAt?_map, h.here]
    rfl
  unknown := by
    rw [resolves_asciiLower]
    exact h.unknown
  earlier := by
    intro row' column' token' found before
    rw [tokenAt?_map, Option.map_eq_some_iff] at found
    obtain ⟨written, found, rfl⟩ := found
    rw [resolves_asciiLower]
    exact h.earlier found before

/-- The places of `width` columns of `height` tokens, in the order in which they are searched. -/
def places (width height : ℕ) : List (ℕ × ℕ) :=
  (List.range width).flatMap fun column => (List.range height).map fun row => (row, column)

theorem mem_places_iff {width height row column : ℕ} :
    (row, column) ∈ places width height ↔ row < height ∧ column < width := by
  simp [places, and_comm]

/-- Columns are searched from left to right, and each from top to bottom. -/
theorem pairwise_places (width height : ℕ) :
    (places width height).Pairwise fun place later =>
      place.2 < later.2 ∨ place.2 = later.2 ∧ place.1 < later.1 := by
  rw [places, List.pairwise_flatMap]
  constructor
  · intro column _
    rw [List.pairwise_map]
    exact List.pairwise_lt_range.imp fun less => .inr ⟨rfl, less⟩
  · refine List.pairwise_lt_range.imp fun less => ?_
    intro place hplace later hlater
    obtain ⟨row, _, rfl⟩ := List.mem_map.mp hplace
    obtain ⟨row', _, rfl⟩ := List.mem_map.mp hlater
    exact .inl less

/-- A column has the tokens that there are in it, row by row. -/
theorem columnAt_eq_filterMap (rows : List (List String)) (column : ℕ) :
    columnAt rows column =
      (List.range rows.length).filterMap fun row => tokenAt? rows row column := by
  induction rows with
  | nil => rfl
  | cons first later ih =>
    rw [List.length_cons, List.range_succ_eq_map, List.filterMap_cons, List.filterMap_map]
    have shifted : (fun row => tokenAt? (first :: later) row column) ∘ Nat.succ =
        fun row => tokenAt? later row column := rfl
    rw [shifted, ← ih]
    exact List.filterMap_cons

/-- Read column by column, tokens are in the order of their places. -/
theorem flatMap_columnAt (rows : List (List String)) (width : ℕ) :
    (List.range width).flatMap (columnAt rows) =
      (places width rows.length).filterMap fun place => tokenAt? rows place.1 place.2 := by
  rw [places, List.filterMap_flatMap]
  refine congrArg (List.range width).flatMap (funext fun column => ?_)
  rw [columnAt_eq_filterMap, List.filterMap_map]
  rfl

/-- The token that is reported for aligned rows is the first unknown one. -/
theorem exists_firstUnknown {first : List String} {later : List (List String)} {token : String}
    {before after : List String}
    (aligned : ∀ row ∈ first :: later, row.length = first.length)
    (split : (List.range first.length).flatMap (columnAt (first :: later)) =
      before ++ token :: after)
    (resolve : ∀ earlier ∈ before, Resolves earlier) (unknown : ¬ Resolves token) :
    ∃ row column, FirstUnknown (first :: later) row column token := by
  rw [flatMap_columnAt, List.filterMap_eq_append_iff] at split
  obtain ⟨searched, rest, hplaces, hbefore, hrest⟩ := split
  obtain ⟨skipped, ⟨row, column⟩, unsearched, rfl, hskipped, here, -⟩ :=
    List.filterMap_eq_cons_iff.mp hrest
  refine ⟨row, column, here, unknown, ?_⟩
  intro row' column' token' found earlier
  -- an earlier place stands before this one in the order of the search, so it has been searched
  have inside : (row', column') ∈ places first.length (first :: later).length := by
    rw [mem_places_iff]
    obtain ⟨tokens, htokens, htoken⟩ := Option.bind_eq_some_iff.mp found
    obtain ⟨hrow, rfl⟩ := List.getElem?_eq_some_iff.mp htokens
    obtain ⟨hcolumn, -⟩ := List.getElem?_eq_some_iff.mp htoken
    rw [aligned _ (List.getElem_mem hrow)] at hcolumn
    exact ⟨hrow, hcolumn⟩
  have sorted := pairwise_places first.length (first :: later).length
  rw [hplaces] at inside sorted
  rw [List.mem_append, List.mem_append, List.mem_cons] at inside
  rcases inside with mem | mem | same | mem
  · exact resolve token' (hbefore ▸ List.mem_filterMap.mpr ⟨_, mem, found⟩)
  · exact absurd (found.symm.trans (hskipped _ mem)) nofun
  · obtain ⟨rfl, rfl⟩ := Prod.mk.inj same
    omega
  · have order := (List.pairwise_cons.mp (List.pairwise_append.mp
      (List.pairwise_append.mp sorted).2.1).2.1).1 _ mem
    dsimp only at order
    omega

/-! ## Texts that are read alike -/

/-- How the outcomes for two lists of rows agree that differ in the case of letters. -/
inductive ReadAlike (rows rows' : List (List String)) :
    Except ScoreError Score → Except ScoreError Score → Prop
  /-- Two scores have the same sounds on the same beats and differ in volumes only. -/
  | score {score score' : Score} :
    score.plain = score'.plain → ReadAlike rows rows' (.ok score) (.ok score')
  /-- A line of another length is the same error in both. -/
  | misaligned (expected actual line : ℕ) :
    ReadAlike rows rows' (.error (.misaligned expected actual line))
      (.error (.misaligned expected actual line))
  /-- The unknown tokens are found at the same place. -/
  | unknown {row column : ℕ} {token token' : String} :
    FirstUnknown rows row column token → FirstUnknown rows' row column token' →
    EqUpToCase token token' →
    ReadAlike rows rows' (.error (.unknownSound token)) (.error (.unknownSound token'))

namespace Score

variable {first first' : List String} {later later' : List (List String)}

/-- Aligned rows are a score, or have a first token that is unknown. -/
theorem ofRows_ok_or_firstUnknown
    (aligned : misalignedRow? first.length (first :: later) = none) :
    (∃ score, ofRows (first :: later) = .ok score) ∨
      ∃ row column token, FirstUnknown (first :: later) row column token ∧
        ofRows (first :: later) = .error (.unknownSound token) := by
  rw [misalignedRow?_eq_none_iff] at aligned
  cases outcome : ofRows (first :: later) with
  | ok score => exact .inl ⟨score, rfl⟩
  | error error =>
    rw [ofRows_of_aligned aligned, ofColumns_eq_error_iff aligned] at outcome
    obtain ⟨before, token, after, split, resolve, unknown, rfl⟩ := outcome
    obtain ⟨row, column, place⟩ := exists_firstUnknown aligned split resolve unknown
    exact .inr ⟨row, column, token, place, rfl⟩

/-- Aligned rows are scores of the same sounds, or their first unknown tokens are at one place. -/
theorem readAlike_of_aligned
    (same : (first :: later).map (List.map asciiLower) =
      (first' :: later').map (List.map asciiLower))
    (aligned : misalignedRow? first.length (first :: later) = none)
    (aligned' : misalignedRow? first'.length (first' :: later') = none) :
    ReadAlike (first :: later) (first' :: later')
      (ofRows (first :: later)) (ofRows (first' :: later')) := by
  have plain : (ofRows (first :: later)).toOption.map Score.plain =
      (ofRows (first' :: later')).toOption.map Score.plain := by
    rw [← plain_ofRows_map_asciiLower, same, plain_ofRows_map_asciiLower]
  rcases ofRows_ok_or_firstUnknown aligned with ⟨score, read⟩ | ⟨row, column, token, place, read⟩
  · rcases ofRows_ok_or_firstUnknown aligned' with
      ⟨score', read'⟩ | ⟨row', column', token', place', read'⟩
    · rw [read, read'] at plain ⊢
      exact .score (Option.some.inj plain)
    · rw [read, read'] at plain
      cases plain
  · rcases ofRows_ok_or_firstUnknown aligned' with
      ⟨score', read'⟩ | ⟨row', column', token', place', read'⟩
    · rw [read, read'] at plain
      cases plain
    · have lowered := place.map_asciiLower
      rw [same] at lowered
      obtain ⟨rfl, rfl, upToCase⟩ := lowered.unique place'.map_asciiLower
      rw [read, read']
      exact .unknown place place' upToCase

/-- The first row of another length is the error. -/
theorem ofRows_of_misalignedRow? {row : List String} {line : ℕ}
    (found : misalignedRow? first.length (first :: later) = some (row, line)) :
    ofRows (first :: later) = .error (.misaligned first.length row.length line) := by
  simp only [ofRows, found]

/-- Rows whose tokens differ in the case of letters are read alike. -/
theorem readAlike_ofRows {rows rows' : List (List String)}
    (same : rows.map (List.map asciiLower) = rows'.map (List.map asciiLower)) :
    ReadAlike rows rows' (ofRows rows) (ofRows rows') := by
  match rows, rows' with
  | [], [] => exact .score rfl
  | [], _ :: _ | _ :: _, [] => cases same
  | first :: later, first' :: later' =>
    have width : first.length = first'.length := by
      simpa using congrArg List.length (List.cons.inj same).1
    have misaligned : (misalignedRow? first.length (first :: later)).map
          (Prod.map (List.map asciiLower) id) =
        (misalignedRow? first'.length (first' :: later')).map
          (Prod.map (List.map asciiLower) id) := by
      rw [← misalignedRow?_map, same, misalignedRow?_map, width]
    cases found : misalignedRow? first.length (first :: later) with
    | some entry =>
      obtain ⟨row, line⟩ := entry
      rw [found, Option.map_some, eq_comm, Option.map_eq_some_iff] at misaligned
      obtain ⟨⟨row', line'⟩, found', pair⟩ := misaligned
      obtain ⟨tokens, number⟩ := Prod.mk.inj pair
      obtain rfl : line = line' := number.symm
      have length : row'.length = row.length := by simpa using congrArg List.length tokens
      rw [ofRows_of_misalignedRow? found, ofRows_of_misalignedRow? found', width, length]
      exact .misaligned ..
    | none =>
      rw [found, Option.map_none, eq_comm, Option.map_eq_none_iff] at misaligned
      exact readAlike_of_aligned same found misaligned

/-- Texts that differ in the case of letters are read alike. -/
theorem readAlike_ofText {text text' : String} (same : EqUpToCase text text') :
    ReadAlike (tokenRows text.toList) (tokenRows text'.toList) (ofText text) (ofText text') :=
  readAlike_ofRows same.map_tokenRows

end Score

end Percussion
