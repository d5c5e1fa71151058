import Percussion.Proofs.SideBySide

/-!
# One more voice

A line that is added to a text is one more voice. In each column its token joins those of the other
lines at its place among them, so each beat of the new score has the hits of the beat before, with
those of the voice somewhere in between (`Score.Joined`). The voice does not move what others start:
the starts of the new score are those of the old one and those of the voice, each in their order.
-/

namespace Percussion

/-- `both` has the entries of two lists and no others, those of each list in their order. -/
inductive Interleaves {α : Type} : (first second both : List α) → Prop
  | nil : Interleaves [] [] []
  | first {entry : α} {first second both : List α} :
    Interleaves first second both → Interleaves (entry :: first) second (entry :: both)
  | second {entry : α} {first second both : List α} :
    Interleaves first second both → Interleaves first (entry :: second) (entry :: both)

/-- The tokens of a line. -/
def tokens (line : List Char) : List String := (Text.words line).map String.ofList

/-- The text with one more line, before line number `position`, counted from 0. -/
def withLine (text : String) (position : ℕ) (line : String) : String :=
  let lines := Text.lines text.toList
  String.ofList (['\n'].intercalate (lines.take position ++ line.toList :: lines.drop position))

/-- The events at which something starts. -/
def startsOf (events : List Event) : List Event :=
  events.filter fun event => event.kind = .start

/-! ## Interleaved lists -/

namespace Interleaves

variable {α : Type} {first second both first' second' both' : List α}

/-- Two interleavings, one after the other, interleave what is one after the other. -/
theorem append (h : Interleaves first second both) (h' : Interleaves first' second' both') :
    Interleaves (first ++ first') (second ++ second') (both ++ both') := by
  induction h with
  | nil => exact h'
  | first _ ih => exact .first ih
  | second _ ih => exact .second ih

theorem only_first (entries : List α) : Interleaves entries [] entries := by
  induction entries with
  | nil => exact .nil
  | cons entry entries ih => exact .first ih

theorem only_second (entries : List α) : Interleaves [] entries entries := by
  induction entries with
  | nil => exact .nil
  | cons entry entries ih => exact .second ih

/-- What is added in the middle interleaves with what is around it. -/
theorem middle (above added below : List α) :
    Interleaves (above ++ below) added (above ++ added ++ below) := by
  have all := ((only_first above).append (only_second added)).append (only_first below)
  rw [List.append_nil, List.nil_append, List.append_nil] at all
  exact all

theorem flatMap {β : Type} {f g h : β → List α} {indices : List β}
    (each : ∀ index, Interleaves (f index) (g index) (h index)) :
    Interleaves (indices.flatMap f) (indices.flatMap g) (indices.flatMap h) := by
  induction indices with
  | nil => exact .nil
  | cons index indices ih => exact (each index).append ih

end Interleaves

/-! ## One more line -/

theorem rdropWhile_append_cons {α : Type} {p : α → Bool} {entry : α} (keep : ¬ p entry)
    (above below : List α) :
    (above ++ entry :: below).rdropWhile p = above ++ entry :: below.rdropWhile p := by
  induction below using List.reverseRecOn with
  | nil => exact List.rdropWhile_concat_neg p above entry keep
  | append_singleton below last ih =>
    rw [← List.cons_append, ← List.append_assoc, List.rdropWhile_concat, List.rdropWhile_concat, ih]
    split <;> simp

/-- What is kept of a list is kept if the list is cut somewhere inside. -/
theorem rdropWhile_append_of_le {α : Type} {p : α → Bool} {above below : List α}
    (inside : above.length ≤ ((above ++ below).rdropWhile p).length) :
    (above ++ below).rdropWhile p = above ++ below.rdropWhile p := by
  induction below using List.reverseRecOn with
  | nil =>
    rw [List.append_nil] at inside ⊢
    rw [(List.rdropWhile_prefix p above).eq_of_length_le inside, List.rdropWhile_nil,
      List.append_nil]
  | append_singleton below last ih =>
    rw [← List.append_assoc, List.rdropWhile_concat] at inside ⊢
    rw [List.rdropWhile_concat]
    split at inside
    · next drop => rw [if_pos drop, if_pos drop, ih inside]
    · next keep => rw [if_neg keep, if_neg keep, List.append_assoc]

section Lines

variable {text line : String} {position : ℕ}

theorem tokenRows_of_line (plain : ∀ c ∈ line.toList, c ≠ '\n') (ne : tokens line.toList ≠ []) :
    tokenRows line.toList = [tokens line.toList] := by
  unfold tokens at ne
  rw [tokenRows_eq_map, writtenLines, Text.lines_eq_singleton plain, List.rdropWhile_singleton,
    if_neg]
  · rfl
  · simpa using ne

/-- A line that is inserted stands between the lines above and below it. -/
theorem lines_withLine (text : String) (position : ℕ) (plain : ∀ c ∈ line.toList, c ≠ '\n') :
    Text.lines (withLine text position line).toList =
      (Text.lines text.toList).take position ++
        line.toList :: (Text.lines text.toList).drop position := by
  have unbroken : ∀ other ∈ (Text.lines text.toList).take position ++
      line.toList :: (Text.lines text.toList).drop position, ∀ c ∈ other, c ≠ '\n' := by
    rw [List.forall_mem_append, List.forall_mem_cons]
    exact ⟨fun _ h => Text.ne_feed_of_mem_lines (List.mem_of_mem_take h), plain,
      fun _ h => Text.ne_feed_of_mem_lines (List.mem_of_mem_drop h)⟩
  unfold withLine
  rw [String.toList_ofList, Text.lines_intercalate unbroken (by simp)]

/-- The tokens of the new line stand before those of the line that was there. -/
theorem tokenRows_withLine (plain : ∀ c ∈ line.toList, c ≠ '\n') (ne : tokens line.toList ≠ [])
    (inside : position ≤ (tokenRows text.toList).length) :
    ∃ before after, tokenRows text.toList = before ++ after ∧ before.length = position ∧
      tokenRows (withLine text position line).toList = before ++ tokens line.toList :: after := by
  have rows (text : List Char) :
      tokenRows text = ((Text.lines text).map tokens).rdropWhile (·.isEmpty) := rfl
  have cut : tokenRows text.toList = (((Text.lines text.toList).take position).map tokens ++
      ((Text.lines text.toList).drop position).map tokens).rdropWhile (·.isEmpty) := by
    rw [← List.map_append, List.take_append_drop, rows]
  have length : (((Text.lines text.toList).take position).map tokens).length = position := by
    have all := (List.rdropWhile_prefix (·.isEmpty) ((Text.lines text.toList).map tokens)).length_le
    rw [← rows, List.length_map] at all
    rw [List.length_map, List.length_take_of_le (inside.trans all)]
  refine ⟨_, (((Text.lines text.toList).drop position).map tokens).rdropWhile (·.isEmpty), ?_,
    length, ?_⟩
  · rw [cut] at inside ⊢
    exact rdropWhile_append_of_le (length.le.trans inside)
  · rw [rows, lines_withLine text position plain, List.map_append, List.map_cons,
      rdropWhile_append_cons]
    simpa using ne

end Lines

/-! ## One more token in each column -/

theorem columnAt_append (rows later : List (List String)) (column : ℕ) :
    columnAt (rows ++ later) column = columnAt rows column ++ columnAt later column :=
  List.filterMap_append

/-- The hits of a column are those of its upper part and then those of its lower part. -/
theorem isBeatOf_append_iff {column later : List String} {beat : Beat} :
    IsBeatOf (column ++ later) beat ↔
      ∃ above below, beat.hits = above ++ below ∧ IsBeatOf column ⟨above⟩ ∧
        IsBeatOf later ⟨below⟩ := by
  unfold IsBeatOf
  rw [List.filter_append]
  constructor
  · intro h
    have above := List.forall₂_take (column.filter (· ≠ restToken)).length h
    have below := List.forall₂_drop (column.filter (· ≠ restToken)).length h
    rw [List.take_left] at above
    rw [List.drop_left] at below
    exact ⟨_, _, (List.take_append_drop _ _).symm, above, below⟩
  · intro h
    obtain ⟨above, below, hits, habove, hbelow⟩ := h
    rw [hits]
    exact List.rel_append habove hbelow

/-- More tokens in the middle of a column are more hits in the middle of its beat. -/
theorem IsBeatOf.exists_insert {before added after : List String} {beat voice : Beat}
    (h : IsBeatOf (before ++ after) beat) (h' : IsBeatOf added voice) :
    ∃ above below, IsBeatOf before ⟨above⟩ ∧ beat.hits = above ++ below ∧
      IsBeatOf (before ++ added ++ after) ⟨above ++ voice.hits ++ below⟩ := by
  obtain ⟨above, below, hits, habove, hbelow⟩ := isBeatOf_append_iff.mp h
  refine ⟨above, below, habove, hits, ?_⟩
  rw [isBeatOf_append_iff]
  exact ⟨_, _, rfl, isBeatOf_append_iff.mpr ⟨_, _, rfl, habove, h'⟩, hbelow⟩

/-- One line has at most one hit on each beat. -/
theorem IsBeatOf.length_hits_le_one {row : List String} {column : ℕ} {beat : Beat}
    (h : IsBeatOf (columnAt [row] column) beat) : beat.hits.length ≤ 1 := by
  unfold IsBeatOf at h
  rw [← h.length_eq]
  exact (List.length_filter_le _ _).trans (List.length_filterMap_le _ [row])

theorem IsBeatOf.hits_eq_nil {column : List String} {beat : Beat} (h : IsBeatOf column beat)
    (rests : ∀ token ∈ column, token = restToken) : beat.hits = [] := by
  unfold IsBeatOf at h
  rw [List.filter_eq_nil_iff.mpr] at h
  · exact List.forall₂_nil_left_iff.mp h
  · simpa using rests

namespace Score

variable {score voice both : Score}

/-- Rows are a score if all of them have its size, and each of its beats is their column. -/
theorem ofRows_eq_ok_iff {rows : List (List String)} (ne : rows ≠ []) :
    ofRows rows = .ok score ↔
      (∀ row ∈ rows, row.length = score.size) ∧
        ∀ n < score.size, IsBeatOf (columnAt rows n) (score.beatAt n) := by
  rw [ofRows_eq_iff]
  constructor
  · intro means
    cases means with
    | empty => exact absurd rfl ne
    | @score first later _ aligned beats =>
      have size : first.length = score.size := by
        have length := beats.length_eq
        rwa [List.length_range] at length
      refine ⟨size ▸ aligned_cons_iff.mpr aligned, ?_⟩
      intro n hn
      have beat := beats.get (by rwa [List.length_range, size]) hn
      rw [List.get_eq_getElem, List.get_eq_getElem, List.getElem_range] at beat
      rw [beatAt_of_lt hn]
      exact beat
  · intro ⟨aligned, beats⟩
    obtain ⟨first, later, rfl⟩ := List.exists_cons_of_ne_nil ne
    rw [List.forall_mem_cons] at aligned
    refine .score ?_ ?_
    · rw [aligned.1]
      exact aligned.2
    · rw [aligned.1, List.forall₂_iff_get]
      refine ⟨List.length_range, ?_⟩
      intro n _ hn
      have beat := beats n hn
      rw [beatAt_of_lt hn] at beat
      rw [List.get_eq_getElem, List.get_eq_getElem, List.getElem_range]
      exact beat

/-- The beats of a line alone are its tokens. -/
theorem isBeatOf_of_line {row : List String} (alone : ofRows [row] = .ok voice) {n : ℕ}
    (hn : n < voice.size) : IsBeatOf (columnAt [row] n) (voice.beatAt n) :=
  ((ofRows_eq_ok_iff (List.cons_ne_nil row [])).mp alone).2 n hn

/-- A score is made of beats, one for each number. -/
theorem exists_of_beats {size : ℕ} {p : ℕ → Beat → Prop} (each : ∀ n < size, ∃ beat, p n beat) :
    ∃ score : Score, score.size = size ∧ ∀ n < size, p n (score.beatAt n) := by
  choose beat hbeat using each
  have length : Score.size ⟨List.ofFn fun n : Fin size => beat n n.isLt⟩ = size := List.length_ofFn
  refine ⟨_, length, ?_⟩
  intro n hn
  rw [beatAt, length, Nat.mod_eq_of_lt hn, List.getD_eq_getElem _ _ (by rwa [List.length_ofFn]),
    List.getElem_ofFn]
  exact hbeat n hn

/-- One more row is one more voice, whose hits stand between those of the rows above and below. -/
theorem exists_ofRows_insert {before after : List (List String)} {row : List String}
    (read : ofRows (before ++ after) = .ok score) (beats : 0 < score.size)
    (width : row.length = score.size) (resolve : ∀ token ∈ row, Resolves token) :
    ∃ voice both, ofRows [row] = .ok voice ∧ ofRows (before ++ row :: after) = .ok both ∧
      voice.size = score.size ∧ both.size = score.size ∧
      ∀ n < score.size, ∃ above below, IsBeatOf (columnAt before n) ⟨above⟩ ∧
        (score.beatAt n).hits = above ++ below ∧
        (both.beatAt n).hits = above ++ (voice.beatAt n).hits ++ below := by
  have ne : before ++ after ≠ [] := by
    intro empty
    rw [empty] at read
    obtain rfl := Except.ok.inj read
    exact absurd beats (Nat.lt_irrefl 0)
  rw [ofRows_eq_ok_iff ne] at read
  obtain ⟨aligned, column⟩ := read
  obtain ⟨voice, alone, size⟩ := @exists_ofRows_eq_ok row [] (by simp) (by simpa using resolve)
  rw [width] at size
  -- the beats are settled one by one, and make up a score that is read from the rows
  have joined : ∀ n < score.size, ∃ beat, IsBeatOf (columnAt (before ++ row :: after) n) beat ∧
      ∃ above below, IsBeatOf (columnAt before n) ⟨above⟩ ∧
        (score.beatAt n).hits = above ++ below ∧
        beat.hits = above ++ (voice.beatAt n).hits ++ below := by
    intro n hn
    have beat := column n hn
    rw [columnAt_append] at beat
    obtain ⟨above, below, habove, hits, inserted⟩ :=
      beat.exists_insert (isBeatOf_of_line alone (size.symm ▸ hn))
    rw [← columnAt_append, ← columnAt_append, ← List.append_cons] at inserted
    exact ⟨_, inserted, above, below, habove, hits, rfl⟩
  obtain ⟨both, size', each⟩ := exists_of_beats joined
  refine ⟨voice, both, alone, ?_, size, size', ?_⟩
  · rw [ofRows_eq_ok_iff (by simp), size']
    constructor
    · rw [List.forall_mem_append] at aligned ⊢
      rw [List.forall_mem_cons]
      exact ⟨aligned.1, width, aligned.2⟩
    · exact fun n hn => (each n hn).1
  · exact fun n hn => (each n hn).2

/-! ## Starts -/

/-- One score has the beats of two, with the hits of the second somewhere among those of the
first. -/
structure Joined (score voice both : Score) : Prop where
  size : both.size = score.size
  hits : ∀ n, ∃ above below, (score.beatAt n).hits = above ++ below ∧
    (both.beatAt n).hits = above ++ (voice.beatAt n).hits ++ below

theorem beatAt_mod (score : Score) (n : ℕ) : score.beatAt (n % score.size) = score.beatAt n := by
  rw [beatAt, beatAt, Nat.mod_mod]

/-- What is true of each beat is true again and again. -/
theorem joined_of_lt (sounds : 0 < score.size) (size : voice.size = score.size)
    (size' : both.size = score.size)
    (hits : ∀ n < score.size, ∃ above below, (score.beatAt n).hits = above ++ below ∧
      (both.beatAt n).hits = above ++ (voice.beatAt n).hits ++ below) :
    Joined score voice both where
  size := size'
  hits := by
    intro n
    have once := hits (n % score.size) (Nat.mod_lt n sounds)
    have voice := voice.beatAt_mod n
    have both := both.beatAt_mod n
    rw [size] at voice
    rw [size'] at both
    rwa [beatAt_mod, voice, both] at once

/-- A voice of rests is silent. -/
theorem hits_eq_nil_of_rests {row : List String} (alone : ofRows [row] = .ok voice)
    (beats : 0 < voice.size) (rests : ∀ token ∈ row, token = restToken) (n : ℕ) :
    (voice.beatAt n).hits = [] := by
  have beat := isBeatOf_of_line alone (Nat.mod_lt n beats)
  rw [beatAt_mod] at beat
  apply beat.hits_eq_nil
  intro token htoken
  obtain ⟨only, honly, found⟩ := List.mem_filterMap.mp htoken
  rw [List.mem_singleton.mp honly] at found
  exact rests token (List.mem_of_getElem? found)

/-- A score is told by its size and its beats. -/
theorem eq_of_beatAt {score score' : Score} (size : score'.size = score.size)
    (beats : ∀ n, score'.beatAt n = score.beatAt n) : score' = score := by
  have all : score'.beats = score.beats := by
    rw [← score'.map_beatAt 0, ← score.map_beatAt 0, size]
    simp only [beats]
  exact congrArg Score.mk all

/-- The hits of a beat start together. -/
theorem startsOf_block (ticks start : ℕ) (beat : Beat) :
    startsOf (beat.block ticks start) =
      beat.hits.map fun hit => ⟨.start, hit, Tick.ofNat start⟩ := by
  rw [startsOf, Beat.block, List.filter_append, List.filter_eq_self.mpr, List.filter_eq_nil_iff.mpr,
    List.append_nil]
  · intro event hevent
    obtain ⟨_, _, rfl⟩ := List.mem_map.mp hevent
    exact of_decide_eq_false rfl
  · simp

/-- The hits of each beat start where the beat does. -/
theorem startsOf_schedule (score : Score) (ticks count : ℕ) :
    startsOf (score.schedule ticks count) = (List.range count).flatMap fun n =>
      (score.beatAt n).hits.map fun hit => ⟨.start, hit, Tick.ofNat (n * ticks)⟩ := by
  rw [startsOf, schedule, List.filter_flatMap]
  exact congrArg (List.range count).flatMap (funext fun n => startsOf_block _ _ _)

namespace Joined

/-- What starts in a score with a voice added is what starts in the score and what starts in the
voice, in turn. -/
theorem interleaves (h : Joined score voice both) (ticks count : ℕ) :
    Interleaves (startsOf (score.schedule ticks count)) (startsOf (voice.schedule ticks count))
      (startsOf (both.schedule ticks count)) := by
  rw [startsOf_schedule, startsOf_schedule, startsOf_schedule]
  apply Interleaves.flatMap
  intro n
  obtain ⟨above, below, hits, hits'⟩ := h.hits n
  rw [hits, hits', List.map_append, List.map_append, List.map_append]
  exact .middle _ _ _

/-- A voice that is silent adds nothing. -/
theorem eq_of_silent (h : Joined score voice both) (silent : ∀ n, (voice.beatAt n).hits = []) :
    both = score := by
  apply eq_of_beatAt h.size
  intro n
  obtain ⟨above, below, hits, hits'⟩ := h.hits n
  rw [silent, List.append_nil, ← hits] at hits'
  exact congrArg Beat.mk hits'

end Joined

/-! ## The added voice -/

variable {text line : String} {position : ℕ}

/-- **A voice leaves the others alone.** Let a line with a sound or a rest for each beat be added
anywhere among the lines of a text. It is a text of its own, and the text with it has a score of the
same size: on each beat the hits of the lines above, at most one hit of the new line, and the hits
of the lines below. However it is played, it is as long as before, and its starts are the ones from
before and those of the new line, each in their order and at their ticks. A line of rests changes
nothing. -/
theorem render_withLine (read : ofText text = .ok score) (sounds : 0 < score.size)
    (plain : '\n' ∉ line.toList) (width : (tokens line.toList).length = score.size)
    (resolve : ∀ token ∈ tokens line.toList, Resolves token)
    (inside : position ≤ (tokenRows text.toList).length) :
    ∃ voice both, ofText line = .ok voice ∧ ofText (withLine text position line) = .ok both ∧
      both.size = score.size ∧
      (∀ n < score.size, ∃ above below,
        IsBeatOf (columnAt ((tokenRows text.toList).take position) n) ⟨above⟩ ∧
        (score.beatAt n).hits = above ++ below ∧
        (both.beatAt n).hits = above ++ (voice.beatAt n).hits ++ below ∧
        (voice.beatAt n).hits.length ≤ 1) ∧
      ((∀ token ∈ tokens line.toList, token = restToken) → both = score) ∧
      ∀ playing : Playing, playing.tempo ≠ 0 → ∃ sequence added sequence',
        score.render playing = .ok sequence ∧ voice.render playing = .ok added ∧
        both.render playing = .ok sequence' ∧ sequence'.length = sequence.length ∧
        Interleaves (startsOf sequence.events) (startsOf added.events)
          (startsOf sequence'.events) ∧
        ((∀ token ∈ tokens line.toList, token = restToken) → sequence' = sequence) := by
  have ne : tokens line.toList ≠ [] := by
    rw [← List.length_pos_iff, width]
    exact sounds
  rw [← List.forall_mem_ne'] at plain
  -- with a token on it the line is a row of its own, among the rows above and below it
  obtain ⟨before, after, rows, rfl, rows'⟩ := tokenRows_withLine plain ne inside
  rw [ofText, rows] at read
  obtain ⟨voice, both, alone, together, size, size', each⟩ :=
    exists_ofRows_insert read sounds width resolve
  -- that the score is joined with the voice is all that the playing needs
  have joined : Joined score voice both := by
    apply joined_of_lt sounds size size'
    intro n hn
    obtain ⟨above, below, _, hits, hits'⟩ := each n hn
    exact ⟨above, below, hits, hits'⟩
  have unchanged (rests : ∀ token ∈ tokens line.toList, token = restToken) : both = score :=
    joined.eq_of_silent (hits_eq_nil_of_rests alone (size.symm ▸ sounds) rests)
  refine ⟨voice, both, ?_, ?_, size', ?_, unchanged, ?_⟩
  · rw [ofText, tokenRows_of_line plain ne, alone]
  · rw [ofText, rows', together]
  · intro n hn
    obtain ⟨above, below, habove, hits, hits'⟩ := each n hn
    have one := (isBeatOf_of_line alone (size.symm ▸ hn)).length_hits_le_one
    rw [rows, List.take_left]
    exact ⟨above, below, habove, hits, hits', one⟩
  · intro playing accepted
    refine ⟨_, _, _, score.render_eq_ok accepted, voice.render_eq_ok accepted,
      both.render_eq_ok accepted, ?_, ?_, ?_⟩
    · rw [size']
    · rw [size, size']
      exact joined.interleaves _ _
    · intro rests
      rw [unchanged rests]

/-- A line between two others, with a rest where one of them has a hit. -/
theorem render_withLine_between :
    withLine "boom . tik\r\nchik . . \n\n" 1 " . KAH\tboom" =
      "boom . tik\r\n . KAH\tboom\nchik . . \n\n" ∧
    ∃ both sequence',
      ofText (withLine "boom . tik\r\nchik . . \n\n" 1 " . KAH\tboom") = .ok both ∧
      both.render ⟨120, 1, ⟨5, by decide⟩⟩ = .ok sequence' ∧ sequence'.length = .ofNat 15 ∧
      Interleaves
        [⟨.start, ⟨.boom, .normal⟩, .ofNat 0⟩, ⟨.start, ⟨.chik, .normal⟩, .ofNat 0⟩,
          ⟨.start, ⟨.tik, .normal⟩, .ofNat 10⟩]
        [⟨.start, ⟨.kah, .accented⟩, .ofNat 5⟩, ⟨.start, ⟨.boom, .normal⟩, .ofNat 10⟩]
        (startsOf sequence'.events) := by
  have read : ofText "boom . tik\r\nchik . . \n\n" = .ok ⟨[
      ⟨[⟨.boom, .normal⟩, ⟨.chik, .normal⟩]⟩, ⟨[]⟩, ⟨[⟨.tik, .normal⟩]⟩]⟩ := by
    decide +kernel
  have read' : ofText " . KAH\tboom" = .ok ⟨[
      ⟨[]⟩, ⟨[⟨.kah, .accented⟩]⟩, ⟨[⟨.boom, .normal⟩]⟩]⟩ := by
    decide +kernel
  obtain ⟨voice, both, alone, together, _, _, _, played⟩ :=
    @render_withLine _ _ " . KAH\tboom" 1 read (by decide) (by decide) (by decide +kernel)
      (by decide +kernel) (by decide +kernel)
  rw [read', Except.ok.injEq] at alone
  subst alone
  obtain ⟨_, _, sequence', rendered, rendered', rendered'', length, starts, _⟩ :=
    played ⟨120, 1, ⟨5, by decide⟩⟩ (by decide)
  obtain rfl := Except.ok.inj rendered
  obtain rfl := Except.ok.inj rendered'
  exact ⟨by decide +kernel, both, sequence', together, rendered'', length, starts⟩

end Score

end Percussion
