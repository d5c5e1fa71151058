import Percussion.Proofs.Layout
import Percussion.Proofs.SameFile
import Percussion.Command.Run

/-!
# Listings, read back

An inspection is lists in lists, and only what stands in front of a line tells where an item, a list
or the list around it ends. Lines can be read back from a text (`Text.lines_written`). An item is
over where a line does not go further to the right, and a list where a line does not begin with a
dash either; what was written before that point can be told from what comes after it
(`Yaml.listItem_append_inj`, `Yaml.flatMap_listItem_append_inj`). With this, two inspections are the
same text only if all that is shown is the same (`inspection_eq_iff`).
-/

namespace Percussion

/-! ## Lines -/

namespace Text

/-- Whether a text is one line, without its end. -/
def IsLine (text : String) : Prop := '\n' ∉ text.toList

instance (text : String) : Decidable (IsLine text) :=
  inferInstanceAs (Decidable ('\n' ∉ text.toList))

theorem IsLine.append {text more : String} (h : IsLine text) (h' : IsLine more) :
    IsLine (text ++ more) := by
  unfold IsLine at h h' ⊢
  rw [String.toList_append, List.mem_append, not_or]
  exact ⟨h, h'⟩

theorem toList_toString (n : ℕ) : (toString n).toList = Nat.toDigits 10 n := by
  show (String.ofList (Nat.toDigits 10 n)).toList = Nat.toDigits 10 n
  rw [String.toList_ofList]

/-- A numeral is one line. -/
theorem isLine_toString (n : ℕ) : IsLine (toString n) := by
  unfold IsLine
  rw [toList_toString]
  intro feed
  have digit : '\n'.isDigit = true := Nat.isDigit_of_mem_toDigits (by decide) (by decide) feed
  cases digit

/-- Numbers are told by their numerals. -/
theorem toString_injective : Function.Injective (toString : ℕ → String) := by
  intro n m same
  have digits : Nat.toDigits 10 n = Nat.toDigits 10 m := by
    rw [← toList_toString, ← toList_toString, same]
  rw [← @Nat.ofDigitChars_ten_toDigits n, digits, Nat.ofDigitChars_ten_toDigits]

/-- Lines that are written one under the other are read back, before the empty rest. -/
theorem lines_written {written : List String} (h : ∀ line ∈ written, IsLine line) :
    lines (String.join (written.map (· ++ "\n"))).toList = written.map String.toList ++ [[]] := by
  rw [String.toList_join, List.flatMap_map]
  induction written with
  | nil => rfl
  | cons line written ih =>
    have plain : ∀ c ∈ line.toList, c ≠ '\n' := by
      intro c hc feed
      subst feed
      exact h line (List.mem_cons_self ..) hc
    have feed : (line ++ "\n").toList = line.toList ++ ['\n'] := by
      rw [String.toList_append]
      rfl
    rw [List.flatMap_cons, feed, List.append_assoc, List.singleton_append,
      lines_append_feed plain, ih fun l hl => h l (List.mem_cons_of_mem _ hl)]
    rfl

/-- Lines can be told from the text in which they stand one under the other. -/
theorem written_inj {written written' : List String} (h : ∀ line ∈ written, IsLine line)
    (h' : ∀ line ∈ written', IsLine line)
    (same : String.join (written.map (· ++ "\n")) = String.join (written'.map (· ++ "\n"))) :
    written = written' := by
  have read := congrArg (fun text : String => lines text.toList) same
  simp only [lines_written h, lines_written h'] at read
  have rows := List.append_cancel_right read
  exact List.map_injective_iff.mpr (fun _ _ => String.toList_injective) rows

/-- Texts with different first characters differ. -/
theorem ne_of_head? {text other : String} (h : text.toList.head? ≠ other.toList.head?) :
    text ≠ other := by
  intro same
  rw [same] at h
  exact h rfl

end Text

/-! ## Lists -/

namespace Yaml

open Text

/-- No item goes on with these lines: there are none, or the first does not stand further to the
right. -/
def EndsItem (lines : List String) : Prop := ∀ line ∈ lines.head?, ∀ text, line ≠ "  " ++ text

/-- No list goes on with these lines: they do not go on with its last item, nor do they begin
another. -/
def EndsList (lines : List String) : Prop :=
  EndsItem lines ∧ ∀ line ∈ lines.head?, ∀ text, line ≠ "- " ++ text

theorem endsList_nil : EndsList [] := ⟨nofun, nofun⟩

/-- A line that begins with neither a space nor a dash ends a list. -/
theorem endsList_cons {line : String} (space : line.toList.head? ≠ some ' ')
    (dash : line.toList.head? ≠ some '-') (lines : List String) : EndsList (line :: lines) := by
  constructor
  · intro first hfirst text
    obtain rfl := Option.some.inj hfirst
    apply ne_of_head?
    simpa using space
  · intro first hfirst text
    obtain rfl := Option.some.inj hfirst
    apply ne_of_head?
    simpa using dash

/-- A new item ends the one before it. -/
theorem endsItem_flatMap {items : List (List String)} (ne : ∀ item ∈ items, item ≠ [])
    {more : List String} (ends : EndsList more) : EndsItem (items.flatMap listItem ++ more) := by
  cases items with
  | nil => exact ends.1
  | cons item items =>
    obtain ⟨first, rest, rfl⟩ := List.exists_cons_of_ne_nil (ne item (List.mem_cons_self ..))
    intro line hline text
    obtain rfl := Option.some.inj hline
    apply ne_of_head?
    simp

/-- Lines that are moved to the right can be told from those that are not. -/
theorem indented_append_inj {rest rest' more more' : List String} (ends : EndsItem more)
    (ends' : EndsItem more')
    (same : rest.map ("  " ++ ·) ++ more = rest'.map ("  " ++ ·) ++ more') :
    rest = rest' ∧ more = more' := by
  -- where only one of the lists goes on, its line stands further to the right than the other's end
  induction rest generalizing rest' with
  | nil =>
    cases rest' with
    | nil => exact ⟨rfl, same⟩
    | cons line rest' =>
      rw [List.map_nil, List.nil_append] at same
      exact absurd rfl (ends ("  " ++ line) (by rw [same]; rfl) line)
  | cons line rest ih =>
    cases rest' with
    | nil =>
      rw [List.map_nil, List.nil_append] at same
      exact absurd rfl (ends' ("  " ++ line) (by rw [← same]; rfl) line)
    | cons line' rest' =>
      simp only [List.map_cons, List.cons_append, List.cons.injEq, String.append_right_inj] at same
      obtain ⟨rfl, same⟩ := same
      obtain ⟨rfl, rfl⟩ := ih same
      exact ⟨rfl, rfl⟩

/-- An item can be told from what comes after it. -/
theorem listItem_append_inj {item item' more more' : List String} (ne : item ≠ [])
    (ne' : item' ≠ []) (ends : EndsItem more) (ends' : EndsItem more')
    (same : listItem item ++ more = listItem item' ++ more') : item = item' ∧ more = more' := by
  obtain ⟨first, rest, rfl⟩ := List.exists_cons_of_ne_nil ne
  obtain ⟨first', rest', rfl⟩ := List.exists_cons_of_ne_nil ne'
  simp only [listItem, List.cons_append, List.cons.injEq, String.append_right_inj] at same
  obtain ⟨rfl, same⟩ := same
  obtain ⟨rfl, rfl⟩ := indented_append_inj ends ends' same
  exact ⟨rfl, rfl⟩

/-- The items of a list can be told from each other, and from what comes after them. -/
theorem flatMap_listItem_append_inj {items items' : List (List String)}
    (ne : ∀ item ∈ items, item ≠ []) (ne' : ∀ item ∈ items', item ≠ []) {more more' : List String}
    (ends : EndsList more) (ends' : EndsList more')
    (same : items.flatMap listItem ++ more = items'.flatMap listItem ++ more') :
    items = items' ∧ more = more' := by
  -- where only one of the lists has an item left, its dash would be in the lines after the other
  have dash {item : List String} (some : item ≠ []) {others : List (List String)}
      {after after' : List String} (ends : EndsList after) :
      after ≠ (item :: others).flatMap listItem ++ after' := by
    intro same
    obtain ⟨first, rest, rfl⟩ := List.exists_cons_of_ne_nil some
    exact absurd rfl (ends.2 ("- " ++ first) (by rw [same]; rfl) first)
  induction items generalizing items' with
  | nil =>
    cases items' with
    | nil => exact ⟨rfl, same⟩
    | cons item' items' => exact absurd same (dash (ne' item' (List.mem_cons_self ..)) ends)
  | cons item items ih =>
    cases items' with
    | nil => exact absurd same.symm (dash (ne item (List.mem_cons_self ..)) ends')
    | cons item' items' =>
      rw [List.forall_mem_cons] at ne ne'
      rw [List.flatMap_cons, List.flatMap_cons, List.append_assoc, List.append_assoc] at same
      obtain ⟨rfl, later⟩ := listItem_append_inj ne.1 ne'.1 (endsItem_flatMap ne.2 ends)
        (endsItem_flatMap ne'.2 ends') same
      obtain ⟨rfl, rfl⟩ := ih ne.2 ne'.2 later
      exact ⟨rfl, rfl⟩

/-- A list inside of an item has a line even if it is empty. -/
theorem nestedList_ne_nil {items : List (List String)} (ne : ∀ item ∈ items, item ≠ []) :
    nestedList items ≠ [] := by
  cases items with
  | nil => nofun
  | cons item items =>
    obtain ⟨first, rest, rfl⟩ := List.exists_cons_of_ne_nil (ne item (List.mem_cons_self ..))
    nofun

/-- A list inside of an item tells its items. Without items it is one line that begins with neither a
space nor a dash. -/
theorem nestedList_inj {items items' : List (List String)} (ne : ∀ item ∈ items, item ≠ [])
    (ne' : ∀ item ∈ items', item ≠ []) (same : nestedList items = nestedList items') :
    items = items' := by
  have lines {list : List (List String)} (ne : ∀ item ∈ list, item ≠ []) :
      ∃ more, nestedList list = list.flatMap listItem ++ more ∧ EndsList more := by
    cases list with
    | nil => exact ⟨["[]"], rfl, endsList_cons (by decide) (by decide) []⟩
    | cons item list => exact ⟨[], (List.append_nil _).symm, endsList_nil⟩
  -- so both are items and what ends a list, the line of an empty list included
  obtain ⟨more, written, ends⟩ := lines ne
  obtain ⟨more', written', ends'⟩ := lines ne'
  rw [written, written'] at same
  exact (flatMap_listItem_append_inj ne ne' ends ends' same).1

/-- A list under a key can be told from what comes after it. -/
theorem keyedList_append_inj {key : String} {items items' : List (List String)}
    (ne : ∀ item ∈ items, item ≠ []) (ne' : ∀ item ∈ items', item ≠ []) {more more' : List String}
    (ends : EndsList more) (ends' : EndsList more')
    (same : keyedList key items ++ more = keyedList key items' ++ more') :
    items = items' ∧ more = more' := by
  -- the line of the key tells whether there are items
  have empty : key ++ ": []" ≠ key ++ ":" := by
    intro head
    have colon := congrArg String.toList ((String.append_right_inj key).mp head)
    exact absurd colon (by decide)
  cases items with
  | nil =>
    cases items' with
    | nil => exact ⟨rfl, (List.cons.inj same).2⟩
    | cons item' items' => exact absurd (List.cons.inj same).1 empty
  | cons item items =>
    cases items' with
    | nil => exact absurd (List.cons.inj same).1.symm empty
    | cons item' items' =>
      exact flatMap_listItem_append_inj ne ne' ends ends' (List.cons.inj same).2

/-- The lines of a list are lines if those of its items are. -/
theorem isLine_of_mem_flatMap {items : List (List String)}
    (h : ∀ item ∈ items, ∀ line ∈ item, IsLine line) {line : String}
    (mem : line ∈ items.flatMap listItem) : IsLine line := by
  rw [List.mem_flatMap] at mem
  obtain ⟨item, hitem, hline⟩ := mem
  have h := h item hitem
  cases item with
  | nil => cases hline
  | cons first rest =>
    rw [List.forall_mem_cons] at h
    rw [listItem, List.mem_cons, List.mem_map] at hline
    rcases hline with rfl | ⟨text, htext, rfl⟩
    · exact IsLine.append (by decide) h.1
    · exact IsLine.append (by decide) (h.2 text htext)

theorem isLine_of_mem_nestedList {items : List (List String)}
    (h : ∀ item ∈ items, ∀ line ∈ item, IsLine line) {line : String}
    (mem : line ∈ nestedList items) : IsLine line := by
  unfold nestedList at mem
  split at mem
  · rw [List.mem_singleton.mp mem]
    decide
  · exact isLine_of_mem_flatMap h mem

/-- The key of a list is on a line too. -/
theorem isLine_of_mem_keyedList {key : String} (name : IsLine key) {items : List (List String)}
    (h : ∀ item ∈ items, ∀ line ∈ item, IsLine line) {line : String}
    (mem : line ∈ keyedList key items) : IsLine line := by
  unfold keyedList at mem
  split at mem
  · rw [List.mem_singleton.mp mem]
    exact name.append (by decide)
  · rw [List.mem_cons] at mem
    rcases mem with rfl | later
    · exact name.append (by decide)
    · exact isLine_of_mem_flatMap h later

end Yaml

/-! ## What is shown -/

open Text Yaml

theorem Volume.name_injective : Function.Injective Volume.name := by
  intro v v' same
  cases v <;> cases v' <;> first | rfl | exact absurd same (by decide)

theorem EventKind.name_injective : Function.Injective EventKind.name := by
  intro k k' same
  cases k <;> cases k' <;> first | rfl | exact absurd same (by decide)

theorem Hit.listing_eq (hit : Hit) : hit.listing =
    ["sound: " ++ toString hit.sound.key.toNat, "volume: " ++ hit.volume.name] := rfl

theorem Event.listing_eq (event : Event) : event.listing =
    ["kind: " ++ event.kind.name, "sound: " ++ toString event.hit.sound.key.toNat,
      "volume: " ++ event.hit.volume.name, "tick: " ++ toString event.tick.toNat] := rfl

/-- A resolution is told by the numeral for its ticks. -/
theorem Resolution.toString_ticks_injective :
    Function.Injective fun resolution : Resolution => toString resolution.ticks.toNat := by
  intro r r' same
  obtain ⟨ticks, _⟩ := r
  obtain ⟨ticks', _⟩ := r'
  obtain rfl := UInt32.toNat_inj.mp (toString_injective same)
  rfl

/-- A key is told by its number. -/
theorem Sound.toString_key_injective :
    Function.Injective fun sound : Sound => toString sound.key.toNat := by
  intro s s' same
  exact Sound.key_injective (UInt8.toNat_inj.mp (toString_injective same))

/-- A hit is told by its two lines. -/
theorem Hit.listing_injective : Function.Injective Hit.listing := by
  intro hit hit' same
  obtain ⟨sound, volume⟩ := hit
  obtain ⟨sound', volume'⟩ := hit'
  simp only [listing_eq, List.cons.injEq, String.append_right_inj, and_true] at same
  rw [Sound.toString_key_injective same.1, Volume.name_injective same.2]

/-- An event is told by its four lines. -/
theorem Event.listing_injective : Function.Injective Event.listing := by
  intro event event' same
  obtain ⟨kind, ⟨sound, volume⟩, tick⟩ := event
  obtain ⟨kind', ⟨sound', volume'⟩, tick'⟩ := event'
  simp only [listing_eq, List.cons.injEq, String.append_right_inj, and_true] at same
  rw [EventKind.name_injective same.1, Sound.toString_key_injective same.2.1,
    Volume.name_injective same.2.2.1, Tick.ext (toString_injective same.2.2.2)]

theorem Beat.listing_ne_nil (beat : Beat) : beat.listing ≠ [] :=
  nestedList_ne_nil (by simp [Hit.listing_eq])

/-- A beat is told by the list of its hits. -/
theorem Beat.listing_injective : Function.Injective Beat.listing := by
  intro beat beat' same
  have ne (beat : Beat) : ∀ item ∈ beat.hits.map Hit.listing, item ≠ [] := by
    simp [Hit.listing_eq]
  have hits := nestedList_inj (ne beat) (ne beat') same
  cases beat
  cases beat'
  exact congrArg Beat.mk (List.map_injective_iff.mpr Hit.listing_injective hits)

/-! ## Inspections -/

/-- No line for a hit has a line feed in it. -/
theorem isLine_hit (hit : Hit) : ∀ line ∈ hit.listing, IsLine line := by
  have volume : IsLine hit.volume.name := by cases hit.volume <;> decide
  rw [Hit.listing_eq, List.forall_mem_cons, List.forall_mem_singleton]
  exact ⟨IsLine.append (by decide) (isLine_toString _), IsLine.append (by decide) volume⟩

theorem isLine_event (event : Event) : ∀ line ∈ event.listing, IsLine line := by
  have kind : IsLine event.kind.name := by cases event.kind <;> decide
  have lines : event.listing = ["kind: " ++ event.kind.name] ++ event.hit.listing ++
      ["tick: " ++ toString event.tick.toNat] := rfl
  rw [lines, List.forall_mem_append, List.forall_mem_append, List.forall_mem_singleton,
    List.forall_mem_singleton]
  exact ⟨⟨IsLine.append (by decide) kind, isLine_hit event.hit⟩,
    IsLine.append (by decide) (isLine_toString _)⟩

/-- The lines for the beats of a score, which follow upon the resolution. -/
def beatLines (score : Score) : List String := keyedList "beats" (score.beats.map Beat.listing)

/-- The lines for the events of a sequence, which end an inspection. -/
def eventLines (sequence : Sequence) : List String :=
  keyedList "events" (sequence.events.map Event.listing)

/-- All lines of an inspection. -/
def inspectionLines (score : Score) (sequence : Sequence) : List String :=
  ("ticks_per_beat: " ++ toString sequence.resolution.ticks.toNat) ::
    (beatLines score ++ eventLines sequence)

/-- An inspection is its lines, one under the other. -/
theorem inspection_eq (score : Score) (sequence : Sequence) :
    inspection score sequence =
      String.join ((inspectionLines score sequence).map (· ++ "\n")) := by
  unfold inspection inspectionLines beatLines eventLines
  rw [List.append_assoc]
  rfl

theorem isLine_of_mem_inspectionLines {score : Score} {sequence : Sequence} :
    ∀ line ∈ inspectionLines score sequence, IsLine line := by
  unfold inspectionLines
  rw [List.forall_mem_cons, List.forall_mem_append]
  refine ⟨IsLine.append (by decide) (isLine_toString _), ?_, ?_⟩
  · intro line hline
    apply isLine_of_mem_keyedList (by decide) _ hline
    rw [List.forall_mem_map]
    intro beat _ line hline
    apply isLine_of_mem_nestedList _ hline
    rw [List.forall_mem_map]
    exact fun hit _ => isLine_hit hit
  · intro line hline
    apply isLine_of_mem_keyedList (by decide) _ hline
    rw [List.forall_mem_map]
    exact fun event _ => isLine_event event

/-- The events are no part of the beats. -/
theorem endsList_eventLines (sequence : Sequence) : EndsList (eventLines sequence) := by
  unfold eventLines keyedList
  split
  · exact endsList_cons (by decide) (by decide) _
  · exact endsList_cons (by decide) (by decide) _

/-- All that an inspection shows can be told from its lines. -/
theorem inspectionLines_inj {score score' : Score} {sequence sequence' : Sequence}
    (same : inspectionLines score sequence = inspectionLines score' sequence') :
    sequence.resolution = sequence'.resolution ∧ score = score' ∧
      sequence.events = sequence'.events := by
  obtain ⟨resolution, lists⟩ := List.cons.inj same
  have beats (score : Score) : ∀ item ∈ score.beats.map Beat.listing, item ≠ [] := by
    rw [List.forall_mem_map]
    exact fun beat _ => beat.listing_ne_nil
  have events (sequence : Sequence) : ∀ item ∈ sequence.events.map Event.listing, item ≠ [] := by
    rw [List.forall_mem_map]
    exact fun event _ => nofun
  -- the beats end where the key of the events stands, and the events with the text
  obtain ⟨scores, last⟩ := keyedList_append_inj (beats score) (beats score')
    (endsList_eventLines sequence) (endsList_eventLines sequence') lists
  have closed (sequence : Sequence) : eventLines sequence =
      keyedList "events" (sequence.events.map Event.listing) ++ [] := (List.append_nil _).symm
  rw [closed, closed] at last
  obtain ⟨lists', _⟩ := keyedList_append_inj (events sequence) (events sequence') endsList_nil
    endsList_nil last
  refine ⟨?_, ?_, List.map_injective_iff.mpr Event.listing_injective lists'⟩
  · exact Resolution.toString_ticks_injective ((String.append_right_inj _).mp resolution)
  · cases score
    cases score'
    exact congrArg Score.mk (List.map_injective_iff.mpr Beat.listing_injective scores)

/-- Inspections are the same text if and only if all that they show is the same. -/
theorem inspection_eq_iff {score score' : Score} {sequence sequence' : Sequence} :
    inspection score sequence = inspection score' sequence' ↔
      sequence.resolution = sequence'.resolution ∧ score = score' ∧
        sequence.events = sequence'.events := by
  rw [inspection_eq, inspection_eq]
  constructor
  · intro same
    exact inspectionLines_inj
      (written_inj isLine_of_mem_inspectionLines isLine_of_mem_inspectionLines same)
  · intro same
    obtain ⟨resolution, rfl, events⟩ := same
    unfold inspectionLines eventLines
    rw [resolution, events]

/-- A text has an inspection if it is a score that can be played. -/
theorem inspect_eq_ok_iff {text listing : String} {playing : Playing} :
    inspect text playing = .ok listing ↔ ∃ score sequence, Score.ofText text = .ok score ∧
      score.render playing = .ok sequence ∧ inspection score sequence = listing := by
  have mapped {ε α : Type} {fault : ε → Error} {outcome : Except ε α} {result : α} :
      outcome.mapError fault = .ok result ↔ outcome = .ok result := by
    cases outcome <;> simp [Except.mapError]
  unfold inspect
  simp only [bind_eq_ok_iff, mapped, pure, Except.pure, Except.ok.injEq]
  constructor
  · intro h
    obtain ⟨score, parsed, sequence, rendered, same⟩ := h
    exact ⟨score, sequence, parsed, rendered, same⟩
  · intro h
    obtain ⟨score, sequence, parsed, rendered, same⟩ := h
    exact ⟨score, parsed, sequence, rendered, same⟩

end Percussion
