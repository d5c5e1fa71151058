import Mathlib.Data.List.Nodup
import Percussion.Rhythm.Basic

/-!
# What is drawn

A draw below a bound gives a number below it, and every such number for some word
(`drawBelow_lt`, `Script.exists_drawBelow_eq`). A draw of indexes gives different indexes, and every
choice of different indexes in every order: one step of it adds an index to a choice
(`IsChoice.place`), and every choice comes about by such a step from a smaller one
(`IsChoice.exists_place`). And as only words that are not zero are passed over, a script of `n`
words is at most `n` draws more than needed away from its end (`Script.spent_drawBelow_le`).
-/

namespace Percussion.Rhythm

/-! ## Numbers below a bound -/

/-- The words of a source are of the size that is asked for. -/
def WordSource.Sized (σ : Type) [WordSource σ] : Prop :=
  ∀ (size : WordSize) (s : σ), (WordSource.draw size s).1 < size.count

section Source

variable {σ : Type} [WordSource σ] {size : WordSize} {bound : ℕ}

/-- A word in the accepted zone is scaled to the number that is drawn. -/
theorem drawBelow_of_accepted {s : σ}
    (h : (WordSource.draw size s).1 * bound % size.count ≤ acceptedZone size bound) :
    drawBelow size bound s =
      ((WordSource.draw size s).1 * bound / size.count, (WordSource.draw size s).2) := by
  rw [drawBelow]
  exact if_pos h

/-- The number that is drawn is below the bound. -/
theorem drawBelow_lt (sized : WordSource.Sized σ) (pos : 0 < bound) (s : σ) :
    (drawBelow size bound s).1 < bound := by
  fun_induction drawBelow size bound s with
  | case1 s scaled accepted =>
    apply Nat.div_lt_of_lt_mul
    exact Nat.mul_lt_mul_of_pos_right (sized size s) pos
  | case2 s scaled rejected ih => exact ih

end Source

theorem Keystream.word_lt (stream : Keystream) (index : ℕ) :
    stream.word index < 0x100000000 := by
  unfold word
  split
  · exact UInt32.toNat_lt _
  · decide

theorem Keystream.sized : WordSource.Sized Keystream := by
  intro size stream
  have first := stream.word_lt stream.used
  have second := stream.word_lt (stream.used + 1)
  cases size with
  | single => exact first
  | double =>
    show stream.word stream.used + 0x100000000 * stream.word (stream.used + 1) <
      0x10000000000000000
    omega

/-! ## Scripts -/

namespace Script

variable {size : WordSize} {bound : ℕ}

theorem sized : WordSource.Sized Script := by
  intro size script
  apply Nat.mod_lt
  cases size <;> decide

/-- How many draws there have been, and how many words are to come. -/
def spent (script : Script) : ℕ := script.drawn.length + script.words.length

/-- A draw takes one word of a script at most. -/
theorem spent_draw_le (size : WordSize) (script : Script) :
    (draw size script).2.spent ≤ script.spent + 1 := by
  simp only [spent, draw, List.length_cons, List.length_tail]
  omega

/-- A word that is not zero is one of the script. -/
theorem spent_draw_of_ne_zero {script : Script} (h : (draw size script).1 ≠ 0) :
    (draw size script).2.spent = script.spent := by
  have used := WordSource.remaining_draw_lt size script h
  have words : (draw size script).2.words.length < script.words.length := used
  simp only [spent, draw, List.length_cons, List.length_tail] at words ⊢
  omega

/-- Words that are passed over are words of the script, so all draws but the last are paid for. -/
theorem spent_drawBelow_le (size : WordSize) (bound : ℕ) (script : Script) :
    (drawBelow size bound script).2.spent ≤ script.spent + 1 := by
  fun_induction drawBelow size bound script with
  | case1 script scaled accepted => exact spent_draw_le size script
  | case2 script scaled rejected ih =>
    have ne_zero : (WordSource.draw size script).1 ≠ 0 := by
      intro zero
      apply rejected
      unfold scaled
      rw [zero, Nat.zero_mul, Nat.zero_mod]
      exact Nat.zero_le _
    rw [← spent_draw_of_ne_zero ne_zero]
    exact ih

/-- There are at least as many accepted fractions as numbers to be drawn. -/
theorem pred_le_acceptedZone (size : WordSize) (bound : ℕ) :
    bound - 1 ≤ acceptedZone size bound := by
  have scaled : bound ≤ bound * Nat.pow 2 (size.bits - 1 - bound.log2) :=
    Nat.le_mul_of_pos_right bound (Nat.pow_pos (by decide))
  unfold acceptedZone
  omega

/-- The least word that is scaled to `n` or more is scaled to `n`, and accepted. -/
theorem exists_word {n : ℕ} (h : n < bound) (fits : bound ≤ size.count) :
    ∃ word < size.count,
      word * bound / size.count = n ∧ word * bound % size.count < bound := by
  have division := Nat.div_add_mod (n * size.count + (bound - 1)) bound
  have remainder := Nat.mod_lt (n * size.count + (bound - 1)) (Nat.zero_lt_of_lt h)
  obtain ⟨excess, hexcess, scaled⟩ : ∃ excess < bound,
      (n * size.count + (bound - 1)) / bound * bound = n * size.count + excess := by
    refine ⟨bound - 1 - (n * size.count + (bound - 1)) % bound, by omega, ?_⟩
    rw [Nat.mul_comm]
    omega
  refine ⟨(n * size.count + (bound - 1)) / bound, ?_, ?_, ?_⟩
  · have above : (n + 1) * size.count ≤ bound * size.count := Nat.mul_le_mul_right _ h
    apply @Nat.lt_of_mul_lt_mul_right bound
    rw [scaled, Nat.mul_comm size.count]
    rw [Nat.succ_mul] at above
    omega
  · rw [scaled, Nat.mul_comm, Nat.mul_add_div (by omega), Nat.div_eq_of_lt (by omega)]
    rfl
  · rw [scaled, Nat.mul_comm, Nat.mul_add_mod, Nat.mod_eq_of_lt (by omega)]
    exact hexcess

/-- Every number below the bound is drawn with some word. -/
theorem exists_drawBelow_eq {n : ℕ} (h : n < bound) (fits : bound ≤ size.count) :
    ∃ word : UInt64, ∀ words drawn,
      drawBelow size bound (⟨word :: words, drawn⟩ : Script) = (n, ⟨words, size :: drawn⟩) := by
  obtain ⟨word, hword, scaled, excess⟩ := exists_word h fits
  have count : size.count ≤ 0x10000000000000000 := by cases size <;> decide
  refine ⟨UInt64.ofNat word, ?_⟩
  intro words drawn
  have drawnWord : WordSource.draw size (⟨UInt64.ofNat word :: words, drawn⟩ : Script) =
      (word, ⟨words, size :: drawn⟩) := by
    show ((UInt64.ofNat word).toNat % size.count, _) = _
    rw [UInt64.toNat_ofNat_of_lt' (Nat.lt_of_lt_of_le hword count), Nat.mod_eq_of_lt hword]
    rfl
  rw [drawBelow_of_accepted, drawnWord, scaled]
  rw [drawnWord]
  have zone := pred_le_acceptedZone size bound
  show word * bound % size.count ≤ acceptedZone size bound
  omega

end Script

/-! ## Different indexes -/

/-- `count` different indexes below `bound`, in some order. -/
structure IsChoice (count bound : ℕ) (indexes : List ℕ) : Prop where
  length : indexes.length = count
  nodup : indexes.Nodup
  lt : ∀ index ∈ indexes, index < bound

theorem place_of_not_mem {fresh drawn : ℕ} {indexes : List ℕ} (h : drawn ∉ indexes) :
    place fresh drawn indexes = indexes ++ [drawn] := by
  induction indexes with
  | nil => rfl
  | cons index indexes ih =>
    rw [List.mem_cons, not_or] at h
    rw [place, if_neg (Ne.symm h.1), ih h.2, List.cons_append]

/-- Where a number has been drawn already, the new one takes the place in front of it. -/
theorem place_append_cons {fresh drawn : ℕ} {before : List ℕ} (h : drawn ∉ before)
    (after : List ℕ) :
    place fresh drawn (before ++ drawn :: after) = before ++ fresh :: drawn :: after := by
  induction before with
  | nil => rw [List.nil_append, place, if_pos rfl, List.nil_append]
  | cons index before ih =>
    rw [List.mem_cons, not_or] at h
    rw [List.cons_append, place, if_neg (Ne.symm h.1), ih h.2, List.cons_append]

namespace IsChoice

variable {count bound drawn : ℕ} {indexes before after : List ℕ}

/-- The greatest index may stand anywhere in a choice. -/
theorem insert_iff : IsChoice (count + 1) (bound + 1) (before ++ bound :: after) ↔
    IsChoice count bound (before ++ after) := by
  have perm : (before ++ bound :: after).Perm (bound :: (before ++ after)) := List.perm_middle
  constructor
  · rintro ⟨length, nodup, lt⟩
    rw [perm.length_eq, List.length_cons, Nat.add_right_cancel_iff] at length
    rw [perm.nodup_iff, List.nodup_cons] at nodup
    refine ⟨length, nodup.2, ?_⟩
    intro index hindex
    have le := lt index (perm.mem_iff.mpr (List.mem_cons_of_mem _ hindex))
    have ne : index ≠ bound := by
      rintro rfl
      exact nodup.1 hindex
    omega
  · rintro ⟨length, nodup, lt⟩
    constructor
    · rw [perm.length_eq, List.length_cons, length]
    · rw [perm.nodup_iff, List.nodup_cons]
      exact ⟨fun old => Nat.lt_irrefl bound (lt bound old), nodup⟩
    · intro index hindex
      rw [perm.mem_iff, List.mem_cons] at hindex
      rcases hindex with rfl | hindex
      · exact Nat.lt_succ_self _
      · exact Nat.lt_succ_of_lt (lt index hindex)

/-- A choice of one more index adds one that is not chosen yet. -/
theorem concat_iff : IsChoice (count + 1) bound (indexes ++ [drawn]) ↔
    IsChoice count bound indexes ∧ drawn ∉ indexes ∧ drawn < bound := by
  constructor
  · rintro ⟨length, nodup, lt⟩
    rw [List.length_append, List.length_singleton, Nat.add_right_cancel_iff] at length
    rw [List.nodup_append', List.disjoint_singleton] at nodup
    rw [List.forall_mem_append, List.forall_mem_singleton] at lt
    exact ⟨⟨length, nodup.1, lt.1⟩, nodup.2.2, lt.2⟩
  · rintro ⟨⟨length, nodup, lt⟩, new, below⟩
    constructor
    · rw [List.length_append, length, List.length_singleton]
    · rw [List.nodup_append', List.disjoint_singleton]
      exact ⟨nodup, List.nodup_singleton drawn, new⟩
    · rw [List.forall_mem_append, List.forall_mem_singleton]
      exact ⟨lt, below⟩

/-- A choice below a bound is one below the next that does not have it. -/
theorem lt_succ_iff :
    IsChoice count bound indexes ↔ IsChoice count (bound + 1) indexes ∧ bound ∉ indexes := by
  constructor
  · rintro ⟨length, nodup, lt⟩
    refine ⟨⟨length, nodup, ?_⟩, fun old => Nat.lt_irrefl bound (lt bound old)⟩
    intro index hindex
    exact Nat.lt_succ_of_lt (lt index hindex)
  · rintro ⟨⟨length, nodup, lt⟩, new⟩
    refine ⟨length, nodup, ?_⟩
    intro index hindex
    have le := lt index hindex
    have ne : index ≠ bound := by
      rintro rfl
      exact new hindex
    omega

/-- A choice grows by the new index, or by the one that is drawn. -/
theorem place (h : IsChoice count bound indexes) (le : drawn ≤ bound) :
    IsChoice (count + 1) (bound + 1) (place bound drawn indexes) := by
  by_cases mem : drawn ∈ indexes
  · obtain ⟨before, after, rfl, new⟩ := List.eq_append_cons_of_mem mem
    rw [place_append_cons new, insert_iff]
    exact h
  · rw [place_of_not_mem mem, concat_iff]
    exact ⟨(lt_succ_iff.mp h).1, mem, Nat.lt_succ_of_le le⟩

/-- Every choice grows from a smaller one. If the new index is not in it, the last index has been
drawn; if the new index is at the end, it has been drawn itself; and if not, the index after it
has. -/
theorem exists_place (h : IsChoice (count + 1) (bound + 1) indexes) :
    ∃ drawn ≤ bound, ∃ smaller, IsChoice count bound smaller ∧
      Rhythm.place bound drawn smaller = indexes := by
  by_cases mem : bound ∈ indexes
  · obtain ⟨before, after, rfl, _⟩ := List.eq_append_cons_of_mem mem
    have smaller := insert_iff.mp h
    cases after with
    | nil =>
      have new := (concat_iff.mp h).2.1
      rw [List.append_nil] at smaller
      exact ⟨bound, Nat.le_refl bound, before, smaller, place_of_not_mem new⟩
    | cons next after =>
      have new : next ∉ before := by
        have disjoint := (List.nodup_append'.mp smaller.nodup).2.2
        exact fun old => disjoint old (List.mem_cons_self ..)
      refine ⟨next, ?_, _, smaller, place_append_cons new after⟩
      exact Nat.le_of_lt (smaller.lt next (by simp))
  · obtain ⟨before, last, rfl⟩ : ∃ before last, indexes = before ++ [last] := by
      rcases List.eq_nil_or_concat indexes with rfl | ⟨before, last, rfl⟩
      · cases h.length
      · exact ⟨before, last, List.concat_eq_append ..⟩
    obtain ⟨smaller, new, le⟩ := concat_iff.mp h
    rw [List.mem_append, not_or] at mem
    refine ⟨last, Nat.le_of_lt_succ le, before, ?_, place_of_not_mem new⟩
    exact lt_succ_iff.mpr ⟨smaller, mem.1⟩

end IsChoice

/-! ## Drawing indexes -/

section Indexes

variable {σ : Type} [WordSource σ] {first count size : ℕ}

/-- The draw for the index `last`. -/
def placeDrawn (state : List ℕ × σ) (last : ℕ) : List ℕ × σ :=
  let drawn := drawBelow .single (last + 1) state.2
  (place last drawn.1 state.1, drawn.2)

/-- The draws for `count` indexes from `first` up. -/
def drawFrom (first count : ℕ) (s : σ) : List ℕ × σ :=
  ((List.range (first + count)).drop first).foldl placeDrawn ([], s)

/-- Indexes are drawn one after the other, each from one more than the one before. -/
theorem drawIndexes_eq (h : count ≤ size) (s : σ) :
    drawIndexes size count s = drawFrom (size - count) count s := by
  rw [drawFrom, Nat.sub_add_cancel h]
  rfl

theorem drawFrom_zero (first : ℕ) (s : σ) : drawFrom first 0 s = ([], s) := by
  rw [drawFrom, Nat.add_zero, List.drop_of_length_le (by simp), List.foldl_nil]

theorem drawFrom_succ (first count : ℕ) (s : σ) :
    drawFrom first (count + 1) s = placeDrawn (drawFrom first count s) (first + count) := by
  have enough : first ≤ (List.range (first + count)).length := by
    rw [List.length_range]
    omega
  rw [drawFrom, drawFrom, ← Nat.add_assoc, List.range_succ,
    List.drop_append_of_le_length enough, List.foldl_append, List.foldl_cons, List.foldl_nil]

/-- Whatever the words are, different indexes are drawn. -/
theorem isChoice_drawFrom (sized : WordSource.Sized σ) (first count : ℕ) (s : σ) :
    IsChoice count (first + count) (drawFrom first count s).1 := by
  induction count with
  | zero =>
    rw [drawFrom_zero]
    exact ⟨rfl, List.nodup_nil, nofun⟩
  | succ count ih =>
    rw [drawFrom_succ, ← Nat.add_assoc]
    apply ih.place
    exact Nat.le_of_lt_succ (drawBelow_lt sized (Nat.succ_pos _) _)

/-- Every choice of indexes is drawn with some words. -/
theorem IsChoice.exists_drawFrom_eq {indexes : List ℕ} (small : first + count ≤ 0x100000000)
    (h : IsChoice count (first + count) indexes) :
    ∃ words : List UInt64, ∀ more drawn, ∃ later,
      drawFrom first count (⟨words ++ more, drawn⟩ : Script) = (indexes, ⟨more, later⟩) := by
  induction count generalizing indexes with
  | zero =>
    obtain rfl := List.length_eq_zero_iff.mp h.length
    refine ⟨[], fun more drawn => ⟨drawn, ?_⟩⟩
    exact drawFrom_zero first _
  | succ count ih =>
    rw [← Nat.add_assoc] at h
    obtain ⟨index, hindex, smaller, choice, rfl⟩ := h.exists_place
    obtain ⟨words, hwords⟩ := ih (by omega) choice
    obtain ⟨word, hword⟩ := @Script.exists_drawBelow_eq .single (first + count + 1) index
      (Nat.lt_succ_of_le hindex) small
    refine ⟨words ++ [word], ?_⟩
    intro more drawn
    obtain ⟨later, before⟩ := hwords (word :: more) drawn
    refine ⟨.single :: later, ?_⟩
    rw [List.append_assoc, List.singleton_append, drawFrom_succ, before, placeDrawn, hword]

/-- Drawing indexes takes a draw for each, apart from the words that are passed over. -/
theorem Script.spent_drawFrom_le (first count : ℕ) (script : Script) :
    (drawFrom first count script).2.spent ≤ script.spent + count := by
  induction count with
  | zero =>
    rw [drawFrom_zero]
    exact Nat.le_refl _
  | succ count ih =>
    have next := spent_drawBelow_le .single (first + count + 1) (drawFrom first count script).2
    rw [drawFrom_succ]
    show (drawBelow .single (first + count + 1) (drawFrom first count script).2).2.spent ≤ _
    omega

end Indexes

end Percussion.Rhythm
