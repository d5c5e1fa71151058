import Mathlib
import Percussion.Score.Hit

/-!
# Which tokens name a sound

A token names a sound if it spells the name letter by letter, each letter small, capital, or, for a
`k`, the Kelvin sign: of all characters beyond ASCII that is the only one that lower-casing turns
into one of ASCII (`Text.lowersTo_lowerChar`). What lower-casing gives has none of the other
spellings left in it, so to lower-case a token twice is to lower-case it once as far as names go
(`Sound.lookup_lowercase`).
-/

namespace Percussion

namespace Text

/-- The sign of the unit of temperature, which looks like a capital K. -/
def kelvinSign : Char := Char.ofNat 0x212A

/-- The ways to write a small letter: as it is, as a capital, and a `k` also as the Kelvin sign. -/
def IsForm (letter c : Char) : Prop :=
  c = letter ∨ c = letter.toUpper ∨ letter = 'k' ∧ c = kelvinSign

/-- Neither a capital letter of ASCII nor the Kelvin sign. -/
structure IsLowered (c : Char) : Prop where
  toLower_eq : c.toLower = c
  ne_kelvinSign : c ≠ kelvinSign

/-! ## Letters -/

theorem toNat_lt_of_isLower {letter : Char} (small : letter.isLower = true) :
    letter.toNat < 0x80 ∧ letter.toUpper.toNat < 0x80 := by
  have letters : ∀ n < 26, (Char.ofNat (97 + n)).toUpper.toNat < 0x80 := by decide
  simp only [Char.isLower, Bool.and_eq_true, decide_eq_true_eq] at small
  have first : 97 ≤ letter.toNat := small.1
  have last : letter.toNat ≤ 122 := small.2
  have capital := letters (letter.toNat - 97) (by omega)
  rw [Nat.add_sub_cancel' first, Char.ofNat_toNat] at capital
  exact ⟨by omega, capital⟩

theorem toLower_of_isLower {letter : Char} (small : letter.isLower = true) :
    letter.toLower = letter ∧ letter.toUpper.toLower = letter := by
  have same := Char.toLower_eq_of_not_isUpper (Char.not_isUpper_of_isLower small)
  exact ⟨same, (Char.toLower_toUpper_eq_toLower letter).trans same⟩

/-- Beyond ASCII every character but the Kelvin sign counts as lowered. -/
theorem isLowered_of_le {c : Char} (beyond : 0x80 ≤ c.toNat) (ne : c.toNat ≠ 0x212A) :
    IsLowered c where
  toLower_eq := by
    apply Char.toLower_eq_of_not_isUpper
    intro capital
    simp only [Char.isUpper, decide_eq_true_eq] at capital
    have last : c.toNat ≤ 90 := capital.2
    omega
  ne_kelvinSign := by
    rintro rfl
    exact ne rfl

theorem isLowered_toLower {c : Char} (ascii : c.toNat < 0x80) : IsLowered c.toLower where
  toLower_eq := Char.toLower_toLower_eq_toLower c
  ne_kelvinSign := by
    intro same
    have alpha := Char.isLower_toLower_eq_isAlpha c
    rw [same] at alpha
    have small : ¬ c.isUpper := by
      intro capital
      simp [Char.isAlpha, capital] at alpha
      exact absurd alpha (by decide)
    rw [Char.toLower_eq_of_not_isUpper small] at same
    subst same
    exact absurd ascii (by decide)

/-- The forms of a letter in ASCII are those that have it as their small form. -/
theorem isForm_iff_toLower_eq {letter c : Char} (small : letter.isLower = true)
    (ascii : c.toNat < 0x80) : IsForm letter c ↔ c.toLower = letter := by
  obtain ⟨lower, upper⟩ := toLower_of_isLower small
  constructor
  · rintro (rfl | rfl | ⟨_, rfl⟩)
    · exact lower
    · exact upper
    · exact absurd ascii (by decide)
  · rintro rfl
    by_cases capital : c.isUpper
    · have same := Char.toUpper_eq_of_not_isLower (Char.not_isLower_of_isUpper capital)
      exact .inr (.inl (same.symm.trans (Char.toUpper_toLower_eq_toUpper c).symm))
    · exact .inl (Char.toLower_eq_of_not_isUpper capital).symm

/-- The Kelvin sign is a form of k alone. -/
theorem isForm_kelvinSign_iff {letter : Char} (small : letter.isLower = true) :
    IsForm letter kelvinSign ↔ letter = 'k' := by
  have beyond : ¬ kelvinSign.toNat < 0x80 := by decide
  obtain ⟨lower, upper⟩ := toNat_lt_of_isLower small
  constructor
  · rintro (same | same | ⟨rfl, _⟩)
    · exact absurd (same ▸ lower) beyond
    · exact absurd (same ▸ upper) beyond
    · rfl
  · intro same
    exact .inr (.inr ⟨same, rfl⟩)

/-- No other character beyond ASCII is a form of an ASCII letter. -/
theorem not_isForm {letter c : Char} (small : letter.isLower = true) (beyond : 0x80 ≤ c.toNat)
    (ne : c ≠ kelvinSign) : ¬ IsForm letter c := by
  obtain ⟨lower, upper⟩ := toNat_lt_of_isLower small
  rintro (rfl | rfl | ⟨_, rfl⟩)
  · omega
  · omega
  · exact ne rfl

/-- Of the forms of a letter only the letter itself is lowered. -/
theorem IsLowered.isForm_iff {letter c : Char} (h : IsLowered c) (small : letter.isLower = true) :
    IsForm letter c ↔ letter = c := by
  constructor
  · rintro (rfl | rfl | ⟨_, rfl⟩)
    · rfl
    · exact (toLower_of_isLower small).2.symm.trans h.toLower_eq
    · exact absurd rfl h.ne_kelvinSign
  · rintro rfl
    exact .inl rfl

/-! ## Lower-casing a character -/

/-- What lower-casing may make of a character. -/
inductive LowersTo : Char → List Char → Prop
  | ascii {c : Char} : c.toNat < 0x80 → LowersTo c [c.toLower]
  | kelvin : LowersTo kelvinSign ['k']
  /-- Any other character gives something beyond ASCII. -/
  | beyond {c : Char} {lowered : List Char} : 0x80 ≤ c.toNat → c ≠ kelvinSign →
    (∃ d ∈ lowered, 0x80 ≤ d.toNat) → (∀ d ∈ lowered, IsLowered d) → LowersTo c lowered

theorem LowersTo.isLowered {c : Char} {lowered : List Char} (h : LowersTo c lowered) :
    ∀ d ∈ lowered, IsLowered d := by
  cases h with
  | ascii ascii => simpa using isLowered_toLower ascii
  | kelvin =>
    rw [List.forall_mem_singleton]
    exact ⟨by decide, by decide⟩
  | beyond _ _ _ lowered => exact lowered

theorem lowersTo_singleton {c d : Char} (beyond : 0x80 ≤ c.toNat) (ne : c ≠ kelvinSign)
    (beyond' : 0x80 ≤ d.toNat) (ne' : d.toNat ≠ 0x212A) : LowersTo c [d] :=
  .beyond beyond ne ⟨d, List.mem_singleton_self d, beyond'⟩
    (List.forall_mem_singleton.mpr (isLowered_of_le beyond' ne'))

/-- All runs but one lead from characters to characters beyond ASCII other than the Kelvin sign. -/
theorem caseRuns_targets : ∀ run ∈ caseRuns,
    run = ⟨0x212A, 0x212A, 1, 0x6B⟩ ∨
      (0x80 ≤ run.target ∧ run.target + (run.last - run.first) < 0x212A ∨
        0x212A < run.target ∧ run.target + (run.last - run.first) < 0xD800 ∨
        0xDFFF < run.target ∧ run.target + (run.last - run.first) < 0x110000) := by
  decide +kernel

/-- All small letters in the table are beyond ASCII, but for that of the Kelvin sign. -/
theorem toNat_of_lower? {run : CaseRun} (mem : run ∈ caseRuns) {n m : ℕ} (ne : n ≠ 0x212A)
    (h : run.lower? n = some m) :
    0x80 ≤ (Char.ofNat m).toNat ∧ (Char.ofNat m).toNat ≠ 0x212A := by
  rw [CaseRun.lower?] at h
  split at h
  · next inside =>
    obtain ⟨first, last, _⟩ := inside
    obtain rfl := Option.some.inj h
    rcases caseRuns_targets run mem with rfl | targets
    · exact absurd (Nat.le_antisymm last first) ne
    · have valid : (run.target + (n - run.first)).isValidChar := by
        rw [Nat.isValidChar]
        omega
      rw [Char.toNat_ofNat, if_pos valid]
      omega
  · cases h

/-- Each character is lowered to what the table has for it. -/
theorem lowersTo_lowerChar (c : Char) : LowersTo c (lowerChar c) := by
  unfold lowerChar
  split
  · next ascii => exact .ascii ascii
  · next beyond =>
    rw [Nat.not_lt] at beyond
    split
    · next dotted =>
      refine .beyond beyond ?_ ⟨Char.ofNat 0x307, by simp, by decide⟩ ?_
      · rintro rfl
        exact absurd dotted (by decide)
      · rw [List.forall_mem_cons, List.forall_mem_singleton]
        exact ⟨⟨by decide, by decide⟩, isLowered_of_le (by decide) (by decide)⟩
    · by_cases kelvin : c = kelvinSign
      · subst kelvin
        have lower : caseRuns.findSome? (·.lower? kelvinSign.toNat) = some 0x6B := by decide
        rw [lower]
        exact .kelvin
      have ne : c.toNat ≠ 0x212A := by
        intro same
        exact kelvin (by rw [kelvinSign, ← same, Char.ofNat_toNat])
      split
      · next n found =>
        obtain ⟨run, mem, lower⟩ := List.exists_of_findSome?_eq_some found
        obtain ⟨beyond', ne'⟩ := toNat_of_lower? mem ne lower
        exact lowersTo_singleton beyond kelvin beyond' ne'
      · exact lowersTo_singleton beyond kelvin beyond ne

/-! ## Lower-casing a text -/

/-- What is made of the first character stands before what is made of the others. -/
theorem exists_lowerAfter_cons (before : List Char) (c : Char) (rest : List Char) :
    ∃ lowered, LowersTo c lowered ∧
      lowerAfter before (c :: rest) = lowered ++ lowerAfter (c :: before) rest := by
  rw [lowerAfter]
  refine ⟨_, ?_, rfl⟩
  split
  · next sigma =>
    have beyond : 0x80 ≤ c.toNat := by omega
    have ne : c ≠ kelvinSign := by
      rintro rfl
      exact absurd sigma (by decide)
    split
    · exact lowersTo_singleton beyond ne (by decide) (by decide)
    · exact lowersTo_singleton beyond ne (by decide) (by decide)
  · exact lowersTo_lowerChar c

/-- Neither capitals of ASCII nor Kelvin signs are left in lower case. -/
theorem isLowered_of_mem_lowercase {text : List Char} : ∀ c ∈ lowercase text, IsLowered c := by
  suffices h : ∀ before, ∀ c ∈ lowerAfter before text, IsLowered c from h []
  induction text with
  | nil => nofun
  | cons c rest ih =>
    intro before
    obtain ⟨lowered, lowers, split⟩ := exists_lowerAfter_cons before c rest
    rw [split, List.forall_mem_append]
    exact ⟨lowers.isLowered, ih (c :: before)⟩

/-- A text has a word of small letters as its lower-case form if and only if it is written in forms
of these letters. -/
theorem lowercase_eq_iff {name text : List Char}
    (small : ∀ letter ∈ name, letter.isLower = true) :
    lowercase text = name ↔ List.Forall₂ IsForm name text := by
  suffices h : ∀ before, lowerAfter before text = name ↔ List.Forall₂ IsForm name text from h []
  induction text generalizing name with
  | nil =>
    intro before
    rw [lowerAfter, List.forall₂_nil_right_iff, eq_comm]
  | cons c rest ih =>
    intro before
    obtain ⟨lowered, lowers, split⟩ := exists_lowerAfter_cons before c rest
    rw [split]
    cases name with
    | nil =>
      rw [List.append_eq_nil_iff, List.forall₂_nil_left_iff]
      cases lowers with
      | ascii | kelvin => simp
      | beyond _ _ some _ =>
        obtain ⟨d, mem, _⟩ := some
        simp [List.ne_nil_of_mem mem]
    | cons letter name =>
      have smaller := small
      rw [List.forall_mem_cons] at small
      rw [List.forall₂_cons]
      cases lowers with
      | ascii ascii =>
        rw [List.singleton_append, List.cons_eq_cons, ih small.2,
          isForm_iff_toLower_eq small.1 ascii]
      | kelvin =>
        rw [List.singleton_append, List.cons_eq_cons, ih small.2, isForm_kelvinSign_iff small.1,
          eq_comm]
      | beyond beyond ne some _ =>
        -- no letter is beyond ASCII, on either side
        obtain ⟨d, mem, wide⟩ := some
        constructor
        · intro same
          have narrow := toNat_lt_of_isLower (smaller d (same ▸ List.mem_append_left _ mem))
          omega
        · rintro ⟨form, _⟩
          exact absurd form (not_isForm small.1 beyond ne)

/-- A lowered text is written in forms of the letters of a word only if it is the word. -/
theorem forall₂_isForm_iff {name text : List Char}
    (small : ∀ letter ∈ name, letter.isLower = true) (lowered : ∀ c ∈ text, IsLowered c) :
    List.Forall₂ IsForm name text ↔ name = text := by
  induction name generalizing text with
  | nil => rw [List.forall₂_nil_left_iff, eq_comm]
  | cons letter name ih =>
    rw [List.forall_mem_cons] at small
    cases text with
    | nil => simp
    | cons c text =>
      rw [List.forall_mem_cons] at lowered
      rw [List.forall₂_cons, lowered.1.isForm_iff small.1, ih small.2 lowered.2, List.cons_eq_cons]

/-- To lower-case again does not change which word of small letters it is. -/
theorem lowercase_lowercase_eq_iff {name text : List Char}
    (small : ∀ letter ∈ name, letter.isLower = true) :
    lowercase (lowercase text) = name ↔ lowercase text = name := by
  rw [lowercase_eq_iff small, forall₂_isForm_iff small isLowered_of_mem_lowercase, eq_comm]

end Text

/-! ## Sounds -/

/-- A token spells a name: it has as many characters, each of which is a form of the letter at its
place. -/
def Spells (token name : String) : Prop := List.Forall₂ Text.IsForm name.toList token.toList

namespace Sound

theorem isLower_of_mem_name (sound : Sound) :
    ∀ letter ∈ sound.name.toList, letter.isLower = true := by
  have small : sound.name.toList.all Char.isLower = true := by cases sound <;> decide
  exact List.all_eq_true.mp small

theorem name_injective : Function.Injective name := by
  have distinct : (all.map name).Nodup := by decide
  intro s s' same
  exact List.inj_on_of_nodup_map distinct (mem_all s) (mem_all s') same

/-- A sound is found by a token whose lower case is its name. -/
theorem lookup_eq_some_iff {token : String} {sound : Sound} :
    lookup token = some sound ↔ Text.lowercase token.toList = sound.name.toList := by
  rw [lookup]
  constructor
  · intro found
    have same := List.find?_some found
    exact (eq_of_beq same).symm
  · intro same
    cases found : all.find? fun s => s.name.toList == Text.lowercase token.toList with
    | none =>
      rw [List.find?_eq_none] at found
      have differs := found sound (mem_all sound)
      simp [same] at differs
    | some other =>
      have same' := List.find?_some found
      rw [beq_iff_eq, same, String.toList_inj] at same'
      rw [name_injective same']

/-- A token names the sound whose name it spells. -/
theorem lookup_eq_some_iff_spells {token : String} {sound : Sound} :
    lookup token = some sound ↔ Spells token sound.name := by
  rw [lookup_eq_some_iff, Text.lowercase_eq_iff sound.isLower_of_mem_name, Spells]

/-- A token finds what its lower case finds. -/
theorem lookup_lowercase (token : String) :
    lookup (String.ofList (Text.lowercase token.toList)) = lookup token := by
  ext sound
  rw [lookup_eq_some_iff, lookup_eq_some_iff, String.toList_ofList,
    Text.lowercase_lowercase_eq_iff sound.isLower_of_mem_name]

theorem lookup_rest : lookup restToken = none := by decide +kernel

end Sound

namespace Hit

variable {token : String}

/-- Only the rest stands for no hit and is no error. -/
theorem ofToken_eq_none_iff : ofToken token = .ok none ↔ token = restToken := by
  constructor
  · intro silent
    by_contra ne
    simp only [ofToken, if_neg ne] at silent
    split at silent <;> cases silent
  · rintro rfl
    exact if_pos rfl

/-- A hit is of the sound that is found for its token, and normal if the token is the name. -/
theorem ofToken_of_lookup_eq_some {sound : Sound} (found : Sound.lookup token = some sound) :
    ofToken token = .ok (some ⟨sound, if token = sound.name then .normal else .accented⟩) := by
  have ne : token ≠ restToken := by
    rintro rfl
    rw [Sound.lookup_rest] at found
    cases found
  have name : String.ofList (Text.lowercase token.toList) = sound.name := by
    rw [Sound.lookup_eq_some_iff.mp found, String.ofList_toList]
  simp only [ofToken, if_neg ne, Sound.lookup_lowercase, found]
  rw [name]

theorem ofToken_of_lookup_eq_none (ne : token ≠ restToken) (found : Sound.lookup token = none) :
    ofToken token = .error (.unknownSound token) := by
  simp only [ofToken, if_neg ne, Sound.lookup_lowercase, found]

/-- A token is a hit of the sound that it finds, accented unless it is the name itself. -/
theorem ofToken_eq_some_iff {hit : Hit} :
    ofToken token = .ok (some hit) ↔ ∃ sound, Sound.lookup token = some sound ∧
      hit.sound = sound ∧ hit.volume = if token = sound.name then .normal else .accented := by
  constructor
  · intro played
    have ne : token ≠ restToken := by
      rw [Ne, ← ofToken_eq_none_iff, played]
      nofun
    cases found : Sound.lookup token with
    | none =>
      rw [ofToken_of_lookup_eq_none ne found] at played
      cases played
    | some sound =>
      rw [ofToken_of_lookup_eq_some found] at played
      cases played
      exact ⟨sound, rfl, rfl, rfl⟩
  · rintro ⟨sound, found, rfl, volume⟩
    rw [ofToken_of_lookup_eq_some found, ← volume]

/-- Only a token that finds no sound is an error, and the error names the token. -/
theorem ofToken_eq_error_iff_lookup {error : ScoreError} :
    ofToken token = .error error ↔
      token ≠ restToken ∧ Sound.lookup token = none ∧ error = .unknownSound token := by
  constructor
  · intro refused
    have ne : token ≠ restToken := by
      rw [Ne, ← ofToken_eq_none_iff, refused]
      nofun
    cases found : Sound.lookup token with
    | none =>
      rw [ofToken_of_lookup_eq_none ne found] at refused
      cases refused
      exact ⟨ne, rfl, rfl⟩
    | some sound =>
      rw [ofToken_of_lookup_eq_some found] at refused
      cases refused
  · rintro ⟨ne, found, rfl⟩
    exact ofToken_of_lookup_eq_none ne found

/-- A token names a sound as it stands for a hit of the sound. -/
theorem map_sound_ofToken (token : String) :
    (ofToken token).map (Option.map Hit.sound) = Sound.ofToken token := by
  rw [Sound.ofToken]
  split
  · next rest =>
    rw [ofToken_eq_none_iff.mpr rest]
    rfl
  · next ne =>
    cases found : Sound.lookup token with
    | none =>
      rw [ofToken_of_lookup_eq_none ne found]
      rfl
    | some sound =>
      rw [ofToken_of_lookup_eq_some found]
      rfl

/-- **A token is the rest, or spells the name of one sound, or is refused.** It accents the sound
unless it is the name as it is listed. -/
theorem ofToken_spells (token : String) :
    (ofToken token = .ok none ↔ token = ".") ∧
    (∀ hit, ofToken token = .ok (some hit) ↔
      ∃ sound ∈ Sound.all, Spells token sound.name ∧ hit.sound = sound ∧
        hit.volume = if token = sound.name then .normal else .accented) ∧
    (∀ sound sound' : Sound, Spells token sound.name → Spells token sound'.name →
      sound = sound') ∧
    (∀ error, ofToken token = .error error ↔
      token ≠ "." ∧ (∀ sound ∈ Sound.all, ¬ Spells token sound.name) ∧
        error = .unknownSound token) ∧
    Sound.ofToken token = (ofToken token).map (Option.map Hit.sound) ∧
    ∀ sound, Sound.lookup token = some sound ↔
      ∃ hit, ofToken token = .ok (some hit) ∧ hit.sound = sound := by
  simp only [← Sound.lookup_eq_some_iff_spells, Sound.mem_all, true_and, forall_const]
  refine ⟨ofToken_eq_none_iff, fun hit => ofToken_eq_some_iff, ?_, fun error => ?_,
    (map_sound_ofToken token).symm, fun sound => ⟨fun found => ?_, ?_⟩⟩
  · intro sound sound' found found'
    exact Option.some.inj (found.symm.trans found')
  · rw [ofToken_eq_error_iff_lookup, Option.eq_none_iff_forall_ne_some]
    rfl
  · exact ⟨_, ofToken_of_lookup_eq_some found, rfl⟩
  · rintro ⟨hit, played, rfl⟩
    obtain ⟨sound, found, rfl, _⟩ := ofToken_eq_some_iff.mp played
    exact found

example : ofToken (String.ofList [Text.kelvinSign, 'a', 'h']) = .ok (some ⟨.kah, .accented⟩) := by
  decide +kernel

end Hit

end Percussion
