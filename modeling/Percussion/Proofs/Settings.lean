import Percussion.Config.Writing
import Percussion.Proofs.Calls
import Percussion.Proofs.Documents

/-!
# Configurations, read back

A configuration is written as five entries: two decimal numerals and three texts, each in the
plainest style that can hold it. Whatever the names are, the style that is chosen gives the name
back (`isWritten_writeValue`), and everything that is written can occur in a source
(`all_isVerbatim_text`). So the file that a configuration is written to is that configuration.
-/

namespace Percussion.Yaml

/-! ## Sources -/

/-- Whether a character is read as it is. -/
def isVerbatim (c : Char) : Bool := isAllowed c && c != '\r' && c != '\u0085'

/-- There are no breaks to be unified in a text that is read as it is. -/
theorem unifyBreaks_eq {text : List Char} (h : text.all isVerbatim = true) :
    unifyBreaks text = text := by
  induction text with
  | nil => rfl
  | cons c text ih =>
    rw [List.all_cons, Bool.and_eq_true] at h
    have ret : c ≠ '\r' := by
      rintro rfl
      exact absurd h.1 (by decide)
    have next : c ≠ '\u0085' := by
      rintro rfl
      exact absurd h.1 (by decide)
    rw [unifyBreaks.eq_def]
    simp [ret, next, ih h.2]

/-- A text that is read as it is can be a source. -/
theorem source?_eq {text : List Char} (h : text.all isVerbatim = true) :
    source? text = some text := by
  have allowed : text.all isAllowed = true := by
    rw [List.all_eq_true] at h ⊢
    intro c hc
    have verbatim := h c hc
    rw [isVerbatim, Bool.and_eq_true, Bool.and_eq_true] at verbatim
    exact verbatim.1.1
  rw [source?, if_pos allowed, unifyBreaks_eq h]

theorem all_isVerbatim_of_isPrintable {text : List Char} (h : text.all isPrintable = true) :
    text.all isVerbatim = true := by
  rw [List.all_eq_true] at h ⊢
  intro c hc
  obtain ⟨allowed, _, _, ret, next⟩ := of_isPrintable (h c hc)
  simp [isVerbatim, allowed, ret, next]

/-- Whether a character is read as it is, and its line goes on after it. -/
def isInline (c : Char) : Bool := isVerbatim c && c != '\n'

theorem all_isVerbatim_of_isInline {text : List Char} (h : text.all isInline = true) :
    text.all isVerbatim = true := by
  rw [List.all_eq_true] at h ⊢
  exact fun c hc => (Bool.and_eq_true_iff.mp (h c hc)).1

theorem feed_not_mem_of_isInline {text : List Char} (h : text.all isInline = true) :
    '\n' ∉ text := by
  intro feed
  exact absurd (List.all_eq_true.mp h '\n' feed) (by decide)

theorem isInline_of_isPrintable {c : Char} (h : isPrintable c = true) (ne : c ≠ '\n') :
    isInline c = true := by
  obtain ⟨allowed, _, _, ret, next⟩ := of_isPrintable h
  simp [isInline, isVerbatim, allowed, ret, next, ne]

/-- Single quotes add nothing that would have to be escaped, and no line. -/
theorem all_isInline_singleQuotedFrom {text : List Char} (h : text.all isInline = true)
    (afterBreak : Bool) : (singleQuotedFrom afterBreak text).all isInline = true := by
  induction text generalizing afterBreak with
  | nil => cases afterBreak <;> decide
  | cons c text ih =>
    rw [List.all_cons, Bool.and_eq_true] at h
    have indented : (if afterBreak then indentation else []).all isInline = true := by
      cases afterBreak <;> decide
    have quoted : (if c == '\'' then ['\'', '\''] else [c]).all isInline = true := by
      split
      · decide
      · simp [h.1]
    rw [singleQuotedFrom]
    split
    · rw [List.all_cons, h.1, ih h.2, Bool.and_self]
    · split
      · rw [List.all_cons, h.1, ih h.2, Bool.and_self]
      · rw [List.all_append, List.all_append, indented, quoted, ih h.2, Bool.and_self,
          Bool.and_self]

theorem all_isVerbatim_literalFrom {text : List Char} (h : text.all isVerbatim = true)
    (afterBreak : Bool) : (literalFrom afterBreak text).all isVerbatim = true := by
  induction text generalizing afterBreak with
  | nil => rfl
  | cons c text ih =>
    rw [List.all_cons, Bool.and_eq_true] at h
    have indented : (if afterBreak then indentation else []).all isVerbatim = true := by
      cases afterBreak <;> decide
    rw [literalFrom]
    split <;> simp [indented, h.1, ih h.2]

theorem all_isInline_hexDigits (width n : Nat) : (hexDigits width n).all isInline = true := by
  induction width generalizing n with
  | zero => rfl
  | succ width ih =>
    have digits : ∀ d < 16, isInline (hexDigit d) = true := by decide
    simp [hexDigits, ih, digits (n % 16) (Nat.mod_lt n (by decide))]

theorem isInline_of_escapeLetter? {c letter : Char} (h : escapeLetter? c = some letter) :
    isInline letter = true := by
  unfold escapeLetter? at h
  split at h <;> cases h <;> decide

theorem isInline_of_codeLength? {letter : Char} {width : Nat}
    (h : Quoted.codeLength? letter = some width) : isInline letter = true := by
  unfold Quoted.codeLength? at h
  split at h <;> cases h <;> decide

/-- What stands between double quotes needs no escape itself, and ends no line. -/
theorem all_isInline_doubleQuotedChar (c : Char) : (doubleQuotedChar c).all isInline = true := by
  have escape : isInline '\\' = true := by decide
  rcases Quoted.doubleQuotedChar_cases c with ⟨plain, written⟩ | ⟨letter, h, written⟩ |
    ⟨letter, width, h, _, written⟩
  · have ne : c ≠ '\n' := by
      rintro rfl
      exact absurd plain (by decide)
    simp only [Bool.and_eq_true] at plain
    simp [written, isInline_of_isPrintable plain.1.1.1 ne]
  · simp [written, escape, isInline_of_escapeLetter? h]
  · rw [written, List.all_cons, List.all_cons, escape, isInline_of_codeLength? h,
      all_isInline_hexDigits]
    rfl

theorem all_isInline_literalHints (text : List Char) : (literalHints text).all isInline = true := by
  rw [Block.literalHints_eq]
  generalize (text.head?.any fun c => c == ' ' || isAnyBreak c) = indented
  cases indented <;> cases Block.chompingOf text <;> decide

/-! ## Styles -/

/-- A style is chosen for a text only if it can hold it. -/
theorem styleOf_cases (text : List Char) :
    (styleOf text = .literal ∧ '\n' ∈ text ∧ allowsLiteral text = true) ∨
    (styleOf text = .plain ∧ allowsPlain text = true ∧ isAmbiguous text = false) ∨
    (styleOf text = .singleQuoted ∧ '\n' ∉ text ∧ allowsSingleQuotes text = true) ∨
    styleOf text = .doubleQuoted := by
  unfold styleOf
  by_cases feed : '\n' ∈ text
  · cases allowsLiteral text <;> simp [feed]
  · cases allowsPlain text <;> cases isAmbiguous text <;> cases allowsSingleQuotes text <;>
      simp [feed]

/-- Each text is read back from under a key. -/
theorem isWritten_writeValue (text : List Char) :
    IsWritten (writeValue text).tail (styleOf text) text := by
  rw [writeValue]
  rcases styleOf_cases text with ⟨style, feed, allows⟩ | ⟨style, allows, ambiguous⟩ |
    ⟨style, feed, allows⟩ | style
  · simp only [allowsLiteral, Bool.and_eq_true, Bool.not_eq_true'] at allows
    have printable := all_isPrintable allows.1
    have ne : text ≠ [] := List.ne_nil_of_mem feed
    have tab : '\t' ∉ text := fun mem => (of_isPrintable (printable _ mem)).2.2.1 rfl
    rw [style]
    exact isWritten_literal ne (fun c hc => isAnyBreak_of_isPrintable (printable c hc)) tab
  · rw [style]
    have plain := isPlain_of_allowsPlain allows
    have ne : text ≠ [] := by
      rintro rfl
      exact absurd ambiguous (by decide)
    simp only [allowsPlain, Bool.and_eq_true, Bool.not_eq_true', hasEnd,
      Bool.or_eq_false_iff] at allows
    obtain ⟨⟨⟨⟨printable, _⟩, first, _⟩, opens⟩, _⟩ := allows
    have space : ∀ c ∈ text.head?, isSpaceOrTab c = false := by
      intro c hc
      have tab := (of_isPrintable (all_isPrintable printable c (List.mem_of_head? hc))).2.2.1
      rw [Option.mem_def] at hc
      rw [hc, Option.any_some] at first
      simp [isSpaceOrTab, first, tab]
    exact isWritten_plain ⟨plain, ne, space, opens⟩
  · rw [style]
    exact isWritten_singleQuoted (isSingleQuotable_of_allows allows feed)
  · rw [style]
    exact isWritten_doubleQuoted text

/-- In every style but that of a literal block a text is written on one line. -/
theorem all_isInline_writeAs {text : List Char} (h : styleOf text ≠ .literal) :
    (writeAs (styleOf text) text).all isInline = true := by
  rcases styleOf_cases text with ⟨style, _⟩ | ⟨style, allows, _⟩ | ⟨style, feed, allows⟩ | style
  · exact absurd style h
  · have line := (isPlain_of_allowsPlain allows).line
    simp only [allowsPlain, Bool.and_eq_true, Bool.not_eq_true'] at allows
    have printable := all_isPrintable allows.1.1.1.1
    rw [style, writeAs, List.all_eq_true]
    intro c hc
    apply isInline_of_isPrintable (printable c hc)
    rintro rfl
    exact absurd (line '\n' hc) (by decide)
  · simp only [allowsSingleQuotes, Bool.and_eq_true, Bool.not_eq_true'] at allows
    have printable := all_isPrintable allows.1
    have inside : text.all isInline = true := by
      rw [List.all_eq_true]
      intro c hc
      apply isInline_of_isPrintable (printable c hc)
      rintro rfl
      exact feed hc
    rw [style, writeAs, List.cons_append, List.all_cons, List.all_append,
      all_isInline_singleQuotedFrom inside]
    decide
  · have double : writeAs .doubleQuoted text = '"' :: text.flatMap doubleQuotedChar ++ ['"'] := rfl
    have chars : (text.flatMap doubleQuotedChar).all isInline = true := by
      simp [List.all_flatMap, all_isInline_doubleQuotedChar]
    rw [style, double, List.cons_append, List.all_cons, List.all_append, chars]
    decide

/-- Whatever its style is, a text is written with characters that are read as they are. -/
theorem all_isVerbatim_writeAs {text : List Char} :
    (writeAs (styleOf text) text).all isVerbatim = true := by
  by_cases style : styleOf text = .literal
  · have allows : allowsLiteral text = true := by
      rcases styleOf_cases text with ⟨_, _, allows⟩ | ⟨other, _⟩ | ⟨other, _⟩ | other
      · exact allows
      all_goals
        rw [other] at style
        cases style
    simp only [allowsLiteral, Bool.and_eq_true, Bool.not_eq_true'] at allows
    have printable := List.all_eq_true.mpr (all_isPrintable allows.1)
    rw [style, writeAs, List.cons_append, List.all_cons, List.all_append,
      all_isVerbatim_of_isInline (all_isInline_literalHints text), List.all_cons,
      all_isVerbatim_literalFrom (all_isVerbatim_of_isPrintable printable)]
    decide
  · exact all_isVerbatim_of_isInline (all_isInline_writeAs style)

theorem all_isVerbatim_writeValue (text : List Char) :
    (writeValue text).all isVerbatim = true := by
  rw [writeValue, List.cons_append, List.all_cons, List.all_append, all_isVerbatim_writeAs]
  split <;> decide

/-! ## Words and numerals -/

/-- A character of a name is nothing that has a meaning inside of a scalar. -/
theorem of_isNameChar {c : Char} (h : isNameChar c = true) :
    separates c = false ∧ c ≠ ':' ∧ c ≠ '#' := by
  have ne : ∀ d ∈ [' ', '\t', '\n', '\u2028', '\u2029', '\r', '\u0085', ':', '#'], c ≠ d :=
    ne_of_any h (by decide)
  simp only [List.forall_mem_cons] at ne
  simp [separates, isSpaceOrTab, isAnyBreak, isBreak, ne]

theorem hasPair_eq_false {p q : Char → Bool} {text : List Char} (h : ∀ c ∈ text, p c = false) :
    hasPair p q text = false := by
  rw [← List.append_nil text, hasPair_append_of_forall h]
  rfl

/-- A name is plain. -/
theorem isPlain_of_isNameChar {text : List Char} (h : ∀ c ∈ text, isNameChar c = true) :
    IsPlain text where
  line := fun c hc => by
    have word := (of_isNameChar (h c hc)).1
    simp only [separates, isAnyBreak, Bool.or_eq_false_iff] at word
    exact word.2.1.1
  last := fun c hc => by
    obtain ⟨word, colon, _⟩ := of_isNameChar (h c (List.mem_of_getLast? hc))
    rw [separates, Bool.or_eq_false_iff] at word
    exact ⟨word.1, colon⟩
  colon := hasPair_eq_false fun c hc => beq_false_of_ne (of_isNameChar (h c hc)).2.1
  comment := hasPair_eq_false fun c hc => (of_isNameChar (h c hc)).1

/-- Letters and digits are ASCII. -/
theorem toNat_of_isAlphanum {c : Char} (h : c.isAlphanum = true) :
    0x30 ≤ c.toNat ∧ c.toNat ≤ 0x7A := by
  unfold Char.isAlphanum Char.isAlpha Char.isUpper Char.isLower Char.isDigit at h
  simp only [Bool.or_eq_true, Bool.and_eq_true, decide_eq_true_eq, ge_iff_le,
    UInt32.le_iff_toNat_le] at h
  change ((65 ≤ c.toNat ∧ c.toNat ≤ 90) ∨ (97 ≤ c.toNat ∧ c.toNat ≤ 122)) ∨
    (48 ≤ c.toNat ∧ c.toNat ≤ 57) at h
  omega

theorem isVerbatim_of_isAlphanum {c : Char} (h : c.isAlphanum = true) : isVerbatim c = true := by
  have ne : ∀ d ∈ ['\r', '\u0085'], c ≠ d := ne_of_any h (by decide)
  simp only [List.forall_mem_cons] at ne
  have code := toNat_of_isAlphanum h
  have lower : 0x20 ≤ c.toNat := by omega
  have upper : c.toNat ≤ 0x7E := by omega
  simp [isVerbatim, isAllowed, lower, upper, ne]

theorem all_isVerbatim_word {text : List Char} (h : ∀ c ∈ text, c.isAlphanum = true) :
    text.all isVerbatim = true :=
  List.all_eq_true.mpr fun c hc => isVerbatim_of_isAlphanum (h c hc)

/-- Letters and digits take an octet each. -/
theorem octetsOf_word {text : List Char} (h : ∀ c ∈ text, c.isAlphanum = true) :
    octetsOf text = text.length := by
  have one : ∀ c ∈ text, c.utf8Size = 1 := by
    intro c hc
    have code := (toNat_of_isAlphanum (h c hc)).2
    rw [Char.utf8Size_eq_one_iff, UInt32.le_iff_toNat_le]
    show c.toNat ≤ 127
    omega
  simp [octetsOf, List.map_congr_left one]

/-- A word of letters and digits can be written without quotes. -/
theorem isPlainValue_word {text : List Char} (ne : text ≠ [])
    (h : ∀ c ∈ text, c.isAlphanum = true) : IsPlainValue text where
  plain := isPlain_of_isNameChar fun c hc => by simp [isNameChar, h c hc]
  ne := ne
  space := by
    intro c hc
    have word := h c (List.mem_of_head? hc)
    have ne : ∀ d ∈ [' ', '\t'], c ≠ d := ne_of_any word (by decide)
    simp only [List.forall_mem_cons] at ne
    simp [isSpaceOrTab, ne]
  opens := by
    obtain ⟨c, text, rfl⟩ := List.exists_cons_of_ne_nil ne
    have word := h c (List.mem_cons_self ..)
    have ne : ∀ d ∈ ['-', '.', '?', ':', '#', ',', '[', ']', '{', '}', '&', '*', '!', '|', '>',
        '\'', '"', '%', '@', Char.ofNat 0x60], c ≠ d := ne_of_any word (by decide)
    simp only [List.forall_mem_cons] at ne
    simp [opensWithIndicator, opensOtherwise, documentStart, documentEnd, ne]

end Percussion.Yaml

namespace Percussion.Number

theorem digitValue?_of_isDigit {c : Char} (h : c.isDigit = true) :
    digitValue? c = some (c.toNat - '0'.toNat) ∧ c.toNat - '0'.toNat < 10 := by
  simp only [Char.isDigit, Bool.and_eq_true, decide_eq_true_eq] at h
  constructor
  · exact if_pos h
  · have upper : c.toNat ≤ '9'.toNat := h.2
    have nine : '9'.toNat = '0'.toNat + 9 := rfl
    omega

/-- The value of digits is what they add up to. -/
theorem numeralFrom?_digits {digits : List Char} (h : ∀ c ∈ digits, c.isDigit = true) (n : Nat) :
    numeralFrom? 10 n digits = some (Nat.ofDigitChars 10 digits n) := by
  induction digits generalizing n with
  | nil => rfl
  | cons c digits ih =>
    have here := h c (List.mem_cons_self ..)
    have value := digitValue?_of_isDigit here
    rw [numeralFrom?, value.1]
    simp only [value.2, if_true]
    rw [ih fun d hd => h d (List.mem_cons_of_mem c hd), Nat.ofDigitChars_cons, Nat.mul_comm]

/-- A numeral is the number that it was written for. -/
theorem numeral?_toDigits (n : Nat) : numeral? 10 (Nat.toDigits 10 n) = some n := by
  have digits : ∀ c ∈ Nat.toDigits 10 n, c.isDigit = true := fun c hc =>
    Nat.isDigit_of_mem_toDigits (by decide) (by decide) hc
  rw [numeral?, if_neg (by simp), numeralFrom?_digits digits, Nat.ofDigitChars_ten_toDigits]

/-- Only a lone zero is written with a zero in front. -/
theorem not_toDigits_eq_zero_cons (n : Nat) (c : Char) (rest : List Char) :
    Nat.toDigits 10 n ≠ '0' :: c :: rest := by
  induction n using Nat.strong_induction_on generalizing c rest with
  | _ n ih =>
    intro padded
    by_cases small : n < 10
    · rw [Nat.toDigits_of_lt_base small] at padded
      exact absurd (congrArg List.length padded) (by simp)
    · -- all digits but the last are those of n / 10, which is not 0
      rw [Nat.toDigits_of_base_le (by decide) (by omega)] at padded
      have value : Nat.ofDigitChars 10 (Nat.toDigits 10 (n / 10)) 0 = n / 10 :=
        Nat.ofDigitChars_ten_toDigits
      cases digits : Nat.toDigits 10 (n / 10) with
      | nil => exact Nat.toDigits_ne_nil digits
      | cons first more =>
        rw [digits, List.cons_append, List.cons.injEq] at padded
        obtain ⟨rfl, _⟩ := padded
        cases more with
        | nil =>
          rw [digits, Nat.ofDigitChars_cons, Nat.ofDigitChars_nil] at value
          omega
        | cons second more => exact ih (n / 10) (by omega) second more digits

end Percussion.Number

namespace Percussion.Yaml.Value

open Number

/-- No sign stands before a numeral. -/
theorem toDigits_ne_sign (n : Nat) {c : Char} (sign : c.isDigit = false) (rest : List Char) :
    Nat.toDigits 10 n ≠ c :: rest := by
  intro same
  have mem : c ∈ Nat.toDigits 10 n := by
    rw [same]
    exact List.mem_cons_self ..
  have digit : c.isDigit = true := Nat.isDigit_of_mem_toDigits (by decide) (by decide) mem
  rw [sign] at digit
  cases digit

/-- A decimal numeral has no mark of another base. -/
theorem marked?_toDigits (n : Nat) : marked? (Nat.toDigits 10 n) = none := by
  unfold marked?
  split
  · rename_i same
    exact absurd same (not_toDigits_eq_zero_cons n 'x' _)
  · rename_i same
    exact absurd same (not_toDigits_eq_zero_cons n 'o' _)
  · rename_i same
    exact absurd same (not_toDigits_eq_zero_cons n 'b' _)
  · rfl

theorem isPadded_toDigits (n : Nat) : isPadded (Nat.toDigits 10 n) = false := by
  unfold isPadded
  split
  · rename_i sign
    exact absurd sign (toDigits_ne_sign n (by decide) _)
  · rename_i sign
    exact absurd sign (toDigits_ne_sign n (by decide) _)
  · dsimp only
    split
    · rename_i padded
      exact absurd padded (not_toDigits_eq_zero_cons n _ _)
    · rfl

/-- A numeral is read back. -/
theorem unsigned?_toDigits {bound n : Nat} (h : n < bound) :
    unsigned? bound (Nat.toDigits 10 n) = some n := by
  unfold unsigned?
  split
  · rename_i sign
    exact absurd sign (toDigits_ne_sign n (by decide) _)
  · simp only [marked?_toDigits, isPadded_toDigits, numeral?_toDigits, Bool.false_eq_true, if_false,
      if_pos h]

end Percussion.Yaml.Value

namespace Percussion.Config

open Yaml

/-! ## Entries -/

/-- The name of a setting can be a key. -/
theorem isKey_key (field : Field) : IsKey field.key.toList where
  plain := by
    have names : field.key.toList.all isNameChar = true := by cases field <;> decide
    exact isPlain_of_isNameChar (List.all_eq_true.mp names)
  begins := by cases field <;> exact ⟨_, rfl, by decide⟩
  short := by cases field <;> decide

/-- The style and the text of a setting. -/
def fieldScalar (config : Config) : Field → Style × List Char
  | .tempo => (.plain, Nat.toDigits 10 config.tempo.toNat)
  | .repeats => (.plain, Nat.toDigits 10 config.repeats.toNat)
  | .sequenceName => (styleOf config.names.sequence.toList, config.names.sequence.toList)
  | .trackName => (styleOf config.names.track.toList, config.names.track.toList)
  | .instrumentName => (styleOf config.names.instrument.toList, config.names.instrument.toList)

theorem fieldValue_eq (config : Config) (field : Field) :
    config.fieldValue field = ' ' :: (config.fieldValue field).tail := by
  cases field <;> rfl

theorem isAlphanum_toDigits (n : Nat) : ∀ c ∈ Nat.toDigits 10 n, c.isAlphanum = true := by
  intro c hc
  rw [Char.isAlphanum, Nat.isDigit_of_mem_toDigits (by decide) (by decide) hc, Bool.or_true]

/-- A numeral can be written without quotes. -/
theorem isPlainValue_toDigits (n : Nat) : IsPlainValue (Nat.toDigits 10 n) :=
  isPlainValue_word Nat.toDigits_ne_nil (isAlphanum_toDigits n)

/-- The value of a setting is read back from under its key. -/
theorem isWritten_fieldValue (config : Config) (field : Field) :
    IsWritten (config.fieldValue field).tail (config.fieldScalar field).1
      (config.fieldScalar field).2 := by
  cases field with
  | tempo => exact isWritten_plain (isPlainValue_toDigits config.tempo.toNat)
  | repeats => exact isWritten_plain (isPlainValue_toDigits config.repeats.toNat)
  | sequenceName => exact isWritten_writeValue config.names.sequence.toList
  | trackName => exact isWritten_writeValue config.names.track.toList
  | instrumentName => exact isWritten_writeValue config.names.instrument.toList

/-- The entry of a setting. -/
def entry (config : Config) (field : Field) : Entry where
  key := field.key.toList
  written := (config.fieldValue field).tail
  style := (config.fieldScalar field).1
  text := (config.fieldScalar field).2
  isKey := isKey_key field
  isWritten := config.isWritten_fieldValue field

/-- The entry of a setting is written as the key, a colon and the value. -/
theorem lines_entry (config : Config) (field : Field) :
    (config.entry field).lines = field.key.toList ++ ':' :: config.fieldValue field := by
  rw [fieldValue_eq]
  rfl

/-- A configuration is written as the entries of its settings. -/
theorem text_eq (config : Config) :
    config.text.toList = (Field.all.map config.entry).flatMap Entry.lines := by
  rw [text, String.toList_ofList, List.flatMap_map]
  simp only [lines_entry]

theorem all_isVerbatim_toDigits (n : Nat) : (Nat.toDigits 10 n).all isVerbatim = true :=
  all_isVerbatim_word (isAlphanum_toDigits n)

theorem all_isVerbatim_key (field : Field) : field.key.toList.all isVerbatim = true := by
  cases field <;> decide

/-- Whatever its names are, a configuration is a text that is read as it is. -/
theorem all_isVerbatim_text (config : Config) : config.text.toList.all isVerbatim = true := by
  have value : ∀ field, (config.fieldValue field).all isVerbatim = true := by
    intro field
    cases field with
    | tempo => simp [fieldValue, all_isVerbatim_toDigits]; decide
    | repeats => simp [fieldValue, all_isVerbatim_toDigits]; decide
    | sequenceName => exact all_isVerbatim_writeValue _
    | trackName => exact all_isVerbatim_writeValue _
    | instrumentName => exact all_isVerbatim_writeValue _
  rw [text, String.toList_ofList, List.all_flatMap, List.all_eq_true]
  intro field _
  rw [List.all_append, List.all_cons, all_isVerbatim_key, value]
  decide

/-! ## Reading settings -/

/-- The draft with a setting as a configuration has it. -/
def put (config : Config) (draft : Draft) : Field → Draft
  | .tempo => { draft with tempo := some config.tempo }
  | .repeats => { draft with repeats := some config.repeats }
  | .sequenceName => { draft with sequenceName := some config.names.sequence }
  | .trackName => { draft with trackName := some config.names.track }
  | .instrumentName => { draft with instrumentName := some config.names.instrument }

/-- A setting that is put in is there, and the others are as before. -/
theorem has_put (config : Config) (draft : Draft) (field other : Field) :
    (config.put draft field).has other = (other == field || draft.has other) := by
  cases field <;> cases other <;> rfl

/-- A number is read as it was written. -/
theorem readNumber_toDigits (n : UInt32) (path : String) (mark : Mark) :
    readNumber path ⟨.scalar none .plain (Nat.toDigits 10 n.toNat), mark⟩ = .ok n := by
  have small : n.toNat < 0x100000000 := n.toNat_lt
  have read : Value.unsigned? 0x10000000000000000 (Nat.toDigits 10 n.toNat) = some n.toNat :=
    Value.unsigned?_toDigits (by omega)
  simp [readNumber, read, small]

/-- Each setting is read as it was written. -/
theorem read_entry (config : Config) (draft : Draft) (field : Field) (path : String) (mark : Mark) :
    draft.read field path
        ⟨.scalar none (config.entry field).style (config.entry field).text, mark⟩ =
      .ok (config.put draft field) := by
  cases field with
  | tempo => simp [Draft.read, readNumber_toDigits, entry, fieldScalar, Except.map, put]
  | repeats => simp [Draft.read, readNumber_toDigits, entry, fieldScalar, Except.map, put]
  | sequenceName => simp [Draft.read, readText, entry, fieldScalar, Except.map, put]
  | trackName => simp [Draft.read, readText, entry, fieldScalar, Except.map, put]
  | instrumentName => simp [Draft.read, readText, entry, fieldScalar, Except.map, put]

/-- The name of a setting is read as that setting. -/
theorem readKey_key (doc : Document) (field : Field) (mark : Mark) :
    readKey doc ⟨.scalar none .plain field.key.toList, mark⟩ = .ok (some field, field.key) := by
  have known : Field.ofKey? field.key.toList = some field := by cases field <;> decide
  have name : String.ofList field.key.toList = field.key := String.ofList_toList
  simp [readKey, Document.resolve, readText, known, name, bind, Except.bind, pure, Except.pure]

/-- A setting that has not been read yet is read from the node after its key. -/
theorem readFields_setting (doc : Document) (start : Mark) {draft read : Draft} {field : Field}
    (fresh : draft.has field = false) {style : Style} {text : List Char} {m₂ : Mark}
    (value : draft.read field field.key ⟨.scalar none style text, m₂⟩ = .ok read) (m₁ : Mark)
    (rest : List (Located Node)) :
    readFields doc start
        (⟨.scalar none .plain field.key.toList, m₁⟩ :: ⟨.scalar none style text, m₂⟩ :: rest)
        .key draft =
      readFields doc start rest .key read := by
  simp [readFields, readKey_key, fresh, Document.resolve, value, bind, Except.bind]

/-- An entry of a setting that has not been read yet adds it to the draft. -/
theorem readFields_entry (doc : Document) (start : Mark) (config : Config) {draft : Draft}
    {field : Field} (fresh : draft.has field = false) (m₁ m₂ : Mark) (rest : List (Located Node)) :
    readFields doc start
        (⟨.scalar none .plain (config.entry field).key, m₁⟩ ::
          ⟨.scalar none (config.entry field).style (config.entry field).text, m₂⟩ :: rest)
        .key draft =
      readFields doc start rest .key (config.put draft field) :=
  readFields_setting doc start fresh (config.read_entry draft field field.key m₂) m₁ rest

/-- The entries of settings, each of them once, add up to a draft. -/
theorem readFields_entries (doc : Document) (start : Mark) (config : Config) {fields : List Field}
    (once : fields.Nodup) {draft : Draft} (fresh : ∀ field ∈ fields, draft.has field = false)
    {nodes : List (Located Node)}
    (h : nodes.map (·.item) = (fields.map config.entry).flatMap Entry.nodes ++ [.mappingEnd]) :
    readFields doc start nodes .key draft = .ok (fields.foldl config.put draft) := by
  induction fields generalizing draft nodes with
  | nil =>
    obtain ⟨mark, _, rfl, _⟩ := exists_eq_cons_of_map_item h
    rfl
  | cons field fields ih =>
    obtain ⟨m₁, _, rfl, h₁⟩ := exists_eq_cons_of_map_item h
    obtain ⟨m₂, _, rfl, h₂⟩ := exists_eq_cons_of_map_item h₁
    rw [List.nodup_cons] at once
    rw [readFields_entry doc start config (fresh field (List.mem_cons_self ..)), List.foldl_cons]
    apply ih once.2 _ h₂
    intro other mem
    have ne : other ≠ field := by
      rintro rfl
      exact once.1 mem
    rw [has_put, fresh other (List.mem_cons_of_mem _ mem), beq_false_of_ne ne]
    rfl

/-- Where all settings have been put in, none is left to a default. -/
theorem finish_put (config : Config) : (Field.all.foldl config.put {}).finish = config := rfl

/-- A configuration is what its text is read as. -/
theorem ofText_text (config : Config) : ofText config.text = .ok config := by
  have listing : IsListing (Field.all.map config.entry) config.text.toList := by
    rw [text_eq]
    exact .flatMap_lines _
  obtain ⟨nodes, items, document⟩ := Document.exists_ofText_entries
    (source?_eq config.all_isVerbatim_text) listing (List.cons_ne_nil _ _)
  have fresh : ∀ field ∈ Field.all, Draft.has {} field = false := by
    intro field _
    cases field <;> rfl
  have read := readFields_entries (Document.ofText config.text.toList) Mark.start config
    (by decide : Field.all.Nodup) fresh items
  rw [document] at read
  simp [ofText, ofDocument, document, read, finish_put, bind, Except.bind]

/-- A configuration is read back from the file to which its text has been written. -/
theorem run_ofFile_of_write {store after : Storage.Store} {path : String} {config : Config}
    (h : store.write path config.text.toUTF8.data.toList = .ok after) :
    (ofFile path : StateM Storage.Store _).run after = (.ok config, after) := by
  have holds : after.Holds path config.text := Storage.Store.read_of_write h
  rw [run_ofFile_of_holds holds, ofText_text]
  rfl

end Percussion.Config

namespace Percussion

open Storage

/-- The configuration that counts is printed. -/
theorem Call.run_showConfig {call : Call} {store : Store} {config? : Option String} {quiet : Bool}
    {config : Config} (read : Arguments.read call.arguments = .ok ⟨config?, quiet, .showConfig⟩)
    (effective : Config.Effective store call.around.home? config? config) :
    call.run store = (⟨0, config.text, ""⟩, store) := by
  rcases Invocation.run_config ⟨config?, quiet, .showConfig⟩ call.around.home? store with
    ⟨other, effective', run⟩ | ⟨_, none, _⟩
  · obtain rfl := effective.unique effective'
    exact call.run_of_config read run
  · exact absurd effective (none config)

/-- A configuration is read back from the file that its text is written to, whatever its names are.
What a call prints as the configuration, written to a file, is therefore printed again by a call
that is given the file. -/
theorem config_read_back :
    (∀ (config : Config) (store after : Store) (path : String),
      store.write path config.text.toUTF8.data.toList = .ok after →
      (Config.ofFile path : StateM Store _).run after = (.ok config, after)) ∧
    (∀ (config : Config) (call : Call) (store : Store) (config? : Option String) (quiet : Bool),
      Arguments.read call.arguments = .ok ⟨config?, quiet, .showConfig⟩ →
      Config.Effective store call.around.home? config? config →
      call.run store = (⟨0, config.text, ""⟩, store)) ∧
    ∀ (call again : Call) (store after : Store) (path : String) (config? : Option String)
      (quiet quiet' : Bool),
      Arguments.read call.arguments = .ok ⟨config?, quiet, .showConfig⟩ →
      (call.run store).1.status = 0 →
      store.write path (call.run store).1.stdout.toUTF8.data.toList = .ok after →
      Arguments.read again.arguments = .ok ⟨some path, quiet', .showConfig⟩ →
      again.run after = (⟨0, (call.run store).1.stdout, ""⟩, after) := by
  refine ⟨fun _ _ _ _ => Config.run_ofFile_of_write, fun _ _ _ _ _ => Call.run_showConfig, ?_⟩
  intro call again store after path config? quiet quiet' read succeeds written read'
  rcases Invocation.run_config ⟨config?, quiet, .showConfig⟩ call.around.home? store with
    ⟨config, effective, _⟩ | ⟨error, _, run⟩
  · rw [call.run_showConfig read effective] at written ⊢
    have holds : after.Holds path config.text := Store.read_of_write written
    exact again.run_showConfig read' (.named holds config.ofText_text)
  · rw [call.run_of_config_error read run] at succeeds
    cases succeeds

/-- A configuration with names that could be taken for something else. -/
private def oddNames : Config := ⟨0, 0xFFFFFFFF, ⟨"- 'no': # \"", "\n 1\n\n", "1e3 "⟩⟩

/-- A folder without files. -/
private def emptyFolder : Store where
  entries := [(["work"], .folder)]
  current := ["work"]

/-- The folder with the configuration in a file. -/
private def oddFolder : Store :=
  emptyFolder.put ["work", "odd"] (.file oddNames.text.toUTF8.data.toList)

/-- Prints the configuration in that file. -/
private def showOdd : Call := ⟨⟨none, 0⟩, ["-c", "odd", "show-config"]⟩

/-- Prints the configuration in another one. -/
private def showCopy : Call := ⟨⟨none, 0⟩, ["show-config", "--config=copy"]⟩

/-- Two of the names are written between single quotes and one as a literal block. -/
theorem config_read_back_odd_names :
    oddNames.text =
      "tempo: 0\nrepeat: 4294967295\nsequence_name: '- ''no'': # \"'\n" ++
        "track_name: |2+\n\n   1\n\ninstrument_name: '1e3 '\n" ∧
    (Config.ofFile "odd" : StateM Store _).run oddFolder = (.ok oddNames, oddFolder) ∧
    showOdd.run oddFolder = (⟨0, oddNames.text, ""⟩, oddFolder) ∧
    ∃ after,
      oddFolder.write "copy" (showOdd.run oddFolder).1.stdout.toUTF8.data.toList = .ok after ∧
      showCopy.run after = (⟨0, (showOdd.run oddFolder).1.stdout, ""⟩, after) := by
  obtain ⟨reads, shows, again⟩ := config_read_back
  have written : emptyFolder.write "odd" oddNames.text.toUTF8.data.toList = .ok oddFolder := rfl
  have read : Arguments.read showOdd.arguments = .ok ⟨some "odd", false, .showConfig⟩ := by
    decide +kernel
  have read' : Arguments.read showCopy.arguments = .ok ⟨some "copy", false, .showConfig⟩ := by
    decide +kernel
  have holds : oddFolder.Holds "odd" oddNames.text := Store.read_of_write written
  have shown := shows oddNames showOdd oddFolder (some "odd") false read
    (.named holds oddNames.ofText_text)
  have succeeds : (showOdd.run oddFolder).1.status = 0 := by rw [shown]
  have copied : oddFolder.write "copy" (showOdd.run oddFolder).1.stdout.toUTF8.data.toList =
      .ok (oddFolder.put ["work", "copy"]
        (.file (showOdd.run oddFolder).1.stdout.toUTF8.data.toList)) := rfl
  exact ⟨by decide +kernel, reads oddNames emptyFolder oddFolder "odd" written, shown, _, copied,
    again showOdd showCopy oddFolder _ "copy" _ _ _ read succeeds copied read'⟩

end Percussion
